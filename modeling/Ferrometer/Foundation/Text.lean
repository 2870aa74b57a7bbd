import Mathlib.Data.List.Infix
import Mathlib.Data.List.TakeWhile
import Mathlib.Data.String.Basic
import Mathlib.Order.Basic

/-!
Contract: searching, trimming and encoding text.

Owns: `splitOnce`, which cuts a text at the first occurrence of a pattern, `trim`,
which drops what a predicate calls blank from both ends, `words`, which cuts a text
at its blanks, and UTF-8 as lists of bytes.

Does not own: what is blank. A text is a list of characters, and in fact of
anything with decidable equality.
-/

set_option autoImplicit false

namespace Ferrometer.Foundation.Text

universe u

variable {Symbol : Type u}

/-! ## First occurrence -/

section SplitOnce

variable [DecidableEq Symbol]

/-- The text before the first occurrence of `pattern`, and the text after it. -/
def splitOnce (pattern : List Symbol) : List Symbol → Option (List Symbol × List Symbol)
  | [] => if pattern = [] then some ([], []) else none
  | symbol :: rest =>
      if pattern <+: symbol :: rest then some ([], (symbol :: rest).drop pattern.length)
      else (splitOnce pattern rest).map fun (before, after) => (symbol :: before, after)

/-- The pieces and the pattern between them make up the text. -/
theorem eq_of_splitOnce {pattern text before after : List Symbol}
    (found : splitOnce pattern text = some (before, after)) :
    text = before ++ pattern ++ after := by
  induction text generalizing before with
  | nil =>
      unfold splitOnce at found
      split at found
      · rename_i isEmpty
        obtain ⟨rfl, rfl⟩ := Prod.mk.inj (Option.some.inj found)
        simp [isEmpty]
      · exact absurd found (by simp)
  | cons symbol rest inductionHypothesis =>
      unfold splitOnce at found
      split at found
      · rename_i here
        obtain ⟨tail, equal⟩ := here
        obtain ⟨rfl, rfl⟩ := Prod.mk.inj (Option.some.inj found)
        rw [← equal, List.drop_left, List.nil_append]
      · obtain ⟨⟨beforeRest, afterRest⟩, foundRest, equal⟩ := Option.map_eq_some_iff.mp found
        obtain ⟨rfl, rfl⟩ := Prod.mk.inj equal
        rw [inductionHypothesis foundRest]
        rfl

theorem length_of_splitOnce {pattern text before after : List Symbol}
    (found : splitOnce pattern text = some (before, after)) :
    text.length = before.length + pattern.length + after.length := by
  rw [eq_of_splitOnce found, List.length_append, List.length_append]

/-- The search fails exactly on texts without an occurrence. -/
theorem splitOnce_eq_none_iff {pattern text : List Symbol} :
    splitOnce pattern text = none ↔ ¬ pattern <:+: text := by
  induction text with
  | nil =>
      unfold splitOnce
      by_cases isEmpty : pattern = [] <;> simp [isEmpty]
  | cons symbol rest inductionHypothesis =>
      unfold splitOnce
      rw [List.infix_cons_iff, not_or]
      by_cases here : pattern <+: symbol :: rest
      · simp [here]
      · rw [if_neg here, Option.map_eq_none_iff, inductionHypothesis]
        exact ⟨fun absent => ⟨here, absent⟩, fun absent => absent.2⟩

/-- Text behind the first occurrence does not change where it is. -/
theorem splitOnce_append_of_some {pattern text before after : List Symbol} (more : List Symbol)
    (found : splitOnce pattern text = some (before, after)) :
    splitOnce pattern (text ++ more) = some (before, after ++ more) := by
  induction text generalizing before with
  | nil =>
      have isEmpty : pattern = [] := by
        refine Decidable.byContradiction fun nonempty => ?_
        rw [splitOnce, if_neg nonempty] at found
        cases found
      rw [splitOnce, if_pos isEmpty] at found
      cases found
      rw [isEmpty]
      cases more with
      | nil => rfl
      | cons symbol rest => simp [splitOnce]
  | cons symbol rest inductionHypothesis =>
      rw [splitOnce] at found
      rw [List.cons_append, splitOnce]
      by_cases here : pattern <+: symbol :: rest
      · rw [if_pos here] at found
        cases found
        have longer : pattern <+: symbol :: (rest ++ more) := here.trans (List.prefix_append _ _)
        rw [if_pos longer, ← List.cons_append, List.drop_append_of_le_length here.length_le]
      · rw [if_neg here] at found
        rcases Option.map_eq_some_iff.mp found with ⟨⟨beforeRest, afterRest⟩, foundRest, equal⟩
        cases equal
        have fits : pattern.length ≤ rest.length := by
          have lengths := length_of_splitOnce foundRest
          omega
        have notHere : ¬ pattern <+: symbol :: (rest ++ more) := by
          intro longer
          apply here
          apply List.prefix_of_prefix_length_le longer (List.prefix_append (symbol :: rest) more)
          rw [List.length_cons]
          omega
        rw [if_neg notHere, inductionHypothesis foundRest]
        rfl

/-- The pattern cannot begin in a text and end behind it. -/
def NoEdge (pattern text : List Symbol) : Prop :=
  ∀ front back, pattern = front ++ back → front ≠ [] → back ≠ [] → ¬ front <:+ text

omit [DecidableEq Symbol] in
theorem NoEdge.of_suffix {pattern text tail : List Symbol} (noEdge : NoEdge pattern text)
    (isTail : tail <:+ text) : NoEdge pattern tail :=
  fun front back split frontNonempty backNonempty ends =>
    noEdge front back split frontNonempty backNonempty (ends.trans isTail)

/-- Text without an occurrence, and without the beginning of one at its end, is passed
over. -/
theorem splitOnce_append_of_none {pattern text : List Symbol} (more : List Symbol)
    (absent : splitOnce pattern text = none) (noEdge : NoEdge pattern text) :
    splitOnce pattern (text ++ more) =
      (splitOnce pattern more).map fun cut => (text ++ cut.1, cut.2) := by
  induction text with
  | nil => simp
  | cons symbol rest inductionHypothesis =>
      have notInfix := splitOnce_eq_none_iff.mp absent
      have absentRest : splitOnce pattern rest = none := by
        apply splitOnce_eq_none_iff.mpr
        exact fun occurs => notInfix (occurs.trans (List.suffix_cons symbol rest).isInfix)
      have notHere : ¬ pattern <+: symbol :: rest ++ more := by
        intro longer
        rcases le_total pattern.length (symbol :: rest).length with short | long
        · have here := List.prefix_of_prefix_length_le longer (List.prefix_append _ _) short
          exact notInfix here.isInfix
        · have start := List.prefix_of_prefix_length_le (List.prefix_append _ _) longer long
          rcases start with ⟨back, split⟩
          cases back with
          | nil =>
              rw [List.append_nil] at split
              exact notInfix (split ▸ List.infix_refl _)
          | cons first others =>
              exact noEdge _ _ split.symm (List.cons_ne_nil _ _) (List.cons_ne_nil _ _)
                (List.suffix_refl _)
      rw [List.cons_append] at notHere
      rw [List.cons_append, splitOnce, if_neg notHere,
        inductionHypothesis absentRest (noEdge.of_suffix (List.suffix_cons symbol rest)),
        Option.map_map]
      rfl

/-- A text is cut where it was put together exactly if the separator does not occur in
front. -/
theorem splitOnce_single_iff {symbol : Symbol} {front back : List Symbol} :
    splitOnce [symbol] (front ++ symbol :: back) = some (front, back) ↔ symbol ∉ front := by
  have occurs : [symbol] <:+: front ↔ symbol ∈ front := List.singleton_infix_iff symbol front
  cases found : splitOnce [symbol] front with
  | none =>
      have absent : symbol ∉ front := fun member =>
        splitOnce_eq_none_iff.mp found (occurs.mpr member)
      have noEdge : NoEdge [symbol] front := by
        intro start rest split startNonempty restNonempty
        have lengths := congrArg List.length split
        have startLength := List.length_pos_iff.mpr startNonempty
        have restLength := List.length_pos_iff.mpr restNonempty
        simp only [List.length_singleton, List.length_append] at lengths
        omega
      rw [splitOnce_append_of_none (symbol :: back) found noEdge]
      simp [splitOnce, absent]
  | some cut =>
      rcases cut with ⟨before, after⟩
      have present : symbol ∈ front := by
        rw [eq_of_splitOnce found]
        simp
      rw [splitOnce_append_of_some (symbol :: back) found]
      apply iff_of_false
      · intro same
        have sameFront := congrArg Prod.fst (Option.some.inj same)
        have lengths := length_of_splitOnce found
        simp only at sameFront
        rw [sameFront, List.length_singleton] at lengths
        omega
      · exact not_not_intro present

end SplitOnce

/-! ## Trimming -/

section Trim

variable (isBlank : Symbol → Bool)

def trim (text : List Symbol) : List Symbol :=
  ((text.dropWhile isBlank).reverse.dropWhile isBlank).reverse

/-- A text that neither starts nor ends with a blank is left alone. -/
theorem trim_of_solid {text : List Symbol}
    (first : ∀ symbol ∈ text.head?, isBlank symbol = false)
    (last : ∀ symbol ∈ text.getLast?, isBlank symbol = false) : trim isBlank text = text := by
  have front : text.dropWhile isBlank = text := by
    cases text with
    | nil => rfl
    | cons symbol rest => simp [first symbol (by simp)]
  have back : text.reverse.dropWhile isBlank = text.reverse := by
    cases reversed : text.reverse with
    | nil => rfl
    | cons symbol rest =>
        have isLast : symbol ∈ text.getLast? := by
          rw [List.getLast?_eq_head?_reverse, reversed]
          rfl
        simp [last symbol isLast]
  rw [trim, front, back, List.reverse_reverse]

/-- The last symbol of what is left is no blank. -/
theorem getLast?_trim (text : List Symbol) :
    ∀ symbol ∈ (trim isBlank text).getLast?, isBlank symbol = false := by
  intro symbol isLast
  rw [trim, List.getLast?_reverse] at isLast
  have first := List.head?_dropWhile_not isBlank (text.dropWhile isBlank).reverse
  rw [Option.mem_def.mp isLast] at first
  simpa using first

/-- A text that does not end in a blank only has blanks before what is left of it. -/
theorem eq_append_trim {text : List Symbol}
    (last : ∀ symbol ∈ text.getLast?, isBlank symbol = false) :
    ∃ blanks, (∀ symbol ∈ blanks, isBlank symbol = true) ∧ text = blanks ++ trim isBlank text := by
  have split : text = text.takeWhile isBlank ++ text.dropWhile isBlank :=
    List.takeWhile_append_dropWhile.symm
  refine ⟨text.takeWhile isBlank, fun symbol member => List.mem_takeWhile_imp member, ?_⟩
  have back : (text.dropWhile isBlank).reverse.dropWhile isBlank =
      (text.dropWhile isBlank).reverse := by
    cases reversed : (text.dropWhile isBlank).reverse with
    | nil => rfl
    | cons symbol rest =>
        have isLast : symbol ∈ (text.dropWhile isBlank).getLast? := by
          rw [List.getLast?_eq_head?_reverse, reversed]
          rfl
        have lastOfAll : symbol ∈ text.getLast? := by
          rw [split, List.getLast?_append, Option.mem_def.mp isLast]
          rfl
        simp [last symbol lastOfAll]
  rw [trim, back, List.reverse_reverse]
  exact split

theorem trim_append_of_blank {blanks : List Symbol}
    (blank : ∀ symbol ∈ blanks, isBlank symbol = true) (text : List Symbol) :
    trim isBlank (blanks ++ text) = trim isBlank text := by
  rw [trim, List.dropWhile_append_of_pos blank, trim]

end Trim

/-! ## Words -/

section Words

variable (isBlank : Symbol → Bool)

/-- The pieces between blanks that are not empty. -/
def words (text : List Symbol) : List (List Symbol) :=
  (text.splitOnP isBlank).filter fun word => !word.isEmpty

end Words

/-! ## Lines -/

section Lines

variable [DecidableEq Symbol] (feed : Symbol)

/-- The lines of a text. A line feed at the end does not start another one. -/
def lines : List Symbol → List (List Symbol)
  | [] => []
  | symbol :: rest =>
      if symbol = feed then [] :: lines rest
      else
        match lines rest with
        | [] => [[symbol]]
        | first :: others => (symbol :: first) :: others

variable {feed}

theorem lines_eq_nil_iff {text : List Symbol} : lines feed text = [] ↔ text = [] := by
  cases text with
  | nil => simp [lines]
  | cons symbol rest =>
      unfold lines
      split
      · simp
      · split <;> simp

/-- Behind a line feed another text starts. -/
theorem lines_append (front back : List Symbol) :
    lines feed (front ++ feed :: back) = lines feed (front ++ [feed]) ++ lines feed back := by
  induction front with
  | nil => simp [lines]
  | cons symbol rest inductionHypothesis =>
      have nonempty : lines feed (rest ++ [feed]) ≠ [] :=
        fun empty => by simpa using lines_eq_nil_iff.mp empty
      rcases List.exists_cons_of_ne_nil nonempty with ⟨first, others, split⟩
      rw [split] at inductionHypothesis
      rw [List.cons_append, List.cons_append, lines, lines, inductionHypothesis, split]
      by_cases isFeed : symbol = feed
      · simp [isFeed]
      · simp [isFeed]

/-- A line feed ends the last line, if one has been begun. -/
theorem lines_concat {text : List Symbol} (nonempty : text ≠ [])
    (unended : text.getLast? ≠ some feed) : lines feed (text ++ [feed]) = lines feed text := by
  induction text with
  | nil => exact absurd rfl nonempty
  | cons symbol rest inductionHypothesis =>
      cases rest with
      | nil =>
          have other : symbol ≠ feed := by simpa using unended
          simp [lines, other]
      | cons next others =>
          have same := inductionHypothesis (List.cons_ne_nil _ _) (by simpa using unended)
          rw [List.cons_append, lines, same]
          rfl

end Lines

/-- What does not hold the last symbol of a text occurs before it. -/
theorem infix_of_infix_concat {pattern text : List Symbol} {symbol : Symbol}
    (occurs : pattern <:+: text ++ [symbol]) (absent : symbol ∉ pattern) : pattern <:+: text := by
  rcases List.infix_concat_iff.mp occurs with atEnd | before
  · rcases List.suffix_concat_iff.mp atEnd with rfl | ⟨front, rfl, -⟩
    · exact List.nil_infix
    · exact absurd (List.mem_append_right front List.mem_cons_self) absent
  · exact before

/-! ## UTF-8 -/

def utf8Bytes (value : String) : List UInt8 :=
  value.toUTF8.data.toList

/-- `none` is a string that is not UTF-8. -/
def ofUtf8 (bytes : List UInt8) : Option String :=
  String.fromUTF8? ⟨bytes.toArray⟩

@[simp] theorem ofUtf8_utf8Bytes (value : String) :
    ofUtf8 (utf8Bytes value) = some value := by
  have valid : value.toUTF8.IsValidUTF8 := value.isValidUTF8
  rw [ofUtf8, utf8Bytes, Array.toArray_toList, String.fromUTF8?, dif_pos valid]
  exact congrArg some (String.toByteArray_inj.mp rfl)

theorem utf8Bytes_injective {left right : String} (same : utf8Bytes left = utf8Bytes right) :
    left = right := by
  have decoded := congrArg ofUtf8 same
  simpa using decoded

theorem utf8Bytes_of_ofUtf8 {bytes : List UInt8} {value : String}
    (decoded : ofUtf8 bytes = some value) : utf8Bytes value = bytes := by
  rw [ofUtf8, String.fromUTF8?] at decoded
  split at decoded
  · obtain rfl := Option.some.inj decoded
    rfl
  · simp at decoded

/-! ## Numbers -/

/-- Two numbers have the same decimal text only if they are equal. -/
theorem decimal_injective {left right : Nat} (same : toString left = toString right) :
    left = right := by
  have digits := congrArg (fun text => Nat.ofDigitChars 10 text.toList 0) same
  simpa [Nat.toString_eq_repr] using digits

end Ferrometer.Foundation.Text
