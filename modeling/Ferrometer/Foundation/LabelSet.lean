import Ferrometer.Foundation.Machine
import Mathlib.Data.Char
import Mathlib.Data.List.Induction

/-!
Contract: label sets in the text format of Prometheus, read symbol by symbol.

Owns: label names, the escapes of a quoted value, the reader as a machine, that it
accepts only label names, and what it makes of a pair that is written correctly.

Does not own: who writes a label set, or in which order. Blanks and a comma before the
closing brace, which some readers let through, are not part of the format here.
-/

set_option autoImplicit false

namespace Ferrometer.Foundation.LabelSet

/-! ## Names and values -/

def isNameStart (symbol : Char) : Bool :=
  symbol.isAlpha || symbol = '_'

def isNameSymbol (symbol : Char) : Bool :=
  isNameStart symbol || symbol.isDigit

/-- `[a-zA-Z_][a-zA-Z0-9_]*` -/
def isName : List Char → Bool
  | [] => false
  | first :: rest => isNameStart first && rest.all isNameSymbol

/-- A symbol of a value, between the quotes. -/
def escape (symbol : Char) : List Char :=
  if symbol = '\\' then ['\\', '\\']
  else if symbol = '"' then ['\\', '"']
  else if symbol = '\n' then ['\\', 'n']
  else [symbol]

/-! ## The reader -/

/-- The pairs read so far, and where in the text the reader stands. -/
inductive Reader where
  | start
  | opened
  | inName (pairs : List (List Char × List Char)) (name : List Char)
  | afterName (pairs : List (List Char × List Char)) (name : List Char)
  | inValue (pairs : List (List Char × List Char)) (name value : List Char)
  | inEscape (pairs : List (List Char × List Char)) (name value : List Char)
  | afterValue (pairs : List (List Char × List Char))
  | done (pairs : List (List Char × List Char))

namespace Reader

/-- What the symbol behind a backslash stands for. -/
def unescape (symbol : Char) : Option Char :=
  if symbol = '\\' then some '\\'
  else if symbol = '"' then some '"'
  else if symbol = 'n' then some '\n'
  else none

def readName (pairs : List (List Char × List Char)) (name : List Char) (symbol : Char) :
    Option Reader :=
  if isName (name ++ [symbol]) then some (.inName pairs (name ++ [symbol]))
  else if symbol = '=' ∧ name ≠ [] then some (.afterName pairs name)
  else none

def step (reader : Reader) (symbol : Char) : Option Reader :=
  match reader with
  | .start => if symbol = '\x7b' then some .opened else none
  | .opened => if symbol = '\x7d' then some (.done []) else readName [] [] symbol
  | .inName pairs name => readName pairs name symbol
  | .afterName pairs name => if symbol = '"' then some (.inValue pairs name []) else none
  | .inValue pairs name value =>
      if symbol = '"' then some (.afterValue (pairs ++ [(name, value)]))
      else if symbol = '\\' then some (.inEscape pairs name value)
      else if symbol = '\n' then none
      else some (.inValue pairs name (value ++ [symbol]))
  | .inEscape pairs name value =>
      (unescape symbol).map fun symbol => .inValue pairs name (value ++ [symbol])
  | .afterValue pairs =>
      if symbol = ',' then some (.inName pairs [])
      else if symbol = '\x7d' then some (.done pairs)
      else none
  | .done _ => none

def machine : Machine Reader Char where
  step := step

end Reader

/-- The names and values of a whole label set. -/
def read (text : List Char) : Option (List (List Char × List Char)) :=
  match Reader.machine.run .start text with
  | some (.done pairs) => some pairs
  | _ => none

/-! ## What is accepted has names -/

namespace Reader

/-- Every name read so far is a label name. -/
def Named : Reader → Prop
  | .start | .opened => True
  | .inName pairs name => (∀ pair ∈ pairs, isName pair.1) ∧ (name = [] ∨ isName name)
  | .afterName pairs name | .inValue pairs name _ | .inEscape pairs name _ =>
      (∀ pair ∈ pairs, isName pair.1) ∧ isName name
  | .afterValue pairs | .done pairs => ∀ pair ∈ pairs, isName pair.1

private theorem readName_named {pairs : List (List Char × List Char)} {name : List Char}
    {symbol : Char} {next : Reader} (before : ∀ pair ∈ pairs, isName pair.1)
    (named : name = [] ∨ isName name) (stepped : readName pairs name symbol = some next) :
    next.Named := by
  unfold readName at stepped
  split at stepped
  · rename_i longer
    cases stepped
    exact ⟨before, Or.inr longer⟩
  · split at stepped
    · rename_i ends
      cases stepped
      exact ⟨before, named.resolve_left ends.2⟩
    · cases stepped

private theorem step_named {reader next : Reader} {symbol : Char} (named : reader.Named)
    (stepped : step reader symbol = some next) : next.Named := by
  cases reader with
  | start =>
      simp only [step] at stepped
      split at stepped
      · cases stepped
        trivial
      · cases stepped
  | opened =>
      simp only [step] at stepped
      split at stepped
      · cases stepped
        exact fun pair member => absurd member List.not_mem_nil
      · have noPairs : ∀ pair ∈ ([] : List (List Char × List Char)), isName pair.1 :=
          fun pair member => absurd member List.not_mem_nil
        exact readName_named noPairs (Or.inl rfl) stepped
  | inName pairs name => exact readName_named named.1 named.2 stepped
  | afterName pairs name =>
      simp only [step] at stepped
      split at stepped
      · cases stepped
        exact named
      · cases stepped
  | inValue pairs name value =>
      simp only [step] at stepped
      split at stepped
      · cases stepped
        intro pair member
        rcases List.mem_append.mp member with older | newest
        · exact named.1 pair older
        · rw [List.mem_singleton.mp newest]
          exact named.2
      · split at stepped
        · cases stepped
          exact named
        · split at stepped
          · cases stepped
          · cases stepped
            exact named
  | inEscape pairs name value =>
      rcases Option.map_eq_some_iff.mp stepped with ⟨symbol, -, equal⟩
      cases equal
      exact named
  | afterValue pairs =>
      simp only [step] at stepped
      split at stepped
      · cases stepped
        exact ⟨named, Or.inl rfl⟩
      · split at stepped
        · cases stepped
          exact named
        · cases stepped
  | done pairs => cases stepped

end Reader

theorem isName_of_read {text : List Char} {pairs : List (List Char × List Char)}
    (accepted : read text = some pairs) : ∀ pair ∈ pairs, isName pair.1 := by
  unfold read at accepted
  split at accepted
  · rename_i same ran
    cases accepted
    have start : Reader.start.Named := trivial
    exact Reader.machine.run_invariant Reader.step_named start ran
  · cases accepted

/-! ## What is written correctly is read back -/

/-- One pair, its value escaped between quotes. -/
def pairText (pair : List Char × List Char) : List Char :=
  pair.1 ++ '=' :: '"' :: pair.2.flatMap escape ++ ['"']

namespace Reader

private theorem isName_take {name : List Char} {symbol : Char} (nonempty : name ≠ [])
    (named : isName (name ++ [symbol])) : isName name := by
  cases name with
  | nil => exact absurd rfl nonempty
  | cons first rest =>
      simp only [isName, List.cons_append, List.all_append, Bool.and_eq_true] at named ⊢
      exact ⟨named.1, named.2.1⟩

private theorem run_name (pairs : List (List Char × List Char)) {name : List Char}
    (nonempty : name ≠ []) (named : isName name) :
    machine.run (.inName pairs []) name = some (.inName pairs name) := by
  induction name using List.reverseRecOn with
  | nil => exact absurd rfl nonempty
  | append_singleton front symbol inductionHypothesis =>
      have last : step (.inName pairs front) symbol = some (.inName pairs (front ++ [symbol])) :=
        if_pos named
      rw [Machine.run_append]
      by_cases isEmpty : front = []
      · rw [isEmpty] at last ⊢
        exact congrArg (fun next => Option.bind next some) last
      · rw [inductionHypothesis isEmpty (isName_take isEmpty named)]
        exact congrArg (fun next => Option.bind next some) last

private theorem run_escape (pairs : List (List Char × List Char)) (name value : List Char)
    (symbol : Char) :
    machine.run (.inValue pairs name value) (escape symbol) =
      some (.inValue pairs name (value ++ [symbol])) := by
  unfold escape
  by_cases backslash : symbol = '\\'
  · rw [if_pos backslash, backslash]
    rfl
  · rw [if_neg backslash]
    by_cases quote : symbol = '"'
    · rw [if_pos quote, quote]
      rfl
    · rw [if_neg quote]
      by_cases newline : symbol = '\n'
      · rw [if_pos newline, newline]
        rfl
      · rw [if_neg newline]
        simp [machine, step, backslash, quote, newline]

private theorem run_value (pairs : List (List Char × List Char)) (name before value : List Char) :
    machine.run (.inValue pairs name before) (value.flatMap escape) =
      some (.inValue pairs name (before ++ value)) := by
  induction value generalizing before with
  | nil => simp
  | cons symbol rest inductionHypothesis =>
      rw [List.flatMap_cons, Machine.run_append, run_escape, Option.bind_some,
        inductionHypothesis, List.append_assoc]
      rfl

private theorem run_pair (before : List (List Char × List Char))
    {pair : List Char × List Char} (named : isName pair.1) :
    machine.run (.inName before []) (pairText pair) = some (.afterValue (before ++ [pair])) := by
  rcases pair with ⟨name, value⟩
  have nonempty : name ≠ [] := by
    intro isEmpty
    rw [isEmpty] at named
    cases named
  have notLonger : isName (name ++ ['=']) = false := by
    cases name with
    | nil => exact absurd rfl nonempty
    | cons first rest =>
        have notSymbol : isNameSymbol '=' = false := by decide
        simp [isName, notSymbol]
  have ends : readName before name '=' = some (.afterName before name) := by
    rw [readName, if_neg (by simp [notLonger]), if_pos ⟨rfl, nonempty⟩]
  rw [pairText, List.append_assoc, Machine.run_append, run_name before nonempty named,
    Option.bind_some, List.cons_append, Machine.run_cons]
  show (readName before name '=').bind _ = _
  rw [ends, Option.bind_some, List.cons_append, Machine.run_cons]
  show machine.run (.inValue before name []) _ = _
  rw [Machine.run_append, run_value]
  rfl

private theorem run_pairs (before : List (List Char × List Char))
    {pairs : List (List Char × List Char)} (nonempty : pairs ≠ [])
    (named : ∀ pair ∈ pairs, isName pair.1) :
    machine.run (.inName before []) ([','].intercalate (pairs.map pairText)) =
      some (.afterValue (before ++ pairs)) := by
  induction pairs generalizing before with
  | nil => exact absurd rfl nonempty
  | cons pair rest inductionHypothesis =>
      have first := run_pair before (named pair (by simp))
      cases rest with
      | nil => simpa [List.intercalate] using first
      | cons next others =>
          have tail := inductionHypothesis (before ++ [pair]) (by simp)
            fun other member => named other (List.mem_cons_of_mem _ member)
          rw [List.map_cons, List.map_cons, List.intercalate_cons_cons, ← List.map_cons,
            List.append_assoc, Machine.run_append, first, Option.bind_some, List.cons_append,
            Machine.run_cons]
          show machine.run (.inName (before ++ [pair]) []) _ = _
          rw [List.nil_append, tail, List.append_assoc]
          rfl

/-- Behind the opening brace, a name is read like any other. -/
private theorem run_opened {symbol : Char} (rest : List Char) (starts : isNameStart symbol) :
    machine.run .opened (symbol :: rest) = machine.run (.inName [] []) (symbol :: rest) := by
  have notBrace : symbol ≠ '\x7d' := by
    intro isBrace
    rw [isBrace] at starts
    exact absurd starts (by decide)
  have same : machine.step .opened symbol = machine.step (.inName [] []) symbol := if_neg notBrace
  rw [Machine.run_cons, Machine.run_cons, same]

end Reader

/-- The text of a label set. -/
def write (pairs : List (List Char × List Char)) : List Char :=
  '\x7b' :: [','].intercalate (pairs.map pairText) ++ ['\x7d']

/-- A label set is read back from its text exactly when it has label names. -/
theorem read_write_iff (pairs : List (List Char × List Char)) :
    read (write pairs) = some pairs ↔ ∀ pair ∈ pairs, isName pair.1 := by
  refine ⟨isName_of_read, fun named => ?_⟩
  have ends : Reader.machine.run .opened
      ([','].intercalate (pairs.map pairText) ++ ['\x7d']) = some (.done pairs) := by
    cases pairs with
    | nil => rfl
    | cons pair rest =>
        have whole := Reader.run_pairs [] (List.cons_ne_nil pair rest) named
        have opened : ∃ symbol others, isNameStart symbol = true ∧
            [','].intercalate ((pair :: rest).map pairText) = symbol :: others := by
          have isLabelName := named pair (by simp)
          rcases pair with ⟨_ | ⟨symbol, name⟩, value⟩
          · cases isLabelName
          · rw [isName, Bool.and_eq_true] at isLabelName
            cases rest with
            | nil => exact ⟨symbol, _, isLabelName.1, List.intercalate_singleton⟩
            | cons next others => exact ⟨symbol, _, isLabelName.1, List.intercalate_cons_cons⟩
        rcases opened with ⟨symbol, others, starts, equal⟩
        rw [equal] at whole
        rw [equal, List.cons_append, Reader.run_opened _ starts, ← List.cons_append,
          Machine.run_append, whole]
        rfl
  have opens : Reader.machine.run .start (write pairs) = some (.done pairs) := ends
  rw [read, opens]

end Ferrometer.Foundation.LabelSet
