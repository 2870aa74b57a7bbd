import Ferrometer.Config.Placeholder
import Ferrometer.Foundation.Template

/-!
Contract: placeholder expansion as one substitution.

Owns: `std::env::var` on the variables of a process, what a placeholder stands for, and
that the scan of `expandPlaceholders` reads a template and fills it.

Does not own: the texts of the errors.
-/

set_option autoImplicit false

namespace Ferrometer.Config

open Ferrometer.Foundation

/-- The variables of a process. A value is any string of bytes. -/
abbrev VarsOs := String → Option (List UInt8)

/-- `std::env::var`: an error for a variable that is not set, and for one whose value is
not Unicode. -/
def envVar (vars : VarsOs) : Environment :=
  fun name => (vars name).bind Text.ofUtf8

def IsSet (vars : VarsOs) (name : String) : Prop :=
  (vars name).isSome

def IsSetToUnicode (vars : VarsOs) (name : String) : Prop :=
  ∃ bytes, vars name = some bytes ∧ (Text.ofUtf8 bytes).isSome

def braces : Delimiters Char where
  opening := opening
  closing := closing
  opening_ne_nil := List.cons_ne_nil _ _

/-- The texts between braces that stand for something. -/
def IsPlaceholder (isSet : String → Prop) (inner : String) : Prop :=
  inner = "instance.name" ∨ inner = "version" ∨ ∃ name, inner = "env:" ++ name ∧ isSet name

/-- What they stand for. -/
def StandsFor (environment : Environment) (instanceName inner value : String) : Prop :=
  inner = "instance.name" ∧ value = instanceName ∨
    inner = "version" ∧ value = cargoPkgVersion ∨
      ∃ name, inner = "env:" ++ name ∧ environment name = some value

/-- A value expands in one pass: what is accepted, what becomes of it, and how values are
put together. Which variables count as set is a parameter. -/
structure ExpandsOnce (environment : Environment) (instanceName : String)
    (isSet : String → Prop) : Prop where
  accepts : ∀ value, (∃ result, expandPlaceholders environment instanceName value = .ok result) ↔
    ∀ behind, Template.Meets braces value.toList behind →
      ∃ inner remaining, Text.splitOnce closing behind = some (inner, remaining) ∧
        IsPlaceholder isSet (String.ofList inner)
  /-- The pieces are those of the value. What the placeholders stand for is put between
  them as it is. -/
  pieces : ∀ value result, expandPlaceholders environment instanceName value = .ok result →
    ∃ template standsFor, Template.read braces value.toList = some template ∧
      template.write braces = value.toList ∧
      (∀ segment ∈ template.segments, StandsFor environment instanceName
        (String.ofList segment.2) (String.ofList (standsFor segment.2))) ∧
      result.toList = template.substitute standsFor
  append : ∀ first second expanded,
    expandPlaceholders environment instanceName first = .ok expanded →
    first.toList.getLast? ≠ some '$' →
    ∀ result, expandPlaceholders environment instanceName (first ++ second) = .ok result ↔
      ∃ rest, expandPlaceholders environment instanceName second = .ok rest ∧
        result = expanded ++ rest

section Resolve

variable {environment : Environment} {instanceName inner value : String}

private theorem stripPrefix_eq_some {start text rest : List Char} :
    stripPrefix start text = some rest ↔ text = start ++ rest := by
  unfold stripPrefix
  constructor
  · intro stripped
    split at stripped
    · rename_i isPrefix
      rcases isPrefix with ⟨tail, rfl⟩
      rw [List.drop_left] at stripped
      cases stripped
      rfl
    · cases stripped
  · rintro rfl
    rw [if_pos (List.prefix_append start rest), List.drop_left]

private theorem env_inj {name other : String} (same : "env:" ++ name = "env:" ++ other) :
    name = other := by
  have texts := congrArg String.toList same
  rw [String.toList_append, String.toList_append] at texts
  exact String.toList_inj.mp (List.append_cancel_left texts)

private theorem resolvePlaceholder_env (notName : inner ≠ "instance.name")
    (notVersion : inner ≠ "version") :
    resolvePlaceholder environment instanceName inner = .ok value ↔
      ∃ name, inner = "env:" ++ name ∧ environment name = some value := by
  unfold resolvePlaceholder
  rw [if_neg notName, if_neg notVersion]
  cases stripped : stripPrefix "env:".toList inner.toList with
  | none =>
      refine iff_of_false nofun ?_
      rintro ⟨name, rfl, -⟩
      rw [stripPrefix_eq_some.mpr String.toList_append] at stripped
      cases stripped
  | some rest =>
      have isEnv : inner = "env:" ++ String.ofList rest := by
        apply String.toList_inj.mp
        rw [stripPrefix_eq_some.mp stripped, String.toList_append]
        exact congrArg ("env:".toList ++ ·) String.toList_ofList.symm
      simp only
      cases found : environment (String.ofList rest) with
      | none =>
          refine iff_of_false nofun ?_
          rintro ⟨name, isOther, isSet⟩
          rw [← env_inj (isEnv.symm.trans isOther), found] at isSet
          cases isSet
      | some other =>
          rw [Except.ok.injEq]
          constructor
          · rintro rfl
            exact ⟨_, isEnv, found⟩
          · rintro ⟨name, isOther, isSet⟩
            rw [← env_inj (isEnv.symm.trans isOther), found] at isSet
            exact Option.some.inj isSet

theorem resolvePlaceholder_eq_ok :
    resolvePlaceholder environment instanceName inner = .ok value ↔
      StandsFor environment instanceName inner value := by
  have notEnv : ∀ name, "instance.name" ≠ "env:" ++ name ∧ "version" ≠ "env:" ++ name := by
    intro name
    constructor <;> intro same <;> simpa using congrArg String.toList same
  unfold StandsFor
  by_cases isName : inner = "instance.name"
  · subst isName
    simp [resolvePlaceholder, (notEnv _).1, eq_comm]
  · by_cases isVersion : inner = "version"
    · subst isVersion
      simp [resolvePlaceholder, (notEnv _).2, eq_comm]
    · rw [resolvePlaceholder_env isName isVersion]
      simp only [isName, isVersion, false_and, false_or]

end Resolve

/-! ## The scan -/

section Scan

variable (environment : Environment) (instanceName : String)

/-- What is put in the place of a placeholder. -/
def resolved (inner : List Char) : List Char :=
  match resolvePlaceholder environment instanceName (String.ofList inner) with
  | .ok value => value.toList
  | .error _ => []

def HasValue (inner : List Char) : Prop :=
  ∃ value, resolvePlaceholder environment instanceName (String.ofList inner) = .ok value

variable {environment instanceName}

/-- The loop reads a template and fills it. -/
theorem expandLoop_eq_ok {whole : String} {out rest result : List Char} :
    expandLoop environment instanceName whole out rest = .ok result ↔
      ∃ template, Template.read braces rest = some template ∧
        (∀ segment ∈ template.segments, HasValue environment instanceName segment.2) ∧
        result = out ++ template.substitute (resolved environment instanceName) := by
  induction rest using Template.read.induct braces generalizing out with
  | case1 rest notOpened =>
      rw [expandLoop_end notOpened, Template.read_end notOpened]
      simp [Template.substitute, eq_comm]
  | case2 rest literal after opened notClosed =>
      rw [expandLoop_unclosed opened notClosed, Template.read_unclosed opened notClosed]
      simp
  | case3 rest literal after opened inner remaining closed inductionHypothesis =>
      have turn : expandLoop environment instanceName whole out rest = _ :=
        expandLoop_placeholder literal inner remaining opened closed
      rw [Template.read_segment opened closed]
      cases resolves : resolvePlaceholder environment instanceName (String.ofList inner) with
      | error message =>
          rw [resolves] at turn
          rw [turn]
          apply iff_of_false
          · intro expands
            cases expands
          · rintro ⟨template, isRead, all, -⟩
            rcases Option.map_eq_some_iff.mp isRead with ⟨others, -, rfl⟩
            rcases all (literal, inner) List.mem_cons_self with ⟨value, isValue⟩
            rw [resolves] at isValue
            cases isValue
      | ok value =>
          have first : HasValue environment instanceName inner := ⟨value, resolves⟩
          have isValue : resolved environment instanceName inner = value.toList := by
            rw [resolved, resolves]
          rw [resolves] at turn
          rw [turn, inductionHypothesis]
          constructor
          · rintro ⟨template, isRead, all, rfl⟩
            refine ⟨template.cons (literal, inner), by rw [isRead, Option.map_some],
              List.forall_mem_cons.mpr ⟨first, all⟩, ?_⟩
            rw [Template.substitute_cons, isValue]
            simp only [List.append_assoc]
          · rintro ⟨_, isRead, all, rfl⟩
            rcases Option.map_eq_some_iff.mp isRead with ⟨template, readRest, rfl⟩
            refine ⟨template, readRest, (List.forall_mem_cons.mp all).2, ?_⟩
            rw [Template.substitute_cons, isValue]
            simp only [List.append_assoc]

theorem expandPlaceholders_eq_ok {value result : String} :
    expandPlaceholders environment instanceName value = .ok result ↔
      ∃ template, Template.read braces value.toList = some template ∧
        (∀ segment ∈ template.segments, HasValue environment instanceName segment.2) ∧
        result.toList = template.substitute (resolved environment instanceName) := by
  have onLists : expandPlaceholders environment instanceName value = .ok result ↔
      expandLoop environment instanceName value [] value.toList = .ok result.toList := by
    unfold expandPlaceholders
    cases expandLoop environment instanceName value [] value.toList with
    | error failure => simp [Except.map]
    | ok symbols => simp [Except.map, String.ofList_eq]
  rw [onLists, expandLoop_eq_ok]
  rfl

end Scan

/-! ## One pass -/

section OnePass

variable {environment : Environment} {instanceName : String}

private theorem hasValue_iff {isSet : String → Prop}
    (isSet_iff : ∀ name, isSet name ↔ ∃ value, environment name = some value)
    (inner : List Char) :
    HasValue environment instanceName inner ↔ IsPlaceholder isSet (String.ofList inner) := by
  unfold HasValue
  simp only [resolvePlaceholder_eq_ok]
  constructor
  · rintro ⟨value, ⟨isName, -⟩ | ⟨isVersion, -⟩ | ⟨name, isEnv, found⟩⟩
    · exact Or.inl isName
    · exact Or.inr (Or.inl isVersion)
    · exact Or.inr (Or.inr ⟨name, isEnv, (isSet_iff name).mpr ⟨value, found⟩⟩)
  · rintro (isName | isVersion | ⟨name, isEnv, set⟩)
    · exact ⟨_, Or.inl ⟨isName, rfl⟩⟩
    · exact ⟨_, Or.inr (Or.inl ⟨isVersion, rfl⟩)⟩
    · rcases (isSet_iff name).mp set with ⟨value, found⟩
      exact ⟨value, Or.inr (Or.inr ⟨name, isEnv, found⟩)⟩

private theorem standsFor_resolved {inner : List Char}
    (resolves : HasValue environment instanceName inner) :
    StandsFor environment instanceName (String.ofList inner)
      (String.ofList (resolved environment instanceName inner)) := by
  rcases resolves with ⟨value, isValue⟩
  rw [resolved, isValue, String.ofList_toList]
  exact resolvePlaceholder_eq_ok.mp isValue

/-- No opening begins at the end of a value that does not end in `$`. -/
private theorem noEdge_opening {first : List Char} (last : first.getLast? ≠ some '$') :
    Text.NoEdge braces.opening first := by
  intro front back split frontNonempty backNonempty ends
  rcases List.exists_cons_of_ne_nil frontNonempty with ⟨symbol, rest, rfl⟩
  rcases List.exists_cons_of_ne_nil backNonempty with ⟨other, others, rfl⟩
  have isDollar : '$' = symbol := (List.cons.inj split).1
  have single : rest = [] := by
    have lengths := congrArg List.length split
    simp only [braces, opening, List.length_cons, List.length_nil, List.length_append] at lengths
    exact List.length_eq_zero_iff.mp (by omega)
  rcases ends with ⟨before, rfl⟩
  apply last
  rw [single, isDollar, List.getLast?_concat]

private theorem expandPlaceholders_append {first second expanded result : String}
    (expands : expandPlaceholders environment instanceName first = .ok expanded)
    (last : first.toList.getLast? ≠ some '$') :
    expandPlaceholders environment instanceName (first ++ second) = .ok result ↔
      ∃ rest, expandPlaceholders environment instanceName second = .ok rest ∧
        result = expanded ++ rest := by
  rcases expandPlaceholders_eq_ok.mp expands with ⟨template, isRead, all, isExpanded⟩
  have together := Template.read_append second.toList isRead (noEdge_opening last)
  rw [expandPlaceholders_eq_ok, String.toList_append, together]
  constructor
  · rintro ⟨_, isAppended, allToo, isResult⟩
    rcases Option.map_eq_some_iff.mp isAppended with ⟨other, readOther, rfl⟩
    rw [Template.substitute_append, ← isExpanded] at isResult
    have allOther := ((Template.forall_append _ template other).mp allToo).2
    refine ⟨_, expandPlaceholders_eq_ok.mpr ⟨other, readOther, allOther, String.toList_ofList⟩, ?_⟩
    apply String.toList_inj.mp
    rw [isResult, String.toList_append, String.toList_ofList]
  · rintro ⟨rest, expandsRest, rfl⟩
    rcases expandPlaceholders_eq_ok.mp expandsRest with ⟨other, readOther, allOther, isRest⟩
    refine ⟨template.append other, by rw [readOther, Option.map_some],
      (Template.forall_append _ template other).mpr ⟨all, allOther⟩, ?_⟩
    rw [String.toList_append, isExpanded, isRest, Template.substitute_append]

private theorem expandPlaceholders_isOk {value : String} :
    (∃ result, expandPlaceholders environment instanceName value = .ok result) ↔
      ∃ template, Template.read braces value.toList = some template ∧
        ∀ segment ∈ template.segments, HasValue environment instanceName segment.2 := by
  constructor
  · rintro ⟨result, expands⟩
    rcases expandPlaceholders_eq_ok.mp expands with ⟨template, isRead, all, -⟩
    exact ⟨template, isRead, all⟩
  · rintro ⟨template, isRead, all⟩
    exact ⟨_, expandPlaceholders_eq_ok.mpr ⟨template, isRead, all, String.toList_ofList⟩⟩

end OnePass

theorem expandPlaceholders_once (vars : VarsOs) (instanceName : String) :
    ExpandsOnce (envVar vars) instanceName (IsSetToUnicode vars) where
  accepts value := by
    have isSet_iff : ∀ name, IsSetToUnicode vars name ↔
        ∃ value, envVar vars name = some value := by
      intro name
      rw [envVar, IsSetToUnicode]
      simp only [Option.bind_eq_some_iff, Option.isSome_iff_exists, ← exists_and_left]
      rw [exists_comm]
    rw [expandPlaceholders_isOk, Template.read_forall_iff]
    simp only [hasValue_iff isSet_iff]
    rfl
  pieces value result expands := by
    rcases expandPlaceholders_eq_ok.mp expands with ⟨template, isRead, all, isResult⟩
    exact ⟨template, _, isRead, Template.write_of_read isRead,
      fun segment member => standsFor_resolved (all segment member), isResult⟩
  append _ _ _ expands last _ := expandPlaceholders_append expands last

/-- A process with one variable, whose value is a byte that begins no character. -/
def binaryVars : VarsOs :=
  fun name => if name = "TOKEN" then some [0xff] else none

theorem expandPlaceholders_binaryVars :
    ¬ ∀ vars instanceName, ExpandsOnce (envVar vars) instanceName (IsSet vars) := by
  intro all
  have opened : Text.splitOnce opening "$\x7benv:TOKEN\x7d".toList =
      some ([], "env:TOKEN\x7d".toList) := by decide
  have closed : Text.splitOnce closing "env:TOKEN\x7d".toList = some ("env:TOKEN".toList, []) := by
    decide
  have notClosed : Text.splitOnce opening ([] : List Char) = none := by decide
  have accepted := ((all binaryVars "host").accepts "$\x7benv:TOKEN\x7d").mpr
  have expands : ∃ result,
      expandPlaceholders (envVar binaryVars) "host" "$\x7benv:TOKEN\x7d" = .ok result := by
    apply accepted
    intro behind met
    rcases (Template.meets_iff opened closed behind).mp met with rfl | further
    · exact ⟨_, _, closed, Or.inr (Or.inr ⟨"TOKEN", rfl, rfl⟩)⟩
    · exact absurd further (Template.not_meets notClosed behind)
  rcases expandPlaceholders_isOk.mp expands with ⟨template, isRead, all⟩
  rw [Template.read_segment opened closed] at isRead
  rcases Option.map_eq_some_iff.mp isRead with ⟨rest, -, rfl⟩
  rcases all (_, _) List.mem_cons_self with ⟨value, resolves⟩
  have refused : (resolvePlaceholder (envVar binaryVars) "host" "env:TOKEN").toOption = none := by
    decide +kernel
  have same : String.ofList "env:TOKEN".toList = "env:TOKEN" := rfl
  rw [same] at resolves
  rw [resolves] at refused
  cases refused

end Ferrometer.Config
