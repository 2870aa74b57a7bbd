import Ferrometer.Error
import Ferrometer.Foundation.Text

/-!
Contract: placeholder expansion in a configuration value.

Owns: `resolvePlaceholder`, the scan of `expandPlaceholders` from left to right,
and `expandPath`.

Does not own: which fields are expanded.

`environment` stands for `std::env::var`, `none` for a variable that is unset or
not Unicode. In the strings below `\x7b` and `\x7d` are the two braces.
-/

set_option autoImplicit false

namespace Ferrometer.Config

open Ferrometer.Foundation

/-- A path as the configuration has it. A path read from a TOML file is UTF-8, so
`to_str` on it does not fail. -/
abbrev PathBuf := String

abbrev Environment := String → Option String

def cargoPkgVersion : String := "0.6.0"

section Expansion

variable (environment : Environment) (instanceName : String)

/-- `none` is a value without the given start. -/
def stripPrefix (start text : List Char) : Option (List Char) :=
  if start <+: text then some (text.drop start.length) else none

def resolvePlaceholder (inner : String) : Except String String :=
  if inner = "instance.name" then .ok instanceName
  else if inner = "version" then .ok cargoPkgVersion
  else
    match stripPrefix "env:".toList inner.toList with
    | some rest =>
        let name := String.ofList rest
        match environment name with
        | some value => .ok value
        | none => .error ("$\x7benv:" ++ name ++
            "\x7d referenced but environment variable '" ++ name ++ "' is not set")
    | none => .error ("unknown placeholder '$\x7b" ++ inner ++ "\x7d'")

def opening : List Char := ['$', '\x7b']

def closing : List Char := ['\x7d']

set_option linter.unusedVariables false in
/-- The loop of `expandPlaceholders` on a whole value, with `out` and `rest` as it
carries them. -/
def expandLoop (whole : String) (out rest : List Char) : Except Error (List Char) :=
  match opened : Text.splitOnce opening rest with
  | none => .ok (out ++ rest)
  | some (literal, after) =>
      match closed : Text.splitOnce closing after with
      | none =>
          .error (.config ("unterminated placeholder in config value '" ++ whole ++ "'"))
      | some (inner, remaining) =>
          match resolvePlaceholder environment instanceName (String.ofList inner) with
          | .error message =>
              .error (.config ("in config value '" ++ whole ++ "': " ++ message))
          | .ok value => expandLoop whole (out ++ literal ++ value.toList) remaining
termination_by rest.length
decreasing_by
  have before := Text.length_of_splitOnce opened
  have behind := Text.length_of_splitOnce closed
  simp only [opening, closing, List.length_cons] at before behind
  omega

def expandPlaceholders (value : String) : Except Error String :=
  (expandLoop environment instanceName value [] value.toList).map String.ofList

def expandPath (path : PathBuf) : Except Error PathBuf :=
  expandPlaceholders environment instanceName path

end Expansion

/-! ## One turn of the loop -/

section Turns

variable {environment : Environment} {instanceName whole : String}
  {out rest after : List Char}

theorem expandLoop_end (notOpened : Text.splitOnce opening rest = none) :
    expandLoop environment instanceName whole out rest = .ok (out ++ rest) := by
  unfold expandLoop
  split
  · rfl
  · rename_i opened
    rw [notOpened] at opened
    exact absurd opened (by simp)

theorem expandLoop_unclosed {literal : List Char}
    (opened : Text.splitOnce opening rest = some (literal, after))
    (notClosed : Text.splitOnce closing after = none) :
    expandLoop environment instanceName whole out rest =
      .error (.config ("unterminated placeholder in config value '" ++ whole ++ "'")) := by
  unfold expandLoop
  split
  · rename_i notOpened
    rw [opened] at notOpened
    cases notOpened
  · rename_i openedAgain
    rw [opened] at openedAgain
    cases openedAgain
    split
    · rfl
    · rename_i closed
      rw [notClosed] at closed
      cases closed

theorem expandLoop_placeholder (literal inner remaining : List Char)
    (opened : Text.splitOnce opening rest = some (literal, after))
    (closed : Text.splitOnce closing after = some (inner, remaining)) :
    expandLoop environment instanceName whole out rest =
      match resolvePlaceholder environment instanceName (String.ofList inner) with
      | .error message => .error (.config ("in config value '" ++ whole ++ "': " ++ message))
      | .ok value =>
          expandLoop environment instanceName whole (out ++ literal ++ value.toList)
            remaining := by
  rw [expandLoop]
  split
  · rename_i notOpened
    rw [opened] at notOpened
    exact absurd notOpened (by simp)
  · rename_i openedAgain
    rw [opened] at openedAgain
    obtain ⟨rfl, rfl⟩ := Prod.mk.inj (Option.some.inj openedAgain)
    split
    · rename_i notClosed
      rw [closed] at notClosed
      exact absurd notClosed (by simp)
    · rename_i closedAgain
      rw [closed] at closedAgain
      obtain ⟨rfl, rfl⟩ := Prod.mk.inj (Option.some.inj closedAgain)
      rfl

end Turns

/-- A value without an opening `$` and brace is its own expansion. -/
theorem expandPlaceholders_of_literal (environment : Environment) (instanceName : String)
    {value : String} (literal : ¬ opening <:+: value.toList) :
    expandPlaceholders environment instanceName value = .ok value := by
  rw [expandPlaceholders, expandLoop_end (Text.splitOnce_eq_none_iff.mpr literal)]
  exact congrArg Except.ok String.ofList_toList

end Ferrometer.Config
