/-
# DeclCheck.Settings.Document — settings from a TOML document.

A document may have the tables `verifier` and `logging`, and no key that is not known.  What is
left out keeps its default.  A table may also be given as an array of its values in order; the last
ones may be left out, and values beyond the last are passed over.
-/
import DeclCheck.Settings
import DeclCheck.Toml.Document

namespace DeclCheck

/-- What is wrong with a settings document. -/
inductive SettingsError where
  /-- It is no TOML, or holds a key or a type of value that does not belong. -/
  | malformed
  /-- No release has the number zero. -/
  | zeroRelease
deriving DecidableEq

/-- The text of a complaint about the settings. -/
def SettingsError.message : SettingsError → String
  | .malformed => "TOML の解析に失敗しました"
  | .zeroRelease =>
    "`verifier.target_release` の値が不正です: 正の Java リリース番号を指定してください"

namespace Toml

/-- The given ones among the fields `names` of a table. -/
def fields? (names : List String) : Value → Option (List (String × Value))
  | .table entries => if entries.all (names.contains ·.1) then some entries else none
  | .array elements => some (names.zip elements)
  | _ => none

/-- A field that keeps `default` when it is not given. -/
def field? (fields : List (String × Value)) (name : String) (default : α)
    (read : Value → Option α) : Option α :=
  match fields.lookup name with
  | some value => read value
  | none => some default

/-- The value of a truth value. -/
def bool? : Value → Option Bool
  | .boolean value => some value
  | _ => none

/-- The content of a string. -/
def string? : Value → Option String
  | .string text => some text
  | _ => none

/-- An integer that fits an unsigned 32-bit word. -/
def word32? : Value → Option UInt32
  | .integer value =>
    if 0 ≤ value && value < UInt32.size then some (UInt32.ofNat value.toNat) else none
  | _ => none

end Toml

/-- The settings of the checks: a table of known keys, each with its default. -/
def CheckSettings.ofToml? (value : Toml.Value) : Option CheckSettings := do
  let fields ← Toml.fields?
    ["target_release", "check_targets", "fold_repeatable", "verify_overrides",
      "check_annotation_members"] value
  let base : CheckSettings := {}
  return {
    release := ← Toml.field? fields "target_release" base.release Toml.word32?
    targets := ← Toml.field? fields "check_targets" base.targets Toml.bool?
    folding := ← Toml.field? fields "fold_repeatable" base.folding Toml.bool?
    overrides := ← Toml.field? fields "verify_overrides" base.overrides Toml.bool?
    members := ← Toml.field? fields "check_annotation_members" base.members Toml.bool? }

namespace Settings

/-- The log level of the logging table. -/
def logLevelOfToml? (value : Toml.Value) : Option String := do
  let fields ← Toml.fields? ["level"] value
  Toml.field? fields "level" ({} : Settings).logLevel Toml.string?

/-- The settings of a whole document: the tables of the checks and of logging, either of which may
be left out. -/
def ofEntries? (entries : List (String × Toml.Value)) : Option Settings := do
  let fields ← Toml.fields? ["verifier", "logging"] (.table entries)
  let base : Settings := {}
  return {
    checks := ← Toml.field? fields "verifier" base.checks CheckSettings.ofToml?
    logLevel := ← Toml.field? fields "logging" base.logLevel logLevelOfToml? }

/-- The settings that a document spells. -/
def ofText (text : String) : Except SettingsError Settings :=
  match (Toml.parse? text).bind ofEntries? with
  | none => .error .malformed
  | some settings => if settings.checks.release = 0 then .error .zeroRelease else .ok settings

end Settings

end DeclCheck
