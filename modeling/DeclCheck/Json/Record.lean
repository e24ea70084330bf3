/-
# DeclCheck.Json.Record — reading values by their shape.

A reader of a type takes the number of levels that may still be nested and a value.  An array or
an object uses up one level, whatever it is read as; a value that nobody reads uses none.

A record is an object, whose members come in any order and among unknown ones, or an array of its
fields in their declared order, the last ones left out.  No field may be given twice.  A choice
between constants is the constant's tag, or an object with the tag and `null`.
-/
import DeclCheck.NameMap
import DeclCheck.Json.Reader

namespace DeclCheck

namespace Json

/-- The deepest nesting that is read. -/
def maxNesting : Nat := 127

/-! ## Single values -/

/-- The content of a string. -/
def string? : Json → Option String
  | .string text => some text
  | _ => none

/-- The value of a truth value. -/
def bool? : Json → Option Bool
  | .bool value => some value
  | _ => none

/-- A string of exactly one character. -/
def char? : Json → Option Char
  | .string text =>
    match text.toList with
    | [c] => some c
    | _ => none
  | _ => none

/-- A number that fits a 64-bit word. -/
def word64? : Json → Option UInt64
  | .natural value => if value < UInt64.size then some (UInt64.ofNat value) else none
  | _ => none

/-- A number that fits a 32-bit word. -/
def word32? : Json → Option UInt32
  | .natural value => if value < UInt32.size then some (UInt32.ofNat value) else none
  | _ => none

/-- A 64-bit word as a number. -/
def ofWord64 (value : UInt64) : Json :=
  .natural value.toNat

/-- `null`, or a value that `read` takes. -/
def nullable (read : Json → Option α) : Json → Option (Option α)
  | .null => some none
  | value => (read value).map some

/-- A value that may be missing; `null` stands for none. -/
def ofOption (write : α → Json) : Option α → Json
  | none => .null
  | some value => write value

/-! ## Arrays and choices -/

/-- An array whose elements `read` takes, one level further in. -/
def list? (read : Nat → Json → Option α) : Nat → Json → Option (List α)
  | level + 1, .array elements => elements.mapM (read level)
  | _, _ => none

/-- Values as an array. -/
def ofList (write : α → Json) (values : List α) : Json :=
  .array (values.map write)

/-- An object as a map: a name given again keeps its place and takes the later value. -/
def map? (read : Nat → Json → Option α) : Nat → Json → Option (List (String × α))
  | level + 1, .object members =>
    members.foldlM (fun entries (name, value) => (read level value).map (put name · entries)) []
  | _, _ => none

/-- One of the constants `all`, by its tag. -/
def choice? (all : List α) (tag : α → String) : Nat → Json → Option α
  | _, .string text => all.find? (tag · = text)
  | _ + 1, .object [(text, .null)] => all.find? (tag · = text)
  | _, _ => none

/-! ## Records -/

/-- The fields of a record that are given. -/
structure Fields where
  given : List (String × Json)

/-- The given ones among the fields `names`; members of other names are passed over. -/
def fields? (names : List String) : Json → Option Fields
  | .array values => if values.length ≤ names.length then some ⟨names.zip values⟩ else none
  | .object members =>
    let known := members.filter fun member => names.contains member.1
    if (known.map Prod.fst).Nodup then some ⟨known⟩ else none
  | _ => none

/-- A field that has to be given. -/
def Fields.required (fields : Fields) (name : String) (read : Json → Option α) : Option α :=
  match fields.given.lookup name with
  | some value => read value
  | none => none

/-- A field that stands for `default` when it is not given. -/
def Fields.optional (fields : Fields) (name : String) (default : α) (read : Json → Option α) :
    Option α :=
  match fields.given.lookup name with
  | some value => read value
  | none => some default

/-- A flag, which is off when it is not given. -/
def Fields.flag (fields : Fields) (name : String) : Option Bool :=
  fields.optional name false bool?

/-- Read a whole text as one value. -/
def readText (read : Nat → Json → Option α) (text : String) : Option α :=
  parse? text >>= read maxNesting

end Json

end DeclCheck
