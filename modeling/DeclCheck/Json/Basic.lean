/-
# DeclCheck.Json.Basic — JSON values and their compact text.

Objects are lists of members in writing order, and a name may occur more than once: whether that
is an error depends on what the object is read as.  Numbers are split by what a reader can use:
`natural` for plain digits, `decimal` for every other spelling, kept as written.  `unreadable`
stands for a value that is well formed and yet has no content: a string with an unpaired surrogate
escape, or an object with such a string as a member name.  It can be passed over but not read.
-/

namespace DeclCheck

/-- A JSON value. -/
inductive Json where
  | null
  | bool (value : Bool)
  | natural (value : Nat)
  | decimal (text : String)
  | string (text : String)
  | array (elements : List Json)
  | object (members : List (String × Json))
  | unreadable
deriving Inhabited

namespace Json

/-! ## Nesting -/

mutual

/-- How many arrays and objects stand inside one another. -/
def depth : Json → Nat
  | .array elements => depthElements elements + 1
  | .object members => depthMembers members + 1
  | _ => 0

/-- The deepest nesting among the elements of an array. -/
def depthElements : List Json → Nat
  | [] => 0
  | value :: rest => max value.depth (depthElements rest)

/-- The deepest nesting among the members of an object. -/
def depthMembers : List (String × Json) → Nat
  | [] => 0
  | (_, value) :: rest => max value.depth (depthMembers rest)

end

/-! ## Compact text -/

/-- One character of a string literal.  Control characters are escaped, by their short escape where
one exists; everything else but the quote and the backslash stands for itself. -/
def escape (c : Char) : List Char :=
  if c = '"' then ['\\', '"']
  else if c = '\\' then ['\\', '\\']
  else if c.toNat = 8 then ['\\', 'b']
  else if c.toNat = 12 then ['\\', 'f']
  else if c = '\n' then ['\\', 'n']
  else if c = '\r' then ['\\', 'r']
  else if c = '\t' then ['\\', 't']
  else if c.toNat < 32 then
    ['\\', 'u', '0', '0', Nat.digitChar (c.toNat / 16), Nat.digitChar (c.toNat % 16)]
  else [c]

/-- A string literal with its quotes. -/
def renderString (text : String) : List Char :=
  '"' :: (text.toList.flatMap escape ++ ['"'])

mutual

/-- The value's text, without any blank. -/
def render : Json → List Char
  | .null => "null".toList
  | .bool true => "true".toList
  | .bool false => "false".toList
  | .natural value => Nat.toDigits 10 value
  | .decimal text => text.toList
  | .string text => renderString text
  | .array elements => '[' :: (renderElements elements ++ [']'])
  | .object members => '\x7b' :: (renderMembers members ++ ['\x7d'])
  | .unreadable => "\"\\ud800\"".toList

/-- The elements of an array, with commas between them. -/
def renderElements : List Json → List Char
  | [] => []
  | [value] => value.render
  | value :: next :: rest => value.render ++ ',' :: renderElements (next :: rest)

/-- The members of an object, with commas between them. -/
def renderMembers : List (String × Json) → List Char
  | [] => []
  | [(name, value)] => renderString name ++ ':' :: value.render
  | (name, value) :: next :: rest =>
    renderString name ++ ':' :: (value.render ++ ',' :: renderMembers (next :: rest))

end

/-- The compact text of a value. -/
def toText (value : Json) : String :=
  String.ofList value.render

end Json

end DeclCheck
