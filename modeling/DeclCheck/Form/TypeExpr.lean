/-
# DeclCheck.Form.TypeExpr — the JSON form of positions and types.
-/
import DeclCheck.Json.Record
import DeclCheck.Tree.Span
import DeclCheck.Tree.TypeExpr

namespace DeclCheck

/-! ## Spans -/

/-- A span is written as its four numbers. -/
def Span.toJson (span : Span) : Json :=
  .object [("start_line", .ofWord64 span.startLine), ("start_column", .ofWord64 span.startColumn),
    ("end_line", .ofWord64 span.endLine), ("end_column", .ofWord64 span.endColumn)]

/-- Read a span.  All four numbers have to be given and fit a word. -/
def Span.ofJson? : Nat → Json → Option Span
  | 0, _ => none
  | _ + 1, value => do
    let fields ← value.fields? ["start_line", "start_column", "end_line", "end_column"]
    return {
      startLine := ← fields.required "start_line" Json.word64?
      startColumn := ← fields.required "start_column" Json.word64?
      endLine := ← fields.required "end_line" Json.word64?
      endColumn := ← fields.required "end_column" Json.word64? }

/-- The span of a record, which may be left out. -/
def Json.Fields.span (fields : Json.Fields) (level : Nat) : Option Span :=
  fields.optional "span" .nowhere (Span.ofJson? level)

/-! ## Types -/

namespace WildcardKind

/-- Every kind of wildcard. -/
def all : List WildcardKind := [.unbounded, .upper, .lower]

/-- The name of a kind of wildcard in the form. -/
def tag : WildcardKind → String
  | .unbounded => "Unbounded"
  | .upper => "Extends"
  | .lower => "Super"

/-- A kind of wildcard is written as its bare tag. -/
def toJson (kind : WildcardKind) : Json :=
  .string kind.tag

/-- Read a kind of wildcard by its tag. -/
def ofJson? : Nat → Json → Option WildcardKind :=
  Json.choice? all tag

end WildcardKind

namespace TypeExpr

mutual

/-- A type is written under the tag of its constructor; `Void` carries nothing. -/
def toJson : TypeExpr → Json
  | .primitive name => .object [("Primitive", .string name)]
  | .named name arguments =>
    .object [("Class",
      .object [("name", .string name), ("type_arguments", .array (toJsonAll arguments))])]
  | .variable name => .object [("Variable", .string name)]
  | .array element => .object [("Array", element.toJson)]
  | .wildcard kind bound =>
    .object [("Wildcard", .object [("kind", kind.toJson), ("bound", toJsonBound bound)])]
  | .void => .string "Void"

/-- The elements of an array of types. -/
def toJsonAll : List TypeExpr → List Json
  | [] => []
  | type :: rest => type.toJson :: toJsonAll rest

/-- The bound of a wildcard; `null` stands for none. -/
def toJsonBound : Option TypeExpr → Json
  | none => .null
  | some bound => bound.toJson

end

mutual

/-- Read a type.  Only `Void` may stand without a body. -/
def ofJson? : Nat → Json → Option TypeExpr
  | _, .string tag => if tag = "Void" then some .void else none
  | level + 1, .object [(tag, body)] =>
    if tag = "Primitive" then body.string?.map .primitive
    else if tag = "Class" then namedOfJson? level body
    else if tag = "Variable" then body.string?.map .variable
    else if tag = "Array" then (ofJson? level body).map .array
    else if tag = "Wildcard" then wildcardOfJson? level body
    else if tag = "Void" then
      match body with
      | .null => some .void
      | _ => none
    else none
  | _, _ => none

/-- Read what the tag `Class` carries: a name, and arguments that may be left out. -/
def namedOfJson? : Nat → Json → Option TypeExpr
  | 0, _ => none
  | level + 1, value => do
    let fields ← value.fields? ["name", "type_arguments"]
    let name ← fields.required "name" Json.string?
    let arguments ← fields.optional "type_arguments" [] (allOfJson? level)
    return .named name arguments

/-- Read what the tag `Wildcard` carries: a kind, and a bound that may be left out. -/
def wildcardOfJson? : Nat → Json → Option TypeExpr
  | 0, _ => none
  | level + 1, value => do
    let fields ← value.fields? ["kind", "bound"]
    let kind ← fields.required "kind" (WildcardKind.ofJson? level)
    let bound ← fields.optional "bound" none (Json.nullable (ofJson? level))
    return .wildcard kind bound

/-- Read an array of types. -/
def allOfJson? : Nat → Json → Option (List TypeExpr)
  | level + 1, .array elements => elements.mapM (ofJson? level)
  | _, _ => none

end

end TypeExpr

namespace TypeParam

/-- A type parameter as a record. -/
def toJson (param : TypeParam) : Json :=
  .object [("name", .string param.name), ("bounds", .ofList TypeExpr.toJson param.bounds)]

/-- Read a type parameter.  Its bounds may be left out. -/
def ofJson? : Nat → Json → Option TypeParam
  | 0, _ => none
  | level + 1, value => do
    let fields ← value.fields? ["name", "bounds"]
    return {
      name := ← fields.required "name" Json.string?
      bounds := ← fields.optional "bounds" [] (Json.list? TypeExpr.ofJson? level) }

end TypeParam

end DeclCheck
