/-
# DeclCheck.Form.Body — the JSON form of annotation uses, expressions and statements.

Every reader below takes one level for the array or object it reads, so the readers of the four
types that depend on one another recurse on the number of levels left.
-/
import DeclCheck.Form.TypeExpr
import DeclCheck.Tree.Body

namespace DeclCheck

/-! ## Constants -/

namespace Retention

/-- The name of a retention in the form. -/
def tag : Retention → String
  | .source => "Source"
  | .classFile => "Class"
  | .runtime => "Runtime"

/-- A retention is written as its bare tag. -/
def toJson (retention : Retention) : Json :=
  .string retention.tag

/-- Read a retention by its tag. -/
def ofJson? : Nat → Json → Option Retention :=
  Json.choice? all tag

end Retention

namespace Target

/-- The name of a target in the form. -/
def tag : Target → String
  | .type => "Type"
  | .field => "Field"
  | .method => "Method"
  | .parameter => "Parameter"
  | .constructor => "Constructor"
  | .localVariable => "LocalVariable"
  | .annotationType => "AnnotationType"
  | .package => "Package"
  | .typeParameter => "TypeParameter"
  | .typeUse => "TypeUse"

/-- A target is written as its bare tag. -/
def toJson (target : Target) : Json :=
  .string target.tag

/-- Read a target by its tag. -/
def ofJson? : Nat → Json → Option Target :=
  Json.choice? all tag

end Target

namespace TargetSet

/-- A set of targets is written as the array of its members, in the fixed order of targets. -/
def toJson (set : TargetSet) : Json :=
  .ofList Target.toJson set.members

/-- Read a set of targets.  A target that is given twice counts once. -/
def ofJson? (level : Nat) (value : Json) : Option TargetSet :=
  (Json.list? Target.ofJson? level value).map TargetSet.ofList

end TargetSet

namespace WellKnown

/-- Every part that a well-known annotation type can play. -/
def all : List WellKnown :=
  [.overriding, .deprecated, .target, .retention, .repeatable, .other]

/-- The name of that part in the form. -/
def tag : WellKnown → String
  | .overriding => "Override"
  | .deprecated => "Deprecated"
  | .target => "Target"
  | .retention => "Retention"
  | .repeatable => "Repeatable"
  | .other => "Other"

/-- A well-known annotation type is written as its bare tag. -/
def toJson (known : WellKnown) : Json :=
  .string known.tag

/-- Read a well-known annotation type by its tag. -/
def ofJson? : Nat → Json → Option WellKnown :=
  Json.choice? all tag

end WellKnown

namespace Literal

/-- A literal is written under the tag of its sort; `Null` carries nothing. -/
def toJson : Literal → Json
  | .string text => .object [("String", .string text)]
  | .number text => .object [("Number", .string text)]
  | .boolean value => .object [("Boolean", .bool value)]
  | .character c => .object [("Character", .string c.toString)]
  | .null => .string "Null"

/-- Read a literal.  Only `Null` may stand without a body. -/
def ofJson? : Nat → Json → Option Literal
  | _, .string tag => if tag = "Null" then some .null else none
  | _ + 1, .object [(tag, body)] =>
    if tag = "String" then body.string?.map .string
    else if tag = "Number" then body.string?.map .number
    else if tag = "Boolean" then body.bool?.map .boolean
    else if tag = "Character" then body.char?.map .character
    else if tag = "Null" then
      match body with
      | .null => some .null
      | _ => none
    else none
  | _, _ => none

end Literal

/-! ## Writing -/

mutual

/-- A use is written with all its fields, the filled-in ones included. -/
def AnnotationUse.toJson : AnnotationUse → Json
  | ⟨kind, members, retention, targets, span⟩ =>
    .object [("kind", .string kind), ("members", .object (Expr.toJsonMembers members)),
      ("retention", .ofOption Retention.toJson retention),
      ("targets", .ofOption TargetSet.toJson targets), ("span", span.toJson)]

/-- The elements of an array of uses. -/
def AnnotationUse.toJsonAll : List AnnotationUse → List Json
  | [] => []
  | use :: rest => use.toJson :: AnnotationUse.toJsonAll rest

/-- An expression is written under the tag of its constructor. -/
def Expr.toJson : Expr → Json
  | .literal value span =>
    .object [("Literal", .object [("value", value.toJson), ("span", span.toJson)])]
  | .enumConstant typeName name span =>
    .object [("EnumConstant", .object [("type_name", .string typeName), ("constant", .string name),
      ("span", span.toJson)])]
  | .classLiteral type span =>
    .object [("ClassLiteral", .object [("ty", type.toJson), ("span", span.toJson)])]
  | .constant name span =>
    .object [("Constant", .object [("name", .string name), ("span", span.toJson)])]
  | .annotationUse use => .object [("Annotation", use.toJson)]
  | .list elements span =>
    .object [("List", .object [("elements", .array (Expr.toJsonAll elements)),
      ("span", span.toJson)])]
  | .closure body span =>
    .object [("Closure", .object [("body", .array (Stmt.toJsonAll body)), ("span", span.toJson)])]
  | .unmodelled span => .object [("Opaque", .object [("span", span.toJson)])]

/-- The elements of an array of expressions. -/
def Expr.toJsonAll : List Expr → List Json
  | [] => []
  | expr :: rest => expr.toJson :: Expr.toJsonAll rest

/-- The members of a use, in writing order. -/
def Expr.toJsonMembers : List (String × Expr) → List (String × Json)
  | [] => []
  | (name, value) :: rest => (name, value.toJson) :: Expr.toJsonMembers rest

/-- An expression that may be missing; `null` stands for none. -/
def Expr.toJsonOption : Option Expr → Json
  | none => .null
  | some expr => expr.toJson

/-- A statement is written under the tag of its constructor. -/
def Stmt.toJson : Stmt → Json
  | .declare binding => .object [("Declaration", binding.toJson)]
  | .giveBack value span =>
    .object [("Return", .object [("value", Expr.toJsonOption value), ("span", span.toJson)])]
  | .evaluate expr span =>
    .object [("Expression", .object [("expr", expr.toJson), ("span", span.toJson)])]
  | .block body span =>
    .object [("Block", .object [("statements", .array (Stmt.toJsonAll body)),
      ("span", span.toJson)])]

/-- The elements of an array of statements. -/
def Stmt.toJsonAll : List Stmt → List Json
  | [] => []
  | stmt :: rest => stmt.toJson :: Stmt.toJsonAll rest

/-- A local variable is written as a record; its type may be left to inference. -/
def Local.toJson : Local → Json
  | ⟨name, type, annotations, initializer, span⟩ =>
    .object [("name", .string name), ("ty", .ofOption TypeExpr.toJson type),
      ("annotations", .array (AnnotationUse.toJsonAll annotations)),
      ("initializer", Expr.toJsonOption initializer), ("span", span.toJson)]

end

/-! ## Reading -/

mutual

/-- Read a use.  Only its kind has to be given. -/
def AnnotationUse.ofJson? : Nat → Json → Option AnnotationUse
  | 0, _ => none
  | level + 1, value => do
    let fields ← value.fields? ["kind", "members", "retention", "targets", "span"]
    let kind ← fields.required "kind" Json.string?
    let members ← fields.optional "members" [] (Expr.membersOfJson? level)
    let retention ←
      fields.optional "retention" none (Json.nullable (Retention.ofJson? level))
    let targets ← fields.optional "targets" none (Json.nullable (TargetSet.ofJson? level))
    let span ← fields.span level
    return { kind, members, retention, targets, span }

/-- Read an array of uses. -/
def AnnotationUse.allOfJson? : Nat → Json → Option (List AnnotationUse)
  | level + 1, .array elements => elements.mapM (AnnotationUse.ofJson? level)
  | _, _ => none

/-- Read an expression: an object of one member, whose name is the tag. -/
def Expr.ofJson? : Nat → Json → Option Expr
  | level + 1, .object [(tag, body)] =>
    if tag = "Annotation" then (AnnotationUse.ofJson? level body).map .annotationUse
    else Expr.bodyOfJson? level tag body
  | _, _ => none

/-- What an expression of the given tag carries, when that is a record. -/
def Expr.bodyOfJson? : Nat → String → Json → Option Expr
  | 0, _, _ => none
  | level + 1, tag, value =>
    if tag = "Literal" then do
      let fields ← value.fields? ["value", "span"]
      let content ← fields.required "value" (Literal.ofJson? level)
      return .literal content (← fields.span level)
    else if tag = "EnumConstant" then do
      let fields ← value.fields? ["type_name", "constant", "span"]
      let typeName ← fields.required "type_name" Json.string?
      let name ← fields.required "constant" Json.string?
      return .enumConstant typeName name (← fields.span level)
    else if tag = "ClassLiteral" then do
      let fields ← value.fields? ["ty", "span"]
      let type ← fields.required "ty" (TypeExpr.ofJson? level)
      return .classLiteral type (← fields.span level)
    else if tag = "Constant" then do
      let fields ← value.fields? ["name", "span"]
      let name ← fields.required "name" Json.string?
      return .constant name (← fields.span level)
    else if tag = "List" then do
      let fields ← value.fields? ["elements", "span"]
      let elements ← fields.required "elements" (Expr.allOfJson? level)
      return .list elements (← fields.span level)
    else if tag = "Closure" then do
      let fields ← value.fields? ["body", "span"]
      let body ← fields.required "body" (Stmt.allOfJson? level)
      return .closure body (← fields.span level)
    else if tag = "Opaque" then do
      let fields ← value.fields? ["span"]
      return .unmodelled (← fields.span level)
    else none

/-- Read an array of expressions. -/
def Expr.allOfJson? : Nat → Json → Option (List Expr)
  | level + 1, .array elements => elements.mapM (Expr.ofJson? level)
  | _, _ => none

/-- Read the members of a use.  A member given again keeps its place and takes the later value. -/
def Expr.membersOfJson? : Nat → Json → Option (List (String × Expr))
  | level + 1, .object members =>
    members.foldlM
      (fun entries (name, value) => (Expr.ofJson? level value).map (put name · entries)) []
  | _, _ => none

/-- Read a statement: an object of one member, whose name is the tag. -/
def Stmt.ofJson? : Nat → Json → Option Stmt
  | level + 1, .object [(tag, body)] =>
    if tag = "Declaration" then (Local.ofJson? level body).map .declare
    else Stmt.bodyOfJson? level tag body
  | _, _ => none

/-- What a statement of the given tag carries, when that is a record. -/
def Stmt.bodyOfJson? : Nat → String → Json → Option Stmt
  | 0, _, _ => none
  | level + 1, tag, value =>
    if tag = "Return" then do
      let fields ← value.fields? ["value", "span"]
      let content ← fields.optional "value" none (Json.nullable (Expr.ofJson? level))
      return .giveBack content (← fields.span level)
    else if tag = "Expression" then do
      let fields ← value.fields? ["expr", "span"]
      let expr ← fields.required "expr" (Expr.ofJson? level)
      return .evaluate expr (← fields.span level)
    else if tag = "Block" then do
      let fields ← value.fields? ["statements", "span"]
      let body ← fields.required "statements" (Stmt.allOfJson? level)
      return .block body (← fields.span level)
    else none

/-- Read an array of statements. -/
def Stmt.allOfJson? : Nat → Json → Option (List Stmt)
  | level + 1, .array elements => elements.mapM (Stmt.ofJson? level)
  | _, _ => none

/-- Read a local variable.  Only its name has to be given. -/
def Local.ofJson? : Nat → Json → Option Local
  | 0, _ => none
  | level + 1, value => do
    let fields ← value.fields? ["name", "ty", "annotations", "initializer", "span"]
    let name ← fields.required "name" Json.string?
    let type ← fields.optional "ty" none (Json.nullable (TypeExpr.ofJson? level))
    let annotations ← fields.optional "annotations" [] (AnnotationUse.allOfJson? level)
    let initializer ← fields.optional "initializer" none (Json.nullable (Expr.ofJson? level))
    let span ← fields.span level
    return { name, type, annotations, initializer, span }

end

end DeclCheck
