/-
# DeclCheck.Tree.Body — annotation uses, expressions and statements.

The four types depend on one another: an annotation's members are expressions, an expression may
be an annotation or a closure, a closure has statements, and a statement may declare a local
variable, which carries annotations.  Only what nests declarations or is inspected by a check is
told apart; every other expression is `unmodelled`.

The members of an annotation are an entry list without repeated names (`put` keeps it so).
-/
import DeclCheck.NameMap
import DeclCheck.Tree.Span
import DeclCheck.Tree.TypeExpr
import DeclCheck.Tree.Retention
import DeclCheck.Tree.Target

namespace DeclCheck

/-- A constant written out. -/
inductive Literal where
  | string (text : String)
  /-- A number, as written. -/
  | number (text : String)
  | boolean (value : Bool)
  | character (c : Char)
  | null
deriving DecidableEq, Inhabited

/-- A literal as it stands in source text.  Characters are not escaped. -/
def Literal.text : Literal → String
  | .string text => "\"" ++ text ++ "\""
  | .number text => text
  | .boolean true => "true"
  | .boolean false => "false"
  | .character c => "'" ++ c.toString ++ "'"
  | .null => "null"

mutual

/-- An annotation attached to a declaration, or nested in another one's members.  Retention and
targets are usually filled in once its type is known. -/
structure AnnotationUse where
  kind : String
  members : List (String × Expr)
  retention : Option Retention
  targets : Option TargetSet
  span : Span

/-- An expression, as far as the checks look into it. -/
inductive Expr where
  | literal (value : Literal) (span : Span)
  /-- An enum constant with its type, such as `RetentionPolicy.RUNTIME`. -/
  | enumConstant (typeName constant : String) (span : Span)
  | classLiteral (type : TypeExpr) (span : Span)
  /-- A named constant whose value has to be looked up. -/
  | constant (name : String) (span : Span)
  | annotationUse (use : AnnotationUse)
  | list (elements : List Expr) (span : Span)
  | closure (body : List Stmt) (span : Span)
  | unmodelled (span : Span)

/-- A statement, as far as the checks look into it. -/
inductive Stmt where
  | declare (binding : Local)
  | giveBack (value : Option Expr) (span : Span)
  | evaluate (expr : Expr) (span : Span)
  | block (body : List Stmt) (span : Span)

/-- A local variable of a body or closure. -/
structure Local where
  name : String
  type : Option TypeExpr
  annotations : List AnnotationUse
  initializer : Option Expr
  span : Span

end

instance : Inhabited Expr := ⟨.unmodelled .nowhere⟩

/-! ## Well-known annotations -/

namespace WellKnown

/-- The annotation type that marks overriding methods. -/
def overrideName : String := "java.lang.Override"

/-- The annotation type that marks what is deprecated. -/
def deprecatedName : String := "java.lang.Deprecated"

/-- The annotation type that states targets. -/
def targetName : String := "java.lang.annotation.Target"

/-- The annotation type that states a retention. -/
def retentionName : String := "java.lang.annotation.Retention"

/-- The annotation type that names a container. -/
def repeatableName : String := "java.lang.annotation.Repeatable"

end WellKnown

/-- The annotation types that the checks treat specially. -/
inductive WellKnown where
  | overriding
  | deprecated
  | target
  | retention
  | repeatable
  | other
deriving DecidableEq, Inhabited

/-- The part that an annotation type plays, told by its full name. -/
def WellKnown.ofName (name : String) : WellKnown :=
  if name = overrideName then .overriding
  else if name = deprecatedName then .deprecated
  else if name = targetName then .target
  else if name = retentionName then .retention
  else if name = repeatableName then .repeatable
  else .other

/-! ## Annotation uses -/

namespace AnnotationUse

/-- The member that a single unnamed value is given to. -/
def valueMember : String := "value"

/-- The value given to a member. -/
def member? (use : AnnotationUse) (name : String) : Option Expr :=
  use.members.lookup name

/-- The value given to the member `value`. -/
def value? (use : AnnotationUse) : Option Expr :=
  use.member? valueMember

/-- Whether the use is known to be kept in the source only. -/
def isSourceOnly (use : AnnotationUse) : Bool :=
  use.retention = some .source

end AnnotationUse

/-! ## Expressions -/

namespace Expr

/-- Where the expression stands. -/
def span : Expr → Span
  | .literal _ span => span
  | .enumConstant _ _ span => span
  | .classLiteral _ span => span
  | .constant _ span => span
  | .annotationUse use => use.span
  | .list _ span => span
  | .closure _ span => span
  | .unmodelled span => span

/-- The annotation use that the expression is. -/
def annotationUse? : Expr → Option AnnotationUse
  | .annotationUse use => some use
  | _ => none

/-- The elements of a list; any other expression is its own only element. -/
def elements : Expr → List Expr
  | .list elements _ => elements
  | other => [other]

mutual

/-- A short text of the expression. -/
def text : Expr → String
  | .literal value _ => value.text
  | .enumConstant typeName name _ => typeName ++ "." ++ name
  | .classLiteral type _ => type.text ++ ".class"
  | .constant name _ => name
  | .annotationUse use => "@" ++ use.kind
  | .list elements _ => "[" ++ textAll elements ++ "]"
  | .closure _ _ => "\x7b -> ... \x7d"
  | .unmodelled _ => "<expression>"

/-- The texts of expressions, with commas between them. -/
def textAll : List Expr → String
  | [] => ""
  | [expr] => expr.text
  | expr :: next :: rest => expr.text ++ ", " ++ textAll (next :: rest)

end

/-- The constant text of an expression, given the values of named constants. -/
def evaluate? (constants : NameMap String) : Expr → Option String
  | .literal (.string text) _ => some text
  | .enumConstant _ name _ => some name
  | .constant name _ => constants.get? name
  | _ => none

end Expr

/-- A way to tell the constant text of expressions. -/
structure Evaluator where
  evaluate? : Expr → Option String

/-- The values of named constants are enough to evaluate by. -/
instance : Coe (NameMap String) Evaluator := ⟨fun constants => ⟨Expr.evaluate? constants⟩⟩

end DeclCheck
