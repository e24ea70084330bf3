/-
# DeclCheck.AnnotationType — what an annotation definition says about its uses.

Retention, targets and container are read off the annotations of the definition itself.  They are
taken once, when the definition is registered, and do not change when its declaration is completed
later.
-/
import DeclCheck.Tree.Declaration

namespace DeclCheck

/-- The retention that a definition declares. -/
inductive DeclaredRetention where
  /-- Nothing is declared, so the retention is unknown. -/
  | unstated
  | stated (retention : Retention)
  /-- An expression that has to be evaluated first. -/
  | deferred (value : Expr)

namespace DeclaredRetention

/-- The retention that a stated value gives: a constant of the policy is known at once, and any
other expression is left to an evaluator. -/
def ofValue (value : Expr) : DeclaredRetention :=
  match value with
  | .enumConstant _ name _ =>
    match Retention.ofConstant? name with
    | some retention => .stated retention
    | none => .deferred value
  | _ => .deferred value

/-- The retention, if it can be told without evaluating anything. -/
def stated? : DeclaredRetention → Option Retention
  | .stated retention => some retention
  | _ => none

/-- The retention, given a way to evaluate expressions. -/
def evaluate? (evaluator : Evaluator) : DeclaredRetention → Option Retention
  | .stated retention => some retention
  | .deferred value => (evaluator.evaluate? value).bind Retention.ofConstant?
  | .unstated => none

end DeclaredRetention

/-- The targets among the elements of a value; elements that name none are passed over. -/
def TargetSet.ofValue (value : Expr) : TargetSet :=
  .ofList <| value.elements.filterMap fun
    | .enumConstant _ name _ => Target.ofConstant? name
    | _ => none

/-- What an annotation definition says about its uses. -/
structure AnnotationType where
  name : String
  retention : DeclaredRetention
  targets : TargetSet
  /-- The annotation type that several uses on one declaration are collected in. -/
  container : Option String

namespace AnnotationType

/-- The part that the annotation type itself plays in the checks, told by its name. -/
def known (type : AnnotationType) : WellKnown :=
  .ofName type.name

/-- The value of the first annotation of the given kind that has one. -/
def metaValue? (decl : ClassDecl) (kind : String) : Option Expr :=
  (decl.annotationsOf kind).findSome? (·.value?)

/-- The annotation type that a declaration defines, read off the annotations on the declaration. -/
def ofDecl (decl : ClassDecl) : AnnotationType where
  name := decl.name
  retention :=
    match metaValue? decl WellKnown.retentionName with
    | some value => .ofValue value
    | none => .unstated
  targets :=
    match metaValue? decl WellKnown.targetName with
    | some value => .ofValue value
    | none => .declarations
  container :=
    (decl.annotationsOf WellKnown.repeatableName).findSome? fun use =>
      match use.value? with
      | some (.classLiteral type _) => type.className?
      | _ => none

end AnnotationType

end DeclCheck
