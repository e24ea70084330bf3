/-
# DeclCheck.Check.Walk — visiting every declaration of a class.

The order is depth first: the class, its package, each field and what its initializer nests, each
constructor, each method; within a method its parameters and what their defaults nest, then its
body.  Expressions nest declarations only inside closures and lists.  Annotation members are not
walked.
-/
import DeclCheck.Check.Member
import DeclCheck.Check.Visit

namespace DeclCheck

namespace Surroundings

variable (around : Surroundings)

/-! ## Bodies -/

mutual

/-- Walk an expression.  Statements stand in closures only, and closures may stand in lists. -/
def walkExpr : Expr → Visit Expr
  | .closure body span => do
    return .closure (← walkStmts body) span
  | .list elements span => do
    return .list (← walkExprs elements) span
  | other => pure other

/-- Walk expressions from left to right. -/
def walkExprs : List Expr → Visit (List Expr)
  | [] => pure []
  | expr :: rest => do
    let expr ← walkExpr expr
    return expr :: (← walkExprs rest)

/-- Walk an expression that may be missing. -/
def walkOption : Option Expr → Visit (Option Expr)
  | none => pure none
  | some expr => do
    return some (← walkExpr expr)

/-- Walk a statement.  A local variable is visited before its initial value is walked. -/
def walkStmt : Stmt → Visit Stmt
  | .declare ⟨name, type, annotations, initializer, span⟩ => do
    let outcome ← around.visit (.localVariable ⟨name, type, annotations, initializer, span⟩)
    let initializer ← walkOption initializer
    return .declare ⟨name, type, outcome.annotations, initializer, span⟩
  | .giveBack value span => do
    return .giveBack (← walkOption value) span
  | .evaluate expr span => do
    return .evaluate (← walkExpr expr) span
  | .block body span => do
    return .block (← walkStmts body) span

/-- Walk statements from first to last. -/
def walkStmts : List Stmt → Visit (List Stmt)
  | [] => pure []
  | stmt :: rest => do
    let stmt ← walkStmt stmt
    return stmt :: (← walkStmts rest)

end

/-- Walk a body, if there is one. -/
def walkBody : Option (List Stmt) → Visit (Option (List Stmt))
  | none => pure none
  | some body => do
    return some (← around.walkStmts body)

/-! ## Members and classes -/

/-- Visit a field, then walk its initial value.  A field once deprecated stays so. -/
def walkField (field : Field) : Visit Field := do
  let outcome ← around.visit (.field field)
  let initializer ← around.walkOption field.initializer
  return { field with
    annotations := outcome.annotations
    deprecated := field.deprecated || outcome.deprecated
    initializer }

/-- Visit a parameter, then walk its default value. -/
def walkParam (param : Param) : Visit Param := do
  let outcome ← around.visit (.parameter param)
  let default ← around.walkOption param.default
  return { param with annotations := outcome.annotations, default }

/-- The rest of a method or constructor, once its own annotations are treated. -/
def walkParts (method : Method) (outcome : Outcome) (findings : List Diagnostic) :
    Visit Method := do
  let params ← method.params.mapM around.walkParam
  Visit.report findings
  let body ← around.walkBody method.body
  return { method with
    annotations := outcome.annotations
    deprecated := method.deprecated || outcome.deprecated
    params
    body }

/-- Visit a constructor, then walk its parameters and its body. -/
def walkConstructor (method : Method) : Visit Method := do
  let outcome ← around.visit (.constructor method)
  around.walkParts method outcome []

/-- The reports on a method as a member of an annotation definition, if it is one. -/
def memberFindings (method : Method) : List Diagnostic :=
  if around.declaring.isAnnotationType && around.settings.members then
    around.registry.checkMember around.declaring method
  else []

/-- Visit a method, then walk its parameters and its body.  The methods of an annotation type are
also checked as members. -/
def walkMethod (method : Method) : Visit Method := do
  let outcome ← around.visit (.method method)
  around.walkParts method outcome (around.memberFindings method)

/-- Visit a package declaration, which holds nothing else. -/
def walkPackage (package : Package) : Visit Package := do
  let outcome ← around.visit (.package package)
  return { package with annotations := outcome.annotations }

/-- Walk a class: its own annotations first, then its package, fields, constructors and methods. -/
def walkClass (decl : ClassDecl) : Visit ClassDecl := do
  let outcome ← around.visit (.type decl)
  let package ← decl.package.mapM around.walkPackage
  let fields ← decl.fields.mapM around.walkField
  let constructors ← decl.constructors.mapM around.walkConstructor
  let methods ← decl.methods.mapM around.walkMethod
  return { decl with
    annotations := outcome.annotations
    deprecated := decl.deprecated || outcome.deprecated
    package
    fields
    constructors
    methods }

end Surroundings

end DeclCheck
