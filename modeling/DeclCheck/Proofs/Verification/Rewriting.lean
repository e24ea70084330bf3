/-
# DeclCheck.Proofs.Verification.Rewriting — what a walk makes of the declarations of a class.

A walk stops at the declarations of a class one after another, and the class that comes out has as
many, in the same order.  Each of them is what the walk makes of the declaration in its place: its
annotations are those that the visit there hands back, and it counts as the same target.  This holds
at every depth, also for local variables within closures within initializers; the induction is over
the expressions and statements of a body.
-/
import Mathlib.Data.List.Basic
import DeclCheck.Proofs.Verification.Stops

namespace DeclCheck

/-- The declaration at a stop; a method as a member is no stop of its own. -/
def Stop.declaration? : Stop → Option Declaration
  | .declaration annotated => some annotated
  | .member _ => none

/-- The declarations of a class that can carry annotations, in the order of a walk. -/
def ClassDecl.declarations (decl : ClassDecl) : List Declaration :=
  decl.stops.filterMap Stop.declaration?

/-- What methods as members have no part in can be asked of the declarations alone. -/
theorem ClassDecl.flatMap_stops (decl : ClassDecl) {α : Type} {found : Stop → List α}
    (hmember : ∀ method, found (.member method) = []) :
    decl.stops.flatMap found =
      decl.declarations.flatMap fun declaration => found (.declaration declaration) := by
  unfold declarations
  induction decl.stops with
  | nil => rfl
  | cons stop rest ih =>
      cases stop with
      | declaration declaration => exact congrArg (found (.declaration declaration) ++ ·) ih
      | member method => rw [List.flatMap_cons, hmember, ih]; rfl

theorem ClassDecl.any_stops (decl : ClassDecl) {p : Stop → Bool}
    (hmember : ∀ method, p (.member method) = false) :
    decl.stops.any p = decl.declarations.any fun declaration => p (.declaration declaration) := by
  unfold declarations
  induction decl.stops with
  | nil => rfl
  | cons stop rest ih =>
      cases stop with
      | declaration declaration => exact congrArg (p (.declaration declaration) || ·) ih
      | member method => rw [List.any_cons, hmember, ih]; rfl

theorem ClassDecl.mem_declarations {decl : ClassDecl} {declaration : Declaration} :
    declaration ∈ decl.declarations ↔ .declaration declaration ∈ decl.stops := by
  unfold declarations
  rw [List.mem_filterMap]
  constructor
  · rintro ⟨stop, hstop, hdeclaration⟩
    cases stop with
    | declaration annotated =>
        cases hdeclaration
        exact hstop
    | member method => cases hdeclaration
  · intro hstop
    exact ⟨_, hstop, rfl⟩

/-- The mark of deprecation, on declarations that bear one. -/
def Declaration.deprecated? : Declaration → Option Bool
  | .type decl => some decl.deprecated
  | .field decl => some decl.deprecated
  | .method decl => some decl.deprecated
  | .constructor decl => some decl.deprecated
  | .package _ | .parameter _ | .localVariable _ => none

namespace Surroundings

variable (around : Surroundings)

/-! ## Single declarations -/

/-- What a walk makes of a local variable. -/
def rewrittenLocal (binding : Local) : Local where
  name := binding.name
  type := binding.type
  annotations := (around.visit (.localVariable binding)).value.annotations
  initializer := (around.walkOption binding.initializer).value
  span := binding.span

/-- What a walk makes of a declaration. -/
def rewritten : Declaration → Declaration
  | .type decl => .type (around.walkClass decl).value
  | .package package => .package (around.walkPackage package).value
  | .field field => .field (around.walkField field).value
  | .method method => .method (around.walkMethod method).value
  | .constructor method => .constructor (around.walkConstructor method).value
  | .parameter param => .parameter (around.walkParam param).value
  | .localVariable binding => .localVariable (around.rewrittenLocal binding)

/-- A stop as the walk leaves it. -/
def rewrittenStop : Stop → Stop
  | .declaration declaration => .declaration (around.rewritten declaration)
  | .member method => .member (around.walkMethod method).value

theorem annotations_rewritten (declaration : Declaration) :
    (around.rewritten declaration).annotations = (around.visit declaration).value.annotations := by
  cases declaration <;> rfl

theorem target_rewritten (declaration : Declaration) :
    (around.rewritten declaration).target = declaration.target := by
  cases declaration <;> rfl

theorem span_rewritten (declaration : Declaration) :
    (around.rewritten declaration).span = declaration.span := by
  cases declaration <;> rfl

theorem deprecated?_rewritten (declaration : Declaration) :
    (around.rewritten declaration).deprecated? =
      declaration.deprecated?.map (· || (around.visit declaration).value.deprecated) := by
  cases declaration <;> rfl

/-! ## Bodies -/

mutual

theorem locals_walkExpr : (expr : Expr) →
    (around.walkExpr expr).value.locals = expr.locals.map around.rewrittenLocal
  | .closure body span => by
      simp only [walkExpr, Visit.value_bind, Visit.value_pure, Expr.locals, locals_walkStmts body]
  | .list elements span => by
      simp only [walkExpr, Visit.value_bind, Visit.value_pure, Expr.locals,
        locals_walkExprs elements]
  | .literal .. | .enumConstant .. | .classLiteral .. | .constant .. | .annotationUse ..
  | .unmodelled .. => rfl

theorem locals_walkExprs : (exprs : List Expr) →
    Expr.localsAll (around.walkExprs exprs).value =
      (Expr.localsAll exprs).map around.rewrittenLocal
  | [] => rfl
  | expr :: rest => by
      simp only [walkExprs, Visit.value_bind, Visit.value_pure, Expr.localsAll, List.map_append,
        locals_walkExpr expr, locals_walkExprs rest]

theorem locals_walkOption : (value : Option Expr) →
    Expr.localsOption (around.walkOption value).value =
      (Expr.localsOption value).map around.rewrittenLocal
  | none => rfl
  | some expr => by
      simp only [walkOption, Visit.value_bind, Visit.value_pure, Expr.localsOption,
        locals_walkExpr expr]

theorem locals_walkStmt : (stmt : Stmt) →
    (around.walkStmt stmt).value.locals = stmt.locals.map around.rewrittenLocal
  | .declare ⟨name, type, annotations, initializer, span⟩ => by
      -- The variable itself comes first, then those of its initializer.
      simp only [walkStmt, Visit.value_bind, Visit.value_pure, Stmt.locals, List.map_cons,
        rewrittenLocal, locals_walkOption initializer]
  | .giveBack value span => by
      simp only [walkStmt, Visit.value_bind, Visit.value_pure, Stmt.locals,
        locals_walkOption value]
  | .evaluate expr span => by
      simp only [walkStmt, Visit.value_bind, Visit.value_pure, Stmt.locals, locals_walkExpr expr]
  | .block body span => by
      simp only [walkStmt, Visit.value_bind, Visit.value_pure, Stmt.locals, locals_walkStmts body]

theorem locals_walkStmts : (stmts : List Stmt) →
    Stmt.localsAll (around.walkStmts stmts).value =
      (Stmt.localsAll stmts).map around.rewrittenLocal
  | [] => rfl
  | stmt :: rest => by
      simp only [walkStmts, Visit.value_bind, Visit.value_pure, Stmt.localsAll, List.map_append,
        locals_walkStmt stmt, locals_walkStmts rest]

end

theorem locals_walkBody (body : Option (List Stmt)) :
    Stmt.localsAll ((around.walkBody body).value.getD []) =
      (Stmt.localsAll (body.getD [])).map around.rewrittenLocal := by
  cases body with
  | none => rfl
  | some body =>
      simp only [walkBody, Visit.value_bind, Visit.value_pure, Option.getD_some, locals_walkStmts]

/-! ## Members and classes -/

theorem ofLocals_rewrittenLocal (locals : List Local) :
    Stop.ofLocals (locals.map around.rewrittenLocal) =
      (Stop.ofLocals locals).map around.rewrittenStop := by
  simp only [Stop.ofLocals, List.map_map]
  rfl

/-- Stops of parts that are walked one by one. -/
theorem flatMap_walk {α : Type} {stops : α → List Stop} {walk : α → Visit α}
    (hwalk : ∀ value, stops (walk value).value = (stops value).map around.rewrittenStop)
    (values : List α) :
    (values.mapM walk).value.flatMap stops = (values.flatMap stops).map around.rewrittenStop := by
  rw [Visit.value_mapM, List.flatMap_map, List.map_flatMap]
  exact List.flatMap_congr fun value _ => hwalk value

theorem ofField_walkField (field : Field) :
    Stop.ofField (around.walkField field).value =
      (Stop.ofField field).map around.rewrittenStop := by
  have hlocals := around.locals_walkOption field.initializer
  simp only [Stop.ofField, List.map_cons, ← ofLocals_rewrittenLocal, ← hlocals]
  rfl

theorem ofParam_walkParam (param : Param) :
    Stop.ofParam (around.walkParam param).value =
      (Stop.ofParam param).map around.rewrittenStop := by
  have hlocals := around.locals_walkOption param.default
  simp only [Stop.ofParam, List.map_cons, ← ofLocals_rewrittenLocal, ← hlocals]
  rfl

theorem ofParts_walkParts (method : Method) (outcome : Outcome) (findings : List Diagnostic)
    (between : List Stop) :
    Stop.ofParts (around.walkParts method outcome findings).value
        (between.map around.rewrittenStop) =
      (Stop.ofParts method between).map around.rewrittenStop := by
  have hparams := around.flatMap_walk around.ofParam_walkParam method.params
  have hlocals := around.locals_walkBody method.body
  simp only [Stop.ofParts, List.map_append, ← ofLocals_rewrittenLocal, ← hparams, ← hlocals]
  rfl

theorem ofConstructor_walkConstructor (method : Method) :
    Stop.ofConstructor (around.walkConstructor method).value =
      (Stop.ofConstructor method).map around.rewrittenStop := by
  have hparts :=
    around.ofParts_walkParts method (around.visit (.constructor method)).value [] []
  rw [Stop.ofConstructor, Stop.ofConstructor, List.map_cons, ← hparts]
  rfl

theorem ofMethod_walkMethod (method : Method) :
    Stop.ofMethod (around.walkMethod method).value =
      (Stop.ofMethod method).map around.rewrittenStop := by
  have hparts := around.ofParts_walkParts method (around.visit (.method method)).value
    (around.memberFindings method) [.member method]
  rw [Stop.ofMethod, Stop.ofMethod, List.map_cons, ← hparts]
  rfl

/-- The stops of the class that comes out are what the walk makes of the stops, one by one. -/
theorem stops_walkClass (decl : ClassDecl) :
    (around.walkClass decl).value.stops = decl.stops.map around.rewrittenStop := by
  have hpackage : (decl.package.mapM around.walkPackage).value.toList.map
        (fun package => Stop.declaration (.package package)) =
      (decl.package.toList.map fun package => Stop.declaration (.package package)).map
        around.rewrittenStop := by
    cases decl.package <;> rfl
  have hfields := around.flatMap_walk around.ofField_walkField decl.fields
  have hconstructors := around.flatMap_walk around.ofConstructor_walkConstructor decl.constructors
  have hmethods := around.flatMap_walk around.ofMethod_walkMethod decl.methods
  simp only [ClassDecl.stops, List.map_cons, List.map_append, ← hpackage, ← hfields,
    ← hconstructors, ← hmethods]
  rfl

theorem declarations_walkClass (decl : ClassDecl) :
    (around.walkClass decl).value.declarations = decl.declarations.map around.rewritten := by
  rw [ClassDecl.declarations, stops_walkClass, List.filterMap_map, ClassDecl.declarations,
    List.map_filterMap]
  congr 1
  funext stop
  cases stop <;> rfl

end Surroundings

end DeclCheck
