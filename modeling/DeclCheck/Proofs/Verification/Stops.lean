/-
# DeclCheck.Proofs.Verification.Stops — where a walk stops, and in which order.

A walk hands back a declaration and leaves an *effect* behind: what it found, and whether it met an
annotation.  The declarations of a class are listed here in the order of a walk, depth first,
together with the places where a method is checked as an annotation member.  The effect of a walk is
the effect of its stops, one after another, and nothing that it makes of a declaration on the way
plays a part in it.  Conversely the declaration that comes out depends on what the visits make of
each declaration, and not on what they find.
-/
import DeclCheck.Proofs.Verification.Frame

namespace DeclCheck

/-! ## Effects of visits -/

namespace Visit

variable {α β : Type}

/-- What a visit leaves behind, whatever its value. -/
def effect (visit : Visit α) : Visit Unit where
  value := ()
  findings := visit.findings
  annotated := visit.annotated

@[simp]
theorem effect_pure (value : α) : (pure value : Visit α).effect = pure () := rfl

@[simp]
theorem effect_bind (visit : Visit α) (next : α → Visit β) :
    (visit >>= next).effect = visit.effect >>= fun _ => (next visit.value).effect := rfl

@[simp]
theorem effect_map (change : α → β) (visit : Visit α) :
    (change <$> visit).effect = visit.effect := by
  rw [← bind_pure_comp, effect_bind]
  exact bind_pure visit.effect

@[simp]
theorem effect_report (findings : List Diagnostic) : (report findings).effect = report findings :=
  rfl

theorem effect_mapM (visit : α → Visit β) (values : List α) :
    (values.mapM visit).effect = forM values fun value => (visit value).effect := by
  induction values with
  | nil => rfl
  | cons value rest ih => simp [ih]

theorem effect_mapM_option (visit : α → Visit β) (value : Option α) :
    (value.mapM visit).effect = forM value.toList fun value => (visit value).effect := by
  cases value with
  | none => rfl
  | some value => simp

@[simp]
theorem findings_pure (value : α) : (pure value : Visit α).findings = [] := rfl

@[simp]
theorem findings_bind (visit : Visit α) (next : α → Visit β) :
    (visit >>= next).findings = visit.findings ++ (next visit.value).findings := rfl

theorem findings_mapM (visit : α → Visit β) (values : List α) :
    (values.mapM visit).findings = values.flatMap fun value => (visit value).findings := by
  induction values with
  | nil => rfl
  | cons value rest ih =>
      rw [List.mapM_cons]
      simp only [findings_bind, findings_pure, ih, List.append_nil, List.flatMap_cons]

theorem findings_forM (visit : α → Visit Unit) (values : List α) :
    (forM values visit).findings = values.flatMap fun value => (visit value).findings := by
  induction values with
  | nil => rfl
  | cons value rest ih =>
      rw [List.forM_cons, List.flatMap_cons, ← ih]
      rfl

theorem annotated_forM (visit : α → Visit Unit) (values : List α) :
    (forM values visit).annotated = values.any fun value => (visit value).annotated := by
  induction values with
  | nil => rfl
  | cons value rest ih =>
      rw [List.forM_cons, List.any_cons, ← ih]
      rfl

end Visit

/-! ## Local variables of bodies -/

mutual

/-- The local variables that an expression nests, each before those of its initializer. -/
def Expr.locals : Expr → List Local
  | .closure body _ => Stmt.localsAll body
  | .list elements _ => Expr.localsAll elements
  | _ => []

/-- The local variables that expressions nest, from left to right. -/
def Expr.localsAll : List Expr → List Local
  | [] => []
  | expr :: rest => expr.locals ++ Expr.localsAll rest

/-- The local variables of an expression that may be missing. -/
def Expr.localsOption : Option Expr → List Local
  | none => []
  | some expr => expr.locals

/-- The local variables that a statement declares or nests. -/
def Stmt.locals : Stmt → List Local
  | .declare ⟨name, type, annotations, initializer, span⟩ =>
    ⟨name, type, annotations, initializer, span⟩ :: Expr.localsOption initializer
  | .giveBack value _ => Expr.localsOption value
  | .evaluate expr _ => expr.locals
  | .block body _ => Stmt.localsAll body

/-- The local variables of statements, from first to last. -/
def Stmt.localsAll : List Stmt → List Local
  | [] => []
  | stmt :: rest => stmt.locals ++ Stmt.localsAll rest

end

/-! ## Stops -/

/-- A place where a walk looks for problems. -/
inductive Stop where
  | declaration (declaration : Declaration)
  /-- A method as a member of an annotation definition. -/
  | member (method : Method)

namespace Stop

/-- The stops at local variables. -/
def ofLocals (locals : List Local) : List Stop :=
  locals.map fun binding => .declaration (.localVariable binding)

/-- The stops at a field: the field itself, then the variables that its initializer nests. -/
def ofField (field : Field) : List Stop :=
  .declaration (.field field) :: ofLocals (Expr.localsOption field.initializer)

/-- The stops at a parameter: the parameter itself, then the variables that its default nests. -/
def ofParam (param : Param) : List Stop :=
  .declaration (.parameter param) :: ofLocals (Expr.localsOption param.default)

/-- The parameters of a method, then `between`, then its body. -/
def ofParts (method : Method) (between : List Stop) : List Stop :=
  method.params.flatMap ofParam ++ between ++ ofLocals (Stmt.localsAll (method.body.getD []))

/-- The stops at a constructor: the constructor itself, then its parts. -/
def ofConstructor (method : Method) : List Stop :=
  .declaration (.constructor method) :: ofParts method []

/-- The stops at a method: the method itself, then its parts, with the member check between
parameters and body. -/
def ofMethod (method : Method) : List Stop :=
  .declaration (.method method) :: ofParts method [.member method]

end Stop

/-- Where the walk of a class stops, in order. -/
def ClassDecl.stops (decl : ClassDecl) : List Stop :=
  .declaration (.type decl) ::
    (decl.package.toList.map (fun package => .declaration (.package package)) ++
      decl.fields.flatMap Stop.ofField ++ decl.constructors.flatMap Stop.ofConstructor ++
      decl.methods.flatMap Stop.ofMethod)

namespace Surroundings

variable (around : Surroundings)

/-- What is left behind at a stop. -/
def stopAt : Stop → Visit Unit
  | .declaration declaration => (around.visit declaration).effect
  | .member method => Visit.report (around.memberFindings method)

/-! ## The effect of a walk -/

mutual

theorem effect_walkExpr : (expr : Expr) →
    (around.walkExpr expr).effect = forM (Stop.ofLocals expr.locals) around.stopAt
  | .closure body span => by
      simp [walkExpr, Expr.locals, effect_walkStmts body]
  | .list elements span => by
      simp [walkExpr, Expr.locals, effect_walkExprs elements]
  | .literal .. | .enumConstant .. | .classLiteral .. | .constant .. | .annotationUse ..
  | .unmodelled .. => rfl

theorem effect_walkExprs : (exprs : List Expr) →
    (around.walkExprs exprs).effect = forM (Stop.ofLocals (Expr.localsAll exprs)) around.stopAt
  | [] => rfl
  | expr :: rest => by
      simp [walkExprs, Expr.localsAll, Stop.ofLocals, effect_walkExpr expr, effect_walkExprs rest]

theorem effect_walkOption : (value : Option Expr) →
    (around.walkOption value).effect = forM (Stop.ofLocals (Expr.localsOption value)) around.stopAt
  | none => rfl
  | some expr => by
      simp [walkOption, Expr.localsOption, effect_walkExpr expr]

theorem effect_walkStmt : (stmt : Stmt) →
    (around.walkStmt stmt).effect = forM (Stop.ofLocals stmt.locals) around.stopAt
  | .declare ⟨name, type, annotations, initializer, span⟩ => by
      simp [walkStmt, Stmt.locals, Stop.ofLocals, stopAt, effect_walkOption initializer]
  | .giveBack value span => by
      simp [walkStmt, Stmt.locals, effect_walkOption value]
  | .evaluate expr span => by
      simp [walkStmt, Stmt.locals, effect_walkExpr expr]
  | .block body span => by
      simp [walkStmt, Stmt.locals, effect_walkStmts body]

theorem effect_walkStmts : (stmts : List Stmt) →
    (around.walkStmts stmts).effect = forM (Stop.ofLocals (Stmt.localsAll stmts)) around.stopAt
  | [] => rfl
  | stmt :: rest => by
      simp [walkStmts, Stmt.localsAll, Stop.ofLocals, effect_walkStmt stmt, effect_walkStmts rest]

end

theorem effect_walkBody (body : Option (List Stmt)) :
    (around.walkBody body).effect =
      forM (Stop.ofLocals (Stmt.localsAll (body.getD []))) around.stopAt := by
  cases body with
  | none => rfl
  | some body => simp [walkBody, effect_walkStmts]

theorem effect_walkField (field : Field) :
    (around.walkField field).effect = forM (Stop.ofField field) around.stopAt := by
  simp [walkField, Stop.ofField, stopAt, effect_walkOption]

theorem effect_walkParam (param : Param) :
    (around.walkParam param).effect = forM (Stop.ofParam param) around.stopAt := by
  simp [walkParam, Stop.ofParam, stopAt, effect_walkOption]

theorem forM_flatMap {α : Type} (stops : α → List Stop) (values : List α) :
    forM (values.flatMap stops) around.stopAt =
      forM values fun value => forM (stops value) around.stopAt := by
  induction values with
  | nil => rfl
  | cons value rest ih => simp [ih]

theorem effect_walkParts (method : Method) (outcome : Outcome) (findings : List Diagnostic)
    (between : List Stop) (hbetween : forM between around.stopAt = Visit.report findings) :
    (around.walkParts method outcome findings).effect =
      forM (Stop.ofParts method between) around.stopAt := by
  simp [walkParts, Stop.ofParts, Visit.effect_mapM, effect_walkParam, forM_flatMap, hbetween,
    effect_walkBody]

theorem effect_walkConstructor (method : Method) :
    (around.walkConstructor method).effect = forM (Stop.ofConstructor method) around.stopAt := by
  have hbetween : forM [] around.stopAt = Visit.report [] := rfl
  simp [walkConstructor, Stop.ofConstructor, stopAt, effect_walkParts _ _ _ _ _ hbetween]

theorem effect_walkMethod (method : Method) :
    (around.walkMethod method).effect = forM (Stop.ofMethod method) around.stopAt := by
  have hbetween : forM [Stop.member method] around.stopAt =
      Visit.report (around.memberFindings method) := by simp [stopAt]
  simp [walkMethod, Stop.ofMethod, stopAt, effect_walkParts _ _ _ _ _ hbetween]

theorem effect_walkPackage (package : Package) :
    (around.walkPackage package).effect = around.stopAt (.declaration (.package package)) := by
  simp [walkPackage, stopAt]

/-- A walk leaves behind what its stops leave behind, one after another. -/
theorem effect_walkClass (decl : ClassDecl) :
    (around.walkClass decl).effect = forM decl.stops around.stopAt := by
  simp [walkClass, ClassDecl.stops, stopAt, Visit.effect_mapM, Visit.effect_mapM_option,
    effect_walkPackage, effect_walkField, effect_walkConstructor, effect_walkMethod, forM_flatMap]

theorem findings_walkClass (decl : ClassDecl) :
    (around.walkClass decl).findings =
      decl.stops.flatMap fun stop => (around.stopAt stop).findings := by
  rw [← Visit.findings_forM, ← effect_walkClass]
  rfl

theorem annotated_walkClass (decl : ClassDecl) :
    (around.walkClass decl).annotated =
      decl.stops.any fun stop => (around.stopAt stop).annotated := by
  rw [← Visit.annotated_forM, ← effect_walkClass]
  rfl

/-! ## The declaration that comes out -/

variable {around} {other : Surroundings}

mutual

theorem value_walkExpr_congr
    (hvisit : ∀ decl, (around.visit decl).value = (other.visit decl).value) : (expr : Expr) →
    (around.walkExpr expr).value = (other.walkExpr expr).value
  | .closure body span => by
      simp only [walkExpr, Visit.value_bind, Visit.value_pure, value_walkStmts_congr hvisit body]
  | .list elements span => by
      simp only [walkExpr, Visit.value_bind, Visit.value_pure,
        value_walkExprs_congr hvisit elements]
  | .literal .. | .enumConstant .. | .classLiteral .. | .constant .. | .annotationUse ..
  | .unmodelled .. => rfl

theorem value_walkExprs_congr
    (hvisit : ∀ decl, (around.visit decl).value = (other.visit decl).value) : (exprs : List Expr) →
    (around.walkExprs exprs).value = (other.walkExprs exprs).value
  | [] => rfl
  | expr :: rest => by
      simp only [walkExprs, Visit.value_bind, Visit.value_pure, value_walkExpr_congr hvisit expr,
        value_walkExprs_congr hvisit rest]

theorem value_walkOption_congr
    (hvisit : ∀ decl, (around.visit decl).value = (other.visit decl).value) :
    (value : Option Expr) → (around.walkOption value).value = (other.walkOption value).value
  | none => rfl
  | some expr => by
      simp only [walkOption, Visit.value_bind, Visit.value_pure, value_walkExpr_congr hvisit expr]

theorem value_walkStmt_congr
    (hvisit : ∀ decl, (around.visit decl).value = (other.visit decl).value) : (stmt : Stmt) →
    (around.walkStmt stmt).value = (other.walkStmt stmt).value
  | .declare ⟨name, type, annotations, initializer, span⟩ => by
      simp only [walkStmt, Visit.value_bind, Visit.value_pure, hvisit,
        value_walkOption_congr hvisit initializer]
  | .giveBack value span => by
      simp only [walkStmt, Visit.value_bind, Visit.value_pure, value_walkOption_congr hvisit value]
  | .evaluate expr span => by
      simp only [walkStmt, Visit.value_bind, Visit.value_pure, value_walkExpr_congr hvisit expr]
  | .block body span => by
      simp only [walkStmt, Visit.value_bind, Visit.value_pure, value_walkStmts_congr hvisit body]

theorem value_walkStmts_congr
    (hvisit : ∀ decl, (around.visit decl).value = (other.visit decl).value) : (stmts : List Stmt) →
    (around.walkStmts stmts).value = (other.walkStmts stmts).value
  | [] => rfl
  | stmt :: rest => by
      simp only [walkStmts, Visit.value_bind, Visit.value_pure, value_walkStmt_congr hvisit stmt,
        value_walkStmts_congr hvisit rest]

end

/-- Visits that make the same of every declaration make the same of a class. -/
theorem value_walkClass_congr
    (hvisit : ∀ decl, (around.visit decl).value = (other.visit decl).value) (decl : ClassDecl) :
    (around.walkClass decl).value = (other.walkClass decl).value := by
  have hbody : ∀ body, (around.walkBody body).value = (other.walkBody body).value := by
    intro body
    cases body with
    | none => rfl
    | some body =>
        simp only [walkBody, Visit.value_bind, Visit.value_pure, value_walkStmts_congr hvisit]
  have hparam : ∀ param, (around.walkParam param).value = (other.walkParam param).value := by
    intro param
    simp only [walkParam, Visit.value_bind, Visit.value_pure, hvisit,
      value_walkOption_congr hvisit]
  have hparts : ∀ method outcome findings findings',
      (around.walkParts method outcome findings).value =
        (other.walkParts method outcome findings').value := by
    intro method outcome findings findings'
    simp only [walkParts, Visit.value_bind, Visit.value_pure, Visit.value_mapM, hparam, hbody]
  have hfield : ∀ field, (around.walkField field).value = (other.walkField field).value := by
    intro field
    simp only [walkField, Visit.value_bind, Visit.value_pure, hvisit,
      value_walkOption_congr hvisit]
  have hconstructor : ∀ method,
      (around.walkConstructor method).value = (other.walkConstructor method).value := by
    intro method
    simp only [walkConstructor, Visit.value_bind, hvisit]
    exact hparts method _ [] []
  have hmethod : ∀ method, (around.walkMethod method).value = (other.walkMethod method).value := by
    intro method
    simp only [walkMethod, Visit.value_bind, hvisit]
    exact hparts method _ _ _
  have hpackage : ∀ package,
      (around.walkPackage package).value = (other.walkPackage package).value := by
    intro package
    simp only [walkPackage, Visit.value_bind, Visit.value_pure, hvisit]
  simp only [walkClass, Visit.value_bind, Visit.value_pure, Visit.value_mapM,
    Visit.value_mapM_option, hvisit, hpackage, hfield, hconstructor, hmethod]

end Surroundings

end DeclCheck
