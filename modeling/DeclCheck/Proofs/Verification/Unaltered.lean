/-
# DeclCheck.Proofs.Verification.Unaltered — when a walk leaves a class as it is.

A walk takes a class apart and puts it together again.  If no visit on the way has anything to
change about its declaration, then what is put together is the class that was there, down to the
last expression.  The induction is over the expressions and statements of a body; what it carries
along is that the visits of the local variables below keep them.
-/
import DeclCheck.Proofs.Verification.Rewriting

namespace DeclCheck

namespace Surroundings

variable (around : Surroundings)

/-- A visit hands back the annotations of the declaration, and does not set a mark that is off. -/
structure Keeps (declaration : Declaration) : Prop where
  annotations : (around.visit declaration).value.annotations = declaration.annotations
  deprecated :
    declaration.deprecated?.map (· || (around.visit declaration).value.deprecated) =
      declaration.deprecated?

/-- The visits at all of the stops keep their declarations. -/
def KeepsAll (stops : List Stop) : Prop :=
  ∀ declaration, .declaration declaration ∈ stops → around.Keeps declaration

variable {around}

theorem keepsAll_append {first second : List Stop} :
    around.KeepsAll (first ++ second) ↔ around.KeepsAll first ∧ around.KeepsAll second := by
  simp [KeepsAll, or_imp, forall_and]

theorem keepsAll_cons {declaration : Declaration} {rest : List Stop} :
    around.KeepsAll (.declaration declaration :: rest) ↔
      around.Keeps declaration ∧ around.KeepsAll rest := by
  simp [KeepsAll, or_imp, forall_and]

theorem keepsAll_flatMap {α : Type} {stops : α → List Stop} {values : List α} :
    around.KeepsAll (values.flatMap stops) ↔ ∀ value ∈ values, around.KeepsAll (stops value) := by
  simp only [KeepsAll, List.mem_flatMap]
  constructor
  · intro hkeeps value hvalue declaration hmem
    exact hkeeps declaration ⟨value, hvalue, hmem⟩
  · rintro hkeeps declaration ⟨value, hvalue, hmem⟩
    exact hkeeps value hvalue declaration hmem

theorem keepsAll_ofLocals_append {first second : List Local} :
    around.KeepsAll (Stop.ofLocals (first ++ second)) ↔
      around.KeepsAll (Stop.ofLocals first) ∧ around.KeepsAll (Stop.ofLocals second) := by
  rw [Stop.ofLocals, List.map_append]
  exact keepsAll_append

/-! ## Bodies -/

mutual

theorem value_walkExpr_self : (expr : Expr) → around.KeepsAll (Stop.ofLocals expr.locals) →
    (around.walkExpr expr).value = expr
  | .closure body span, hkeeps => by
      simp only [walkExpr, Visit.value_bind, Visit.value_pure, value_walkStmts_self body hkeeps]
  | .list elements span, hkeeps => by
      simp only [walkExpr, Visit.value_bind, Visit.value_pure, value_walkExprs_self elements hkeeps]
  | .literal .., _ | .enumConstant .., _ | .classLiteral .., _ | .constant .., _
  | .annotationUse .., _ | .unmodelled .., _ => rfl

theorem value_walkExprs_self : (exprs : List Expr) →
    around.KeepsAll (Stop.ofLocals (Expr.localsAll exprs)) →
    (around.walkExprs exprs).value = exprs
  | [], _ => rfl
  | expr :: rest, hkeeps => by
      obtain ⟨hexpr, hrest⟩ := keepsAll_ofLocals_append.mp hkeeps
      simp only [walkExprs, Visit.value_bind, Visit.value_pure, value_walkExpr_self expr hexpr,
        value_walkExprs_self rest hrest]

theorem value_walkOption_self : (value : Option Expr) →
    around.KeepsAll (Stop.ofLocals (Expr.localsOption value)) →
    (around.walkOption value).value = value
  | none, _ => rfl
  | some expr, hkeeps => by
      simp only [walkOption, Visit.value_bind, Visit.value_pure, value_walkExpr_self expr hkeeps]

theorem value_walkStmt_self : (stmt : Stmt) → around.KeepsAll (Stop.ofLocals stmt.locals) →
    (around.walkStmt stmt).value = stmt
  | .declare ⟨name, type, annotations, initializer, span⟩, hkeeps => by
      obtain ⟨hbinding, hinitializer⟩ := keepsAll_cons.mp hkeeps
      have hannotations : (around.visit
          (.localVariable ⟨name, type, annotations, initializer, span⟩)).value.annotations =
            annotations := hbinding.annotations
      simp only [walkStmt, Visit.value_bind, Visit.value_pure, hannotations,
        value_walkOption_self initializer hinitializer]
  | .giveBack value span, hkeeps => by
      simp only [walkStmt, Visit.value_bind, Visit.value_pure, value_walkOption_self value hkeeps]
  | .evaluate expr span, hkeeps => by
      simp only [walkStmt, Visit.value_bind, Visit.value_pure, value_walkExpr_self expr hkeeps]
  | .block body span, hkeeps => by
      simp only [walkStmt, Visit.value_bind, Visit.value_pure, value_walkStmts_self body hkeeps]

theorem value_walkStmts_self : (stmts : List Stmt) →
    around.KeepsAll (Stop.ofLocals (Stmt.localsAll stmts)) →
    (around.walkStmts stmts).value = stmts
  | [], _ => rfl
  | stmt :: rest, hkeeps => by
      obtain ⟨hstmt, hrest⟩ := keepsAll_ofLocals_append.mp hkeeps
      simp only [walkStmts, Visit.value_bind, Visit.value_pure, value_walkStmt_self stmt hstmt,
        value_walkStmts_self rest hrest]

end

theorem value_walkBody_self (body : Option (List Stmt))
    (hkeeps : around.KeepsAll (Stop.ofLocals (Stmt.localsAll (body.getD [])))) :
    (around.walkBody body).value = body := by
  cases body with
  | none => rfl
  | some body =>
      simp only [walkBody, Visit.value_bind, Visit.value_pure, value_walkStmts_self body hkeeps]

/-! ## Members and classes -/

/-- Parts that are walked one by one. -/
theorem value_mapM_self {α : Type} {stops : α → List Stop} {walk : α → Visit α}
    (hwalk : ∀ value, around.KeepsAll (stops value) → (walk value).value = value) {values : List α}
    (hkeeps : around.KeepsAll (values.flatMap stops)) : (values.mapM walk).value = values := by
  rw [Visit.value_mapM]
  refine (List.map_congr_left fun value hvalue => ?_).trans (List.map_id values)
  exact hwalk value (keepsAll_flatMap.mp hkeeps value hvalue)

theorem value_walkField_self (field : Field) (hkeeps : around.KeepsAll (Stop.ofField field)) :
    (around.walkField field).value = field := by
  obtain ⟨hfield, hinitializer⟩ := keepsAll_cons.mp hkeeps
  have hannotations : (around.visit (.field field)).value.annotations = field.annotations :=
    hfield.annotations
  have hdeprecated := Option.some.inj hfield.deprecated
  simp only [walkField, Visit.value_bind, Visit.value_pure, hannotations, hdeprecated,
    value_walkOption_self field.initializer hinitializer]

theorem value_walkParam_self (param : Param) (hkeeps : around.KeepsAll (Stop.ofParam param)) :
    (around.walkParam param).value = param := by
  obtain ⟨hparam, hdefault⟩ := keepsAll_cons.mp hkeeps
  have hannotations : (around.visit (.parameter param)).value.annotations = param.annotations :=
    hparam.annotations
  simp only [walkParam, Visit.value_bind, Visit.value_pure, hannotations,
    value_walkOption_self param.default hdefault]

theorem value_walkParts_self (method : Method) {outcome : Outcome} (findings : List Diagnostic)
    {between : List Stop} (hannotations : outcome.annotations = method.annotations)
    (hdeprecated : (method.deprecated || outcome.deprecated) = method.deprecated)
    (hkeeps : around.KeepsAll (Stop.ofParts method between)) :
    (around.walkParts method outcome findings).value = method := by
  obtain ⟨hfront, hbody⟩ := keepsAll_append.mp hkeeps
  have hparams := value_mapM_self value_walkParam_self (keepsAll_append.mp hfront).1
  simp only [walkParts, Visit.value_bind, Visit.value_pure, hannotations, hdeprecated, hparams,
    value_walkBody_self method.body hbody]

theorem value_walkConstructor_self (method : Method)
    (hkeeps : around.KeepsAll (Stop.ofConstructor method)) :
    (around.walkConstructor method).value = method := by
  obtain ⟨hconstructor, hparts⟩ := keepsAll_cons.mp hkeeps
  exact value_walkParts_self method [] hconstructor.annotations
    (Option.some.inj hconstructor.deprecated) hparts

theorem value_walkMethod_self (method : Method) (hkeeps : around.KeepsAll (Stop.ofMethod method)) :
    (around.walkMethod method).value = method := by
  obtain ⟨hmethod, hparts⟩ := keepsAll_cons.mp hkeeps
  exact value_walkParts_self method (around.memberFindings method) hmethod.annotations
    (Option.some.inj hmethod.deprecated) hparts

/-- A walk whose visits keep every declaration hands back the class. -/
theorem value_walkClass_self (decl : ClassDecl)
    (hkeeps : ∀ declaration ∈ decl.declarations, around.Keeps declaration) :
    (around.walkClass decl).value = decl := by
  have hstops : around.KeepsAll decl.stops := fun declaration hmem =>
    hkeeps declaration (ClassDecl.mem_declarations.mpr hmem)
  -- The class comes first, then its package, fields, constructors and methods.
  obtain ⟨hclass, hmembers⟩ := keepsAll_cons.mp hstops
  obtain ⟨hmembers, hmethods⟩ := keepsAll_append.mp hmembers
  obtain ⟨hmembers, hconstructors⟩ := keepsAll_append.mp hmembers
  obtain ⟨hpackage, hfields⟩ := keepsAll_append.mp hmembers
  have hannotations : (around.visit (.type decl)).value.annotations = decl.annotations :=
    hclass.annotations
  have hdeprecated := Option.some.inj hclass.deprecated
  have hpackage : (decl.package.mapM around.walkPackage).value = decl.package := by
    cases hsome : decl.package with
    | none => rfl
    | some package =>
        have hkept : around.Keeps (.package package) := hpackage _ (by simp [hsome])
        have hsame : (around.visit (.package package)).value.annotations = package.annotations :=
          hkept.annotations
        show some (around.walkPackage package).value = some package
        simp only [walkPackage, Visit.value_bind, Visit.value_pure, hsame]
  simp only [walkClass, Visit.value_bind, Visit.value_pure, hannotations, hdeprecated, hpackage,
    value_mapM_self value_walkField_self hfields,
    value_mapM_self value_walkConstructor_self hconstructors,
    value_mapM_self value_walkMethod_self hmethods]

end Surroundings

end DeclCheck
