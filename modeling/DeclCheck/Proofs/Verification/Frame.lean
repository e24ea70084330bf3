/-
# DeclCheck.Proofs.Verification.Frame — what a walk leaves as it is.

A walk hands back a declaration with the same bare form: whatever it does to annotations and marks,
at any depth, every name, type, parameter, statement and expression stays in place.  The proof goes
down the tree as the walk does, one case for each way in which declarations nest.
-/
import DeclCheck.Verification
import DeclCheck.Proofs.Tree.Bare

namespace DeclCheck

/-! ## Values of visits -/

namespace Visit

variable {α β : Type}

@[simp]
theorem value_pure (value : α) : (pure value : Visit α).value = value := rfl

@[simp]
theorem value_bind (visit : Visit α) (next : α → Visit β) :
    (visit >>= next).value = (next visit.value).value := rfl

theorem value_mapM (visit : α → Visit β) (values : List α) :
    (values.mapM visit).value = values.map fun value => (visit value).value := by
  induction values with
  | nil => rfl
  | cons value rest ih =>
      rw [List.mapM_cons]
      simp only [value_bind, value_pure, ih, List.map_cons]

theorem value_mapM_option (visit : α → Visit β) (value : Option α) :
    (value.mapM visit).value = value.map fun value => (visit value).value := by
  cases value <;> rfl

end Visit

namespace Surroundings

variable (around : Surroundings)

/-! ## Bodies -/

mutual

theorem bare_walkExpr : (expr : Expr) → (around.walkExpr expr).value.bare = expr.bare
  | .closure body span => by
      simp only [walkExpr, Visit.value_bind, Visit.value_pure, Expr.bare, bare_walkStmts body]
  | .list elements span => by
      simp only [walkExpr, Visit.value_bind, Visit.value_pure, Expr.bare, bare_walkExprs elements]
  | .literal .. | .enumConstant .. | .classLiteral .. | .constant .. | .annotationUse ..
  | .unmodelled .. => rfl

theorem bare_walkExprs : (exprs : List Expr) →
    Expr.bareAll (around.walkExprs exprs).value = Expr.bareAll exprs
  | [] => rfl
  | expr :: rest => by
      simp only [walkExprs, Visit.value_bind, Visit.value_pure, Expr.bareAll, bare_walkExpr expr,
        bare_walkExprs rest]

theorem bare_walkOption : (value : Option Expr) →
    Expr.bareOption (around.walkOption value).value = Expr.bareOption value
  | none => rfl
  | some expr => by
      simp only [walkOption, Visit.value_bind, Visit.value_pure, Expr.bareOption,
        bare_walkExpr expr]

theorem bare_walkStmt : (stmt : Stmt) → (around.walkStmt stmt).value.bare = stmt.bare
  | .declare ⟨name, type, annotations, initializer, span⟩ => by
      simp only [walkStmt, Visit.value_bind, Visit.value_pure, Stmt.bare,
        bare_walkOption initializer]
  | .giveBack value span => by
      simp only [walkStmt, Visit.value_bind, Visit.value_pure, Stmt.bare, bare_walkOption value]
  | .evaluate expr span => by
      simp only [walkStmt, Visit.value_bind, Visit.value_pure, Stmt.bare, bare_walkExpr expr]
  | .block body span => by
      simp only [walkStmt, Visit.value_bind, Visit.value_pure, Stmt.bare, bare_walkStmts body]

theorem bare_walkStmts : (stmts : List Stmt) →
    Stmt.bareAll (around.walkStmts stmts).value = Stmt.bareAll stmts
  | [] => rfl
  | stmt :: rest => by
      simp only [walkStmts, Visit.value_bind, Visit.value_pure, Stmt.bareAll, bare_walkStmt stmt,
        bare_walkStmts rest]

end

theorem bare_walkBody (body : Option (List Stmt)) :
    (around.walkBody body).value.map Stmt.bareAll = body.map Stmt.bareAll := by
  cases body with
  | none => rfl
  | some body =>
      simp only [walkBody, Visit.value_bind, Visit.value_pure, Option.map_some, bare_walkStmts]

/-! ## Members and classes -/

theorem bare_walkField (field : Field) : (around.walkField field).value.bare = field.bare := by
  simp only [walkField, Visit.value_bind, Visit.value_pure, Field.bare, bare_walkOption]

theorem bare_walkParam (param : Param) : (around.walkParam param).value.bare = param.bare := by
  simp only [walkParam, Visit.value_bind, Visit.value_pure, Param.bare, bare_walkOption]

theorem bare_walkParts (method : Method) (outcome : Outcome) (findings : List Diagnostic) :
    (around.walkParts method outcome findings).value.bare = method.bare := by
  simp only [walkParts, Visit.value_bind, Visit.value_pure, Visit.value_mapM, Method.bare,
    List.map_map, Function.comp_def, bare_walkParam, bare_walkBody]

theorem bare_walkConstructor (method : Method) :
    (around.walkConstructor method).value.bare = method.bare := by
  simp only [walkConstructor, Visit.value_bind, bare_walkParts]

theorem bare_walkMethod (method : Method) :
    (around.walkMethod method).value.bare = method.bare := by
  simp only [walkMethod, Visit.value_bind, bare_walkParts]

theorem bare_walkPackage (package : Package) :
    (around.walkPackage package).value.bare = package.bare := by
  simp only [walkPackage, Visit.value_bind, Visit.value_pure, Package.bare]

/-- A walk changes nothing but annotation lists and marks. -/
theorem bare_walkClass (decl : ClassDecl) : (around.walkClass decl).value.bare = decl.bare := by
  simp only [walkClass, Visit.value_bind, Visit.value_pure, Visit.value_mapM,
    Visit.value_mapM_option, ClassDecl.bare, List.map_map, Option.map_map, Function.comp_def,
    bare_walkField, bare_walkConstructor, bare_walkMethod, bare_walkPackage]

end Surroundings

end DeclCheck
