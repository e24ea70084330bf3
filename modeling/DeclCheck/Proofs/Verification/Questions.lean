/-
# DeclCheck.Proofs.Verification.Questions — what a walk asks a registry.

A walk asks four questions: what annotation type a name stands for, whether a name is known at all,
whether a search for an overridden method ends without one, and what is wrong with a member of an
annotation definition.  Two registries that answer them alike are walked alike: the same findings
and the same declaration.  The numbers of the classes are not asked for.
-/
import DeclCheck.Verification

namespace DeclCheck

/-- The two registries answer every question of a walk alike. -/
structure Registry.AnswersAlike (a b : Registry) : Prop where
  annotationType : ∀ name, a.annotationType? name = b.annotationType? name
  known : ∀ name, (a.find? name).isSome = (b.find? name).isSome
  overriding : ∀ declaring method,
    a.searchOverridden declaring method = some .exhausted ↔
      b.searchOverridden declaring method = some .exhausted
  member : ∀ definition member, a.checkMember definition member = b.checkMember definition member

/-! ## Repeated uses -/

namespace Scope

variable {a b : Scope}

/-- Folding asks for annotation types and for the values of expressions. -/
theorem fold_congr
    (htype : ∀ name, a.registry.annotationType? name = b.registry.annotationType? name)
    (hevaluator : a.evaluator = b.evaluator) (uses : List AnnotationUse) :
    a.fold uses = b.fold uses := by
  have htypes : a.registry.annotationType? = b.registry.annotationType? := funext htype
  have hretention : a.retentionOf? = b.retentionOf? := by
    funext use
    simp only [retentionOf?, htypes, hevaluator]
  have hfoldable : a.isFoldable = b.isFoldable := by
    funext use
    simp only [isFoldable, htypes, hretention]
  have hgroups : a.groups = b.groups := by
    funext uses
    simp only [groups, hfoldable]
  have hcontainer : a.containerUse = b.containerUse := by
    funext container first rest
    simp only [containerUse, strongestRetention?, hretention, hevaluator]
  have hjudge : a.judge? = b.judge? := by
    funext uses kind group
    simp only [judge?, htypes, hcontainer]
  simp only [fold, verdicts, hgroups, hjudge, hfoldable]

end Scope

/-! ## Walks -/

namespace Surroundings

variable {a b : Surroundings}

mutual

theorem walkExpr_congr (hvisit : a.visit = b.visit) : (expr : Expr) →
    a.walkExpr expr = b.walkExpr expr
  | .closure body span => by simp only [walkExpr, walkStmts_congr hvisit body]
  | .list elements span => by simp only [walkExpr, walkExprs_congr hvisit elements]
  | .literal .. | .enumConstant .. | .classLiteral .. | .constant .. | .annotationUse ..
  | .unmodelled .. => rfl

theorem walkExprs_congr (hvisit : a.visit = b.visit) : (exprs : List Expr) →
    a.walkExprs exprs = b.walkExprs exprs
  | [] => rfl
  | expr :: rest => by
      simp only [walkExprs, walkExpr_congr hvisit expr, walkExprs_congr hvisit rest]

theorem walkOption_congr (hvisit : a.visit = b.visit) : (value : Option Expr) →
    a.walkOption value = b.walkOption value
  | none => rfl
  | some expr => by simp only [walkOption, walkExpr_congr hvisit expr]

theorem walkStmt_congr (hvisit : a.visit = b.visit) : (stmt : Stmt) →
    a.walkStmt stmt = b.walkStmt stmt
  | .declare ⟨name, type, annotations, initializer, span⟩ => by
      simp only [walkStmt, hvisit, walkOption_congr hvisit initializer]
  | .giveBack value span => by simp only [walkStmt, walkOption_congr hvisit value]
  | .evaluate expr span => by simp only [walkStmt, walkExpr_congr hvisit expr]
  | .block body span => by simp only [walkStmt, walkStmts_congr hvisit body]

theorem walkStmts_congr (hvisit : a.visit = b.visit) : (stmts : List Stmt) →
    a.walkStmts stmts = b.walkStmts stmts
  | [] => rfl
  | stmt :: rest => by
      simp only [walkStmts, walkStmt_congr hvisit stmt, walkStmts_congr hvisit rest]

end

/-- A walk is made of visits and of the checks of annotation members. -/
theorem walkClass_congr (hvisit : a.visit = b.visit)
    (hmember : a.memberFindings = b.memberFindings) : a.walkClass = b.walkClass := by
  have hoption : a.walkOption = b.walkOption := funext (walkOption_congr hvisit)
  have hfield : a.walkField = b.walkField := by
    funext field
    simp only [walkField, hvisit, hoption]
  have hparam : a.walkParam = b.walkParam := by
    funext param
    simp only [walkParam, hvisit, hoption]
  have hbody : a.walkBody = b.walkBody := by
    funext body
    cases body with
    | none => rfl
    | some body => simp only [walkBody, walkStmts_congr hvisit body]
  have hparts : a.walkParts = b.walkParts := by
    funext method outcome findings
    simp only [walkParts, hparam, hbody]
  have hconstructor : a.walkConstructor = b.walkConstructor := by
    funext method
    simp only [walkConstructor, hvisit, hparts]
  have hmethod : a.walkMethod = b.walkMethod := by
    funext method
    simp only [walkMethod, hvisit, hparts, hmember]
  have hpackage : a.walkPackage = b.walkPackage := by
    funext package
    simp only [walkPackage, hvisit]
  funext decl
  simp only [walkClass, hvisit, hpackage, hfield, hconstructor, hmethod]

/-- A visit asks for annotation types, for known names and for overridden methods. -/
theorem visit_congr (halike : a.registry.AnswersAlike b.registry)
    (hsettings : a.settings = b.settings) (hevaluator : a.scope.evaluator = b.scope.evaluator)
    (hdeclaring : a.declaring = b.declaring) : a.visit = b.visit := by
  have htypes : a.registry.annotationType? = b.registry.annotationType? :=
    funext halike.annotationType
  have hretention : a.scope.retentionOf? = b.scope.retentionOf? := by
    funext use
    simp only [Scope.retentionOf?, hevaluator]
    rw [show a.scope.registry.annotationType? = b.scope.registry.annotationType? from htypes]
  have hcomplete : a.complete = b.complete := by
    funext target use
    simp only [complete, htypes, halike.known, hsettings, hretention]
  have hfold : a.scope.fold = b.scope.fold :=
    funext (Scope.fold_congr halike.annotationType hevaluator)
  have hisUseOf : a.isUseOf = b.isUseOf := by
    funext known use
    simp only [isUseOf, htypes]
  have hoverride : a.checkOverride = b.checkOverride := by
    funext mark method
    simp only [checkOverride, hsettings, hdeclaring, halike.overriding]
  funext declaration
  simp only [visit, hsettings, hcomplete, hfold, hisUseOf, hoverride]

end Surroundings

/-- Registries that answer alike are walked alike. -/
theorem Verifier.walk_congr (verifier : Verifier) {a b : Registry} (halike : a.AnswersAlike b)
    (decl : ClassDecl) : verifier.walk a decl = verifier.walk b decl := by
  unfold walk
  refine congrFun (Surroundings.walkClass_congr ?_ ?_) decl
  · exact Surroundings.visit_congr halike rfl rfl rfl
  · funext method
    simp only [Surroundings.memberFindings, Surroundings.registry, scope, halike.member]

end DeclCheck
