/-
# DeclCheck.Proofs.Tree.Bare — declarations without their annotations and marks.

The *bare* form of a declaration is what a check cannot change: annotation lists are empty and the
marks `deprecated` and `annotated` are off, at every depth of bodies, closures and lists.  The
members of annotations that stand as values in expressions belong to the expression and stay.

The second half says what of a declaration can be read off its bare form: everything that the search
for overridden methods and the check of annotation members look at.
-/
import DeclCheck.Generics.Signature
import DeclCheck.Registry.Basic

namespace DeclCheck

/-! ## Bare forms -/

mutual

/-- The expression with bare statements in its closures. -/
def Expr.bare : Expr → Expr
  | .closure body span => .closure (Stmt.bareAll body) span
  | .list elements span => .list (Expr.bareAll elements) span
  | other => other

/-- The expressions of a list, each bare. -/
def Expr.bareAll : List Expr → List Expr
  | [] => []
  | expr :: rest => expr.bare :: Expr.bareAll rest

/-- An expression that may be missing, bare. -/
def Expr.bareOption : Option Expr → Option Expr
  | none => none
  | some expr => some expr.bare

/-- The statement without the annotations of its local variables. -/
def Stmt.bare : Stmt → Stmt
  | .declare ⟨name, type, _, initializer, span⟩ =>
    .declare ⟨name, type, [], Expr.bareOption initializer, span⟩
  | .giveBack value span => .giveBack (Expr.bareOption value) span
  | .evaluate expr span => .evaluate expr.bare span
  | .block body span => .block (Stmt.bareAll body) span

/-- The statements of a list, each bare. -/
def Stmt.bareAll : List Stmt → List Stmt
  | [] => []
  | stmt :: rest => stmt.bare :: Stmt.bareAll rest

end

/-- The package declaration without annotations. -/
def Package.bare (package : Package) : Package :=
  { package with annotations := [] }

/-- The field without annotations and mark, its initializer bare. -/
def Field.bare (field : Field) : Field :=
  { field with
    annotations := []
    deprecated := false
    initializer := Expr.bareOption field.initializer }

/-- The parameter without annotations, its default bare. -/
def Param.bare (param : Param) : Param :=
  { param with annotations := [], default := Expr.bareOption param.default }

/-- The method without annotations and mark, its parameters and body bare. -/
def Method.bare (method : Method) : Method :=
  { method with
    annotations := []
    deprecated := false
    params := method.params.map Param.bare
    body := method.body.map Stmt.bareAll }

/-- The class without annotations and marks, all its members bare. -/
def ClassDecl.bare (decl : ClassDecl) : ClassDecl :=
  { decl with
    annotations := []
    deprecated := false
    annotated := false
    package := decl.package.map Package.bare
    fields := decl.fields.map Field.bare
    constructors := decl.constructors.map Method.bare
    methods := decl.methods.map Method.bare }

/-! ## Expressions -/

theorem Expr.bareAll_eq_map (exprs : List Expr) : Expr.bareAll exprs = exprs.map Expr.bare := by
  induction exprs with
  | nil => rfl
  | cons expr rest ih => rw [Expr.bareAll, ih, List.map_cons]

theorem Stmt.bareAll_eq_map (stmts : List Stmt) : Stmt.bareAll stmts = stmts.map Stmt.bare := by
  induction stmts with
  | nil => rfl
  | cons stmt rest ih => rw [Stmt.bareAll, ih, List.map_cons]

/-- An annotation that stands as a value is kept whole. -/
theorem Expr.annotationUse?_bare (expr : Expr) :
    expr.bare.annotationUse? = expr.annotationUse? := by
  cases expr <;> rfl

theorem Expr.elements_bare (expr : Expr) : expr.bare.elements = expr.elements.map Expr.bare := by
  cases expr with
  | list elements span => exact Expr.bareAll_eq_map elements
  | _ => rfl

/-! ## Methods -/

namespace Method

theorem paramTypes_bare (method : Method) : method.bare.paramTypes = method.paramTypes := by
  simp [paramTypes, bare, Param.bare, Function.comp_def]

theorem descriptor_bare (method : Method) : method.bare.descriptor = method.descriptor := by
  simp only [descriptor, paramTypes_bare]
  rfl

theorem returnedValue?_bare (method : Method) :
    method.bare.returnedValue? = method.returnedValue?.map Expr.bare := by
  have hbody : method.bare.body.getD [] = (method.body.getD []).map Stmt.bare := by
    cases hbody : method.body with
    | none => simp [bare, hbody]
    | some body => simp [bare, hbody, Stmt.bareAll_eq_map]
  unfold returnedValue?
  rw [hbody]
  induction method.body.getD [] with
  | nil => rfl
  | cons stmt rest ih =>
      rw [List.map_cons, List.findSome?_cons, List.findSome?_cons, ih]
      cases stmt with
      | giveBack value span => cases value <;> rfl
      | declare binding => cases binding; rfl
      | _ => rfl

end Method

theorem Signature.ofMethodAt_bare (method : Method) (map : Substitution) :
    Signature.ofMethodAt method.bare map = Signature.ofMethodAt method map := by
  simp only [ofMethodAt, ofMethod, Method.paramTypes_bare]
  rfl

end DeclCheck
