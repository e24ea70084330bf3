/-
# DeclCheck.Proofs.Generics.Bounds — type parameters that are bounded by one another.

At a level of a hierarchy every type variable of a method stands for something: a parameter of the
method for the erasure of its first bound, a parameter of the class for what the level binds it to.
These are put in all at once and are not looked at again.  So the variable of a parameter type is
gone afterwards unless it was replaced by the erasure of a bound and that bound ends at a variable
in turn, as in `<S extends E>`.  The next variable is then left as it is, whatever the level has for
it.
-/
import Mathlib.Data.List.Induction
import Mathlib.Logic.Relation
import DeclCheck.Proofs.Generics.Variables

namespace DeclCheck

/-! ## Parameters by name -/

namespace TypeParam

/-- The parameter that a name stands for: the last one of that name. -/
def named? (params : List TypeParam) (name : String) : Option TypeParam :=
  params.reverse.find? (·.name = name)

theorem named?_concat (params : List TypeParam) (param : TypeParam) (name : String) :
    named? (params ++ [param]) name =
      if param.name = name then some param else named? params name := by
  unfold named?
  rw [List.reverse_append, List.reverse_singleton, List.singleton_append, List.find?_cons]
  by_cases hname : param.name = name <;> simp [hname]

theorem mem_of_named? {params : List TypeParam} {param : TypeParam} {name : String}
    (hnamed : named? params name = some param) : param ∈ params ∧ param.name = name :=
  ⟨List.mem_reverse.mp (List.mem_of_find?_eq_some hnamed), by simpa using List.find?_some hnamed⟩

theorem isSome_named? {params : List TypeParam} {name : String} :
    (named? params name).isSome ↔ ∃ param ∈ params, param.name = name := by
  simp [named?, List.find?_isSome]

/-- The variable that the first bound of a parameter ends at, if it does. -/
def boundVariable? (param : TypeParam) : Option String :=
  param.bounds.head?.bind TypeExpr.erasedVariable?

theorem erasedVariable?_erasure (param : TypeParam) :
    param.erasure.erasedVariable? = param.boundVariable? := by
  obtain ⟨name, bounds⟩ := param
  cases bounds with
  | nil => rfl
  | cons first rest => exact first.erasedVariable?_erasure

end TypeParam

/-- What a name stands for once parameters are bound to their erasures. -/
theorem Substitution.get?_bindAll_erasedBindings (map : Substitution) (params : List TypeParam)
    (name : String) :
    (map.bindAll (erasedBindings params)).get? name =
      ((TypeParam.named? params name).map TypeParam.erasure).or (map.get? name) := by
  induction params using List.reverseRecOn with
  | nil => rfl
  | append_singleton params param ih =>
      have hlast : map.bindAll (erasedBindings (params ++ [param])) =
          (map.bindAll (erasedBindings params)).bind param.name param.erasure := by
        rw [bindAll, erasedBindings, List.map_append, List.foldl_append]
        rfl
      rw [hlast, get?_bind, ih, TypeParam.named?_concat]
      by_cases hname : param.name = name
      · simp [hname]
      · simp [hname, Ne.symm hname]

/-- The type parameter that a name stands for in a method of a class: one of the method, which hides
those of the class. -/
def Method.paramOf? (method : Method) (decl : ClassDecl) (name : String) : Option TypeParam :=
  (TypeParam.named? method.typeParams name).or (TypeParam.named? decl.typeParams name)

/-- From a type parameter to the one that its first bound ends at. -/
def Method.Follows (method : Method) (decl : ClassDecl) (name next : String) : Prop :=
  ∃ param ∈ method.paramOf? decl name, param.boundVariable? = some next

namespace Signature

/-! ## What is left of a parameter type -/

/-- The variable that is left in the place of a variable, once a method is seen from a level. -/
def remnant? (method : Method) (map : Substitution) (name : String) : Option String :=
  match TypeParam.named? method.typeParams name with
  | some param => param.boundVariable?
  | none => (TypeExpr.substitute map (.variable name)).erasedVariable?

theorem erasedVariable?_substitute_scoped (method : Method) (map : Substitution) (name : String) :
    (TypeExpr.substitute (map.bindAll (Substitution.erasedBindings method.typeParams))
      (.variable name)).erasedVariable? = remnant? method map name := by
  unfold remnant?
  rw [TypeExpr.substitute, Substitution.get?_bindAll_erasedBindings]
  cases TypeParam.named? method.typeParams name with
  | none => rfl
  | some param => exact param.erasedVariable?_erasure

/-- A method's parameters erase to types without variables if nothing is left of their own. -/
theorem closed_params_iff (method : Method) (map : Substitution) :
    (∀ type ∈ (ofMethodAt method map).params, type.erasure.typeVars = []) ↔
      ∀ type ∈ method.paramTypes, ∀ name ∈ type.erasedVariable?,
        remnant? method map name = none := by
  have hparams : (ofMethodAt method map).params =
      method.paramTypes.map fun type =>
        type.substitute (map.bindAll (Substitution.erasedBindings method.typeParams)) := rfl
  rw [hparams, List.forall_mem_map]
  refine forall₂_congr fun type _ => ?_
  rw [TypeExpr.typeVars_erasure, TypeExpr.erasedVariable?_substitute, Option.toList_eq_nil_iff,
    Option.bind_eq_none_iff]
  simp only [erasedVariable?_substitute_scoped, Option.mem_def]

/-- A class's own level has the erasures of its parameters. -/
theorem remnant?_erased {decl : ClassDecl} {method : Method} {name : String} {param : TypeParam}
    (hparam : method.paramOf? decl name = some param) :
    remnant? method (.erased decl) name = param.boundVariable? := by
  unfold Method.paramOf? at hparam
  unfold remnant?
  cases hown : TypeParam.named? method.typeParams name with
  | some own =>
      rw [hown] at hparam
      cases hparam
      rfl
  | none =>
      rw [hown, Option.none_or] at hparam
      rw [TypeExpr.substitute, Substitution.erased, Substitution.ofList,
        Substitution.get?_bindAll_erasedBindings, hparam]
      exact param.erasedVariable?_erasure

/-- At a level that binds the parameters of the class to types without variables, only what a
method's own parameter is bounded by can be left. -/
theorem remnant?_bound {decl : ClassDecl} {method : Method} {map : Substitution} {name : String}
    (hdeclared : (method.paramOf? decl name).isSome)
    (hbound : ∀ param ∈ decl.typeParams, ∃ type,
      map.get? param.name = some type ∧ type.typeVars = []) :
    remnant? method map name =
      (TypeParam.named? method.typeParams name).bind TypeParam.boundVariable? := by
  unfold remnant?
  cases hown : TypeParam.named? method.typeParams name with
  | some own => rfl
  | none =>
      rw [Method.paramOf?, hown, Option.none_or, TypeParam.isSome_named?] at hdeclared
      obtain ⟨param, hmem, rfl⟩ := hdeclared
      obtain ⟨type, htype, hclosed⟩ := hbound param hmem
      rw [TypeExpr.substitute, htype]
      exact TypeExpr.erasedVariable?_eq_none hclosed

/-- **One substitution follows one bound.**  Let every variable in the parameter types of a method
be a type parameter of the method or of its class.  Seen from the class's own level, the parameters
erase to types without variables exactly if the first bound of none of the type parameters that they
end at ends at a variable again; seen from a level that binds the class's parameters to types
without variables, exactly if this is so of the method's own type parameters. -/
theorem closed_params_exact (decl : ClassDecl) (method : Method)
    (hscoped : ∀ type ∈ method.paramTypes, ∀ name ∈ type.typeVars,
      (method.paramOf? decl name).isSome) :
    ((∀ type ∈ (ofMethodAt method (.erased decl)).params, type.erasure.typeVars = []) ↔
      ∀ type ∈ method.paramTypes, ∀ name ∈ type.erasedVariable?,
        ∀ param ∈ method.paramOf? decl name, param.boundVariable? = none) ∧
    ∀ map : Substitution,
      (∀ param ∈ decl.typeParams, ∃ type,
        map.get? param.name = some type ∧ type.typeVars = []) →
      ((∀ type ∈ (ofMethodAt method map).params, type.erasure.typeVars = []) ↔
        ∀ type ∈ method.paramTypes, ∀ name ∈ type.erasedVariable?,
          ∀ param ∈ TypeParam.named? method.typeParams name, param.boundVariable? = none) := by
  have hdeclared : ∀ type ∈ method.paramTypes, ∀ name ∈ type.erasedVariable?,
      (method.paramOf? decl name).isSome := fun type htype name hname =>
    hscoped type htype name (type.erasedVariable?_mem_typeVars name hname)
  constructor
  · rw [closed_params_iff]
    refine forall₂_congr fun type htype => forall₂_congr fun name hname => ?_
    obtain ⟨param, hparam⟩ := Option.isSome_iff_exists.mp (hdeclared type htype name hname)
    simp [hparam, remnant?_erased hparam]
  · intro map hbound
    rw [closed_params_iff]
    refine forall₂_congr fun type htype => forall₂_congr fun name hname => ?_
    rw [remnant?_bound (hdeclared type htype name hname) hbound, Option.bind_eq_none_iff]
    rfl

end Signature

/-! ## A shelf

`Shelf<E extends Number>` takes single items and, by a method with a type parameter of its own,
items of a narrower type. -/

namespace Shelf

/-- `Shelf<E extends Number>` -/
def shelf : ClassDecl where
  name := "Shelf"
  typeParams := [⟨"E", [.plain "Number"]⟩]

/-- `<S extends Comparable<S>> add(E[] items, S label)` -/
def add : Method where
  name := "add"
  typeParams := [⟨"S", [.named "Comparable" [.variable "S"]]⟩]
  params := [{ name := "items", type := .array (.variable "E") },
    { name := "label", type := .variable "S" }]

/-- `<S extends E> put(S item)` -/
def put : Method where
  name := "put"
  typeParams := [⟨"S", [.variable "E"]⟩]
  params := [{ name := "item", type := .variable "S" }]

/-- The level of `Shelf<Integer>`. -/
def integers : Substitution :=
  .ofList [("E", .plain "Integer")]

theorem closed_integers : ∀ param ∈ shelf.typeParams,
    ∃ type, integers.get? param.name = some type ∧ type.typeVars = [] := by
  intro param hparam
  rw [List.mem_singleton.mp hparam]
  exact ⟨.plain "Integer", rfl, rfl⟩

/-- Bounds that are classes are followed to their end. -/
theorem closed_params_add :
    (∀ type ∈ add.paramTypes, ∀ name ∈ type.typeVars, (add.paramOf? shelf name).isSome) ∧
      (∀ type ∈ (Signature.ofMethodAt add (.erased shelf)).params,
        type.erasure.typeVars = []) ∧
      ∀ type ∈ (Signature.ofMethodAt add integers).params, type.erasure.typeVars = [] := by
  have hscoped : ∀ type ∈ add.paramTypes, ∀ name ∈ type.typeVars,
      (add.paramOf? shelf name).isSome := by decide
  obtain ⟨herased, hbound⟩ := Signature.closed_params_exact shelf add hscoped
  exact ⟨hscoped, herased.mpr (by decide), (hbound integers closed_integers).mpr (by decide)⟩

theorem follows_put {name next : String} (hfollows : put.Follows shelf name next) :
    name = "S" ∧ next = "E" := by
  obtain ⟨param, hparam, hnext⟩ := hfollows
  by_cases hname : name = "S"
  · subst hname
    cases hparam
    cases hnext
    exact ⟨rfl, rfl⟩
  · have hown : TypeParam.named? put.typeParams name = none := by
      simp [TypeParam.named?, put, Ne.symm hname]
    -- What remains is the parameter of the class, and its bound is a class.
    rw [Method.paramOf?, hown, Option.none_or] at hparam
    obtain ⟨hmem, -⟩ := TypeParam.mem_of_named? hparam
    rw [List.mem_singleton.mp hmem] at hnext
    cases hnext

theorem not_transGen_follows_put (name : String) :
    ¬ Relation.TransGen (put.Follows shelf) name name := by
  have hends : ∀ next, Relation.TransGen (put.Follows shelf) name next →
      name = "S" ∧ next = "E" := by
    intro next hpath
    induction hpath with
    | single hstep => exact follows_put hstep
    | tail _ hstep ih => exact ⟨ih.1, (follows_put hstep).2⟩
  intro hcycle
  obtain ⟨hfirst, hlast⟩ := hends name hcycle
  rw [hfirst] at hlast
  exact absurd hlast (by decide)

/-- The variable `E` that bounds `S` is left, although every variable is declared, no bound leads
back, and `E` is bound to a type without variables at either level. -/
theorem variable_left_put :
    (∀ type ∈ put.paramTypes, ∀ name ∈ type.typeVars, (put.paramOf? shelf name).isSome) ∧
      (∀ param ∈ put.typeParams ++ shelf.typeParams, ∀ bound ∈ param.bounds,
        ∀ name ∈ bound.typeVars, (put.paramOf? shelf name).isSome) ∧
      (∀ name, ¬ Relation.TransGen (put.Follows shelf) name name) ∧
      (∀ param ∈ shelf.typeParams,
        ∃ type, integers.get? param.name = some type ∧ type.typeVars = []) ∧
      (Signature.ofMethodAt put integers).params.map TypeExpr.erasure = [.variable "E"] ∧
      (Signature.ofMethodAt put (.erased shelf)).params.map TypeExpr.erasure = [.variable "E"] := by
  exact ⟨by decide, by decide, not_transGen_follows_put, closed_integers, by decide, by decide⟩

end Shelf

end DeclCheck
