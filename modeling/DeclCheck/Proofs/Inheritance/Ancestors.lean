/-
# DeclCheck.Proofs.Inheritance.Ancestors — everything that references lead to, and when that is
finite.

The *ancestors* of a declaring class are the supertypes reached from it by references to a
superclass or to an interface, mixed in any order.

A hierarchy may be cyclic, and the arguments of a reference may grow on the way around the cycle
(`A<T>` below `A<List<T>>`), so there can be infinitely many ancestors of finitely many classes.
They cannot grow if every argument is a bare variable, which stands for what it is bound to, or has
no variable at all.  Then all that a parameter is ever bound to was written down somewhere: it is an
argument of some reference, or the erasure of some parameter.
-/
import Mathlib.Data.Finite.Prod
import Mathlib.Data.Set.Finite.Lattice
import DeclCheck.Proofs.Generics.Bindings
import DeclCheck.Proofs.Generics.Variables
import DeclCheck.Proofs.Inheritance.Overriding

namespace DeclCheck

/-! ## Types that cannot grow -/

namespace TypeExpr

/-- A bare variable, or a type without variables. -/
def IsSimple (type : TypeExpr) : Prop :=
  (∃ name, type = .variable name) ∨ type.typeVars = []

instance (type : TypeExpr) : Decidable type.IsSimple :=
  match type with
  | .variable name => .isTrue (.inl ⟨name, rfl⟩)
  | .named name arguments => decidable_of_iff ((named name arguments).typeVars = []) (by
      simp [IsSimple])
  | .array element => decidable_of_iff ((array element).typeVars = []) (by simp [IsSimple])
  | .wildcard kind bound => decidable_of_iff ((wildcard kind bound).typeVars = []) (by
      simp [IsSimple])
  | .primitive _ | .void => .isTrue (.inr rfl)

/-- Under a substitution a simple type stays what it is or becomes something bound there. -/
theorem IsSimple.substitute {type : TypeExpr} (hsimple : type.IsSimple) (map : Substitution) :
    type.substitute map = type ∨ ∃ name, (name, type.substitute map) ∈ map.bindings := by
  rcases hsimple with ⟨name, rfl⟩ | hclosed
  · cases hget : map.get? name with
    | none =>
        left
        simp [TypeExpr.substitute, hget]
    | some bound =>
        right
        refine ⟨name, ?_⟩
        simpa [TypeExpr.substitute, hget] using Substitution.mem_of_get? hget
  · exact .inl (substitute_eq_self map type (by simp [hclosed]))

end TypeExpr

/-! ## Ancestors -/

/-- The references of a class to what is directly above it. -/
def ClassDecl.supers (decl : ClassDecl) : List TypeExpr :=
  decl.parent?.toList ++ decl.interfaces

namespace Registry

variable {registry : Registry} {declaring : ClassDecl}

/-- What references of either kind lead to from a declaring class. -/
inductive Ancestor (registry : Registry) (declaring : ClassDecl) : Supertype → Prop
  | first {reference : TypeExpr} {above : Supertype} :
      reference ∈ declaring.supers →
      registry.supertype? reference (.erased declaring) = some above →
      Ancestor registry declaring above
  | next {below above : Supertype} {decl : ClassDecl} {reference : TypeExpr} :
      Ancestor registry declaring below → registry.class? below.id = some decl →
      reference ∈ decl.supers → registry.supertype? reference below.map = some above →
      Ancestor registry declaring above

/-- Going up from an ancestor, by either kind of reference, leads to ancestors. -/
theorem closedUpward_ancestor (registry : Registry) (declaring : ClassDecl)
    (wanted : List Signature) :
    (registry.hierarchy wanted).ClosedUpward (registry.Ancestor declaring)
      (registry.Ancestor declaring) := by
  have hinterfaces : ∀ {below above : Supertype}, registry.Ancestor declaring below →
      above ∈ registry.interfacesAbove below → registry.Ancestor declaring above := by
    intro below above hbelow hmem
    obtain ⟨decl, hdecl, reference, href, hstep⟩ := mem_interfacesAbove.mp hmem
    exact .next hbelow hdecl (List.mem_append_right _ href) hstep
  refine ⟨?_, hinterfaces, hinterfaces⟩
  intro below above hbelow hparent
  obtain ⟨decl, hdecl, reference, href, hstep⟩ := parentAbove?_eq_some.mp hparent
  exact .next hbelow hdecl (List.mem_append_left _ (Option.mem_toList.mpr href)) hstep

theorem ancestor_of_mem_interfacesOf {above : Supertype}
    (hmem : above ∈ registry.interfacesOf declaring (.erased declaring)) :
    registry.Ancestor declaring above := by
  obtain ⟨reference, href, hstep⟩ := mem_interfacesOf.mp hmem
  exact .first (List.mem_append_right _ href) hstep

theorem ancestor_of_mem_parentOf? {above : Supertype}
    (hparent : above ∈ registry.parentOf? declaring (.erased declaring)) :
    registry.Ancestor declaring above := by
  obtain ⟨reference, href, hstep⟩ := parentOf?_eq_some.mp hparent
  exact .first (List.mem_append_left _ (Option.mem_toList.mpr href)) hstep

theorem supertype?_eq_some {reference : TypeExpr} {outer : Substitution} {above : Supertype}
    (hstep : registry.supertype? reference outer = some above) :
    ∃ decl, registry.class? above.id = some decl ∧
      above.map = .ofReference reference decl outer := by
  simp only [supertype?, Option.bind_eq_bind, Option.bind_eq_some_iff, Option.pure_def,
    Option.some.injEq] at hstep
  obtain ⟨-, -, id, -, decl, hdecl, rfl⟩ := hstep
  exact ⟨decl, hdecl, rfl⟩

/-! ## Finitely many ancestors -/

/-- The declaring class and the classes of the registry. -/
def involved (registry : Registry) (declaring : ClassDecl) : List ClassDecl :=
  declaring :: registry.entries.toList.map (·.decl)

theorem mem_involved_of_class? {id : ClassId} {decl : ClassDecl}
    (hdecl : registry.class? id = some decl) : decl ∈ registry.involved declaring := by
  obtain ⟨entry, hentry, rfl⟩ := Option.map_eq_some_iff.mp hdecl
  refine List.mem_cons_of_mem _ (List.mem_map_of_mem ?_)
  exact Array.mem_toList_iff.mpr (Array.mem_of_getElem? hentry)

/-- Every argument of a reference to something above is a bare variable or has no variables. -/
def SimpleArguments (registry : Registry) (declaring : ClassDecl) : Prop :=
  ∀ decl ∈ registry.involved declaring, ∀ reference ∈ decl.supers,
    ∀ argument ∈ reference.arguments, argument.IsSimple

instance (registry : Registry) (declaring : ClassDecl) :
    Decidable (registry.SimpleArguments declaring) :=
  inferInstanceAs (Decidable (∀ decl ∈ registry.involved declaring, ∀ reference ∈ decl.supers,
    ∀ argument ∈ reference.arguments, argument.IsSimple))

/-- The names of the type parameters of the classes involved. -/
def paramNames (registry : Registry) (declaring : ClassDecl) : List String :=
  (registry.involved declaring).flatMap fun decl => decl.typeParams.map TypeParam.name

/-- The types written in the classes involved: the erasures of their parameters, and the arguments
of their references. -/
def writtenTypes (registry : Registry) (declaring : ClassDecl) : List TypeExpr :=
  (registry.involved declaring).flatMap fun decl =>
    decl.typeParams.map TypeParam.erasure ++ decl.supers.flatMap TypeExpr.arguments

/-- A substitution that binds parameters of the classes involved to types written in them. -/
def Written (registry : Registry) (declaring : ClassDecl) (map : Substitution) : Prop :=
  ∀ binding ∈ map.bindings, binding.1 ∈ registry.paramNames declaring ∧
    binding.2 ∈ registry.writtenTypes declaring

theorem mem_paramNames {decl : ClassDecl} {param : TypeParam}
    (hdecl : decl ∈ registry.involved declaring) (hparam : param ∈ decl.typeParams) :
    param.name ∈ registry.paramNames declaring :=
  List.mem_flatMap.mpr ⟨decl, hdecl, List.mem_map_of_mem hparam⟩

theorem mem_writtenTypes_of_param {decl : ClassDecl} {param : TypeParam}
    (hdecl : decl ∈ registry.involved declaring) (hparam : param ∈ decl.typeParams) :
    param.erasure ∈ registry.writtenTypes declaring :=
  List.mem_flatMap.mpr ⟨decl, hdecl, List.mem_append_left _ (List.mem_map_of_mem hparam)⟩

theorem mem_writtenTypes_of_argument {decl : ClassDecl} {reference argument : TypeExpr}
    (hdecl : decl ∈ registry.involved declaring) (href : reference ∈ decl.supers)
    (hargument : argument ∈ reference.arguments) :
    argument ∈ registry.writtenTypes declaring :=
  List.mem_flatMap.mpr ⟨decl, hdecl,
    List.mem_append_right _ (List.mem_flatMap.mpr ⟨reference, href, hargument⟩)⟩

theorem written_erased {decl : ClassDecl} (hdecl : decl ∈ registry.involved declaring) :
    registry.Written declaring (.erased decl) := by
  intro binding hmem
  obtain ⟨param, hparam, rfl⟩ := List.mem_map.mp (Substitution.mem_of_mem_ofList hmem)
  exact ⟨mem_paramNames hdecl hparam, mem_writtenTypes_of_param hdecl hparam⟩

/-- One step up binds nothing but what was written. -/
theorem Written.ofReference {outer : Substitution} {below decl : ClassDecl} {reference : TypeExpr}
    (houter : registry.Written declaring outer) (hsimple : registry.SimpleArguments declaring)
    (hbelow : below ∈ registry.involved declaring) (href : reference ∈ below.supers)
    (hdecl : decl ∈ registry.involved declaring) :
    registry.Written declaring (.ofReference reference decl outer) := by
  have harguments : ∀ argument ∈ reference.arguments,
      argument.substitute outer ∈ registry.writtenTypes declaring := by
    intro argument hargument
    rcases (hsimple below hbelow reference href argument hargument).substitute outer with
      hself | ⟨name, hbound⟩
    · rw [hself]
      exact mem_writtenTypes_of_argument hbelow href hargument
    · exact (houter _ hbound).2
  unfold Substitution.ofReference
  split
  · exact written_erased hdecl
  · next first rest hlist =>
    intro binding hmem
    obtain ⟨⟨param, argument⟩, hpair, rfl⟩ :=
      List.mem_map.mp (Substitution.mem_of_mem_ofList hmem)
    obtain ⟨hparam, hargument⟩ := List.of_mem_zip hpair
    exact ⟨mem_paramNames hdecl hparam, harguments argument (hlist ▸ hargument)⟩

/-- What holds of the maps of all ancestors, step by step from the declaring class. -/
theorem Ancestor.written {supertype : Supertype} (hsimple : registry.SimpleArguments declaring)
    (hancestor : registry.Ancestor declaring supertype) :
    registry.Written declaring supertype.map := by
  have hself : declaring ∈ registry.involved declaring := List.mem_cons_self
  induction hancestor with
  | first href hstep =>
      obtain ⟨decl, hdecl, hmap⟩ := supertype?_eq_some hstep
      rw [hmap]
      exact (written_erased hself).ofReference hsimple hself href (mem_involved_of_class? hdecl)
  | next _ hbelow href hstep ih =>
      obtain ⟨decl, hdecl, hmap⟩ := supertype?_eq_some hstep
      rw [hmap]
      exact ih.ofReference hsimple (mem_involved_of_class? hbelow) href
        (mem_involved_of_class? hdecl)

theorem Ancestor.index_lt {supertype : Supertype}
    (hancestor : registry.Ancestor declaring supertype) :
    supertype.id.index < registry.entries.size := by
  have hclass : ∃ decl, registry.class? supertype.id = some decl := by
    cases hancestor with
    | first _ hstep | next _ _ _ hstep =>
        obtain ⟨decl, hdecl, -⟩ := supertype?_eq_some hstep
        exact ⟨decl, hdecl⟩
  obtain ⟨decl, hdecl⟩ := hclass
  obtain ⟨entry, hentry, -⟩ := Option.map_eq_some_iff.mp hdecl
  exact (Array.getElem?_eq_some_iff.mp hentry).1

/-- With simple arguments a declaring class has finitely many ancestors, cyclic or not. -/
theorem finite_ancestors (hsimple : registry.SimpleArguments declaring) :
    {supertype | registry.Ancestor declaring supertype}.Finite := by
  -- A supertype is told from others by its index and by the set of what it binds.
  let traits (supertype : Supertype) : Nat × Set (String × TypeExpr) :=
    (supertype.id.index, {binding | binding ∈ supertype.map.bindings})
  let bindings : Set (String × TypeExpr) :=
    {name | name ∈ registry.paramNames declaring} ×ˢ {type | type ∈ registry.writtenTypes declaring}
  have hbindings : bindings.Finite :=
    (List.finite_toSet (registry.paramNames declaring)).prod
      (List.finite_toSet (registry.writtenTypes declaring))
  refine Set.Finite.of_finite_image (f := traits) ?_ ?_
  · refine ((Set.finite_lt_nat registry.entries.size).prod hbindings.finite_subsets).subset ?_
    rintro _ ⟨supertype, hancestor, rfl⟩
    exact ⟨hancestor.index_lt, fun binding hmem => hancestor.written hsimple binding hmem⟩
  · rintro ⟨⟨first⟩, firstMap⟩ - ⟨⟨second⟩, secondMap⟩ - htraits
    obtain ⟨hindex, hmap⟩ := Prod.mk.inj htraits
    cases hindex
    have hsame : firstMap = secondMap :=
      Substitution.eq_of_mem_iff fun binding => Set.ext_iff.mp hmap binding
    rw [hsame]

end Registry

end DeclCheck
