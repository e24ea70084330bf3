/-
# DeclCheck.Proofs.Inheritance.Overriding — the search decides whether a method overrides.

The supertypes of a class are given here by rules, without any search.  *Superclass levels* are what
one reaches by going from superclass to superclass; *interfaces above* are what one reaches from the
class or from one of its levels by one or more references to interfaces.  The declaring class itself
is none of them, unless the hierarchy leads back to it.

Every answer of the search comes from such a supertype.  Conversely, if there are finitely many of
them and no superclass level is also an interface above, the search finds a method whenever one of
them has it, and otherwise ends without one.  A class named both after `extends` and among the
interfaces breaks the second condition: it is then met as an interface, and its superclasses are not
climbed to.
-/
import Mathlib.Data.List.Forall2
import Mathlib.Data.Set.Finite.Basic
import DeclCheck.Proofs.Inheritance.Traversal
import DeclCheck.Registry.Register

namespace DeclCheck

/-! ## Signatures that agree -/

theorem Signature.agrees_iff (a b : Signature) :
    a.agrees b = true ↔
      a.name = b.name ∧ List.Forall₂ (fun x y => x.erasure = y.erasure) a.params b.params := by
  have hpositions : a.params.map TypeExpr.erasure = b.params.map TypeExpr.erasure ↔
      List.Forall₂ (fun x y => x.erasure = y.erasure) a.params b.params := by
    rw [← List.forall₂_eq_eq_eq, List.forall₂_map_left_iff, List.forall₂_map_right_iff]
  simp [agrees, hpositions]

theorem Method.name_of_mem_variants {method : Method} {map : Substitution} {variant : Signature}
    (hvariant : variant ∈ method.variants map) : variant.name = method.name := by
  obtain ⟨dropped, -, rfl⟩ := List.mem_map.mp hvariant
  rfl

namespace Registry

variable {registry : Registry} {declaring : ClassDecl}

/-! ## Steps up -/

theorem mem_interfacesOf {decl : ClassDecl} {map : Substitution} {above : Supertype} :
    above ∈ registry.interfacesOf decl map ↔
      ∃ reference ∈ decl.interfaces, registry.supertype? reference map = some above :=
  List.mem_filterMap

theorem mem_interfacesAbove {supertype above : Supertype} :
    above ∈ registry.interfacesAbove supertype ↔
      ∃ decl, registry.class? supertype.id = some decl ∧
        ∃ reference ∈ decl.interfaces,
          registry.supertype? reference supertype.map = some above := by
  unfold interfacesAbove
  cases registry.class? supertype.id with
  | none => simp
  | some decl => simp [mem_interfacesOf]

theorem parentOf?_eq_some {decl : ClassDecl} {map : Substitution} {above : Supertype} :
    registry.parentOf? decl map = some above ↔
      ∃ reference, decl.parent? = some reference ∧
        registry.supertype? reference map = some above :=
  Option.bind_eq_some_iff

theorem parentAbove?_eq_some {supertype above : Supertype} :
    registry.parentAbove? supertype = some above ↔
      ∃ decl, registry.class? supertype.id = some decl ∧
        ∃ reference, decl.parent? = some reference ∧
          registry.supertype? reference supertype.map = some above := by
  simp only [parentAbove?, Option.bind_eq_some_iff, parentOf?_eq_some]

/-! ## Supertypes by rules -/

/-- The levels above a declaring class, from superclass to superclass.  The class itself is read
with its type parameters erased. -/
inductive SuperclassLevel (registry : Registry) (declaring : ClassDecl) : Supertype → Prop
  | first {reference : TypeExpr} {level : Supertype} :
      declaring.parent? = some reference →
      registry.supertype? reference (.erased declaring) = some level →
      SuperclassLevel registry declaring level
  | next {below level : Supertype} {decl : ClassDecl} {reference : TypeExpr} :
      SuperclassLevel registry declaring below → registry.class? below.id = some decl →
      decl.parent? = some reference → registry.supertype? reference below.map = some level →
      SuperclassLevel registry declaring level

/-- What references to interfaces lead to, from the declaring class or from one of its levels. -/
inductive InterfaceAbove (registry : Registry) (declaring : ClassDecl) : Supertype → Prop
  | ofDeclaring {reference : TypeExpr} {interface : Supertype} :
      reference ∈ declaring.interfaces →
      registry.supertype? reference (.erased declaring) = some interface →
      InterfaceAbove registry declaring interface
  | ofLevel {level interface : Supertype} {decl : ClassDecl} {reference : TypeExpr} :
      SuperclassLevel registry declaring level → registry.class? level.id = some decl →
      reference ∈ decl.interfaces → registry.supertype? reference level.map = some interface →
      InterfaceAbove registry declaring interface
  | ofInterface {below interface : Supertype} {decl : ClassDecl} {reference : TypeExpr} :
      InterfaceAbove registry declaring below → registry.class? below.id = some decl →
      reference ∈ decl.interfaces → registry.supertype? reference below.map = some interface →
      InterfaceAbove registry declaring interface

/-- A supertype of the declaring class, of either kind. -/
def IsAbove (registry : Registry) (declaring : ClassDecl) (supertype : Supertype) : Prop :=
  registry.SuperclassLevel declaring supertype ∨ registry.InterfaceAbove declaring supertype

theorem closedUpward (registry : Registry) (declaring : ClassDecl) (wanted : List Signature) :
    (registry.hierarchy wanted).ClosedUpward (registry.SuperclassLevel declaring)
      (registry.InterfaceAbove declaring) where
  parent hlevel hparent := by
    obtain ⟨decl, hdecl, reference, href, hstep⟩ := parentAbove?_eq_some.mp hparent
    exact .next hlevel hdecl href hstep
  ofLevel hlevel hmem := by
    obtain ⟨decl, hdecl, reference, href, hstep⟩ := mem_interfacesAbove.mp hmem
    exact .ofLevel hlevel hdecl href hstep
  ofInterface hinterface hmem := by
    obtain ⟨decl, hdecl, reference, href, hstep⟩ := mem_interfacesAbove.mp hmem
    exact .ofInterface hinterface hdecl href hstep

theorem interfaceAbove_of_mem {interface : Supertype}
    (hmem : interface ∈ registry.interfacesOf declaring (.erased declaring)) :
    registry.InterfaceAbove declaring interface := by
  obtain ⟨reference, href, hstep⟩ := mem_interfacesOf.mp hmem
  exact .ofDeclaring href hstep

theorem superclassLevel_of_eq_some {level : Supertype}
    (hparent : registry.parentOf? declaring (.erased declaring) = some level) :
    registry.SuperclassLevel declaring level := by
  obtain ⟨reference, href, hstep⟩ := parentOf?_eq_some.mp hparent
  exact .first href hstep

/-! ## Methods that are overridden -/

/-- A supertype has a method that `method` overrides: `candidate` has the same name, and seen from
the supertype's level its parameters erase to those of one of the method's variants. -/
def Overrides (registry : Registry) (declaring : ClassDecl) (method : Method)
    (supertype : Supertype) (candidate : Method) : Prop :=
  (∃ decl, registry.class? supertype.id = some decl ∧
    candidate ∈ decl.methodsNamed method.name) ∧
  ∃ variant ∈ method.variants (.erased declaring),
    List.Forall₂ (fun x y => x.erasure = y.erasure) variant.params
      (Signature.ofMethodAt candidate supertype.map).params

theorem any_agrees_iff {method candidate : Method} {map level : Substitution} :
    (method.variants map).any (·.agrees (.ofMethodAt candidate level)) = true ↔
      candidate.name = method.name ∧ ∃ variant ∈ method.variants map,
        List.Forall₂ (fun x y => x.erasure = y.erasure) variant.params
          (Signature.ofMethodAt candidate level).params := by
  simp only [List.any_eq_true, Signature.agrees_iff]
  constructor
  · rintro ⟨variant, hvariant, hname, hparams⟩
    rw [Method.name_of_mem_variants hvariant] at hname
    exact ⟨hname.symm, variant, hvariant, hparams⟩
  · rintro ⟨hname, variant, hvariant, hparams⟩
    refine ⟨variant, hvariant, ?_, hparams⟩
    rw [Method.name_of_mem_variants hvariant]
    exact hname.symm

theorem overrides_of_overriddenIn? {method : Method} {supertype : Supertype}
    {overridden : Overridden}
    (hhit : registry.overriddenIn? (method.variants (.erased declaring)) supertype =
      some overridden) :
    ∃ candidate, registry.Overrides declaring method supertype candidate ∧
      overridden = ⟨supertype.id, candidate.descriptor⟩ := by
  simp only [overriddenIn?, Option.bind_eq_bind, Option.bind_eq_some_iff, Option.pure_def,
    Option.some.injEq] at hhit
  obtain ⟨decl, hdecl, candidate, hfind, rfl⟩ := hhit
  have hany := List.find?_some hfind
  obtain ⟨hname, hagrees⟩ := any_agrees_iff.mp hany
  have hmem : candidate ∈ decl.methodsNamed method.name := by
    simp [ClassDecl.methodsNamed, List.mem_of_find?_eq_some hfind, hname]
  exact ⟨candidate, ⟨⟨decl, hdecl, hmem⟩, hagrees⟩, rfl⟩

theorem not_overrides_of_overriddenIn? {method candidate : Method} {supertype : Supertype}
    (hmiss : registry.overriddenIn? (method.variants (.erased declaring)) supertype = none) :
    ¬ registry.Overrides declaring method supertype candidate := by
  rintro ⟨⟨decl, hdecl, hmem⟩, hagrees⟩
  obtain ⟨hmethod, hname⟩ : candidate ∈ decl.methods ∧ candidate.name = method.name := by
    simpa [ClassDecl.methodsNamed] using hmem
  simp only [overriddenIn?, hdecl, Option.bind_eq_bind, Option.bind_some, Option.bind_eq_none_iff,
    Option.pure_def, reduceCtorEq, imp_false] at hmiss
  cases hfind : decl.methods.find? fun candidate =>
      (method.variants (.erased declaring)).any
        (·.agrees (.ofMethodAt candidate supertype.map)) with
  | some found => exact hmiss found hfind
  | none =>
      have hnone := List.find?_eq_none.mp hfind candidate hmethod
      exact hnone (any_agrees_iff.mpr ⟨hname, hagrees⟩)

/-! ## The search and the rules -/

/-- Nothing above the declaring class is left out by a climb that finds nothing. -/
theorem mem_of_isAbove {wanted : List Signature} {last : List Supertype}
    (hapart : ∀ s, registry.SuperclassLevel declaring s → ¬ registry.InterfaceAbove declaring s)
    (hrun : (registry.hierarchy wanted).Climbed []
      (registry.interfacesOf declaring (.erased declaring))
      (registry.parentOf? declaring (.erased declaring)) .exhausted last) :
    (∀ s ∈ last, registry.overriddenIn? wanted s = none) ∧
      ∀ s, registry.IsAbove declaring s → s ∈ last := by
  obtain ⟨hcovers, hparents, -, hinterfaces, hparent⟩ :=
    hrun.covers (registry.closedUpward declaring wanted) hapart
      (fun s hs => interfaceAbove_of_mem hs) (fun s hs => superclassLevel_of_eq_some hs) rfl
      ⟨by simp, by simp⟩ (by simp [Hierarchy.CoversParents])
  have hlevels : ∀ s, registry.SuperclassLevel declaring s → s ∈ last := by
    intro s hs
    induction hs with
    | first href hstep => exact hparent _ (parentOf?_eq_some.mpr ⟨_, href, hstep⟩)
    | next hbelow hdecl href hstep ih =>
        have hup := parentAbove?_eq_some.mpr ⟨_, hdecl, _, href, hstep⟩
        simpa using hparents _ ih hbelow _ hup
  refine ⟨hcovers.missed, fun s hs => ?_⟩
  rcases hs with hs | hs
  · exact hlevels s hs
  · induction hs with
    | ofDeclaring href hstep => exact hinterfaces (mem_interfacesOf.mpr ⟨_, href, hstep⟩)
    | ofLevel hlevel hdecl href hstep =>
        exact hcovers.interfaces_mem (hlevels _ hlevel)
          (mem_interfacesAbove.mpr ⟨_, hdecl, _, href, hstep⟩)
    | ofInterface _ hdecl href hstep ih =>
        exact hcovers.interfaces_mem ih (mem_interfacesAbove.mpr ⟨_, hdecl, _, href, hstep⟩)

theorem exists_climbed (wanted : List Signature)
    (hfinite : {s | registry.IsAbove declaring s}.Finite) :
    ∃ outcome last, (registry.hierarchy wanted).Climbed []
      (registry.interfacesOf declaring (.erased declaring))
      (registry.parentOf? declaring (.erased declaring)) outcome last :=
  Hierarchy.climb_ends (registry.closedUpward declaring wanted) hfinite.toFinset
    (fun _ hs => hfinite.mem_toFinset.mpr hs) [] _ _ (fun _ hs => interfaceAbove_of_mem hs)
    (fun _ hs => superclassLevel_of_eq_some hs)

theorem searchOverridden_eq_some_iff {method : Method} {outcome : SearchOutcome} :
    registry.searchOverridden declaring method = some outcome ↔
      ∃ last, (registry.hierarchy (method.variants (.erased declaring))).Climbed []
        (registry.interfacesOf declaring (.erased declaring))
        (registry.parentOf? declaring (.erased declaring)) outcome last := by
  simp [searchOverridden, ← Hierarchy.climb_eq_some_iff]

/-- **The search is exact.**  What it finds is a method of a supertype that the searched method
overrides, with that method's descriptor.  If there are finitely many supertypes and no superclass
level is also an interface above, it finds one whenever there is one, and ends without one
otherwise. -/
theorem searchOverridden_sound_complete (registry : Registry) (declaring : ClassDecl)
    (method : Method) :
    (∀ overridden, registry.searchOverridden declaring method = some (.found overridden) →
      ∃ supertype candidate, registry.IsAbove declaring supertype ∧
        supertype.id = overridden.owner ∧
        registry.Overrides declaring method supertype candidate ∧
        candidate.descriptor = overridden.descriptor) ∧
    ({supertype | registry.IsAbove declaring supertype}.Finite →
      (∀ supertype, registry.SuperclassLevel declaring supertype →
        ¬ registry.InterfaceAbove declaring supertype) →
      ((∃ supertype candidate, registry.IsAbove declaring supertype ∧
          registry.Overrides declaring method supertype candidate) →
        ∃ overridden, registry.searchOverridden declaring method = some (.found overridden)) ∧
      ((¬ ∃ supertype candidate, registry.IsAbove declaring supertype ∧
          registry.Overrides declaring method supertype candidate) →
        registry.searchOverridden declaring method = some .exhausted)) := by
  have hsound : ∀ overridden,
      registry.searchOverridden declaring method = some (.found overridden) →
      ∃ supertype candidate, registry.IsAbove declaring supertype ∧
        supertype.id = overridden.owner ∧
        registry.Overrides declaring method supertype candidate ∧
        candidate.descriptor = overridden.descriptor := by
    intro overridden hfound
    obtain ⟨last, hrun⟩ := searchOverridden_eq_some_iff.mp hfound
    obtain ⟨supertype, habove, hhit⟩ := hrun.found (registry.closedUpward declaring _)
      (fun _ hs => interfaceAbove_of_mem hs) (fun _ hs => superclassLevel_of_eq_some hs) rfl
    obtain ⟨candidate, hoverrides, rfl⟩ := overrides_of_overriddenIn? hhit
    exact ⟨supertype, candidate, habove, rfl, hoverrides, rfl⟩
  refine ⟨hsound, fun hfinite hapart => ?_⟩
  obtain ⟨outcome, last, hrun⟩ := exists_climbed (method.variants (.erased declaring)) hfinite
  have hsearch := searchOverridden_eq_some_iff.mpr ⟨last, hrun⟩
  cases outcome with
  | found overridden =>
      refine ⟨fun _ => ⟨overridden, hsearch⟩, fun hnone => ?_⟩
      obtain ⟨supertype, candidate, habove, -, hoverrides, -⟩ := hsound overridden hsearch
      exact absurd ⟨supertype, candidate, habove, hoverrides⟩ hnone
  | exhausted =>
      obtain ⟨hmissed, hmem⟩ := mem_of_isAbove hapart hrun
      refine ⟨?_, fun _ => hsearch⟩
      rintro ⟨supertype, candidate, habove, hoverrides⟩
      have hmiss := hmissed supertype (hmem supertype habove)
      exact absurd hoverrides (not_overrides_of_overriddenIn? hmiss)

end Registry

/-! ## A small hierarchy

`Word` extends `Ordered<Text>`, and `Ordered<U>` implements `Comparison<U>`, whose `compare` takes a
`U`: the method is found two steps up, by way of two substitutions. -/

namespace Lexicon

/-- `Comparison<T>` with `compare(T other)`. -/
def comparison : ClassDecl where
  name := "Comparison"
  kind := .interface
  typeParams := [⟨"T", []⟩]
  methods := [{ name := "compare", params := [{ name := "other", type := .variable "T" }] }]

/-- `Ordered<U>` implements `Comparison<U>`. -/
def ordered : ClassDecl where
  name := "Ordered"
  typeParams := [⟨"U", []⟩]
  interfaces := [.named "Comparison" [.variable "U"]]

/-- `Word` extends `Ordered<Text>`. -/
def word : ClassDecl where
  name := "Word"
  superclass := some (.named "Ordered" [.plain "Text"])

/-- `compare(Text that)`, which `Word` declares. -/
def compareText : Method where
  name := "compare"
  params := [{ name := "that", type := .plain "Text" }]

/-- The two supertypes of `Word`, in order of declaration. -/
def classes : Registry :=
  (((∅ : Registry).declare comparison "library").1.declare ordered "library").1

/-- The level of `Ordered<Text>`. -/
def orderedText : Supertype := ⟨⟨1⟩, .ofList [("U", .plain "Text")]⟩

/-- The level of `Comparison<Text>`. -/
def comparisonText : Supertype := ⟨⟨0⟩, .ofList [("T", .plain "Text")]⟩

theorem superclassLevel_word {s : Supertype} (hlevel : classes.SuperclassLevel word s) :
    s = orderedText := by
  induction hlevel with
  | first href hstep =>
      have hparent := Registry.parentOf?_eq_some.mpr ⟨_, href, hstep⟩
      rw [show classes.parentOf? word (.erased word) = some orderedText by decide] at hparent
      exact (Option.some.inj hparent).symm
  | next _ hdecl href hstep ih =>
      subst ih
      have hparent := Registry.parentAbove?_eq_some.mpr ⟨_, hdecl, _, href, hstep⟩
      rw [show classes.parentAbove? orderedText = none by decide] at hparent
      cases hparent

theorem interfaceAbove_word {s : Supertype} (hinterface : classes.InterfaceAbove word s) :
    s = comparisonText := by
  induction hinterface with
  | ofDeclaring href hstep =>
      have hmem := Registry.mem_interfacesOf.mpr ⟨_, href, hstep⟩
      rw [show classes.interfacesOf word (.erased word) = [] by decide] at hmem
      cases hmem
  | ofLevel hlevel hdecl href hstep =>
      have hmem := Registry.mem_interfacesAbove.mpr ⟨_, hdecl, _, href, hstep⟩
      rw [superclassLevel_word hlevel,
        show classes.interfacesAbove orderedText = [comparisonText] by decide] at hmem
      exact List.mem_singleton.mp hmem
  | ofInterface _ hdecl href hstep ih =>
      subst ih
      have hmem := Registry.mem_interfacesAbove.mpr ⟨_, hdecl, _, href, hstep⟩
      rw [show classes.interfacesAbove comparisonText = [] by decide] at hmem
      cases hmem

theorem isAbove_comparisonText : classes.IsAbove word comparisonText := by
  have hlevel : classes.SuperclassLevel word orderedText :=
    Registry.superclassLevel_of_eq_some (by decide)
  have hmem : comparisonText ∈ classes.interfacesAbove orderedText := by decide
  exact .inr ((classes.closedUpward word []).ofLevel hlevel hmem)

/-- `Word` has two supertypes, one of each kind, and the search finds `compare` at the interface. -/
theorem searchOverridden_compareText :
    {s | classes.IsAbove word s}.Finite ∧
    (∀ s, classes.SuperclassLevel word s → ¬ classes.InterfaceAbove word s) ∧
    ∃ overridden, classes.searchOverridden word compareText = some (.found overridden) := by
  have hfinite : {s | classes.IsAbove word s}.Finite := by
    refine (Set.toFinite {orderedText, comparisonText}).subset ?_
    rintro s (hlevel | hinterface)
    · exact .inl (superclassLevel_word hlevel)
    · exact .inr (interfaceAbove_word hinterface)
  have hapart : ∀ s, classes.SuperclassLevel word s → ¬ classes.InterfaceAbove word s := by
    intro s hlevel hinterface
    have hsame := (superclassLevel_word hlevel).symm.trans (interfaceAbove_word hinterface)
    exact absurd hsame (by decide)
  have hoverrides : ∃ candidate,
      classes.Overrides word compareText comparisonText candidate := by
    have hhit : classes.overriddenIn? (compareText.variants (.erased word)) comparisonText =
        some ⟨⟨0⟩, "void compare(T)"⟩ := by decide
    obtain ⟨candidate, hcandidate, -⟩ := Registry.overrides_of_overriddenIn? hhit
    exact ⟨candidate, hcandidate⟩
  obtain ⟨candidate, hcandidate⟩ := hoverrides
  obtain ⟨-, hcomplete⟩ := Registry.searchOverridden_sound_complete classes word compareText
  have hexact := hcomplete hfinite hapart
  exact ⟨hfinite, hapart, hexact.1 ⟨comparisonText, candidate, isAbove_comparisonText, hcandidate⟩⟩

end Lexicon

end DeclCheck
