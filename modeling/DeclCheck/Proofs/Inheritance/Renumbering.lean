/-
# DeclCheck.Proofs.Inheritance.Renumbering — the numbers of classes play no part in a search.

The search tells supertypes apart by number, and looks at what it has not met before.  Two
hierarchies *correspond* under a relation that pairs their supertypes off one to one, if what lies
directly above a pair is paired off again and a pair either has the wanted method or lacks it.  A
search of the one is then a search of the other, step by step (`Climbed.corresponds`).  Registries
in which every name has the same class correspond, whatever numbers the classes have.
-/
import Mathlib.Data.List.Forall2
import Mathlib.Data.Option.Basic
import DeclCheck.Proofs.Check.Circular
import DeclCheck.Proofs.Inheritance.Traversal

namespace DeclCheck

namespace Hierarchy

/-! ## Hierarchies that correspond -/

/-- The two hierarchies look alike from every pair of supertypes. -/
structure Corresponds (a b : Hierarchy) (Pair : Supertype → Supertype → Prop) : Prop where
  /-- Supertypes are paired off one to one. -/
  unique : ∀ {s t s' t'}, Pair s t → Pair s' t' → (s = s' ↔ t = t')
  interfaces : ∀ {s t}, Pair s t → List.Forall₂ Pair (a.interfaces s) (b.interfaces t)
  parent? : ∀ {s t}, Pair s t → Option.Rel Pair (a.parent? s) (b.parent? t)
  overridden? : ∀ {s t}, Pair s t → (a.overridden? s).isSome = (b.overridden? t).isSome

variable {a b : Hierarchy} {Pair : Supertype → Supertype → Prop}

namespace Corresponds

theorem mem_iff (hcorresponds : Corresponds a b Pair) {visited visited' : List Supertype}
    (hvisited : List.Forall₂ Pair visited visited') {s t : Supertype} (hpair : Pair s t) :
    s ∈ visited ↔ t ∈ visited' := by
  induction hvisited with
  | nil => simp
  | cons hhead _ ih => rw [List.mem_cons, List.mem_cons, hcorresponds.unique hpair hhead, ih]

theorem exists_overridden? (hcorresponds : Corresponds a b Pair) {s t : Supertype}
    (hpair : Pair s t) {overridden : Overridden} (hhit : a.overridden? s = some overridden) :
    ∃ other, b.overridden? t = some other := by
  rw [← Option.isSome_iff_exists, ← hcorresponds.overridden? hpair, hhit]
  rfl

theorem overridden?_eq_none (hcorresponds : Corresponds a b Pair) {s t : Supertype}
    (hpair : Pair s t) (hmiss : a.overridden? s = none) : b.overridden? t = none := by
  rw [← Option.isSome_eq_false_iff.trans Option.isNone_iff_eq_none,
    ← hcorresponds.overridden? hpair, hmiss]
  rfl

end Corresponds

/-- Both searches found a method, or neither did. -/
inductive SameEnd : SearchOutcome → SearchOutcome → Prop
  | found (first second : Overridden) : SameEnd (.found first) (.found second)
  | exhausted : SameEnd .exhausted .exhausted

theorem Searched.corresponds (hcorresponds : Corresponds a b Pair)
    {visited next last visited' next' : List Supertype} {outcome : SearchOutcome}
    (hrun : Searched a visited next outcome last) (hvisited : List.Forall₂ Pair visited visited')
    (hnext : List.Forall₂ Pair next next') :
    ∃ outcome' last', Searched b visited' next' outcome' last' ∧ SameEnd outcome outcome' ∧
      List.Forall₂ Pair last last' := by
  induction hrun generalizing visited' next' with
  | nil =>
      cases hnext
      exact ⟨_, _, .nil, .exhausted, hvisited⟩
  | met hmet _ ih =>
      cases hnext with
      | cons hhead hrest =>
        obtain ⟨outcome', last', hrun, hend, hlast⟩ := ih hvisited hrest
        exact ⟨_, _, .met ((hcorresponds.mem_iff hvisited hhead).mp hmet) hrun, hend, hlast⟩
  | hit hnew hhit =>
      cases hnext with
      | cons hhead hrest =>
        obtain ⟨other, hother⟩ := hcorresponds.exists_overridden? hhead hhit
        have hnew' := (not_congr (hcorresponds.mem_iff hvisited hhead)).mp hnew
        exact ⟨_, _, .hit hnew' hother, .found _ _, .cons hhead hvisited⟩
  | miss hnew hmiss _ ih =>
      cases hnext with
      | cons hhead hrest =>
        -- What stands next on both sides: the interfaces above the pair, then the rest.
        have honward := List.rel_append (hcorresponds.interfaces hhead) hrest
        obtain ⟨outcome', last', hrun, hend, hlast⟩ := ih (.cons hhead hvisited) honward
        have hnew' := (not_congr (hcorresponds.mem_iff hvisited hhead)).mp hnew
        exact ⟨_, _, .miss hnew' (hcorresponds.overridden?_eq_none hhead hmiss) hrun, hend, hlast⟩

theorem Climbed.corresponds (hcorresponds : Corresponds a b Pair)
    {visited interfaces last visited' interfaces' : List Supertype}
    {parent parent' : Option Supertype} {outcome : SearchOutcome}
    (hrun : Climbed a visited interfaces parent outcome last)
    (hvisited : List.Forall₂ Pair visited visited')
    (hinterfaces : List.Forall₂ Pair interfaces interfaces')
    (hparent : Option.Rel Pair parent parent') :
    ∃ outcome' last', Climbed b visited' interfaces' parent' outcome' last' ∧
      SameEnd outcome outcome' := by
  induction hrun generalizing visited' interfaces' parent' with
  | aside hside =>
      obtain ⟨_, last', hside', hend, -⟩ := hside.corresponds hcorresponds hvisited hinterfaces
      cases hend
      exact ⟨_, _, .aside hside', .found _ _⟩
  | top hside =>
      obtain ⟨_, last', hside', hend, -⟩ := hside.corresponds hcorresponds hvisited hinterfaces
      cases hend
      cases hparent
      exact ⟨_, _, .top hside', .exhausted⟩
  | met hside hmet =>
      obtain ⟨_, last', hside', hend, hlast⟩ := hside.corresponds hcorresponds hvisited hinterfaces
      cases hend
      cases hparent with
      | some hpair =>
        exact ⟨_, _, .met hside' ((hcorresponds.mem_iff hlast hpair).mp hmet), .exhausted⟩
  | hit hside hnew hhit =>
      obtain ⟨_, last', hside', hend, hlast⟩ := hside.corresponds hcorresponds hvisited hinterfaces
      cases hend
      cases hparent with
      | some hpair =>
        obtain ⟨other, hother⟩ := hcorresponds.exists_overridden? hpair hhit
        have hnew' := (not_congr (hcorresponds.mem_iff hlast hpair)).mp hnew
        exact ⟨_, _, .hit hside' hnew' hother, .found _ _⟩
  | miss hside hnew hmiss _ ih =>
      obtain ⟨_, seen', hside', hend, hseen⟩ := hside.corresponds hcorresponds hvisited hinterfaces
      cases hend
      cases hparent with
      | some hpair =>
        obtain ⟨outcome', last', hrun, hend⟩ := ih (.cons hpair hseen)
          (hcorresponds.interfaces hpair) (hcorresponds.parent? hpair)
        have hnew' := (not_congr (hcorresponds.mem_iff hseen hpair)).mp hnew
        exact ⟨_, _, .miss hside' hnew' (hcorresponds.overridden?_eq_none hpair hmiss) hrun, hend⟩

end Hierarchy

/-! ## Registries with the same classes -/

namespace Registry

variable {a b : Registry}

/-- Supertypes at one level whose classes have one name. -/
def Namesakes (a b : Registry) (s t : Supertype) : Prop :=
  s.map = t.map ∧ ∃ name, a.find? name = some s.id ∧ b.find? name = some t.id

theorem eq_of_find? (hconsistent : a.Consistent) {name other : String} {id : ClassId}
    (hname : a.find? name = some id) (hother : a.find? other = some id) : name = other := by
  obtain ⟨entry, hentry, rfl⟩ := exists_entry?_of_find? hconsistent hname
  obtain ⟨same, hsame, rfl⟩ := exists_entry?_of_find? hconsistent hother
  rw [Option.some.inj (hentry.symm.trans hsame)]

/-- In a consistent registry a number stands for one name, so one supertype has one namesake. -/
theorem Namesakes.eq_of_eq (ha : a.Consistent) {s t s' t' : Supertype}
    (hpair : Namesakes a b s t) (hother : Namesakes a b s' t') (hsame : s = s') : t = t' := by
  subst hsame
  obtain ⟨hmap, name, hs, ht⟩ := hpair
  obtain ⟨hmap', name', hs', ht'⟩ := hother
  obtain rfl := eq_of_find? ha hs hs'
  cases t
  cases t'
  cases hmap.symm.trans hmap'
  cases ht.symm.trans ht'
  rfl

theorem Namesakes.flip {s t : Supertype} (hpair : Namesakes a b s t) : Namesakes b a t s := by
  obtain ⟨hmap, name, hs, ht⟩ := hpair
  exact ⟨hmap.symm, name, ht, hs⟩

theorem Namesakes.class?_eq (hclass : a.findClass? = b.findClass?) {s t : Supertype}
    (hpair : Namesakes a b s t) : a.class? s.id = b.class? t.id := by
  obtain ⟨-, name, hs, ht⟩ := hpair
  have hsame := congrFun hclass name
  rw [findClass?, findClass?, hs, ht] at hsame
  exact hsame

theorem supertype?_of_findClass? {registry : Registry} {reference : TypeExpr} {name : String}
    (hname : reference.className? = some name) (outer : Substitution) {decl : ClassDecl}
    (hclass : registry.findClass? name = some decl) :
    ∃ id, registry.find? name = some id ∧
      registry.supertype? reference outer = some ⟨id, .ofReference reference decl outer⟩ := by
  obtain ⟨id, hfind, hdecl⟩ := Option.bind_eq_some_iff.mp hclass
  exact ⟨id, hfind, by simp [supertype?, hname, hfind, hdecl]⟩

theorem supertype?_eq_none {registry : Registry} {reference : TypeExpr} {name : String}
    (hname : reference.className? = some name) (outer : Substitution)
    (hclass : registry.findClass? name = none) : registry.supertype? reference outer = none := by
  unfold findClass? at hclass
  unfold supertype?
  cases hfind : registry.find? name with
  | none => simp [hname, hfind]
  | some id =>
      rw [hfind, Option.bind_some] at hclass
      simp [hname, hfind, hclass]

theorem rel_supertype? (hclass : a.findClass? = b.findClass?) (reference : TypeExpr)
    (outer : Substitution) :
    Option.Rel (Namesakes a b) (a.supertype? reference outer) (b.supertype? reference outer) := by
  cases hname : reference.className? with
  | none =>
      simp only [supertype?, hname]
      exact .none
  | some name =>
      cases hdecl : a.findClass? name with
      | none =>
          rw [supertype?_eq_none hname outer hdecl,
            supertype?_eq_none hname outer (hclass ▸ hdecl)]
          exact .none
      | some decl =>
          obtain ⟨idA, hfindA, hsuperA⟩ := supertype?_of_findClass? hname outer hdecl
          obtain ⟨idB, hfindB, hsuperB⟩ := supertype?_of_findClass? hname outer (hclass ▸ hdecl)
          rw [hsuperA, hsuperB]
          exact .some ⟨rfl, name, hfindA, hfindB⟩

theorem rel_interfacesOf (hclass : a.findClass? = b.findClass?) (decl : ClassDecl)
    (map : Substitution) :
    List.Forall₂ (Namesakes a b) (a.interfacesOf decl map) (b.interfacesOf decl map) := by
  refine List.rel_filterMap ?_ (List.forall₂_same.mpr fun _ _ => rfl)
  rintro reference _ rfl
  exact rel_supertype? hclass reference map

theorem rel_parentOf? (hclass : a.findClass? = b.findClass?) (decl : ClassDecl)
    (map : Substitution) :
    Option.Rel (Namesakes a b) (a.parentOf? decl map) (b.parentOf? decl map) := by
  unfold parentOf?
  cases decl.parent? with
  | none => exact .none
  | some reference => exact rel_supertype? hclass reference map

theorem hierarchy_corresponds (ha : a.Consistent) (hb : b.Consistent)
    (hclass : a.findClass? = b.findClass?) (wanted : List Signature) :
    (a.hierarchy wanted).Corresponds (b.hierarchy wanted) (Namesakes a b) where
  unique hpair hother := ⟨hpair.eq_of_eq ha hother, hpair.flip.eq_of_eq hb hother.flip⟩
  interfaces {s t} hpair := by
    show List.Forall₂ _ (a.interfacesAbove s) (b.interfacesAbove t)
    unfold interfacesAbove
    rw [hpair.class?_eq hclass, hpair.1]
    cases b.class? t.id with
    | none => exact .nil
    | some decl => exact rel_interfacesOf hclass decl t.map
  parent? {s t} hpair := by
    show Option.Rel _ (a.parentAbove? s) (b.parentAbove? t)
    unfold parentAbove?
    rw [hpair.class?_eq hclass, hpair.1]
    cases b.class? t.id with
    | none => exact .none
    | some decl => exact rel_parentOf? hclass decl t.map
  overridden? {s t} hpair := by
    show (a.overriddenIn? wanted s).isSome = (b.overriddenIn? wanted t).isSome
    unfold overriddenIn?
    rw [hpair.class?_eq hclass, hpair.1]
    cases b.class? t.id with
    | none => rfl
    | some decl =>
        simp only [Option.bind_eq_bind, Option.bind_some]
        cases decl.methods.find? _ <;> rfl

/-- One half of `searchOverridden_congr`. -/
theorem searchOverridden_exhausted (ha : a.Consistent) (hb : b.Consistent)
    (hclass : a.findClass? = b.findClass?) {declaring : ClassDecl} {method : Method}
    (hend : a.searchOverridden declaring method = some .exhausted) :
    b.searchOverridden declaring method = some .exhausted := by
  obtain ⟨⟨outcome, last⟩, hclimb, rfl⟩ := Option.map_eq_some_iff.mp hend
  obtain ⟨outcome', last', hrun, hsame⟩ :=
    (Hierarchy.climb_eq_some_iff.mp hclimb).corresponds (hierarchy_corresponds ha hb hclass _) .nil
      (rel_interfacesOf hclass declaring _) (rel_parentOf? hclass declaring _)
  cases hsame
  exact Option.map_eq_some_iff.mpr ⟨_, Hierarchy.climb_eq_some_iff.mpr hrun, rfl⟩

/-- Registries in which every name has the same class are searched alike. -/
theorem searchOverridden_congr (ha : a.Consistent) (hb : b.Consistent)
    (hclass : a.findClass? = b.findClass?) (declaring : ClassDecl) (method : Method) :
    a.searchOverridden declaring method = some .exhausted ↔
      b.searchOverridden declaring method = some .exhausted :=
  ⟨searchOverridden_exhausted ha hb hclass, searchOverridden_exhausted hb ha hclass.symm⟩

end Registry

end DeclCheck
