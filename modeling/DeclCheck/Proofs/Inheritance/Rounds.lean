/-
# DeclCheck.Proofs.Inheritance.Rounds — the search round by round, and what it compares.

`Hierarchy.advance?` is one round of the search's loops: an interface is passed over or looked at,
or the search climbs to the next superclass, or it ends.  A `Progress` also keeps a log of the
supertypes whose methods were compared with the wanted ones.  Every search that ends is such a
sequence of rounds, with the same outcome (`Climbed.runs`).

A supertype is marked as visited in the round in which it is compared, and nothing marked is
compared again.  So no supertype is compared twice, whatever the hierarchy looks like; and among
finitely many ancestors the search comes to an end.
-/
import Mathlib.Logic.Relation
import DeclCheck.Proofs.Inheritance.Ancestors

namespace DeclCheck

namespace Hierarchy

/-! ## Rounds -/

/-- A search under way. -/
structure Progress where
  visited : List Supertype
  /-- The interfaces that stand next. -/
  next : List Supertype
  /-- The superclass to climb to when no interface is left. -/
  parent? : Option Supertype
  /-- The supertypes whose methods were compared with the wanted ones, one entry for each time. -/
  compared : List Supertype
  outcome? : Option SearchOutcome

/-- Compare the methods of a supertype with the wanted ones.  If none agrees, the search goes on
with what stands above it. -/
def compare (hierarchy : Hierarchy) (progress : Progress) (supertype : Supertype)
    (next : List Supertype) (parent? : Option Supertype) : Progress where
  visited := supertype :: progress.visited
  next := next
  parent? := parent?
  compared := supertype :: progress.compared
  outcome? := (hierarchy.overridden? supertype).map .found

/-- One round; there is none after the outcome is known. -/
def advance? (hierarchy : Hierarchy) (progress : Progress) : Option Progress :=
  match progress.outcome?, progress.next, progress.parent? with
  | some _, _, _ => none
  | none, supertype :: rest, parent? =>
    if supertype ∈ progress.visited then some { progress with next := rest }
    else
      some (hierarchy.compare progress supertype (hierarchy.interfaces supertype ++ rest) parent?)
  | none, [], some parent =>
    if parent ∈ progress.visited then some { progress with outcome? := some .exhausted }
    else
      some (hierarchy.compare progress parent (hierarchy.interfaces parent)
        (hierarchy.parent? parent))
  | none, [], none => some { progress with outcome? := some .exhausted }

/-- One round after another. -/
def Runs (hierarchy : Hierarchy) : Progress → Progress → Prop :=
  Relation.ReflTransGen fun before after => hierarchy.advance? before = some after

variable {hierarchy : Hierarchy}

/-- What a round can do. -/
theorem advance?_cases {before after : Progress} (hround : hierarchy.advance? before = some after) :
    (∃ supertype rest, before.next = supertype :: rest ∧ after = { before with next := rest }) ∨
    (∃ supertype rest, before.next = supertype :: rest ∧ supertype ∉ before.visited ∧
      after = hierarchy.compare before supertype (hierarchy.interfaces supertype ++ rest)
        before.parent?) ∨
    (∃ parent, before.parent? = some parent ∧ parent ∉ before.visited ∧
      after = hierarchy.compare before parent (hierarchy.interfaces parent)
        (hierarchy.parent? parent)) ∨
    after = { before with outcome? := some .exhausted } := by
  unfold advance? at hround
  split at hround
  · cases hround
  · next supertype rest _ hnext =>
    split at hround
    · cases hround
      exact .inl ⟨supertype, rest, hnext, rfl⟩
    · next hnew =>
      cases hround
      exact .inr (.inl ⟨supertype, rest, hnext, hnew, rfl⟩)
  · next parent _ _ hparent =>
    split at hround
    · cases hround
      exact .inr (.inr (.inr rfl))
    · next hnew =>
      cases hround
      exact .inr (.inr (.inl ⟨parent, hparent, hnew, rfl⟩))
  · cases hround
    exact .inr (.inr (.inr rfl))

/-! ## What all rounds keep -/

/-- Nothing was compared twice, exactly what was compared is marked as visited, and only allowed
supertypes come up. -/
structure Orderly (Allowed : Supertype → Prop) (progress : Progress) : Prop where
  nodup : progress.compared.Nodup
  marked : progress.visited = progress.compared
  next : ∀ s ∈ progress.next, Allowed s
  parent : ∀ s ∈ progress.parent?, Allowed s
  compared : ∀ s ∈ progress.compared, Allowed s

variable {Allowed : Supertype → Prop} {before after : Progress}

theorem Orderly.compare (horderly : Orderly Allowed before) {supertype : Supertype}
    (hnew : supertype ∉ before.visited) (hallowed : Allowed supertype) {next : List Supertype}
    {parent? : Option Supertype} (hnext : ∀ s ∈ next, Allowed s)
    (hparent : ∀ s ∈ parent?, Allowed s) :
    Orderly Allowed (hierarchy.compare before supertype next parent?) where
  nodup := List.nodup_cons.mpr ⟨horderly.marked ▸ hnew, horderly.nodup⟩
  marked := congrArg (supertype :: ·) horderly.marked
  next := hnext
  parent := hparent
  compared := List.forall_mem_cons.mpr ⟨hallowed, horderly.compared⟩

theorem Orderly.advance (hclosed : hierarchy.ClosedUpward Allowed Allowed)
    (horderly : Orderly Allowed before) (hround : hierarchy.advance? before = some after) :
    Orderly Allowed after := by
  rcases advance?_cases hround with ⟨supertype, rest, hnext, rfl⟩ |
    ⟨supertype, rest, hnext, hnew, rfl⟩ | ⟨parent, hparent, hnew, rfl⟩ | rfl
  · -- An interface that was visited before is passed over.
    have hall := hnext ▸ horderly.next
    exact { horderly with next := fun s hs => hall s (List.mem_cons_of_mem _ hs) }
  · -- An interface is compared, and those above it come before the rest.
    have hall := hnext ▸ horderly.next
    exact horderly.compare hnew (hall _ List.mem_cons_self) (hclosed.onward hall) horderly.parent
  · -- The search climbs.
    have hallowed : Allowed parent := horderly.parent parent hparent
    exact horderly.compare hnew hallowed (fun _ hs => hclosed.ofLevel hallowed hs)
      (fun _ hs => hclosed.parent hallowed hs)
  · exact { horderly with }

theorem Orderly.runs (hclosed : hierarchy.ClosedUpward Allowed Allowed)
    (horderly : Orderly Allowed before) (hruns : hierarchy.Runs before after) :
    Orderly Allowed after := by
  induction hruns with
  | refl => exact horderly
  | tail _ hround ih => exact ih.advance hclosed hround

/-! ## A search that ends is a run -/

/-- Where an interface search of the given outcome leaves the search as a whole. -/
def Progress.Settled (progress : Progress) : SearchOutcome → Prop
  | .found overridden => progress.outcome? = some (.found overridden)
  | .exhausted => progress.outcome? = none ∧ progress.next = []

theorem Searched.runs {visited next last : List Supertype} {outcome : SearchOutcome}
    (hrun : Searched hierarchy visited next outcome last) (parent? : Option Supertype)
    (compared : List Supertype) :
    ∃ final, hierarchy.Runs ⟨visited, next, parent?, compared, none⟩ final ∧
      final.visited = last ∧ final.parent? = parent? ∧ final.Settled outcome := by
  induction hrun generalizing compared with
  | nil => exact ⟨_, .refl, rfl, rfl, rfl, rfl⟩
  | @met visited rest last supertype outcome hmet _ ih =>
      obtain ⟨final, hruns, hfinal⟩ := ih compared
      refine ⟨final, .head ?_ hruns, hfinal⟩
      simp only [advance?, if_pos hmet]
  | @hit visited rest supertype overridden hnew hhit =>
      refine ⟨hierarchy.compare ⟨visited, supertype :: rest, parent?, compared, none⟩ supertype
        (hierarchy.interfaces supertype ++ rest) parent?, .single ?_, rfl, rfl, ?_⟩
      · simp only [advance?, if_neg hnew]
      · simp [Progress.Settled, Hierarchy.compare, hhit]
  | @miss visited rest last supertype outcome hnew hmiss _ ih =>
      obtain ⟨final, hruns, hfinal⟩ := ih (supertype :: compared)
      refine ⟨final, .head ?_ hruns, hfinal⟩
      simp only [advance?, if_neg hnew, Hierarchy.compare, hmiss, Option.map_none]

/-- A climb that ends is a run of rounds to the same outcome, with the same supertypes visited. -/
theorem Climbed.runs {visited interfaces last : List Supertype} {parent? : Option Supertype}
    {outcome : SearchOutcome} (hrun : Climbed hierarchy visited interfaces parent? outcome last)
    (compared : List Supertype) :
    ∃ final, hierarchy.Runs ⟨visited, interfaces, parent?, compared, none⟩ final ∧
      final.visited = last ∧ final.outcome? = some outcome := by
  induction hrun generalizing compared with
  | aside hside =>
      obtain ⟨final, hruns, hlast, -, houtcome⟩ := hside.runs _ compared
      exact ⟨final, hruns, hlast, houtcome⟩
  | top hside =>
      obtain ⟨⟨_, _, _, _, _⟩, hruns, rfl, rfl, rfl, rfl⟩ := hside.runs none compared
      exact ⟨_, hruns.tail rfl, rfl, rfl⟩
  | @met _ _ _ parent hside hmet =>
      obtain ⟨⟨_, _, _, _, _⟩, hruns, rfl, rfl, rfl, rfl⟩ := hside.runs (some parent) compared
      exact ⟨_, hruns.tail (if_pos hmet), rfl, rfl⟩
  | @hit _ _ _ parent overridden hside hnew hhit =>
      obtain ⟨⟨_, _, _, _, _⟩, hruns, rfl, rfl, rfl, rfl⟩ := hside.runs (some parent) compared
      exact ⟨_, hruns.tail (if_neg hnew), rfl, by simp [Hierarchy.compare, hhit]⟩
  | @miss _ _ _ _ parent outcome hside hnew hmiss _ ih =>
      obtain ⟨⟨visited, _, _, logged, _⟩, hruns, rfl, rfl, rfl, rfl⟩ :=
        hside.runs (some parent) compared
      obtain ⟨final, hrunsAbove, hfinal⟩ := ih (parent :: logged)
      have hround : hierarchy.advance? ⟨visited, [], some parent, logged, none⟩ =
          some ⟨parent :: visited, hierarchy.interfaces parent, hierarchy.parent? parent,
            parent :: logged, none⟩ := by
        simp only [advance?, if_neg hnew, Hierarchy.compare, hmiss, Option.map_none]
      exact ⟨final, (hruns.tail hround).trans hrunsAbove, hfinal⟩

end Hierarchy

namespace Registry

/-- A search for what a method overrides, before its first round. -/
def beginSearch (registry : Registry) (declaring : ClassDecl) : Hierarchy.Progress where
  visited := []
  next := registry.interfacesOf declaring (.erased declaring)
  parent? := registry.parentOf? declaring (.erased declaring)
  compared := []
  outcome? := none

theorem orderly_beginSearch (registry : Registry) (declaring : ClassDecl) :
    Hierarchy.Orderly (registry.Ancestor declaring) (registry.beginSearch declaring) where
  nodup := .nil
  marked := rfl
  next _ hs := ancestor_of_mem_interfacesOf hs
  parent _ hs := ancestor_of_mem_parentOf? hs
  compared _ hs := by cases hs

/-- **The search ends and compares nothing twice.**  In every round of a search the supertypes
compared so far are ancestors of the declaring class, each of them once.  With finitely many
ancestors every interface search beside the class or beside one of its ancestors ends, whatever was
visited before it, and so does the search as a whole: its rounds come to its outcome, and what they
compared is what the search has visited.  Simple arguments leave a class with finitely many
ancestors, also in a cyclic hierarchy. -/
theorem searchOverridden_ends_comparing_once (registry : Registry) (declaring : ClassDecl)
    (method : Method) :
    let hierarchy := registry.hierarchy (method.variants (.erased declaring))
    let interfaces := registry.interfacesOf declaring (.erased declaring)
    (∀ progress, hierarchy.Runs (registry.beginSearch declaring) progress →
      progress.compared.Nodup ∧
        ∀ supertype ∈ progress.compared, registry.Ancestor declaring supertype) ∧
    ({supertype | registry.Ancestor declaring supertype}.Finite →
      (∀ visited, (hierarchy.searchInterfaces visited interfaces).isSome) ∧
      (∀ supertype, registry.Ancestor declaring supertype → ∀ visited,
        (hierarchy.searchInterfaces visited (registry.interfacesAbove supertype)).isSome) ∧
      ∃ outcome final, registry.searchOverridden declaring method = some outcome ∧
        hierarchy.climb [] interfaces (registry.parentOf? declaring (.erased declaring)) =
          some (outcome, final.compared) ∧
        hierarchy.Runs (registry.beginSearch declaring) final ∧
        final.outcome? = some outcome) ∧
    (registry.SimpleArguments declaring →
      {supertype | registry.Ancestor declaring supertype}.Finite) := by
  intro hierarchy interfaces
  have hclosed := registry.closedUpward_ancestor declaring (method.variants (.erased declaring))
  have horderly : ∀ progress, hierarchy.Runs (registry.beginSearch declaring) progress →
      Hierarchy.Orderly (registry.Ancestor declaring) progress :=
    fun _ hruns => (registry.orderly_beginSearch declaring).runs hclosed hruns
  refine ⟨fun progress hruns => ?_, fun hfinite => ?_, finite_ancestors⟩
  · exact ⟨(horderly progress hruns).nodup, (horderly progress hruns).compared⟩
  have hall : ∀ s, registry.Ancestor declaring s → s ∈ hfinite.toFinset :=
    fun _ hs => hfinite.mem_toFinset.mpr hs
  have hsearch : ∀ visited next, (∀ s ∈ next, registry.Ancestor declaring s) →
      (hierarchy.searchInterfaces visited next).isSome := by
    intro visited next hnext
    obtain ⟨outcome, last, hrun⟩ :=
      Hierarchy.searchInterfaces_ends hclosed hfinite.toFinset hall visited next hnext
    rw [hrun.eq_some]
    rfl
  refine ⟨?_, ?_, ?_⟩
  · intro visited
    exact hsearch visited _ fun _ hs => ancestor_of_mem_interfacesOf hs
  · intro supertype hancestor visited
    exact hsearch visited _ fun _ hs => hclosed.ofInterface hancestor hs
  · obtain ⟨outcome, last, hrun⟩ := Hierarchy.climb_ends hclosed hfinite.toFinset
      (fun s hs => hall s (hs.elim id id)) [] interfaces
      (registry.parentOf? declaring (.erased declaring))
      (fun _ hs => ancestor_of_mem_interfacesOf hs) (fun _ hs => ancestor_of_mem_parentOf? hs)
    obtain ⟨final, hruns, rfl, houtcome⟩ := hrun.runs []
    have hmarked : final.visited = final.compared := (horderly final hruns).marked
    refine ⟨outcome, final, searchOverridden_eq_some_iff.mpr ⟨_, hrun⟩, ?_, hruns, houtcome⟩
    rw [← hmarked]
    exact hrun.eq_some

end Registry

/-! ## A cycle

`Ring<T>` extends `Band<T>`, which extends `Ring<T>` and implements `Sealed<T>`.  The arguments
stay the same on the way around. -/

namespace Jewellery

/-- The interface `Sealed<T>`. -/
def sealed : ClassDecl where
  name := "Sealed"
  kind := .interface
  typeParams := [⟨"T", []⟩]

/-- `Band<T>` extends `Ring<T>` and implements `Sealed<T>`. -/
def band : ClassDecl where
  name := "Band"
  typeParams := [⟨"T", []⟩]
  superclass := some (.named "Ring" [.variable "T"])
  interfaces := [.named "Sealed" [.variable "T"]]

/-- `Ring<T>` extends `Band<T>`. -/
def ring : ClassDecl where
  name := "Ring"
  typeParams := [⟨"T", []⟩]
  superclass := some (.named "Band" [.variable "T"])

/-- A method that none of them has. -/
def polish : Method where
  name := "polish"
  params := [{ name := "item", type := .variable "T" }]

/-- The interface and the two classes of the cycle. -/
def classes : Registry :=
  ((((∅ : Registry).declare sealed "shop").1.declare band "shop").1.declare ring "shop").1

/-- The arguments in the cycle are simple, so `Ring` has finitely many ancestors, itself among them,
and the search ends without comparing one of them twice. -/
theorem searchOverridden_polish :
    classes.SimpleArguments ring ∧
    {supertype | classes.Ancestor ring supertype}.Finite ∧
    classes.Ancestor ring ⟨⟨2⟩, .erased ring⟩ ∧
    (∃ outcome, classes.searchOverridden ring polish = some outcome) ∧
    ∀ progress, (classes.hierarchy (polish.variants (.erased ring))).Runs
      (classes.beginSearch ring) progress → progress.compared.Nodup := by
  have hsimple : classes.SimpleArguments ring := by decide
  obtain ⟨honce, hends, hfinite⟩ :=
    Registry.searchOverridden_ends_comparing_once classes ring polish
  obtain ⟨-, -, outcome, final, hsearch, -, -, -⟩ := hends (hfinite hsimple)
  have hband : classes.Ancestor ring ⟨⟨1⟩, .erased band⟩ :=
    Registry.ancestor_of_mem_parentOf? (by decide)
  have hring : classes.Ancestor ring ⟨⟨2⟩, .erased ring⟩ :=
    (classes.closedUpward_ancestor ring []).parent hband (by decide)
  exact ⟨hsimple, hfinite hsimple, hring, ⟨outcome, hsearch⟩,
    fun progress hruns => (honce progress hruns).1⟩

end Jewellery

end DeclCheck
