/-
# DeclCheck.Proofs.Inheritance.Traversal — what the upward search looks at.

`searchInterfaces` and `climb` are least solutions of their equations.  `Searched` and `Climbed` are
the same searches as relations, one rule for each way a step can go, and hold exactly when the
functions give that answer (`Searched.of_eq_some` and `Searched.eq_some`, `climb_eq_some_iff`).
Three facts follow for any hierarchy, by induction on the rules.

* What is found was found at a supertype above the start (`Climbed.found`).
* When nothing is found, everything above the start was looked at, provided that no superclass level
  is also an interface (`Climbed.covers`).  A superclass that was already met as an interface ends
  the climb, and what lies above it as a class is then left out.
* A search above which there are finitely many supertypes has an end (`climb_ends`).

The two kinds of supertypes are predicates here, `Level` for superclass levels and `Interface` for
what interfaces lead to; all that counts is that they are closed under going up.
-/
import Mathlib.Data.Finset.Card
import DeclCheck.Inheritance.Search

namespace DeclCheck

namespace Hierarchy

variable {hierarchy : Hierarchy}

/-! ## The searches as relations -/

/-- An interface search from `visited` and `next` that ends with an outcome and with `last` as the
supertypes looked at. -/
inductive Searched (hierarchy : Hierarchy) :
    List Supertype → List Supertype → SearchOutcome → List Supertype → Prop
  | nil {visited : List Supertype} : Searched hierarchy visited [] .exhausted visited
  | met {visited rest last : List Supertype} {supertype : Supertype} {outcome : SearchOutcome} :
      supertype ∈ visited → Searched hierarchy visited rest outcome last →
      Searched hierarchy visited (supertype :: rest) outcome last
  | hit {visited rest : List Supertype} {supertype : Supertype} {overridden : Overridden} :
      supertype ∉ visited → hierarchy.overridden? supertype = some overridden →
      Searched hierarchy visited (supertype :: rest) (.found overridden) (supertype :: visited)
  | miss {visited rest last : List Supertype} {supertype : Supertype} {outcome : SearchOutcome} :
      supertype ∉ visited → hierarchy.overridden? supertype = none →
      Searched hierarchy (supertype :: visited) (hierarchy.interfaces supertype ++ rest) outcome
        last →
      Searched hierarchy visited (supertype :: rest) outcome last

theorem Searched.of_eq_some {visited next last : List Supertype} {outcome : SearchOutcome}
    (hend : hierarchy.searchInterfaces visited next = some (outcome, last)) :
    Searched hierarchy visited next outcome last := by
  refine searchInterfaces.partial_correctness hierarchy
    (fun visited next answer => Searched hierarchy visited next answer.1 answer.2) ?_ visited next
    (outcome, last) hend
  intro search ih visited next answer hstep
  cases next with
  | nil =>
      cases hstep
      exact .nil
  | cons supertype rest =>
      by_cases hmet : supertype ∈ visited
      · simp only [if_pos hmet] at hstep
        exact .met hmet (ih _ _ _ hstep)
      · simp only [if_neg hmet] at hstep
        cases hfound : hierarchy.overridden? supertype with
        | some overridden =>
            rw [hfound] at hstep
            cases hstep
            exact .hit hmet hfound
        | none =>
            rw [hfound] at hstep
            exact .miss hmet hfound (ih _ _ _ hstep)

theorem Searched.eq_some {visited next last : List Supertype} {outcome : SearchOutcome}
    (hrun : Searched hierarchy visited next outcome last) :
    hierarchy.searchInterfaces visited next = some (outcome, last) := by
  induction hrun with
  | nil => rw [searchInterfaces]
  | met hmet _ ih => rw [searchInterfaces, if_pos hmet, ih]
  | hit hnew hhit => rw [searchInterfaces, if_neg hnew, hhit]
  | miss hnew hmiss _ ih => rw [searchInterfaces, if_neg hnew, hmiss, ih]

/-- A climb that starts beside the given interfaces and below the given superclass, and ends. -/
inductive Climbed (hierarchy : Hierarchy) :
    List Supertype → List Supertype → Option Supertype → SearchOutcome → List Supertype → Prop
  | aside {visited interfaces last : List Supertype} {parent? : Option Supertype}
      {overridden : Overridden} :
      Searched hierarchy visited interfaces (.found overridden) last →
      Climbed hierarchy visited interfaces parent? (.found overridden) last
  | top {visited interfaces last : List Supertype} :
      Searched hierarchy visited interfaces .exhausted last →
      Climbed hierarchy visited interfaces none .exhausted last
  | met {visited interfaces last : List Supertype} {parent : Supertype} :
      Searched hierarchy visited interfaces .exhausted last → parent ∈ last →
      Climbed hierarchy visited interfaces (some parent) .exhausted last
  | hit {visited interfaces seen : List Supertype} {parent : Supertype} {overridden : Overridden} :
      Searched hierarchy visited interfaces .exhausted seen → parent ∉ seen →
      hierarchy.overridden? parent = some overridden →
      Climbed hierarchy visited interfaces (some parent) (.found overridden) (parent :: seen)
  | miss {visited interfaces seen last : List Supertype} {parent : Supertype}
      {outcome : SearchOutcome} :
      Searched hierarchy visited interfaces .exhausted seen → parent ∉ seen →
      hierarchy.overridden? parent = none →
      Climbed hierarchy (parent :: seen) (hierarchy.interfaces parent) (hierarchy.parent? parent)
        outcome last →
      Climbed hierarchy visited interfaces (some parent) outcome last

theorem Climbed.of_eq_some {visited interfaces last : List Supertype}
    {parent? : Option Supertype} {outcome : SearchOutcome}
    (hend : hierarchy.climb visited interfaces parent? = some (outcome, last)) :
    Climbed hierarchy visited interfaces parent? outcome last := by
  refine climb.partial_correctness hierarchy
    (fun visited interfaces parent? answer =>
      Climbed hierarchy visited interfaces parent? answer.1 answer.2)
    ?_ visited interfaces parent? (outcome, last) hend
  intro climb ih visited interfaces parent? answer hstep
  cases hside : hierarchy.searchInterfaces visited interfaces with
  | none => simp [hside] at hstep
  | some side =>
      obtain ⟨_ | _, seen⟩ := side
      · rw [hside] at hstep
        cases hstep
        exact .aside (.of_eq_some hside)
      · simp only [hside] at hstep
        have hsearched : Searched hierarchy visited interfaces .exhausted seen :=
          .of_eq_some hside
        cases parent? with
        | none =>
            cases hstep
            exact .top hsearched
        | some parent =>
            by_cases hmet : parent ∈ seen
            · simp only [if_pos hmet] at hstep
              cases hstep
              exact .met hsearched hmet
            · simp only [if_neg hmet] at hstep
              cases hfound : hierarchy.overridden? parent with
              | some overridden =>
                  rw [hfound] at hstep
                  cases hstep
                  exact .hit hsearched hmet hfound
              | none =>
                  rw [hfound] at hstep
                  exact .miss hsearched hmet hfound (ih _ _ _ _ hstep)

theorem Climbed.eq_some {visited interfaces last : List Supertype}
    {parent? : Option Supertype} {outcome : SearchOutcome}
    (hrun : Climbed hierarchy visited interfaces parent? outcome last) :
    hierarchy.climb visited interfaces parent? = some (outcome, last) := by
  induction hrun with
  | aside hside => rw [climb, hside.eq_some]
  | top hside => rw [climb, hside.eq_some]
  | met hside hmet =>
      rw [climb, hside.eq_some]
      exact if_pos hmet
  | hit hside hnew hhit =>
      rw [climb, hside.eq_some]
      simp only [if_neg hnew, hhit]
  | miss hside hnew hmiss _ ih =>
      rw [climb, hside.eq_some]
      simp only [if_neg hnew, hmiss]
      exact ih

theorem climb_eq_some_iff {visited interfaces last : List Supertype}
    {parent? : Option Supertype} {outcome : SearchOutcome} :
    hierarchy.climb visited interfaces parent? = some (outcome, last) ↔
      Climbed hierarchy visited interfaces parent? outcome last :=
  ⟨Climbed.of_eq_some, Climbed.eq_some⟩

/-! ## What is found -/

/-- `Level` and `Interface` hold of everything directly above what they hold of. -/
structure ClosedUpward (hierarchy : Hierarchy) (Level Interface : Supertype → Prop) : Prop where
  parent : ∀ {supertype above}, Level supertype → hierarchy.parent? supertype = some above →
    Level above
  ofLevel : ∀ {supertype above}, Level supertype → above ∈ hierarchy.interfaces supertype →
    Interface above
  ofInterface : ∀ {supertype above}, Interface supertype →
    above ∈ hierarchy.interfaces supertype → Interface above

variable {Level Interface : Supertype → Prop}

/-- What stands next once a supertype is passed: the interfaces above it, then the rest. -/
theorem ClosedUpward.onward (hclosed : hierarchy.ClosedUpward Level Interface)
    {supertype : Supertype} {rest : List Supertype} (hnext : ∀ s ∈ supertype :: rest, Interface s) :
    ∀ s ∈ hierarchy.interfaces supertype ++ rest, Interface s := by
  intro s hs
  rcases List.mem_append.mp hs with hs | hs
  · exact hclosed.ofInterface (hnext _ List.mem_cons_self) hs
  · exact hnext s (List.mem_cons_of_mem _ hs)

/-- Every supertype looked at was looked at before or is above what stood next. -/
theorem Searched.mem_or_interface {visited next last : List Supertype} {outcome : SearchOutcome}
    (hclosed : hierarchy.ClosedUpward Level Interface)
    (hrun : Searched hierarchy visited next outcome last) (hnext : ∀ s ∈ next, Interface s) :
    ∀ s ∈ last, s ∈ visited ∨ Interface s := by
  induction hrun with
  | nil => exact fun s hs => .inl hs
  | met _ _ ih => exact ih fun s hs => hnext s (List.mem_cons_of_mem _ hs)
  | hit =>
      intro s hs
      rcases List.mem_cons.mp hs with rfl | hs
      · exact .inr (hnext s List.mem_cons_self)
      · exact .inl hs
  | miss _ _ _ ih =>
      intro s hs
      rcases ih (hclosed.onward hnext) s hs with hs | hs
      · rcases List.mem_cons.mp hs with rfl | hs
        · exact .inr (hnext s List.mem_cons_self)
        · exact .inl hs
      · exact .inr hs

theorem Searched.found {visited next last : List Supertype} {outcome : SearchOutcome}
    {overridden : Overridden} (hclosed : hierarchy.ClosedUpward Level Interface)
    (hrun : Searched hierarchy visited next outcome last) (hnext : ∀ s ∈ next, Interface s)
    (houtcome : outcome = .found overridden) :
    ∃ s, Interface s ∧ hierarchy.overridden? s = some overridden := by
  induction hrun with
  | nil => cases houtcome
  | met _ _ ih => exact ih (fun s hs => hnext s (List.mem_cons_of_mem _ hs)) houtcome
  | hit _ hhit =>
      cases houtcome
      exact ⟨_, hnext _ List.mem_cons_self, hhit⟩
  | miss _ _ _ ih => exact ih (hclosed.onward hnext) houtcome

/-- What a climb finds is at a superclass level or at an interface. -/
theorem Climbed.found {visited interfaces last : List Supertype} {parent? : Option Supertype}
    {outcome : SearchOutcome} {overridden : Overridden}
    (hclosed : hierarchy.ClosedUpward Level Interface)
    (hrun : Climbed hierarchy visited interfaces parent? outcome last)
    (hinterfaces : ∀ s ∈ interfaces, Interface s) (hparent : ∀ s ∈ parent?, Level s)
    (houtcome : outcome = .found overridden) :
    ∃ s, (Level s ∨ Interface s) ∧ hierarchy.overridden? s = some overridden := by
  induction hrun with
  | aside hside =>
      obtain ⟨s, hs, hhit⟩ := hside.found hclosed hinterfaces houtcome
      exact ⟨s, .inr hs, hhit⟩
  | top => cases houtcome
  | met => cases houtcome
  | hit _ _ hhit =>
      cases houtcome
      exact ⟨_, .inl (hparent _ rfl), hhit⟩
  | @miss _ _ _ _ parent _ _ _ _ _ ih =>
      have hlevel : Level parent := hparent parent rfl
      exact ih (fun s hs => hclosed.ofLevel hlevel hs) (fun s hs => hclosed.parent hlevel hs)
        houtcome

/-! ## What is left out -/

/-- Nothing in `visited` has the method, and every interface above it is in `visited` too or among
those that wait. -/
structure Covers (hierarchy : Hierarchy) (visited waiting : List Supertype) : Prop where
  missed : ∀ s ∈ visited, hierarchy.overridden? s = none
  interfaces : ∀ s ∈ visited, ∀ t ∈ hierarchy.interfaces s, t ∈ visited ∨ t ∈ waiting

theorem Covers.interfaces_mem {visited : List Supertype} (hcovers : hierarchy.Covers visited [])
    {s t : Supertype} (hs : s ∈ visited) (ht : t ∈ hierarchy.interfaces s) : t ∈ visited := by
  simpa using hcovers.interfaces s hs t ht

theorem Searched.subset {visited next last : List Supertype} {outcome : SearchOutcome}
    (hrun : Searched hierarchy visited next outcome last) : visited ⊆ last := by
  induction hrun with
  | nil => exact List.Subset.refl _
  | met _ _ ih => exact ih
  | hit => exact List.subset_cons_self _ _
  | miss _ _ _ ih => exact List.Subset.trans (List.subset_cons_self _ _) ih

/-- An interface search that finds nothing leaves nothing waiting. -/
theorem Searched.covers {visited next last : List Supertype} {outcome : SearchOutcome}
    (hrun : Searched hierarchy visited next outcome last) (houtcome : outcome = .exhausted)
    (hcovers : hierarchy.Covers visited next) : hierarchy.Covers last [] ∧ next ⊆ last := by
  induction hrun with
  | nil => exact ⟨hcovers, List.nil_subset _⟩
  | @met visited rest last supertype outcome hmet hrest ih =>
      have hwaiting : hierarchy.Covers visited rest := by
        refine ⟨hcovers.missed, fun s hs t ht => ?_⟩
        rcases hcovers.interfaces s hs t ht with ht | ht
        · exact .inl ht
        · rcases List.mem_cons.mp ht with rfl | ht
          · exact .inl hmet
          · exact .inr ht
      -- What is passed over is in `visited`, and that only grows.
      obtain ⟨hlast, hsubset⟩ := ih houtcome hwaiting
      exact ⟨hlast, List.cons_subset.mpr ⟨hrest.subset hmet, hsubset⟩⟩
  | hit => cases houtcome
  | @miss visited rest last supertype outcome hnew hmiss hrest ih =>
      have hwaiting : hierarchy.Covers (supertype :: visited)
          (hierarchy.interfaces supertype ++ rest) := by
        constructor
        · intro s hs
          rcases List.mem_cons.mp hs with rfl | hs
          · exact hmiss
          · exact hcovers.missed s hs
        · intro s hs t ht
          rcases List.mem_cons.mp hs with rfl | hs
          · exact .inr (List.mem_append_left _ ht)
          · rcases hcovers.interfaces s hs t ht with ht | ht
            · exact .inl (List.mem_cons_of_mem _ ht)
            · rcases List.mem_cons.mp ht with rfl | ht
              · exact .inl List.mem_cons_self
              · exact .inr (List.mem_append_right _ ht)
      obtain ⟨hlast, hsubset⟩ := ih houtcome hwaiting
      refine ⟨hlast, List.cons_subset.mpr ⟨hrest.subset List.mem_cons_self, ?_⟩⟩
      exact fun s hs => hsubset (List.mem_append_right _ hs)

/-- Every superclass above a level in `visited` is in `visited` too or is the one that waits. -/
def CoversParents (hierarchy : Hierarchy) (Level : Supertype → Prop) (visited : List Supertype)
    (waiting? : Option Supertype) : Prop :=
  ∀ s ∈ visited, Level s → ∀ t ∈ hierarchy.parent? s, t ∈ visited ∨ t ∈ waiting?

/-- Interfaces that a search adds are no levels, so they bring no superclass to be climbed to. -/
theorem CoversParents.searched {visited interfaces last : List Supertype}
    {waiting? : Option Supertype} {outcome : SearchOutcome}
    (hparents : hierarchy.CoversParents Level visited waiting?)
    (hclosed : hierarchy.ClosedUpward Level Interface) (hapart : ∀ s, Level s → ¬ Interface s)
    (hside : Searched hierarchy visited interfaces outcome last)
    (hinterfaces : ∀ s ∈ interfaces, Interface s) :
    hierarchy.CoversParents Level last waiting? := by
  intro s hs hlevel t ht
  rcases hside.mem_or_interface hclosed hinterfaces s hs with hs | hs
  · rcases hparents s hs hlevel t ht with ht | ht
    · exact .inl (hside.subset ht)
    · exact .inr ht
  · exact absurd hs (hapart s hlevel)

/-- A climb that finds nothing leaves nothing waiting, neither interface nor superclass. -/
theorem Climbed.covers {visited interfaces last : List Supertype} {parent? : Option Supertype}
    {outcome : SearchOutcome} (hclosed : hierarchy.ClosedUpward Level Interface)
    (hapart : ∀ s, Level s → ¬ Interface s)
    (hrun : Climbed hierarchy visited interfaces parent? outcome last)
    (hinterfaces : ∀ s ∈ interfaces, Interface s) (hparent : ∀ s ∈ parent?, Level s)
    (houtcome : outcome = .exhausted) (hcovers : hierarchy.Covers visited interfaces)
    (hparents : hierarchy.CoversParents Level visited parent?) :
    hierarchy.Covers last [] ∧ hierarchy.CoversParents Level last none ∧
      visited ⊆ last ∧ interfaces ⊆ last ∧ ∀ s ∈ parent?, s ∈ last := by
  induction hrun with
  | aside => cases houtcome
  | top hside =>
      obtain ⟨hlast, hsubset⟩ := hside.covers rfl hcovers
      exact ⟨hlast, hparents.searched hclosed hapart hside hinterfaces, hside.subset, hsubset,
        fun s hs => by cases hs⟩
  | @met visited interfaces last parent hside hmet =>
      obtain ⟨hlast, hsubset⟩ := hside.covers rfl hcovers
      have hsearched := hparents.searched hclosed hapart hside hinterfaces
      refine ⟨hlast, fun s hs hlevel t ht => ?_, hside.subset, hsubset, ?_⟩
      · rcases hsearched s hs hlevel t ht with ht | ht
        · exact .inl ht
        · cases ht
          exact .inl hmet
      · intro s hs
        cases hs
        exact hmet
  | hit => cases houtcome
  | @miss visited interfaces seen last parent outcome hside hnew hmiss _ ih =>
      have hlevel : Level parent := hparent parent rfl
      obtain ⟨hseen, hsubset⟩ := hside.covers rfl hcovers
      have hsearched := hparents.searched hclosed hapart hside hinterfaces
      have hcoversAbove : hierarchy.Covers (parent :: seen) (hierarchy.interfaces parent) := by
        refine ⟨List.forall_mem_cons.mpr ⟨hmiss, hseen.missed⟩, fun s hs t ht => ?_⟩
        rcases List.mem_cons.mp hs with rfl | hs
        · exact .inr ht
        · exact .inl (List.mem_cons_of_mem _ (hseen.interfaces_mem hs ht))
      have hparentsAbove : hierarchy.CoversParents Level (parent :: seen)
          (hierarchy.parent? parent) := by
        intro s hs hs' t ht
        rcases List.mem_cons.mp hs with rfl | hs
        · exact .inr ht
        · -- The superclass that was waiting is the one looked at now.
          rcases hsearched s hs hs' t ht with ht | ht
          · exact .inl (List.mem_cons_of_mem _ ht)
          · cases ht
            exact .inl List.mem_cons_self
      obtain ⟨hlast, hparentsLast, habove, -, -⟩ :=
        ih (fun s hs => hclosed.ofLevel hlevel hs) (fun s hs => hclosed.parent hlevel hs) houtcome
          hcoversAbove hparentsAbove
      have hseenLast : seen ⊆ last := fun s hs => habove (List.mem_cons_of_mem _ hs)
      refine ⟨hlast, hparentsLast, List.Subset.trans hside.subset hseenLast,
        List.Subset.trans hsubset hseenLast, ?_⟩
      intro s hs
      cases hs
      exact habove List.mem_cons_self

/-! ## That it ends -/

/-- Once a further supertype is looked at, fewer are left. -/
theorem card_unvisited_lt {all : Finset Supertype} {visited seen : List Supertype}
    {supertype : Supertype} (hmem : supertype ∈ all) (hnew : supertype ∉ visited)
    (hsubset : supertype :: visited ⊆ seen) :
    (all \ seen.toFinset).card < (all \ visited.toFinset).card := by
  obtain ⟨hlooked, hkept⟩ := List.cons_subset.mp hsubset
  apply Finset.card_lt_card
  refine Finset.ssubset_iff_of_subset ?_ |>.mpr ⟨supertype, ?_, ?_⟩
  · intro s hs
    simp only [Finset.mem_sdiff, List.mem_toFinset] at hs ⊢
    exact ⟨hs.1, fun hvisited => hs.2 (hkept hvisited)⟩
  · simp only [Finset.mem_sdiff, List.mem_toFinset]
    exact ⟨hmem, hnew⟩
  · simp [hlooked]

/-- Each step either shortens the list of what stands next or looks at a further supertype. -/
theorem searchInterfaces_ends (hclosed : hierarchy.ClosedUpward Level Interface)
    (all : Finset Supertype) (hall : ∀ s, Interface s → s ∈ all) (visited next : List Supertype)
    (hnext : ∀ s ∈ next, Interface s) :
    ∃ outcome last, Searched hierarchy visited next outcome last := by
  -- The outer induction is on what is not looked at yet, the inner one on what stands next.
  induction hleft : (all \ visited.toFinset).card using Nat.strong_induction_on
    generalizing visited next with
  | _ left ih =>
      induction next with
      | nil => exact ⟨.exhausted, visited, .nil⟩
      | cons supertype rest ihRest =>
          by_cases hmet : supertype ∈ visited
          · obtain ⟨outcome, last, hrun⟩ := ihRest fun s hs => hnext s (List.mem_cons_of_mem _ hs)
            exact ⟨outcome, last, .met hmet hrun⟩
          · cases hfound : hierarchy.overridden? supertype with
            | some overridden => exact ⟨_, _, .hit hmet hfound⟩
            | none =>
                have hmem : supertype ∈ all := hall _ (hnext _ List.mem_cons_self)
                have hlt := card_unvisited_lt hmem hmet (List.Subset.refl _)
                obtain ⟨outcome, last, hrun⟩ := ih _ (hleft ▸ hlt) (supertype :: visited)
                  (hierarchy.interfaces supertype ++ rest) (hclosed.onward hnext) rfl
                exact ⟨outcome, last, .miss hmet hfound hrun⟩

/-- A climb among finitely many supertypes ends. -/
theorem climb_ends (hclosed : hierarchy.ClosedUpward Level Interface) (all : Finset Supertype)
    (hall : ∀ s, Level s ∨ Interface s → s ∈ all) (visited interfaces : List Supertype)
    (parent? : Option Supertype) (hinterfaces : ∀ s ∈ interfaces, Interface s)
    (hparent : ∀ s ∈ parent?, Level s) :
    ∃ outcome last, Climbed hierarchy visited interfaces parent? outcome last := by
  induction hleft : (all \ visited.toFinset).card using Nat.strong_induction_on
    generalizing visited interfaces parent? with
  | _ left ih =>
      obtain ⟨outcome, seen, hside⟩ := searchInterfaces_ends hclosed all
        (fun s hs => hall s (.inr hs)) visited interfaces hinterfaces
      cases outcome with
      | found overridden => exact ⟨_, _, .aside hside⟩
      | exhausted =>
          cases parent? with
          | none => exact ⟨_, _, .top hside⟩
          | some parent =>
              have hlevel : Level parent := hparent parent rfl
              by_cases hmet : parent ∈ seen
              · exact ⟨_, _, .met hside hmet⟩
              · cases hfound : hierarchy.overridden? parent with
                | some overridden => exact ⟨_, _, .hit hside hmet hfound⟩
                | none =>
                    have hlt := card_unvisited_lt (hall _ (.inl hlevel))
                      (fun hvisited => hmet (hside.subset hvisited))
                      (List.cons_subset_cons parent hside.subset)
                    obtain ⟨outcome, last, hrun⟩ := ih _ (hleft ▸ hlt) (parent :: seen)
                      (hierarchy.interfaces parent) (hierarchy.parent? parent)
                      (fun s hs => hclosed.ofLevel hlevel hs)
                      (fun s hs => hclosed.parent hlevel hs) rfl
                    exact ⟨outcome, last, .miss hside hmet hfound hrun⟩

end Hierarchy

end DeclCheck
