/-
# DeclCheck.Proofs.Check.Refolding — folding what has been folded.

Folding without a complaint leaves at most one foldable use of each kind and puts containers behind
them.  A container is a use like any other, so folding once more counts it too.  No container meets
a use of its own kind, because a container that is written out keeps its kind from being folded.
Containers can meet one another, though: each kind is judged by the uses that were there before, and
two kinds may name one container.  This is the only way in which a second folding finds anything to
do, and then it either complains or collects the containers in turn.
-/
import Mathlib.Data.List.Nodup
import DeclCheck.Proofs.Check.Folding

namespace DeclCheck

theorem Retention.strength_injective {a b : Retention} (hsame : a.strength = b.strength) :
    a = b := by
  cases a <;> cases b <;> simp_all [strength]

theorem Retention.Prevails.unique {fallback a b : Retention} {retentions : List Retention}
    (ha : Prevails fallback retentions a) (hb : Prevails fallback retentions b) : a = b := by
  cases ha with
  | fallback =>
      cases hb with
      | fallback => rfl
      | strongest hmem => cases hmem
  | strongest hmem hmax =>
      cases hb with
      | fallback => cases hmem
      | strongest hmem' hmax' =>
          exact strength_injective (Nat.le_antisymm (hmax' a hmem) (hmax b hmem'))

namespace Scope

variable (scope : Scope) (uses : List AnnotationUse)

/-! ## The container of a kind -/

/-- The container use that collects the foldable uses of a kind, if the kind has a container. -/
def collected? (kind : String) : Option AnnotationUse :=
  match scope.containerOf? kind, scope.instances uses kind with
  | some container, first :: rest => some (scope.containerUse container first rest)
  | _, _ => none

variable {scope uses}

theorem Collects.unique {kind : String} {a b : AnnotationUse} (ha : scope.Collects uses kind a)
    (hb : scope.Collects uses kind b) : a = b := by
  obtain ⟨container, hcontainer, hkind, htargets, retention, hretention, hprevails⟩ := ha.container
  obtain ⟨container', hcontainer', hkind', htargets', retention', hretention', hprevails'⟩ :=
    hb.container
  obtain rfl : container = container' := Option.mem_unique hcontainer hcontainer'
  obtain rfl := hprevails.unique hprevails'
  have hspan : a.span = b.span := Option.some.inj (ha.span.symm.trans hb.span)
  have hmembers := ha.members.trans hb.members.symm
  cases a
  cases b
  simp_all

theorem Collects.collected?_eq {kind : String} {use : AnnotationUse}
    (hcollects : scope.Collects uses kind use) : scope.collected? uses kind = some use := by
  obtain ⟨container, hcontainer, -⟩ := hcollects.container
  cases hinstances : scope.instances uses kind with
  | nil =>
      have hspan := hcollects.span
      rw [hinstances] at hspan
      cases hspan
  | cons first rest =>
      have hmade := scope.collects_containerUse uses hcontainer hinstances
      unfold collected?
      rw [Option.mem_def.mp hcontainer, hinstances]
      exact congrArg some (hmade.unique hcollects)

theorem collects_of_collected? {kind : String} {use : AnnotationUse}
    (hcollected : scope.collected? uses kind = some use) : scope.Collects uses kind use := by
  unfold collected? at hcollected
  split at hcollected
  · next container first rest hcontainer hinstances =>
      cases hcollected
      exact scope.collects_containerUse uses hcontainer hinstances
  · cases hcollected

variable (scope uses)

/-- Folding leaves what is untouched and then the containers, kind by kind. -/
theorem fold_fst_eq_collected :
    (scope.fold uses).1 =
      scope.untouched uses ++ (scope.foldedKinds uses).filterMap (scope.collected? uses) := by
  rw [fold_fst]
  congr 1
  generalize hcontainers : (scope.verdicts uses).filterMap (·.2.container?) = containers
  have hcollects := scope.containers_fold uses
  rw [hcontainers] at hcollects
  generalize scope.foldedKinds uses = kinds at hcollects
  clear hcontainers
  induction hcollects with
  | nil => rfl
  | cons hhead _ ih => rw [List.filterMap_cons_some hhead.collected?_eq, ← ih]

/-! ## Lists without repeated kinds -/

/-- The kinds of the foldable uses, in order. -/
def foldableKinds : List String :=
  (uses.filter scope.isFoldable).map (·.kind)

theorem foldableKinds_append (others : List AnnotationUse) :
    scope.foldableKinds (uses ++ others) =
      scope.foldableKinds uses ++ scope.foldableKinds others := by
  simp [foldableKinds]

theorem length_instances (kind : String) :
    (scope.instances uses kind).length = (scope.foldableKinds uses).count kind := by
  rw [instances, foldableKinds, List.count, List.countP_map, List.countP_eq_length_filter]
  rfl

theorem mem_repeatedKinds {kind : String} :
    kind ∈ scope.repeatedKinds uses ↔ 2 ≤ (scope.foldableKinds uses).count kind := by
  unfold repeatedKinds
  rw [List.mem_filter, List.mem_eraseDups, decide_eq_true_iff, length_instances]
  refine ⟨And.right, fun hrepeated => ⟨?_, hrepeated⟩⟩
  exact List.count_pos_iff.mp (Nat.lt_of_lt_of_le Nat.two_pos hrepeated)

theorem repeatedKinds_eq_nil_iff :
    scope.repeatedKinds uses = [] ↔ (scope.foldableKinds uses).Nodup := by
  rw [List.eq_nil_iff_forall_not_mem, List.nodup_iff_count_le_one]
  refine forall_congr' fun kind => ?_
  rw [mem_repeatedKinds]
  omega

/-! ## What is left after folding -/

/-- Folding takes away the foldable uses of the kinds that fold. -/
theorem count_foldableKinds_untouched (kind : String) :
    (scope.foldableKinds (scope.untouched uses)).count kind =
      if kind ∈ scope.foldedKinds uses then 0 else (scope.foldableKinds uses).count kind := by
  rw [← length_instances, ← length_instances]
  unfold instances untouched
  simp only [List.filter_filter]
  split
  · next hfolded =>
      rw [List.length_eq_zero_iff, List.filter_eq_nil_iff]
      intro use _ hkept
      obtain ⟨rfl, hfoldable, hnot | hnot⟩ : use.kind = kind ∧ scope.isFoldable use = true ∧
          (scope.isFoldable use = false ∨ use.kind ∉ scope.foldedKinds uses) := by simpa using hkept
      · rw [hfoldable] at hnot
        cases hnot
      · exact hnot hfolded
  · next hkept =>
      congr 1
      refine List.filter_congr fun use _ => ?_
      by_cases hkind : use.kind = kind
      · simp [hkind, hkept]
      · simp [hkind]

/-- A container is of a kind that was not there before. -/
theorem kind_ne_of_collected? {kind : String} {container use : AnnotationUse}
    (hfolded : kind ∈ scope.foldedKinds uses)
    (hcollected : scope.collected? uses kind = some container) (huse : use ∈ uses) :
    use.kind ≠ container.kind := by
  obtain ⟨type, htype, habsent⟩ := of_decide_eq_true (List.mem_filter.mp hfolded).2
  obtain ⟨type', htype', hkind, -⟩ := (collects_of_collected? hcollected).container
  obtain rfl : type = type' := Option.mem_unique htype htype'
  rw [hkind]
  exact habsent use huse

theorem disjoint_untouched_collected :
    List.Disjoint (scope.foldableKinds (scope.untouched uses))
      (scope.foldableKinds ((scope.foldedKinds uses).filterMap (scope.collected? uses))) := by
  intro kind hleft hright
  obtain ⟨use, huse, rfl⟩ := List.mem_map.mp hleft
  obtain ⟨container, hcontainer, hsame⟩ := List.mem_map.mp hright
  obtain ⟨folded, hfolded, hcollected⟩ := List.mem_filterMap.mp (List.mem_filter.mp hcontainer).1
  have hbefore : use ∈ uses := (List.mem_filter.mp (List.mem_filter.mp huse).1).1
  exact scope.kind_ne_of_collected? uses hfolded hcollected hbefore hsame.symm

/-- No kind that is folded is left among the foldable uses. -/
theorem count_foldableKinds_fold {kind : String} (hfolded : kind ∈ scope.foldedKinds uses) :
    (scope.foldableKinds (scope.fold uses).1).count kind = 0 := by
  rw [fold_fst_eq_collected, foldableKinds_append, List.count_append,
    count_foldableKinds_untouched, if_pos hfolded, Nat.zero_add, List.count_eq_zero]
  intro hmem
  obtain ⟨container, hcontainer, rfl⟩ := List.mem_map.mp hmem
  obtain ⟨other, hother, hcollected⟩ := List.mem_filterMap.mp (List.mem_filter.mp hcontainer).1
  -- The kind was there before, as it was folded, and the container's kind was not.
  have hcount := (scope.mem_repeatedKinds uses).mp (List.mem_filter.mp hfolded).1
  have hbefore := List.count_pos_iff.mp (Nat.lt_of_lt_of_le Nat.two_pos hcount)
  obtain ⟨use, huse, hsame⟩ := List.mem_map.mp hbefore
  exact scope.kind_ne_of_collected? uses hother hcollected (List.mem_filter.mp huse).1 hsame

variable {scope uses}

/-- Where folding has no complaint, every repeated kind folds. -/
theorem foldedKinds_eq_of_clean (hclean : (scope.fold uses).2 = []) :
    scope.foldedKinds uses = scope.repeatedKinds uses := by
  have hcomplaints := scope.complaints_fold uses
  rw [hclean, List.forall₂_nil_right_iff, List.filter_eq_nil_iff] at hcomplaints
  refine List.filter_eq_self.mpr fun kind hkind => ?_
  simpa using hcomplaints kind hkind

theorem nodup_foldableKinds_untouched (hclean : (scope.fold uses).2 = []) :
    (scope.foldableKinds (scope.untouched uses)).Nodup := by
  rw [List.nodup_iff_count_le_one]
  intro kind
  rw [count_foldableKinds_untouched]
  split
  · exact Nat.zero_le 1
  · next hkept =>
      rw [foldedKinds_eq_of_clean hclean, mem_repeatedKinds] at hkept
      omega

variable (scope uses)

/-- Folding has nothing to do exactly where no kind is repeated. -/
theorem fold_eq_self_iff :
    scope.fold uses = (uses, []) ↔ (scope.foldableKinds uses).Nodup := by
  rw [← repeatedKinds_eq_nil_iff]
  constructor
  · intro hself
    have hfolded := foldedKinds_eq_of_clean (congrArg Prod.snd hself)
    rw [List.eq_nil_iff_forall_not_mem]
    intro kind hkind
    have hgone : (scope.foldableKinds uses).count kind = 0 := by
      have hcount := scope.count_foldableKinds_fold uses (hfolded ▸ hkind)
      rwa [hself] at hcount
    have hrepeated := (scope.mem_repeatedKinds uses).mp hkind
    omega
  · intro hnone
    have hfolded : scope.foldedKinds uses = [] := by rw [foldedKinds, hnone, List.filter_nil]
    have hcomplaints := scope.complaints_fold uses
    rw [hnone, List.filter_nil, List.forall₂_nil_left_iff] at hcomplaints
    refine Prod.ext ?_ hcomplaints
    rw [fold_fst_eq_collected, hfolded, List.filterMap_nil, List.append_nil, untouched]
    exact List.filter_eq_self.mpr fun use _ => by simp [hfolded]

/-! ## Folding twice -/

/-- Of the containers that folding makes, those that can be folded in turn differ in kind. -/
def DistinctContainers : Prop :=
  (scope.foldedKinds uses).Pairwise fun kind other =>
    ∀ a ∈ scope.collected? uses kind, ∀ b ∈ scope.collected? uses other,
      scope.isFoldable a → scope.isFoldable b → a.kind ≠ b.kind

theorem distinctContainers_iff :
    scope.DistinctContainers uses ↔
      (scope.foldableKinds ((scope.foldedKinds uses).filterMap (scope.collected? uses))).Nodup := by
  unfold foldableKinds DistinctContainers List.Nodup
  rw [List.pairwise_map, List.pairwise_filter, List.pairwise_filterMap]
  rfl

theorem nodup_foldableKinds_fold {scope : Scope} {uses : List AnnotationUse}
    (hclean : (scope.fold uses).2 = []) :
    (scope.foldableKinds (scope.fold uses).1).Nodup ↔ scope.DistinctContainers uses := by
  rw [fold_fst_eq_collected, foldableKinds_append, List.nodup_append', distinctContainers_iff]
  have huntouched := nodup_foldableKinds_untouched hclean
  have hdisjoint := scope.disjoint_untouched_collected uses
  exact ⟨fun hnodup => hnodup.2.1, fun hnodup => ⟨huntouched, hnodup, hdisjoint⟩⟩

/-- **Folding twice.**  Let folding have no complaint.  Then no kind has two foldable uses left, and
folding again complains of nothing and changes nothing, exactly if no two of the containers that can
be folded in turn are of one kind. -/
theorem fold_fold_iff (hclean : (scope.fold uses).2 = []) :
    ((∀ kind, (scope.instances (scope.fold uses).1 kind).length ≤ 1) ↔
      scope.DistinctContainers uses) ∧
    (scope.fold (scope.fold uses).1 = ((scope.fold uses).1, []) ↔
      scope.DistinctContainers uses) := by
  constructor
  · simp only [length_instances]
    rw [← List.nodup_iff_count_le_one, nodup_foldableKinds_fold hclean]
  · rw [fold_eq_self_iff, nodup_foldableKinds_fold hclean]

end Scope

/-! ## Two kinds of labels -/

namespace Labels

/-- Uses of `Mark` are collected in the given container. -/
def mark (container : String) : ClassDecl := collected "Mark" container

/-- Tags are collected in `Tags`, and marks in the given container. -/
def twofold (container : String) : Scope where
  registry := ((∅ : Registry).declareAll [tag, mark container,
    { name := "Tags", kind := .annotationType }, { name := "Marks", kind := .annotationType }]
    "labels").1
  evaluator := (∅ : NameMap String)

/-- Two tags and two marks, one after the other. -/
def pairs : List AnnotationUse :=
  [label "Tag" 1 none, label "Mark" 2 none, label "Tag" 3 none, label "Mark" 4 none]

/-- With a container for each of the two kinds, folding again changes nothing. -/
theorem refold_tags_and_marks :
    ((twofold "Marks").fold pairs).2 = [] ∧ (twofold "Marks").DistinctContainers pairs ∧
      (twofold "Marks").foldedKinds pairs = ["Tag", "Mark"] ∧
      (twofold "Marks").fold ((twofold "Marks").fold pairs).1 =
        (((twofold "Marks").fold pairs).1, []) := by
  have hclean : ((twofold "Marks").fold pairs).2 = [] := by decide +kernel
  have hdistinct : (twofold "Marks").DistinctContainers pairs := by
    rw [Scope.distinctContainers_iff]
    decide +kernel
  obtain ⟨-, hagain⟩ := Scope.fold_fold_iff (twofold "Marks") pairs hclean
  exact ⟨hclean, hdistinct, by decide +kernel, hagain.mpr hdistinct⟩

/-- With one container for both, folding has no complaint and leaves two containers of one kind,
which folding again complains of. -/
theorem refold_shared_container :
    ((twofold "Tags").fold pairs).2 = [] ∧
      ((twofold "Tags").instances ((twofold "Tags").fold pairs).1 "Tags").length = 2 ∧
      ((twofold "Tags").fold ((twofold "Tags").fold pairs).1).2.map (·.problem) =
        [.duplicateUse "Tags"] := by
  decide +kernel

end Labels

end DeclCheck
