/-
# DeclCheck.Proofs.Check.Folding — what becomes of repeated annotations.

Of the annotations of a declaration, those that can be folded are counted kind by kind.  A kind with
two or more of them either folds, and then its uses move into one container at the end, or there is
one complaint about it and they stay where they are.  Which of the two it is can be told from the
kind and the names of the uses; the order of kinds is that of their first foldable uses.  Nothing
else moves, and every use of the list is either left in it or inside one of the containers.
-/
import Mathlib.Data.List.Forall2
import Mathlib.Data.List.Perm.Basic
import DeclCheck.Check.Repeatable
import DeclCheck.Proofs.NameMap
import DeclCheck.Registry.Register

namespace DeclCheck

/-! ## Lists side by side -/

/-- Of two related lists, what is filtered from one is related to what is selected from the other if
each pair is kept or dropped on both sides. -/
theorem forall₂_filterMap {α β γ : Type} {R : α → β → Prop} {S : α → γ → Prop} {p : α → Prop}
    [DecidablePred p] {select : β → Option γ} {xs : List α} {ys : List β}
    (hrelated : List.Forall₂ R xs ys)
    (hselect : ∀ x y, R x y →
      ¬ p x ∧ select y = none ∨ p x ∧ ∃ z, select y = some z ∧ S x z) :
    List.Forall₂ S (xs.filter p) (ys.filterMap select) := by
  induction hrelated with
  | nil => exact .nil
  | @cons x y xs ys hhead htail ih =>
      rcases hselect x y hhead with ⟨hdropped, hnone⟩ | ⟨hkept, z, hsome, hrelates⟩
      · rwa [List.filter_cons_of_neg (by simpa using hdropped), List.filterMap_cons_none hnone]
      · rw [List.filter_cons_of_pos (by simpa using hkept), List.filterMap_cons_some hsome]
        exact .cons hrelates ih

/-- Elements picked out name by name, in another order, are those that have one of the names. -/
theorem perm_flatMap_filter {α : Type} (key : α → String) (values : List α) {names : List String}
    (hdistinct : names.Nodup) :
    (names.flatMap fun name => values.filter (key · = name)).Perm
      (values.filter (key · ∈ names)) := by
  induction names with
  | nil => simp
  | cons name rest ih =>
      obtain ⟨hname, hrest⟩ := List.nodup_cons.mp hdistinct
      have hsplit := List.filter_append_perm (key · = name) (values.filter (key · ∈ name :: rest))
      rw [List.filter_filter, List.filter_filter] at hsplit
      have hfirst : values.filter (fun value =>
          decide (key value = name) && decide (key value ∈ name :: rest)) =
            values.filter (key · = name) := by
        refine List.filter_congr fun value _ => ?_
        by_cases hvalue : key value = name <;> simp [hvalue]
      have hothers : values.filter (fun value =>
          !decide (key value = name) && decide (key value ∈ name :: rest)) =
            values.filter (key · ∈ rest) := by
        refine List.filter_congr fun value _ => ?_
        by_cases hvalue : key value = name <;> simp [hvalue, hname]
      rw [hfirst, hothers] at hsplit
      exact ((ih hrest).append_left _).trans hsplit

/-! ## The strongest retention -/

/-- The retention that prevails among those of several uses: the strongest one, and the fallback if
there is none. -/
inductive Retention.Prevails (fallback : Retention) : List Retention → Retention → Prop where
  | fallback : Prevails fallback [] fallback
  | strongest {retentions : List Retention} {retention : Retention} (hmem : retention ∈ retentions)
      (hmax : ∀ other ∈ retentions, other.strength ≤ retention.strength) :
      Prevails fallback retentions retention

theorem Retention.prevails_foldl (fallback first : Retention) (rest : List Retention) :
    Prevails fallback (first :: rest) (rest.foldl strongest first) := by
  induction rest generalizing first with
  | nil => exact .strongest (List.mem_singleton.mpr rfl) (by simp)
  | cons second rest ih =>
      have hfirst : first.strength ≤ (strongest first second).strength := by
        unfold strongest
        split <;> omega
      have hsecond : second.strength ≤ (strongest first second).strength := by
        unfold strongest
        split <;> omega
      have heither : strongest first second = first ∨ strongest first second = second := by
        unfold strongest
        split
        · exact .inr rfl
        · exact .inl rfl
      rw [List.foldl_cons]
      cases ih (strongest first second) with
      | strongest hmem hmax =>
          have hmerged := hmax _ List.mem_cons_self
          refine .strongest ?_ ?_
          · rcases List.mem_cons.mp hmem with heq | hrest
            · rw [heq]
              rcases heither with heither | heither <;> simp [heither]
            · exact List.mem_cons_of_mem _ (List.mem_cons_of_mem _ hrest)
          · intro other hother
            simp only [List.mem_cons] at hother
            rcases hother with rfl | rfl | hother
            · exact Nat.le_trans hfirst hmerged
            · exact Nat.le_trans hsecond hmerged
            · exact hmax other (List.mem_cons_of_mem _ hother)

namespace Scope

variable (scope : Scope) (uses : List AnnotationUse)

/-! ## Repeated kinds -/

/-- The foldable uses of a kind, in order. -/
def instances (kind : String) : List AnnotationUse :=
  (uses.filter scope.isFoldable).filter (·.kind = kind)

/-- The kinds with several foldable uses, in order of the first such use. -/
def repeatedKinds : List String :=
  ((uses.filter scope.isFoldable).map (·.kind)).eraseDups.filter fun kind =>
    2 ≤ (scope.instances uses kind).length

/-- The annotation type that uses of a kind are collected in. -/
def containerOf? (kind : String) : Option AnnotationType :=
  ((scope.registry.annotationType? kind).bind (·.container)).bind scope.registry.annotationType?

/-- The kind has no container. -/
def Illegal (kind : String) : Prop :=
  scope.containerOf? kind = none

/-- The container of the kind is written out. -/
def Conflicting (kind : String) : Prop :=
  ∃ container ∈ scope.containerOf? kind, ∃ use ∈ uses, use.kind = container.name

/-- The kind has a container that is not written out. -/
def Folds (kind : String) : Prop :=
  ∃ container ∈ scope.containerOf? kind, ∀ use ∈ uses, use.kind ≠ container.name

instance : DecidablePred (scope.Folds uses) :=
  fun kind => inferInstanceAs (Decidable (∃ container ∈ scope.containerOf? kind,
    ∀ use ∈ uses, use.kind ≠ container.name))

/-- The repeated kinds that are folded, each at its first use. -/
def foldedKinds : List String :=
  (scope.repeatedKinds uses).filter (scope.Folds uses)

/-- The uses that folding leaves where they are. -/
def untouched : List AnnotationUse :=
  uses.filter fun use => ¬ (scope.isFoldable use ∧ use.kind ∈ scope.foldedKinds uses)

/-- What is said against a repeated kind that does not fold. -/
inductive Complaint (kind : String) : Diagnostic → Prop where
  /-- At its second use. -/
  | illegal {second : AnnotationUse} (hillegal : scope.Illegal kind)
      (hsecond : (scope.instances uses kind)[1]? = some second) :
      Complaint kind { problem := .duplicateUse kind, span := second.span }
  /-- At the first use of the container. -/
  | conflicting {container : AnnotationType} {before after : List AnnotationUse}
      {explicit : AnnotationUse} (hcontainer : scope.containerOf? kind = some container)
      (huses : uses = before ++ explicit :: after) (hexplicit : explicit.kind = container.name)
      (hfirst : ∀ use ∈ before, use.kind ≠ container.name) :
      Complaint kind { problem := .containerConflict container.name kind, span := explicit.span }

/-- A use of the container of a kind that collects the uses of the kind. -/
structure Collects (kind : String) (collected : AnnotationUse) : Prop where
  members :
    collected.members = [(AnnotationUse.valueMember,
      .list ((scope.instances uses kind).map .annotationUse) .nowhere)]
  span : (scope.instances uses kind).head?.map (·.span) = some collected.span
  /-- The rest is as the container's type has it, but for a retention of the uses themselves. -/
  container :
    ∃ container ∈ scope.containerOf? kind, collected.kind = container.name ∧
      collected.targets = some container.targets ∧
      ∃ retention, collected.retention = some retention ∧
        Retention.Prevails ((container.retention.evaluate? scope.evaluator).getD .classFile)
          ((scope.instances uses kind).filterMap scope.retentionOf?) retention

theorem illegal_or_conflicting_or_folds (kind : String) :
    (scope.Illegal kind ∧ ¬ scope.Conflicting uses kind ∧ ¬ scope.Folds uses kind) ∨
      (¬ scope.Illegal kind ∧ scope.Conflicting uses kind ∧ ¬ scope.Folds uses kind) ∨
      (¬ scope.Illegal kind ∧ ¬ scope.Conflicting uses kind ∧ scope.Folds uses kind) := by
  unfold Illegal Conflicting Folds
  cases scope.containerOf? kind with
  | none => simp
  | some container =>
      by_cases hwritten : ∃ use ∈ uses, use.kind = container.name
      · right; left
        simpa using hwritten
      · right; right
        simpa using hwritten

/-! ## Groups -/

theorem groups_concat (use : AnnotationUse) :
    scope.groups (uses ++ [use]) =
      if scope.isFoldable use then
        (scope.groups uses).insert use.kind (((scope.groups uses).get? use.kind).getD [] ++ [use])
      else scope.groups uses := by
  unfold groups
  rw [List.foldl_append]
  rfl

/-- Each kind comes at its first foldable use. -/
theorem keys_groups :
    (scope.groups uses).keys = ((uses.filter scope.isFoldable).map (·.kind)).eraseDups := by
  induction uses using List.reverseRecOn with
  | nil => rfl
  | append_singleton uses use ih =>
      rw [groups_concat, List.filter_append]
      by_cases hfoldable : scope.isFoldable use
      · rw [if_pos hfoldable, NameMap.keys_insert, ih, List.filter_cons_of_pos hfoldable,
          List.filter_nil, List.map_append, List.map_singleton, eraseDups_concat]
        simp only [List.mem_eraseDups]
      · rw [if_neg hfoldable, ih, List.filter_cons_of_neg hfoldable, List.filter_nil,
          List.append_nil]

/-- The group of a kind has its foldable uses. -/
theorem getD_get?_groups (kind : String) :
    ((scope.groups uses).get? kind).getD [] = scope.instances uses kind := by
  induction uses using List.reverseRecOn with
  | nil => rfl
  | append_singleton uses use ih =>
      rw [groups_concat]
      unfold instances at ih ⊢
      rw [List.filter_append, List.filter_append, ← ih]
      by_cases hfoldable : scope.isFoldable use
      · rw [if_pos hfoldable, NameMap.get?_insert, List.filter_cons_of_pos hfoldable]
        by_cases hkind : kind = use.kind
        · simp [hkind]
        · simp [hkind, Ne.symm hkind]
      · simp [hfoldable]

theorem entries_groups :
    (scope.groups uses).entries =
      ((uses.filter scope.isFoldable).map (·.kind)).eraseDups.map fun kind =>
        (kind, scope.instances uses kind) := by
  rw [← keys_groups]
  refine NameMap.entries_eq_map fun kind hkind => ?_
  obtain ⟨group, hgroup⟩ := Option.isSome_iff_exists.mp (NameMap.mem_keys_iff.mp hkind)
  rw [← getD_get?_groups, hgroup, Option.getD_some]

/-! ## Verdicts -/

theorem collects_containerUse {kind : String} {container : AnnotationType} {first : AnnotationUse}
    {rest : List AnnotationUse} (hcontainer : scope.containerOf? kind = some container)
    (hinstances : scope.instances uses kind = first :: rest) :
    scope.Collects uses kind (scope.containerUse container first rest) where
  members := by
    rw [hinstances]
    rfl
  span := by
    rw [hinstances]
    rfl
  container := by
    refine ⟨container, hcontainer, rfl, rfl, _, rfl, ?_⟩
    rw [hinstances]
    unfold strongestRetention?
    cases (first :: rest).filterMap scope.retentionOf? with
    | nil => exact .fallback
    | cons strong others => exact Retention.prevails_foldl _ strong others

/-- A verdict that does justice to a repeated kind. -/
inductive Fits (kind : String) (verdict : Verdict) : Prop where
  | complaint {diagnostic : Diagnostic} (hfolds : ¬ scope.Folds uses kind)
      (hdiagnostic : verdict.diagnostic? kind = some diagnostic) (hnone : verdict.container? = none)
      (hcomplaint : scope.Complaint uses kind diagnostic)
  | collected {container : AnnotationUse} (hfolds : scope.Folds uses kind)
      (hcontainer : verdict.container? = some container) (hnone : verdict.diagnostic? kind = none)
      (hcollects : scope.Collects uses kind container)

theorem judge?_cons (kind : String) (first second : AnnotationUse) (rest : List AnnotationUse) :
    scope.judge? uses kind (first :: second :: rest) =
      match scope.containerOf? kind with
      | none => some (.illegal second)
      | some container =>
        match uses.find? (·.kind = container.name) with
        | some explicit => some (.conflicting container.name explicit)
        | none => some (.folded (scope.containerUse container first (second :: rest))) :=
  rfl

theorem exists_fits_judge? {kind : String} {first second : AnnotationUse}
    {rest : List AnnotationUse} (hinstances : scope.instances uses kind = first :: second :: rest) :
    ∃ verdict, scope.judge? uses kind (first :: second :: rest) = some verdict ∧
      scope.Fits uses kind verdict := by
  rw [judge?_cons]
  cases hcontainer : scope.containerOf? kind with
  | none =>
      refine ⟨.illegal second, rfl, .complaint ?_ rfl rfl (.illegal hcontainer ?_)⟩
      · rintro ⟨container, hmem, -⟩
        cases hcontainer.symm.trans hmem
      · rw [hinstances]
        rfl
  | some container =>
    dsimp only
    cases hfind : uses.find? (·.kind = container.name) with
    | none =>
        refine ⟨.folded _, rfl, .collected ⟨container, hcontainer, ?_⟩ rfl rfl
          (scope.collects_containerUse uses hcontainer hinstances)⟩
        intro use hmem
        simpa using List.find?_eq_none.mp hfind use hmem
    | some explicit =>
        -- The search stops at the first use of the container.
        obtain ⟨hexplicit, before, after, huses, hfirst⟩ := List.find?_eq_some_iff_append.mp hfind
        rw [decide_eq_true_iff] at hexplicit
        have hmem : explicit ∈ uses := by
          rw [huses]
          exact List.mem_append_right _ List.mem_cons_self
        refine ⟨.conflicting container.name explicit, rfl, .complaint ?_ rfl rfl
          (.conflicting hcontainer huses hexplicit ?_)⟩
        · rintro ⟨other, hother, hnot⟩
          cases hcontainer.symm.trans hother
          exact hnot explicit hmem hexplicit
        · intro use huse
          simpa using hfirst use huse

/-- A kind is judged if it is repeated, and justly. -/
theorem judge?_instances (kind : String) :
    ¬ 2 ≤ (scope.instances uses kind).length ∧
        scope.judge? uses kind (scope.instances uses kind) = none ∨
      2 ≤ (scope.instances uses kind).length ∧ ∃ verdict,
        scope.judge? uses kind (scope.instances uses kind) = some verdict ∧
          scope.Fits uses kind verdict := by
  cases hinstances : scope.instances uses kind with
  | nil => exact .inl ⟨by simp, rfl⟩
  | cons first others =>
    cases others with
    | nil => exact .inl ⟨by simp, rfl⟩
    | cons second rest => exact .inr ⟨by simp, scope.exists_fits_judge? uses hinstances⟩

/-- There is one verdict for each repeated kind, in their order. -/
theorem fits_verdicts :
    List.Forall₂ (fun kind judged => judged.1 = kind ∧ scope.Fits uses kind judged.2)
      (scope.repeatedKinds uses) (scope.verdicts uses) := by
  have hgroups : List.Forall₂ (fun kind group => group = (kind, scope.instances uses kind))
      ((uses.filter scope.isFoldable).map (·.kind)).eraseDups (scope.groups uses).entries := by
    rw [entries_groups, List.forall₂_map_right_iff, List.forall₂_same]
    exact fun _ _ => rfl
  refine forall₂_filterMap hgroups ?_
  rintro kind group rfl
  rcases scope.judge?_instances uses kind with ⟨hsingle, hnone⟩ | ⟨hrepeated, verdict, hsome, hfits⟩
  · exact .inl ⟨hsingle, congrArg (Option.map (kind, ·)) hnone⟩
  · exact .inr ⟨hrepeated, (kind, verdict), congrArg (Option.map (kind, ·)) hsome, rfl, hfits⟩

/-! ## Folding -/

theorem complaints_fold :
    List.Forall₂ (scope.Complaint uses)
      ((scope.repeatedKinds uses).filter fun kind => ¬ scope.Folds uses kind)
      (scope.fold uses).2 := by
  refine forall₂_filterMap (scope.fits_verdicts uses) ?_
  rintro kind ⟨_, verdict⟩ ⟨rfl, hfits⟩
  cases hfits with
  | complaint hfolds hdiagnostic _ hcomplaint =>
      exact .inr ⟨hfolds, _, hdiagnostic, hcomplaint⟩
  | collected hfolds _ hnone _ => exact .inl ⟨not_not.mpr hfolds, hnone⟩

theorem containers_fold :
    List.Forall₂ (scope.Collects uses) (scope.foldedKinds uses)
      ((scope.verdicts uses).filterMap (·.2.container?)) := by
  refine forall₂_filterMap (scope.fits_verdicts uses) ?_
  rintro kind ⟨_, verdict⟩ ⟨rfl, hfits⟩
  cases hfits with
  | complaint hfolds _ hnone _ => exact .inl ⟨hfolds, hnone⟩
  | collected hfolds hcontainer _ hcollects => exact .inr ⟨hfolds, _, hcontainer, hcollects⟩

theorem foldedKinds_eq :
    (scope.verdicts uses).filterMap (fun (kind, verdict) => verdict.container?.map fun _ => kind) =
      scope.foldedKinds uses := by
  have hsame : List.Forall₂ (· = ·) (scope.foldedKinds uses) ((scope.verdicts uses).filterMap
      fun (kind, verdict) => verdict.container?.map fun _ => kind) := by
    refine forall₂_filterMap (scope.fits_verdicts uses) ?_
    rintro kind ⟨_, verdict⟩ ⟨rfl, hfits⟩
    cases hfits with
    | complaint hfolds _ hnone _ => exact .inl ⟨hfolds, congrArg (Option.map fun _ => _) hnone⟩
    | collected hfolds hcontainer _ _ =>
        exact .inr ⟨hfolds, _, congrArg (Option.map fun _ => _) hcontainer, rfl⟩
  rw [List.forall₂_eq_eq_eq] at hsame
  exact hsame.symm

theorem fold_fst :
    (scope.fold uses).1 =
      scope.untouched uses ++ (scope.verdicts uses).filterMap (·.2.container?) := by
  unfold fold untouched
  dsimp only
  rw [foldedKinds_eq]
  congr 1
  refine List.filter_congr fun use _ => ?_
  simp

theorem nodup_foldedKinds : (scope.foldedKinds uses).Nodup :=
  ((nodup_eraseDups _).filter _).filter _

/-- The uses that are left, and those that are collected, are all the uses. -/
theorem untouched_perm :
    (scope.untouched uses ++
      (scope.foldedKinds uses).flatMap (scope.instances uses)).Perm uses := by
  have hcollected := perm_flatMap_filter (·.kind) (uses.filter scope.isFoldable)
    (scope.nodup_foldedKinds uses)
  rw [List.filter_filter] at hcollected
  have huntouched : scope.untouched uses = uses.filter fun use =>
      !(decide (use.kind ∈ scope.foldedKinds uses) && scope.isFoldable use) := by
    refine List.filter_congr fun use _ => ?_
    rw [Bool.and_comm]
    simp
  have hsplit : (uses.filter (fun use =>
      decide (use.kind ∈ scope.foldedKinds uses) && scope.isFoldable use) ++
        scope.untouched uses).Perm uses := by
    rw [huntouched]
    exact List.filter_append_perm _ uses
  exact List.perm_append_comm.trans ((hcollected.append_right _).trans hsplit)

/-- Folding loses, invents and reorders nothing.  Each kind is illegal, conflicting or folds.  For
every repeated kind that does not fold there is one complaint, and for every one that does there is
one container at the end, in the order of kinds; all other uses stay in place, and together with the
uses in the containers they are what there was. -/
theorem fold_exact :
    (∀ kind,
      (scope.Illegal kind ∧ ¬ scope.Conflicting uses kind ∧ ¬ scope.Folds uses kind) ∨
      (¬ scope.Illegal kind ∧ scope.Conflicting uses kind ∧ ¬ scope.Folds uses kind) ∨
      (¬ scope.Illegal kind ∧ ¬ scope.Conflicting uses kind ∧ scope.Folds uses kind)) ∧
    List.Forall₂ (scope.Complaint uses)
      ((scope.repeatedKinds uses).filter fun kind => ¬ scope.Folds uses kind)
      (scope.fold uses).2 ∧
    (∃ containers, (scope.fold uses).1 = scope.untouched uses ++ containers ∧
      List.Forall₂ (scope.Collects uses) (scope.foldedKinds uses) containers) ∧
    (scope.untouched uses ++ (scope.foldedKinds uses).flatMap (scope.instances uses)).Perm uses :=
  ⟨scope.illegal_or_conflicting_or_folds uses, scope.complaints_fold uses,
    ⟨_, scope.fold_fst uses, scope.containers_fold uses⟩, scope.untouched_perm uses⟩

end Scope

/-! ## Labels on a declaration -/

namespace Labels

/-- A use on a line of its own. -/
def label (kind : String) (line : UInt64) (retention : Option Retention) : AnnotationUse :=
  ⟨kind, [], retention, none, ⟨line, 0, line, 0⟩⟩

/-- An annotation definition whose uses are collected in the container. -/
def collected (name container : String) : ClassDecl where
  name := name
  kind := .annotationType
  annotations := [⟨WellKnown.repeatableName,
    [(AnnotationUse.valueMember, .classLiteral (.named container []) .nowhere)], none, none,
    .nowhere⟩]

/-- Uses of `Tag` are collected in `Tags`. -/
def tag : ClassDecl := collected "Tag" "Tags"

/-- Tags with their container, and notes without one. -/
def scope : Scope where
  registry := ((∅ : Registry).declareAll [tag, { name := "Tags", kind := .annotationType },
    { name := "Note", kind := .annotationType }] "labels").1
  evaluator := (∅ : NameMap String)

/-- A tag for the source only stays out of it, and notes cannot be repeated. -/
example :
    let folded := scope.fold [label "Note" 1 none, label "Tag" 2 (some .runtime),
      label "Tag" 3 (some .source), label "Note" 4 none, label "Tag" 5 none]
    folded.1.map (fun use => (use.kind, use.span.startLine, use.retention)) =
        [("Note", 1, none), ("Tag", 3, some .source), ("Note", 4, none),
          ("Tags", 2, some .runtime)] ∧
      folded.2.map (fun finding => (finding.problem, finding.span.startLine)) =
        [(.duplicateUse "Note", 4)] := by
  decide +kernel

end Labels

end DeclCheck
