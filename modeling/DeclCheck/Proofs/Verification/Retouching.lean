/-
# DeclCheck.Proofs.Verification.Retouching — what a check writes, and what it leaves alone.

A check writes one declaration into one entry.  That declaration has the bare form of the old one,
so what is new about it are annotation lists and marks.  Of each declaration in it, at every depth,
the uses are those that were there, with retention and targets told where they were open and
repeated ones moved into containers; no member of any use is touched.  The mark of deprecation is
set where a use of the type for it is attached, and is never taken away.
-/
import DeclCheck.Proofs.Registry.Definitions
import DeclCheck.Proofs.Verification.Placement

namespace DeclCheck

/-! ## One entry of a registry -/

/-- The registry `after` is `before` with the given declaration in one of its entries, and the rest
of that entry as it was. -/
structure Registry.RewrittenAt (id : ClassId) (decl : ClassDecl) (before after : Registry) :
    Prop where
  size : after.size = before.size
  entry : after.entry? id = (before.entry? id).map fun entry => { entry with decl }
  others : ∀ other, other ≠ id → after.entry? other = before.entry? other
  known : after.known = before.known
  pending : after.pending = before.pending
  sightings : after.sightings = before.sightings
  generated : after.generated = before.generated
  toResolve : after.toResolve = before.toResolve
  external : after.external = before.external
  units : after.units = before.units
  diagnostics : after.diagnostics = before.diagnostics

theorem Registry.rewrittenAt_setDecl (registry : Registry) (id : ClassId) (decl : ClassDecl) :
    RewrittenAt id decl registry (registry.setDecl id decl) where
  size := Array.size_modify
  entry := by
    rw [setDecl, entry?_modifyEntry]
    simp only [if_pos]
  others other hother := by
    rw [setDecl, entry?_modifyEntry]
    simp only [if_neg hother, Option.map_id']
  known := rfl
  pending := rfl
  sightings := rfl
  generated := rfl
  toResolve := rfl
  external := rfl
  units := rfl
  diagnostics := rfl

/-! ## Uses -/

namespace AnnotationUse

/-- The same use, with retention and targets told where they were open. -/
structure Fills (old new : AnnotationUse) : Prop where
  kind : new.kind = old.kind
  members : new.members = old.members
  span : new.span = old.span
  retention : ∀ retention ∈ old.retention, new.retention = some retention
  targets : ∀ targets ∈ old.targets, new.targets = some targets

theorem Fills.refl (use : AnnotationUse) : Fills use use :=
  ⟨rfl, rfl, rfl, fun _ hmem => hmem, fun _ hmem => hmem⟩

/-- The container has the uses, in order, as the value of its only member. -/
def Holds (container : AnnotationUse) (held : List AnnotationUse) : Prop :=
  container.members = [(valueMember, .list (held.map .annotationUse) .nowhere)]

/-- All of `uses` are there once more, each left in its order or inside one of the containers that
come last. -/
inductive Regrouped (uses : List AnnotationUse) : List AnnotationUse → Prop where
  | mk {kept containers : List AnnotationUse} {groups : List (List AnnotationUse)}
      (hkept : kept.Sublist uses) (hgroups : ∀ group ∈ groups, group.Sublist uses)
      (hcontainers : List.Forall₂ Holds containers groups)
      (hall : (kept ++ groups.flatten).Perm uses) :
      Regrouped uses (kept ++ containers)

theorem Regrouped.refl (uses : List AnnotationUse) : Regrouped uses uses := by
  have hsame : Regrouped uses (uses ++ []) := by
    refine .mk (.refl uses) (List.forall_mem_nil _) .nil ?_
    simp
  rwa [List.append_nil] at hsame

end AnnotationUse

theorem Scope.regrouped_fold (scope : Scope) (uses : List AnnotationUse) :
    AnnotationUse.Regrouped uses (scope.fold uses).1 := by
  rw [fold_fst]
  have hgroups : ∀ group ∈ (scope.foldedKinds uses).map (scope.instances uses),
      group.Sublist uses := by
    intro group hgroup
    obtain ⟨kind, -, rfl⟩ := List.mem_map.mp hgroup
    exact List.filter_sublist.trans List.filter_sublist
  refine .mk List.filter_sublist hgroups ?_ ?_
  · rw [List.forall₂_map_right_iff]
    exact (scope.containers_fold uses).flip.imp fun _ _ hcollects => hcollects.members
  · exact scope.untouched_perm uses

/-! ## Declarations -/

namespace Surroundings

variable (around : Surroundings)

theorem fills_complete (target : Target) (use : AnnotationUse) :
    AnnotationUse.Fills use (around.complete target use).value := by
  rw [complete_eq]
  cases around.registry.annotationType? use.kind with
  | none => exact .refl use
  | some type =>
      refine ⟨rfl, rfl, rfl, fun retention hmem => ?_, fun targets hmem => ?_⟩
      · show use.retention.or _ = some retention
        rw [Option.mem_def.mp hmem, Option.some_or]
      · show use.targets.or _ = some targets
        rw [Option.mem_def.mp hmem, Option.some_or]

theorem forall₂_completedUses (declaration : Declaration) :
    List.Forall₂ AnnotationUse.Fills declaration.annotations
      (around.completedUses declaration) := by
  unfold completedUses
  rw [List.forall₂_map_right_iff, List.forall₂_same]
  exact fun use _ => around.fills_complete declaration.target use

theorem regrouped_treatedUses (declaration : Declaration) :
    AnnotationUse.Regrouped (around.completedUses declaration)
      (around.treatedUses declaration) := by
  unfold treatedUses
  split
  · exact around.scope.regrouped_fold _
  · exact .refl _

/-- What a visit hands back are the uses that it found, filled in and perhaps regrouped. -/
theorem exists_filled (declaration : Declaration) :
    ∃ filled, List.Forall₂ AnnotationUse.Fills declaration.annotations filled ∧
      AnnotationUse.Regrouped filled (around.visit declaration).value.annotations ∧
      (around.settings.folding = false →
        (around.visit declaration).value.annotations = filled) := by
  have hsame : List.Forall₂ AnnotationUse.Fills declaration.annotations declaration.annotations :=
    List.forall₂_same.mpr fun use _ => .refl use
  cases hempty : declaration.annotations.isEmpty with
  | true =>
      rw [visit_unannotated _ hempty]
      exact ⟨declaration.annotations, hsame, .refl _, fun _ => rfl⟩
  | false =>
    cases hsupports : around.settings.supportsAnnotations with
    | false =>
        rw [visit_unsupported _ hempty hsupports]
        exact ⟨declaration.annotations, hsame, .refl _, fun _ => rfl⟩
    | true =>
        rw [visit_supported _ hempty hsupports]
        refine ⟨around.completedUses declaration, around.forall₂_completedUses declaration,
          around.regrouped_treatedUses declaration, fun hfolding => ?_⟩
        exact around.treatedUses_unfolded hfolding declaration

theorem deprecated_visit (hdefinite : around.registry.Definite) (declaration : Declaration) :
    (around.visit declaration).value.deprecated =
      (around.settings.supportsAnnotations &&
        declaration.annotations.any (around.registry.isUse WellKnown.deprecatedName)) := by
  have huse : around.isUseOf .deprecated = around.registry.isUse WellKnown.deprecatedName :=
    isUseOf_eq hdefinite rfl
  cases hempty : declaration.annotations.isEmpty with
  | true =>
      rw [visit_unannotated _ hempty, List.isEmpty_iff.mp hempty]
      simp
  | false =>
    cases hsupports : around.settings.supportsAnnotations with
    | false =>
        rw [visit_unsupported _ hempty hsupports]
        rfl
    | true =>
        rw [visit_supported _ hempty hsupports, ← huse]
        rfl

end Surroundings

/-! ## Classes -/

namespace Verifier

variable (verifier : Verifier)

/-- What a check may make of a declaration. -/
structure Retouches (registry : Registry) (old new : Declaration) : Prop where
  annotations : ∃ filled, List.Forall₂ AnnotationUse.Fills old.annotations filled ∧
    AnnotationUse.Regrouped filled new.annotations ∧
    (verifier.settings.folding = false → new.annotations = filled)
  deprecated : new.deprecated? = old.deprecated?.map
    (· || (decide (5 ≤ verifier.settings.release) &&
      old.annotations.any (registry.isUse WellKnown.deprecatedName)))

theorem retouches_completed {registry : Registry} (hdefinite : registry.Definite)
    (decl : ClassDecl) :
    List.Forall₂ (verifier.Retouches registry) decl.declarations
      (verifier.completed registry decl).declarations := by
  let around : Surroundings := ⟨verifier.settings, verifier.scope registry, decl⟩
  refine verifier.forall₂_completed_of_rewritten registry decl (fun old _ => ⟨?_, ?_⟩)
    fun hclass => ?_
  · rw [Surroundings.annotations_rewritten]
    exact around.exists_filled old
  · rw [Surroundings.deprecated?_rewritten]
    exact congrArg (fun mark => old.deprecated?.map (· || mark))
      (around.deprecated_visit hdefinite old)
  · -- The class is marked as annotated after the walk, which is neither of the two.
    exact ⟨hclass.annotations, hclass.deprecated⟩

/-- **A check rewrites annotation lists and marks only.**  Checking a class gives an answer here
even where the search for an overridden method has no end: such a search counts as no report.  One
entry has another declaration then, and all else in the registry is as it was.  The declaration has
the bare form of the old one, so names, types, parameters, statements, expressions and spans are in
place at every depth.  Declaration by declaration, uses keep their members, and a mark of
deprecation is what it was or is set by a use of the type for it, if the release has annotations. -/
theorem verifyClass?_retouches (operations : List Operation) {id : ClassId} {entry : Entry}
    (hentry : Registry.entry? (.after operations) id = some entry) :
    ∃ checked findings decl,
      verifier.verifyClass? (Registry.after operations) id = some (checked, findings) ∧
      (Registry.after operations).RewrittenAt id decl checked ∧
      decl.bare = entry.decl.bare ∧
      List.Forall₂ (verifier.Retouches (Registry.after operations)) entry.decl.declarations
        decl.declarations := by
  let registry := Registry.after operations
  have hclass : registry.class? id = some entry.decl := by
    rw [Registry.class?, hentry]
    rfl
  refine ⟨registry.setDecl id (verifier.completed registry entry.decl),
    verifier.findings registry id entry.decl, verifier.completed registry entry.decl,
    ?_, ?_, ?_, ?_⟩
  · exact verifier.verifyClass?_of_class? hclass
  · exact registry.rewrittenAt_setDecl id _
  · exact verifier.bare_completed registry entry.decl
  · exact verifier.retouches_completed (Registry.definite_after operations) entry.decl

end Verifier

/-! ## A deprecated hammer -/

namespace Toolbox

/-- The annotation definition that marks what is deprecated. -/
def deprecation : ClassDecl where
  name := WellKnown.deprecatedName
  kind := .annotationType

/-- The hammer is deprecated and tagged twice, and its initializer declares a tagged grip. -/
def box : ClassDecl where
  name := "Box"
  fields := [{
    name := "hammer"
    type := .plain "Hammer"
    annotations :=
      [Stationery.use "Tag" [], Stationery.use WellKnown.deprecatedName [], Stationery.use "Tag" []]
    initializer := some (.closure
      [.declare ⟨"grip", none, [Stationery.use "Tag" []], none, .nowhere⟩] .nowhere) }]

/-- The tag, its container, the mark and the box are declared, in this order. -/
def operations : List Operation :=
  [.change (.declare Labels.tag "tags"), .change (.declare Stationery.tags "tags"),
    .change (.declare deprecation "lang"), .change (.declare box "box")]

/-- The classes with the box among them. -/
def classes : Registry := Registry.after operations

/-- The tags on the hammer are collected and the hammer is marked; the grip bears no mark. -/
theorem retouched_box :
    ∃ checked findings decl,
      ({} : Verifier).verifyClass? classes ⟨3⟩ = some (checked, findings) ∧
      classes.RewrittenAt ⟨3⟩ decl checked ∧ decl.bare = box.bare ∧
      List.Forall₂ (({} : Verifier).Retouches classes) box.declarations decl.declarations ∧
      decl.declarations.map (fun declaration =>
          (declaration.annotations.map (·.kind), declaration.deprecated?)) =
        [([], some false), ([WellKnown.deprecatedName, "Tags"], some true), (["Tag"], none)] := by
  have hentry : classes.entry? ⟨3⟩ = some (.new box (.declared "box")) := rfl
  obtain ⟨checked, findings, decl, hcheck, hrewritten, hbare, hretouched⟩ :=
    Verifier.verifyClass?_retouches {} operations hentry
  have hwritten : checked.class? ⟨3⟩ = some decl := by
    rw [Registry.class?, hrewritten.entry]
    exact congrArg (Option.map _) (congrArg (Option.map _) hentry)
  -- The declaration in the entry is the one that the check completes.
  obtain rfl : decl = ({} : Verifier).completed classes box := by
    cases hcheck
    exact (Option.some.inj hwritten).symm
  exact ⟨checked, findings, _, hcheck, hrewritten, hbare, hretouched, by decide +kernel⟩

end Toolbox

end DeclCheck
