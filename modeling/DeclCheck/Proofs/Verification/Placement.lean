/-
# DeclCheck.Proofs.Verification.Placement — annotations where their types let them stand.

A walk reports a target mismatch exactly when some use stands where its type does not let it.  That
is asked of the uses as they are found, before repeated ones are folded: the container that folding
puts in their place is a use of another type, and nobody asks where that one may stand.

So in a class without mismatches every use is permitted afterwards, except that a container may
stand where its type does not let it.  Such a container was not written by hand: no use of its kind
was there before, and it holds uses of one kind, all permitted.
-/
import DeclCheck.Proofs.Check.Refolding
import DeclCheck.Proofs.Registry.Definitions
import DeclCheck.Proofs.Verification.Gates
import DeclCheck.Proofs.Verification.Rewriting

namespace DeclCheck

namespace Registry

/-- Uses of a kind may stand on the target, as far as the kind is an annotation type: the type lets
them, or it is the type that declares targets, which may stand on every annotation definition. -/
def Permitted (registry : Registry) (target : Target) (kind : String) : Prop :=
  ∀ type ∈ registry.annotationType? kind,
    type.targets.allows target = true ∨ kind = WellKnown.targetName ∧ target = .annotationType

instance (registry : Registry) (target : Target) (kind : String) :
    Decidable (registry.Permitted target kind) :=
  inferInstanceAs (Decidable (∀ type ∈ registry.annotationType? kind,
    type.targets.allows target = true ∨ kind = WellKnown.targetName ∧ target = .annotationType))

/-- What may be found on a declaration after a check, given the declaration before it. -/
inductive Placed (registry : Registry) (before : Declaration) (use : AnnotationUse) : Prop where
  | permitted (hpermitted : registry.Permitted before.target use.kind)
  /-- A container that was not there before, and that holds permitted uses of one kind. -/
  | collected {kind : String} {held : List AnnotationUse}
      (hnew : ∀ old ∈ before.annotations, old.kind ≠ use.kind)
      (hcontainer : (registry.annotationType? kind).bind (·.container) = some use.kind)
      (hmembers : use.members =
        [(AnnotationUse.valueMember, .list (held.map .annotationUse) .nowhere)])
      (hseveral : 2 ≤ held.length)
      (hheld : ∀ inner ∈ held, inner.kind = kind ∧
        ∃ old ∈ before.annotations, old.kind = kind ∧ old.members = inner.members)
      (hpermitted : registry.Permitted before.target kind)

variable {registry other : Registry}

theorem permitted_congr (hsame : ∀ name, registry.annotationType? name = other.annotationType? name)
    (target : Target) (kind : String) :
    registry.Permitted target kind ↔ other.Permitted target kind := by
  unfold Permitted
  rw [hsame]

theorem Placed.congr (hsame : ∀ name, registry.annotationType? name = other.annotationType? name)
    {before : Declaration} {use : AnnotationUse} (hplaced : registry.Placed before use) :
    other.Placed before use := by
  cases hplaced with
  | permitted hpermitted => exact .permitted ((permitted_congr hsame _ _).mp hpermitted)
  | collected hnew hcontainer hmembers hseveral hheld hpermitted =>
      rw [hsame] at hcontainer
      exact .collected hnew hcontainer hmembers hseveral hheld
        ((permitted_congr hsame _ _).mp hpermitted)

end Registry

namespace Surroundings

variable {around : Surroundings}

/-! ## What a mismatch tells -/

theorem kind_complete (target : Target) (use : AnnotationUse) :
    (around.complete target use).value.kind = use.kind := by
  rw [complete_eq]
  split <;> rfl

end Surroundings

/-! ## Classes -/

namespace Verifier

variable (verifier : Verifier)

/-- What a check makes of the declarations of a class, one by one.  The class itself comes first; it
is marked as annotated after the walk. -/
theorem forall₂_completed_of_rewritten (registry : Registry) (decl : ClassDecl)
    {R : Declaration → Declaration → Prop}
    (hrewritten : ∀ before ∈ decl.declarations,
      R before (Surroundings.rewritten ⟨verifier.settings, verifier.scope registry, decl⟩ before))
    (hmarked : R (.type decl) (.type (verifier.walk registry decl).value) →
      R (.type decl) (.type (verifier.completed registry decl))) :
    List.Forall₂ R decl.declarations (verifier.completed registry decl).declarations := by
  have hwalk : List.Forall₂ R decl.declarations
      (verifier.walk registry decl).value.declarations := by
    rw [walk, Surroundings.declarations_walkClass, List.forall₂_map_right_iff, List.forall₂_same]
    exact hrewritten
  obtain ⟨hclass, hrest⟩ := List.forall₂_cons.mp hwalk
  exact .cons (hmarked hclass) hrest

variable {verifier}

end Verifier

/-! ## A container out of place

Uses of `Tag` are collected in `Tags`, which may stand on fields only. -/

namespace Stationery

/-- A use at no place in particular, with nothing filled in. -/
def use (kind : String) (members : List (String × Expr)) : AnnotationUse :=
  ⟨kind, members, none, none, .nowhere⟩

/-- The container of `Labels.tag`, for fields only. -/
def tags : ClassDecl where
  name := "Tags"
  kind := .annotationType
  annotations := [use WellKnown.targetName
    [(AnnotationUse.valueMember, .enumConstant "ElementType" "FIELD" .nowhere)]]

/-- A desk with one tag on a field and two on a method. -/
def desk : ClassDecl where
  name := "Desk"
  fields := [{ name := "drawer", type := .plain "Drawer", annotations := [use "Tag" []] }]
  methods := [{ name := "tidy", annotations := [use "Tag" [], use "Tag" []] }]

/-- The tag, its container and the desk are declared, in this order. -/
def operations : List Operation :=
  [.change (.declare Labels.tag "tags"), .change (.declare tags "tags"),
    .change (.declare desk "desk")]

/-- The classes with the desk among them. -/
def classes : Registry := Registry.after operations

end Stationery

end DeclCheck
