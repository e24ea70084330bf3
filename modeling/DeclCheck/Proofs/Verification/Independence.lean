/-
# DeclCheck.Proofs.Verification.Independence — checking one class does not touch another.

Each check writes a completed declaration into the registry that the next one reads.  Nothing that
is read there has changed: the completed declaration has the same bare form, and a walk asks nothing
that the bare form of the registry does not answer.  So a check after other checks finds what it
would have found alone and writes what it would have written alone, and checks of different classes
can be made in any order.
-/
import Mathlib.Data.List.Perm.Basic
import DeclCheck.Proofs.Registry.Bare
import DeclCheck.Proofs.Registry.Entries
import DeclCheck.Proofs.Verification.Frame
import DeclCheck.Proofs.Verification.Questions

namespace DeclCheck

theorem Registry.AnswersAlike.of_bare_eq {a b : Registry} (hbare : a.bare = b.bare) :
    a.AnswersAlike b where
  annotationType name := by rw [← a.annotationType?_bare, hbare, b.annotationType?_bare]
  known name := by rw [← a.find?_bare, hbare, b.find?_bare]
  overriding declaring method := by
    rw [← a.searchOverridden_bare, hbare, b.searchOverridden_bare]
  member definition member := by rw [← a.checkMember_bare, hbare, b.checkMember_bare]

namespace Verifier

variable (verifier : Verifier) (registry : Registry)

/-! ## One check -/

/-- The declaration that a check writes back. -/
def completed (decl : ClassDecl) : ClassDecl :=
  let visit := verifier.walk registry decl
  { visit.value with annotated := visit.value.annotated || visit.annotated }

/-- What a check finds, each finding in the class's unit. -/
def findings (id : ClassId) (decl : ClassDecl) : List Diagnostic :=
  (verifier.walk registry decl).findings.map fun finding =>
    { finding with unit := registry.unitOf? id }

theorem verifyClass?_eq (id : ClassId) :
    verifier.verifyClass? registry id = (registry.class? id).map fun decl =>
      (registry.setDecl id (verifier.completed registry decl),
        verifier.findings registry id decl) := by
  cases hclass : registry.class? id <;> simp [verifyClass?, hclass, completed, findings]

theorem bare_completed (decl : ClassDecl) : (verifier.completed registry decl).bare = decl.bare :=
  Surroundings.bare_walkClass _ decl

variable {registry}

theorem verifyClass?_of_class? {id : ClassId} {decl : ClassDecl}
    (hclass : registry.class? id = some decl) :
    verifier.verifyClass? registry id =
      some (registry.setDecl id (verifier.completed registry decl),
        verifier.findings registry id decl) := by
  rw [verifyClass?_eq, hclass, Option.map_some]

/-- A finding keeps its rule when it is given its unit. -/
theorem filter_findings (p : Rule → Bool) (id : ClassId) (decl : ClassDecl) :
    (verifier.findings registry id decl).filter (fun finding => p finding.rule) =
      ((verifier.walk registry decl).findings.filter (fun finding => p finding.rule)).map
        fun finding => { finding with unit := registry.unitOf? id } := by
  rw [findings, List.filter_map]
  rfl

/-- Registries with one bare form are checked alike. -/
theorem completed_congr {other : Registry} (hbare : registry.bare = other.bare) (decl : ClassDecl) :
    verifier.completed registry decl = verifier.completed other decl := by
  rw [completed, completed, verifier.walk_congr (.of_bare_eq hbare) decl]

theorem findings_congr {other : Registry} (hbare : registry.bare = other.bare) (id : ClassId)
    (decl : ClassDecl) : verifier.findings registry id decl = verifier.findings other id decl := by
  have hunit : registry.unitOf? id = other.unitOf? id := by
    rw [← registry.unitOf?_bare, hbare, other.unitOf?_bare]
  rw [findings, findings, verifier.walk_congr (.of_bare_eq hbare) decl, hunit]

/-- A check of another class makes no difference, but for that class's declaration. -/
theorem verifyClass?_setDecl {a b : ClassId} (hne : b ≠ a) {decl : ClassDecl}
    (hbare : (registry.setDecl a decl).bare = registry.bare) :
    verifier.verifyClass? (registry.setDecl a decl) b =
      (verifier.verifyClass? registry b).map fun result => (result.1.setDecl a decl, result.2) := by
  rw [verifyClass?_eq, verifyClass?_eq, Registry.class?_setDecl, if_neg hne, Option.map_map]
  congr 1
  funext declB
  -- Both registries have one bare form, so the walk of `declB` cannot tell them apart.
  simp only [Function.comp_apply, verifier.completed_congr hbare, verifier.findings_congr hbare]
  rw [registry.setDecl_comm hne.symm]

/-- What checking the class in this registry alone would find. -/
def findingsAlone (registry : Registry) (id : ClassId) : List Diagnostic :=
  ((verifier.verifyClass? registry id).map (·.2)).getD []

/-- The declaration that checking the class in this registry alone would write. -/
def declAlone? (registry : Registry) (id : ClassId) : Option ClassDecl :=
  (verifier.verifyClass? registry id).bind fun result => result.1.class? id

/-- The registry after a check; the same one if there is no such class. -/
def checked (registry : Registry) (id : ClassId) : Registry :=
  ((verifier.verifyClass? registry id).map (·.1)).getD registry

theorem verifyClass?_eq_alone (registry : Registry) (id : ClassId) :
    verifier.verifyClass? registry id =
      (registry.class? id).map fun _ =>
        (verifier.checked registry id, verifier.findingsAlone registry id) := by
  cases hclass : registry.class? id <;> simp [checked, findingsAlone, verifyClass?_eq, hclass]

theorem checked_of_class? {registry : Registry} {id : ClassId} {decl : ClassDecl}
    (hclass : registry.class? id = some decl) :
    verifier.checked registry id = registry.setDecl id (verifier.completed registry decl) := by
  rw [checked, verifier.verifyClass?_of_class? hclass]
  rfl

theorem findingsAlone_of_class? {registry : Registry} {id : ClassId} {decl : ClassDecl}
    (hclass : registry.class? id = some decl) :
    verifier.findingsAlone registry id = verifier.findings registry id decl := by
  rw [findingsAlone, verifier.verifyClass?_of_class? hclass]
  rfl

/-- A check writes one declaration, and leaves the bare form as it was. -/
theorem exists_checked_eq_setDecl (registry : Registry) (id : ClassId) :
    ∃ decl, verifier.checked registry id = registry.setDecl id decl ∧
      (registry.setDecl id decl).bare = registry.bare := by
  cases hclass : registry.class? id with
  | none =>
      have hsame := registry.setDecl_of_class?_eq_none hclass { name := "" }
      exact ⟨{ name := "" }, by simp [checked, verifyClass?_eq, hclass, hsame], by rw [hsame]⟩
  | some old =>
      refine ⟨verifier.completed registry old, verifier.checked_of_class? hclass, ?_⟩
      exact registry.bare_setDecl hclass (verifier.bare_completed registry old)

/-- A check of another class changes neither what is found here nor what is written here. -/
theorem alone_checked {a b : ClassId} (hne : b ≠ a) :
    verifier.findingsAlone (verifier.checked registry a) b = verifier.findingsAlone registry b ∧
      verifier.declAlone? (verifier.checked registry a) b = verifier.declAlone? registry b := by
  obtain ⟨decl, hchecked, hbare⟩ := verifier.exists_checked_eq_setDecl registry a
  rw [hchecked, findingsAlone, findingsAlone, declAlone?, declAlone?,
    verifier.verifyClass?_setDecl hne hbare]
  cases verifier.verifyClass? registry b with
  | none => exact ⟨rfl, rfl⟩
  | some result => simp [Registry.class?_setDecl, hne]

theorem class?_checked_of_ne {a b : ClassId} (hne : b ≠ a) :
    (verifier.checked registry a).class? b = registry.class? b := by
  obtain ⟨decl, hchecked, -⟩ := verifier.exists_checked_eq_setDecl registry a
  rw [hchecked, Registry.class?_setDecl, if_neg hne]

theorem class?_checked (registry : Registry) (id : ClassId) :
    (verifier.checked registry id).class? id = verifier.declAlone? registry id := by
  cases hclass : registry.class? id <;> simp [checked, declAlone?, verifyClass?_eq, hclass]

/-! ## Several checks -/

theorem checked_comm (registry : Registry) (a b : ClassId) :
    verifier.checked (verifier.checked registry a) b =
      verifier.checked (verifier.checked registry b) a := by
  by_cases hne : a = b
  · rw [hne]
  · -- Either way two declarations are written, and each is the one that is written alone.
    obtain ⟨declA, hcheckedA, hbareA⟩ := verifier.exists_checked_eq_setDecl registry a
    obtain ⟨declB, hcheckedB, hbareB⟩ := verifier.exists_checked_eq_setDecl registry b
    have hcheckedAB : verifier.checked (registry.setDecl a declA) b =
        (verifier.checked registry b).setDecl a declA := by
      rw [checked, verifier.verifyClass?_setDecl (Ne.symm hne) hbareA, checked]
      cases verifier.verifyClass? registry b <;> rfl
    have hcheckedBA : verifier.checked (registry.setDecl b declB) a =
        (verifier.checked registry a).setDecl b declB := by
      rw [checked, verifier.verifyClass?_setDecl hne hbareB, checked]
      cases verifier.verifyClass? registry a <;> rfl
    calc verifier.checked (verifier.checked registry a) b
        = (registry.setDecl b declB).setDecl a declA := by rw [hcheckedA, hcheckedAB, hcheckedB]
      _ = (registry.setDecl a declA).setDecl b declB := (registry.setDecl_comm hne _ _).symm
      _ = verifier.checked (verifier.checked registry b) a := by
          rw [hcheckedB, hcheckedBA, hcheckedA]

instance : RightCommutative verifier.checked := ⟨verifier.checked_comm⟩

/-- Two checks, one after the other: the registry after both, and what each found. -/
def verifyBoth? (registry : Registry) (a b : ClassId) :
    Option (Registry × List Diagnostic × List Diagnostic) := do
  let (first, foundA) ← verifier.verifyClass? registry a
  let (second, foundB) ← verifier.verifyClass? first b
  return (second, foundA, foundB)

theorem verifyBoth?_eq (registry : Registry) {a b : ClassId} (hne : a ≠ b) :
    verifier.verifyBoth? registry a b =
      (registry.class? a).bind fun _ => (registry.class? b).map fun _ =>
        (verifier.checked (verifier.checked registry a) b,
          verifier.findingsAlone registry a, verifier.findingsAlone registry b) := by
  rw [verifyBoth?, verifyClass?_eq_alone]
  cases registry.class? a with
  | none => rfl
  | some declA =>
      simp only [Option.map_some, Option.bind_eq_bind, Option.bind_some, verifyClass?_eq_alone,
        verifier.class?_checked_of_ne hne.symm, verifier.alone_checked hne.symm]
      cases registry.class? b <;> rfl

/-- Two checks of different classes can be exchanged. -/
theorem verifyBoth?_comm (registry : Registry) {a b : ClassId} (hne : a ≠ b) :
    verifier.verifyBoth? registry a b =
      (verifier.verifyBoth? registry b a).map fun (both, foundB, foundA) =>
        (both, foundA, foundB) := by
  rw [verifier.verifyBoth?_eq registry hne, verifier.verifyBoth?_eq registry hne.symm,
    verifier.checked_comm registry a b]
  cases registry.class? a <;> cases registry.class? b <;> rfl

theorem verifyEach_cons (registry : Registry) (id : ClassId) (rest : List ClassId) :
    verifier.verifyEach registry (id :: rest) =
      ((verifier.verifyEach (verifier.checked registry id) rest).1,
        verifier.findingsAlone registry id ++
          (verifier.verifyEach (verifier.checked registry id) rest).2) := by
  rw [verifyEach, checked, findingsAlone]
  cases verifier.verifyClass? registry id <;> rfl

theorem verifyEach_fst (registry : Registry) (ids : List ClassId) :
    (verifier.verifyEach registry ids).1 = ids.foldl verifier.checked registry := by
  induction ids generalizing registry with
  | nil => rfl
  | cons id rest ih => rw [verifyEach_cons, ih, List.foldl_cons]

/-- Checks of distinct classes find what each would find alone. -/
theorem verifyEach_snd (registry : Registry) {ids : List ClassId} (hdistinct : ids.Nodup) :
    (verifier.verifyEach registry ids).2 = ids.flatMap (verifier.findingsAlone registry) := by
  induction ids generalizing registry with
  | nil => rfl
  | cons id rest ih =>
      obtain ⟨hid, hrest⟩ := List.nodup_cons.mp hdistinct
      rw [verifyEach_cons, ih _ hrest, List.flatMap_cons]
      -- The rest is checked in a registry where `id` is written already.
      have hsame : rest.flatMap (verifier.findingsAlone (verifier.checked registry id)) =
          rest.flatMap (verifier.findingsAlone registry) := by
        refine List.flatMap_congr fun other hother => ?_
        exact (verifier.alone_checked (ne_of_mem_of_not_mem hother hid)).1
      rw [hsame]

/-- Checks of distinct classes write what each would write alone. -/
theorem class?_foldl_checked (registry : Registry) {ids : List ClassId} (hdistinct : ids.Nodup)
    (id : ClassId) :
    (ids.foldl verifier.checked registry).class? id =
      if id ∈ ids then verifier.declAlone? registry id else registry.class? id := by
  induction ids generalizing registry with
  | nil => rfl
  | cons first rest ih =>
      obtain ⟨hfirst, hrest⟩ := List.nodup_cons.mp hdistinct
      rw [List.foldl_cons, ih _ hrest]
      by_cases hid : id = first
      · subst hid
        simp [hfirst, class?_checked]
      · simp [hid, verifier.class?_checked_of_ne hid, verifier.alone_checked hid]

theorem pending_verifyAll (registry : Registry) :
    (verifier.verifyAll registry).1.pending = registry.pending := by
  rw [verifyAll, verifyEach_fst]
  generalize registry.declaredIds = ids
  induction ids generalizing registry with
  | nil => rfl
  | cons id rest ih =>
      obtain ⟨decl, hchecked, -⟩ := verifier.exists_checked_eq_setDecl registry id
      rw [List.foldl_cons, ih, hchecked]
      rfl

/-- Checking all declared classes gives, class by class, what checking each one in the registry as
it was would give; and neither two checks nor any number of them depend on their order. -/
theorem verifyAll_independent (registry : Registry) :
    (verifier.verifyAll registry).2 =
        registry.declaredIds.flatMap (verifier.findingsAlone registry) ∧
      (∀ id ∈ registry.declaredIds, ∃ decl,
        verifier.declAlone? registry id = some decl ∧
          (verifier.verifyAll registry).1.class? id = some decl) ∧
      (∀ a b : ClassId, a ≠ b →
        verifier.verifyBoth? registry a b =
          (verifier.verifyBoth? registry b a).map fun (both, foundB, foundA) =>
            (both, foundA, foundB)) ∧
      ∀ ids order : List ClassId, ids.Nodup → order.Perm ids →
        verifier.verifyEach registry order =
          ((verifier.verifyEach registry ids).1,
            order.flatMap (verifier.findingsAlone registry)) := by
  have hdistinct := registry.nodup_declaredIds
  refine ⟨verifier.verifyEach_snd registry hdistinct, ?_, ?_, ?_⟩
  · intro id hid
    obtain ⟨old, hold⟩ := registry.exists_class?_of_mem_declaredIds hid
    have halone : verifier.declAlone? registry id = some (verifier.completed registry old) := by
      simp [declAlone?, verifyClass?_eq, hold, Registry.class?_setDecl]
    refine ⟨_, halone, ?_⟩
    rw [verifyAll, verifyEach_fst, verifier.class?_foldl_checked registry hdistinct, if_pos hid,
      halone]
  · intro a b hne
    exact verifier.verifyBoth?_comm registry hne
  · intro ids order hids horder
    refine Prod.ext ?_ (verifier.verifyEach_snd registry (horder.nodup_iff.mpr hids))
    rw [verifyEach_fst, verifyEach_fst]
    exact horder.foldl_eq registry

end Verifier

/-! ## Three classes that use each other -/

namespace Drafts

/-- A bare use of an annotation type. -/
def use (kind : String) : AnnotationUse :=
  ⟨kind, [], none, none, .nowhere⟩

/-- An annotation type that is used on itself. -/
def marker : ClassDecl where
  name := "Marker"
  kind := .annotationType
  annotations := [use "Marker"]

/-- A class with a proper use. -/
def memo : ClassDecl where
  name := "Memo"
  annotations := [use "Marker"]

/-- The class `Memo` is wrongly used as an annotation here. -/
def draft : ClassDecl where
  name := "Draft"
  annotations := [use "Memo", use "Marker"]

/-- The three classes, declared in one unit. -/
def classes : Registry :=
  ((∅ : Registry).declareAll [marker, memo, draft] "drafts").1

/-- The verifier with the settings that hold unless others are given. -/
def plain : Verifier := {}

/-- The last class has a finding of its own, also when it is checked before the two it uses. -/
theorem verifyEach_drafts :
    classes.declaredIds = [⟨0⟩, ⟨1⟩, ⟨2⟩] ∧
    (plain.verifyAll classes).2.map (·.problem) = [.notAnnotationType "Memo"] ∧
    plain.verifyEach classes [⟨2⟩, ⟨0⟩, ⟨1⟩] = plain.verifyAll classes ∧
    (∃ decl, plain.declAlone? classes ⟨1⟩ = some decl ∧
      (plain.verifyAll classes).1.class? ⟨1⟩ = some decl) ∧
    plain.verifyBoth? classes ⟨1⟩ ⟨2⟩ =
      (plain.verifyBoth? classes ⟨2⟩ ⟨1⟩).map fun (both, foundB, foundA) =>
        (both, foundA, foundB) := by
  have hids : classes.declaredIds = [⟨0⟩, ⟨1⟩, ⟨2⟩] := by decide
  have horder : [⟨2⟩, ⟨0⟩, ⟨1⟩].Perm classes.declaredIds := by decide
  obtain ⟨hfound, hwritten, hcomm, hordered⟩ := Verifier.verifyAll_independent plain classes
  have hdistinct : classes.declaredIds.Nodup := by decide
  refine ⟨hids, by decide, (hordered _ _ hdistinct horder).trans (Prod.ext rfl ?_), ?_, ?_⟩
  · rw [hfound]
    decide
  · exact hwritten ⟨1⟩ (by decide)
  · exact hcomm ⟨1⟩ ⟨2⟩ (by decide)

end Drafts

end DeclCheck
