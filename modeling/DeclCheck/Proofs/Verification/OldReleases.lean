/-
# DeclCheck.Proofs.Verification.OldReleases — the mark of annotated classes, and releases without
annotations.

A class is marked as annotated when any declaration in it carries an annotation, for every release.
For a release that cannot hold annotations that is all a check writes: each annotated declaration is
reported once, at its place in the walk, and nothing below it is passed over on that account.
Methods are still checked as members of an annotation definition, because these checks are not about
annotations.
-/
import DeclCheck.Proofs.Compilation.Reports
import DeclCheck.Proofs.Verification.Unaltered

namespace DeclCheck

/-- Whether a declaration carries an annotation. -/
def Declaration.isAnnotated (declaration : Declaration) : Bool :=
  !declaration.annotations.isEmpty

namespace Surroundings

variable (around : Surroundings)

/-! ## The mark -/

theorem annotated_walkClass_eq (decl : ClassDecl) :
    (around.walkClass decl).annotated = decl.declarations.any (·.isAnnotated) := by
  rw [annotated_walkClass, decl.any_stops fun method => rfl]
  exact congrArg decl.declarations.any (funext around.annotated_visit)

/-! ## Visits for an old release -/

/-- The report on an annotated declaration. -/
def unsupported (declaration : Declaration) : Diagnostic where
  problem := .annotationsUnsupported around.settings.release.toNat firstAnnotationRelease.toNat
  span := declaration.span

variable {around} (hsupports : around.settings.supportsAnnotations = false)
include hsupports

theorem findings_visit_old (declaration : Declaration) :
    (around.visit declaration).findings =
      if declaration.isAnnotated then [around.unsupported declaration] else [] := by
  cases hempty : declaration.annotations.isEmpty with
  | true =>
      rw [visit_unannotated _ hempty, Declaration.isAnnotated, hempty]
      rfl
  | false =>
      rw [visit_unsupported _ hempty hsupports, Declaration.isAnnotated, hempty]
      rfl

theorem keeps_old (declaration : Declaration) : around.Keeps declaration := by
  have hvalue : (around.visit declaration).value = ⟨declaration.annotations, false⟩ := by
    cases hempty : declaration.annotations.isEmpty with
    | true => rw [visit_unannotated _ hempty]; rfl
    | false => rw [visit_unsupported _ hempty hsupports]
  constructor
  · rw [hvalue]
  · rw [hvalue]
    simp

/-! ## Walks for an old release -/

theorem filter_findings_old (decl : ClassDecl) :
    (around.walkClass decl).findings.filter (·.rule = .annotationsUnsupported) =
      (decl.declarations.filter (·.isAnnotated)).map around.unsupported := by
  have hmember : ∀ method,
      (around.stopAt (.member method)).findings.filter (·.rule = .annotationsUnsupported) = [] :=
    fun method =>
      around.filter_findings_member method (p := (· = .annotationsUnsupported)) (by decide)
  rw [findings_walkClass, List.filter_flatMap, decl.flatMap_stops hmember]
  induction decl.declarations with
  | nil => rfl
  | cons declaration rest ih =>
      have hvisit : (around.stopAt (.declaration declaration)).findings = _ :=
        findings_visit_old hsupports declaration
      rw [List.flatMap_cons, ih, hvisit]
      cases hannotated : declaration.isAnnotated with
      | true =>
          rw [List.filter_cons_of_pos hannotated]
          rfl
      | false =>
          rw [List.filter_cons_of_neg (by simp [hannotated])]
          rfl

theorem rule_of_mem_walkClass_old (decl : ClassDecl) {finding : Diagnostic}
    (hmem : finding ∈ (around.walkClass decl).findings) :
    finding.rule ∈ [.annotationsUnsupported, .memberParameters, .memberThrows, .memberType,
      .circularDefault] := by
  rw [findings_walkClass] at hmem
  obtain ⟨stop, -, hmem⟩ := List.mem_flatMap.mp hmem
  cases stop with
  | member method => exact List.mem_cons_of_mem _ (around.rule_of_mem_stopAt hmem)
  | declaration declaration =>
      have hvisit : finding ∈ (around.visit declaration).findings := hmem
      rw [findings_visit_old hsupports, List.mem_ite_nil_right, List.mem_singleton] at hvisit
      rw [hvisit.2]
      exact List.mem_cons_self

end Surroundings

namespace Verifier

variable (verifier : Verifier)

/-- **The mark of annotated classes, and old releases.**  Checking a class gives an answer here even
where the search for an overridden method has no end: such a search counts as no report.  The class
is marked as annotated afterwards if it was before or if any declaration in it carries an
annotation.  For a release without annotations there is one report for each annotated declaration,
in the order of a walk and at the place of the declaration; all other reports are about members of
an annotation definition; and but for the mark the class is as it was. -/
theorem verifyClass?_annotated (registry : Registry) {id : ClassId} {decl : ClassDecl}
    (hclass : registry.class? id = some decl) :
    ∃ checked findings after, verifier.verifyClass? registry id = some (checked, findings) ∧
      checked.class? id = some after ∧
      after.annotated = (decl.annotated || decl.declarations.any (·.isAnnotated)) ∧
      (verifier.settings.release < 5 →
        findings.filter (·.rule = .annotationsUnsupported) =
            (decl.declarations.filter (·.isAnnotated)).map (fun declaration =>
              { problem := .annotationsUnsupported verifier.settings.release.toNat 5
                span := declaration.span
                unit := registry.unitOf? id }) ∧
          (∀ finding ∈ findings, finding.rule ∈ [.annotationsUnsupported, .memberParameters,
            .memberThrows, .memberType, .circularDefault]) ∧
          after = { decl with
            annotated := decl.annotated || decl.declarations.any (·.isAnnotated) }) := by
  let around : Surroundings := ⟨verifier.settings, verifier.scope registry, decl⟩
  have hannotated : (verifier.walk registry decl).annotated =
      decl.declarations.any (·.isAnnotated) := around.annotated_walkClass_eq decl
  have hmark : (verifier.walk registry decl).value.annotated = decl.annotated := rfl
  refine ⟨registry.setDecl id (verifier.completed registry decl),
    verifier.findings registry id decl, verifier.completed registry decl, ?_, ?_, ?_, ?_⟩
  · exact verifier.verifyClass?_of_class? hclass
  · rw [Registry.class?_setDecl, if_pos rfl, hclass]
    rfl
  · rw [completed, hannotated, hmark]
  · intro hrelease
    have hsupports : around.settings.supportsAnnotations = false :=
      decide_eq_false (UInt32.not_le.mpr hrelease)
    have hvalue : (verifier.walk registry decl).value = decl :=
      Surroundings.value_walkClass_self decl fun declaration _ =>
        Surroundings.keeps_old hsupports declaration
    refine ⟨?_, ?_, ?_⟩
    · have hfound := Surroundings.filter_findings_old hsupports decl
      rw [verifier.filter_findings (· = .annotationsUnsupported)]
      refine (congrArg (List.map _) hfound).trans ?_
      rw [List.map_map]
      rfl
    · intro finding hmem
      obtain ⟨found, hfound, rfl⟩ := List.mem_map.mp hmem
      show found.rule ∈ _
      exact Surroundings.rule_of_mem_walkClass_old hsupports decl hfound
    · rw [completed, hannotated, hvalue]

end Verifier

/-! ## A badge for an old release -/

namespace Badges

/-- A use on the given line. -/
def use (line : UInt64) : AnnotationUse :=
  ⟨"Shiny", [], none, none, ⟨line, 1, line, 6⟩⟩

/-- A member with a parameter, which members may not have, and a variable within a closure. -/
def wording : Method where
  name := "wording"
  returnType := .plain stringName
  params := [
    { name := "size", type := .primitive "int", annotations := [use 2], span := ⟨2, 0, 2, 9⟩ }]
  body := some [.evaluate (.closure
    [.declare ⟨"font", none, [use 3, use 4], none, ⟨3, 0, 5, 9⟩⟩] .nowhere) .nowhere]

/-- An annotation definition with one member. -/
def badge : ClassDecl where
  name := "Badge"
  kind := .annotationType
  methods := [wording]

/-- The badge is the only class that is known. -/
def classes : Registry :=
  ((∅ : Registry).declare badge "badges").1

/-- A verifier for a release that knows no annotations. -/
def old : Verifier where
  settings := { release := 4 }

/-- The variable is reached though the parameter before it is reported, and is reported once. -/
theorem verifyClass?_badge :
    ∃ checked findings, old.verifyClass? classes ⟨0⟩ = some (checked, findings) ∧
      checked.class? ⟨0⟩ = some { badge with annotated := true } ∧
      findings.map (fun finding => (finding.rule, finding.span.startLine)) =
        [(.annotationsUnsupported, 2), (.memberParameters, 0), (.annotationsUnsupported, 3)] ∧
      (findings.filter (·.rule = .annotationsUnsupported)).map (·.span) =
        [⟨2, 0, 2, 9⟩, ⟨3, 0, 5, 9⟩] := by
  have hclass : classes.class? ⟨0⟩ = some badge := rfl
  obtain ⟨checked, findings, after, hcheck, hafter, -, hold⟩ :=
    Verifier.verifyClass?_annotated old classes hclass
  obtain ⟨hreports, -, hsame⟩ := hold (by decide)
  have hany : badge.declarations.any (·.isAnnotated) = true := rfl
  refine ⟨checked, findings, hcheck, ?_, ?_, ?_⟩
  · rw [hafter, hsame, hany]
    rfl
  · cases hcheck
    decide +kernel
  · rw [hreports]
    decide +kernel

end Badges

end DeclCheck
