/-
# DeclCheck.Proofs.Compilation.Reports — what a run tells of the names in its units.

Two things are said of names when a compilation is checked: which of them were used and are declared
nowhere, and which were declared again.  Both are decided while the units are registered.  The
checks that follow look for other problems, and they leave the list of declared classes as it is,
replaced classes included, with a completed declaration in the place of each.
-/
import DeclCheck.Proofs.Compilation.Order
import DeclCheck.Proofs.Verification.Gates

namespace DeclCheck

/-! ## Rules that a walk can find broken -/

/-- The rules that are checked at a stop. -/
def Stop.rules : Stop → List Rule
  | .declaration _ =>
    [.annotationsUnsupported, .notAnnotationType, .targetMismatch, .duplicateUse,
      .containerConflict, .missingOverride]
  | .member _ => [.memberParameters, .memberThrows, .memberType, .circularDefault]

theorem Stop.duplicateClass_notMem_rules (stop : Stop) : .duplicateClass ∉ stop.rules := by
  cases stop with
  | declaration declaration => show _ ∉ [_, _, _, _, _, _]; decide
  | member method => show _ ∉ [_, _, _, _]; decide

namespace Surroundings

variable (around : Surroundings)

theorem rule_of_mem_complete {target : Target} {use : AnnotationUse} {finding : Diagnostic}
    (hmem : finding ∈ (around.complete target use).findings) :
    finding.rule = .notAnnotationType ∨ finding.rule = .targetMismatch := by
  rw [complete_eq] at hmem
  split at hmem
  · simp only [List.mem_ite_nil_right, List.mem_singleton] at hmem
    rw [hmem.2]
    exact .inl rfl
  · simp only [List.mem_ite_nil_right, List.mem_singleton] at hmem
    rw [hmem.2]
    exact .inr rfl

/-- What is found at a stop breaks one of the rules that are checked there. -/
theorem rule_of_mem_stopAt {stop : Stop} {finding : Diagnostic}
    (hmem : finding ∈ (around.stopAt stop).findings) : finding.rule ∈ stop.rules := by
  cases stop with
  | member method =>
      change finding ∈ around.memberFindings method at hmem
      unfold memberFindings at hmem
      split at hmem
      · exact around.registry.rule_of_mem_checkMember hmem
      · cases hmem
  | declaration declaration =>
    change finding ∈ (around.visit declaration).findings at hmem
    cases hempty : declaration.annotations.isEmpty with
    | true =>
        rw [visit_unannotated _ hempty] at hmem
        cases hmem
    | false =>
      cases hsupports : around.settings.supportsAnnotations with
      | false =>
          rw [visit_unsupported _ hempty hsupports, List.mem_singleton] at hmem
          rw [hmem]
          exact List.mem_cons_self
      | true =>
          rw [visit_supported _ hempty hsupports] at hmem
          simp only [List.mem_append, List.mem_flatMap] at hmem
          -- Completing the uses, folding them and the claim to override have rules of their own.
          rcases hmem with (⟨use, -, hmem⟩ | hmem) | hmem
          · rcases around.rule_of_mem_complete hmem with hrule | hrule <;> simp [Stop.rules, hrule]
          · rcases around.rule_of_mem_repeatFindings hmem with hrule | hrule <;>
              simp [Stop.rules, hrule]
          · simp [Stop.rules, around.rule_of_mem_overrideFindings hmem]

/-- Where a method is checked as a member, nothing is found under other rules. -/
theorem filter_findings_member (method : Method) {p : Rule → Bool}
    (hother : ∀ rule ∈ [.memberParameters, .memberThrows, .memberType, .circularDefault],
      p rule = false) :
    (around.stopAt (.member method)).findings.filter (fun finding => p finding.rule) = [] := by
  rw [List.filter_eq_nil_iff]
  intro finding hmem
  rw [hother _ (around.rule_of_mem_stopAt hmem)]
  exact Bool.false_ne_true

end Surroundings

theorem Verifier.rule_ne_of_mem_findingsIn (verifier : Verifier) {registry : Registry}
    {declaration : ClassDecl × String} {finding : Diagnostic}
    (hmem : finding ∈ verifier.findingsIn registry declaration) :
    finding.rule ≠ .duplicateClass := by
  obtain ⟨found, hfound, rfl⟩ := List.mem_map.mp hmem
  rw [walk, Surroundings.findings_walkClass] at hfound
  obtain ⟨stop, -, hstop⟩ := List.mem_flatMap.mp hfound
  intro hrule
  have hchecked := Surroundings.rule_of_mem_stopAt _ hstop
  -- A finding keeps its rule when it is given its unit.
  change found.rule = .duplicateClass at hrule
  rw [hrule] at hchecked
  exact stop.duplicateClass_notMem_rules hchecked

/-! ## Declared classes once they are checked -/

theorem Registry.declaredIds_bare (registry : Registry) :
    registry.bare.declaredIds = registry.declaredIds := by
  unfold declaredIds bare
  rw [Array.toList_map, List.zipIdx_map, List.filterMap_map]
  rfl

namespace Verifier

variable (verifier : Verifier) (registry : Registry)

theorem bare_foldl_checked (ids : List ClassId) :
    (ids.foldl verifier.checked registry).bare = registry.bare := by
  induction ids generalizing registry with
  | nil => rfl
  | cons id rest ih =>
      obtain ⟨decl, hchecked, hbare⟩ := verifier.exists_checked_eq_setDecl registry id
      rw [List.foldl_cons, ih, hchecked, hbare]

theorem bare_verifyAll : (verifier.verifyAll registry).1.bare = registry.bare := by
  rw [verifyAll, verifyEach_fst, bare_foldl_checked]

/-- The checks complete every declared class in its place. -/
theorem map_declaredIds_verifyAll :
    (verifier.verifyAll registry).1.declaredIds.map (fun id =>
        ((verifier.verifyAll registry).1.class? id, (verifier.verifyAll registry).1.unitOf? id)) =
      registry.declarations.map fun declaration =>
        (some (verifier.completed registry declaration.1), some declaration.2) := by
  have hbare := verifier.bare_verifyAll registry
  have hids : (verifier.verifyAll registry).1.declaredIds = registry.declaredIds := by
    rw [← Registry.declaredIds_bare, hbare, Registry.declaredIds_bare]
  have hunit : ∀ id, (verifier.verifyAll registry).1.unitOf? id = registry.unitOf? id := by
    intro id
    rw [← Registry.unitOf?_bare, hbare, Registry.unitOf?_bare]
  have hseen : ∀ number ∈ registry.declaredIds,
      ((verifier.verifyAll registry).1.class? number,
          (verifier.verifyAll registry).1.unitOf? number) =
        Prod.map (Option.map (verifier.completed registry)) id
          (registry.class? number, registry.unitOf? number) := by
    intro number hnumber
    obtain ⟨decl, hclass⟩ := registry.exists_class?_of_mem_declaredIds hnumber
    rw [verifier.class?_verifyAll registry hnumber hclass, hunit, hclass]
    rfl
  have hmapped := congrArg (List.map (Prod.map (Option.map (verifier.completed registry)) id))
    registry.map_declaredIds
  rw [List.map_map, List.map_map] at hmapped
  rw [hids, List.map_congr_left hseen]
  exact hmapped

end Verifier

/-! ## Wording -/

namespace Redeclaration

variable (again : Redeclaration)

/-- The report of a class that its own unit declares twice; where one of the two is the body of a
script, it goes on with advice. -/
theorem message_of_unit_eq (hunit : again.declared.2 = again.earlier.2) :
    ∃ advice, again.report.message =
        "Invalid duplicate class definition of class " ++ again.declared.1.name ++ " : " ++
          ("The source " ++ again.declared.2 ++
            " contains at least two definitions of the class " ++
            again.declared.1.name ++ "." ++ advice) ∧
      (advice = "" ↔ again.declared.1.scriptBody = false ∧ again.earlier.1.scriptBody = false) := by
  refine ⟨_, congrArg (_ ++ ·) (if_pos hunit), ?_⟩
  cases again.declared.1.scriptBody <;> cases again.earlier.1.scriptBody <;> decide

theorem message_of_unit_ne (hunit : again.declared.2 ≠ again.earlier.2) :
    again.report.message =
      "Invalid duplicate class definition of class " ++ again.declared.1.name ++ " : " ++
        ("The sources " ++ again.declared.2 ++ " and " ++ again.earlier.2 ++
          " each contain a class with the name " ++ again.declared.1.name ++ ".") :=
  congrArg (_ ++ ·) (if_neg hunit)

end Redeclaration

/-! ## Runs -/

namespace Compilation

variable (compilation : Compilation)

/-- The names that stay unresolved are those that some unit uses and none declares, wherever the use
and the declarations stand.  They come in the order of their first use, each once; compiled classes
play no part. -/
theorem unresolved_exact (settings : CheckSettings) :
    (compilation.verify settings).unresolved =
        compilation.usedNames.eraseDups.filter (fun name => name ∉ compilation.declaredNames) ∧
      (∀ name, name ∈ (compilation.verify settings).unresolved ↔
        name ∈ compilation.usedNames ∧ name ∉ compilation.declaredNames) ∧
      (compilation.verify settings).unresolved.Nodup ∧
      (compilation.verify settings).unresolved.Pairwise (fun first second =>
        compilation.usedNames.idxOf first < compilation.usedNames.idxOf second) ∧
      ∀ external, (verify { compilation with external } settings).unresolved =
        (compilation.verify settings).unresolved := by
  have hexact : (compilation.verify settings).unresolved =
      compilation.usedNames.eraseDups.filter fun name => name ∉ compilation.declaredNames := by
    rw [unresolved_verify, pending_register]
  refine ⟨hexact, ?_, ?_, ?_, ?_⟩
  · intro name
    rw [hexact, List.mem_filter, List.mem_eraseDups, decide_eq_true_iff]
  · rw [hexact]
    exact (nodup_eraseDups _).filter _
  · rw [hexact]
    exact (pairwise_eraseDups _).filter _
  · intro external
    rw [hexact, unresolved_verify, pending_register]
    rfl

/-- Every class that is declared under a name declared before is reported once, before anything
else, against the last declaration of the name until then; nothing else is reported as a duplicate.
All the declared classes are checked and stay listed, those that were replaced included. -/
theorem verify_redeclared (settings : CheckSettings) :
    (compilation.verify settings).diagnostics =
        (redeclarations compilation.declarations).map Redeclaration.report ++
          compilation.declarations.flatMap
            (Verifier.findingsIn { settings } compilation.registered) ∧
      (compilation.verify settings).diagnostics.filter (·.rule = .duplicateClass) =
        (redeclarations compilation.declarations).map Redeclaration.report ∧
      (redeclarations compilation.declarations).length +
          compilation.declaredNames.eraseDups.length = compilation.declarations.length ∧
      (∀ again ∈ redeclarations compilation.declarations,
        again.report.span = again.declared.1.span ∧ again.report.unit = some again.declared.2 ∧
        (again.declared.2 = again.earlier.2 → ∃ advice, again.report.message =
            "Invalid duplicate class definition of class " ++ again.declared.1.name ++ " : " ++
              ("The source " ++ again.declared.2 ++
                " contains at least two definitions of the class " ++ again.declared.1.name ++
                "." ++ advice) ∧
          (advice = "" ↔
            again.declared.1.scriptBody = false ∧ again.earlier.1.scriptBody = false)) ∧
        (again.declared.2 ≠ again.earlier.2 → again.report.message =
          "Invalid duplicate class definition of class " ++ again.declared.1.name ++ " : " ++
            ("The sources " ++ again.declared.2 ++ " and " ++ again.earlier.2 ++
              " each contain a class with the name " ++ again.declared.1.name ++ "."))) ∧
      (compilation.verify settings).registry.declaredIds.map (fun id =>
          ((compilation.verify settings).registry.class? id,
            (compilation.verify settings).registry.unitOf? id)) =
        compilation.declarations.map fun declaration =>
          (some (Verifier.completed { settings } compilation.registered declaration.1),
            some declaration.2) := by
  have hdiagnostics := compilation.diagnostics_eq settings
  refine ⟨hdiagnostics, ?_, length_redeclarations _, ?_, ?_⟩
  · have hfound : (compilation.declarations.flatMap
        (Verifier.findingsIn { settings } compilation.registered)).filter
          (·.rule = .duplicateClass) = [] := by
      refine List.filter_eq_nil_iff.mpr fun finding hmem => ?_
      obtain ⟨declaration, -, hfinding⟩ := List.mem_flatMap.mp hmem
      rw [decide_eq_true_iff]
      exact Verifier.rule_ne_of_mem_findingsIn _ hfinding
    have hreports : ((redeclarations compilation.declarations).map Redeclaration.report).filter
        (·.rule = .duplicateClass) =
          (redeclarations compilation.declarations).map Redeclaration.report := by
      refine List.filter_eq_self.mpr fun report hmem => ?_
      obtain ⟨again, -, rfl⟩ := List.mem_map.mp hmem
      rfl
    rw [hdiagnostics, List.filter_append, hreports, hfound, List.append_nil]
  · intro again _
    exact ⟨rfl, rfl, again.message_of_unit_eq, again.message_of_unit_ne⟩
  · rw [← declarations_registered]
    exact Verifier.map_declaredIds_verifyAll { settings } compilation.registered

end Compilation

namespace Drafts

/-- `Draft` comes in compiled and is declared three times; `Memo` is declared once, and so is a
class with the name of one that every run knows. -/
def recurring : Compilation where
  external := [marker, { name := "Draft" }]
  units := [
    { name := "drafts"
      tree := some
        ⟨[draft, memo, { name := "Draft", scriptBody := true }], [{ name := "Draft" }]⟩ },
    { name := "notes"
      tree := some ⟨[{ name := "Draft" }, { name := "java.lang.Object" }], []⟩ }]

/-- The second declaration is compared with the first and the third with the second; the first one
is checked though it was replaced. -/
theorem verify_recurring :
    (recurring.verify {}).diagnostics.map (fun report => (report.problem, report.unit)) =
        [(.duplicateClass "Draft" "drafts" "drafts" true, some "drafts"),
          (.duplicateClass "Draft" "notes" "drafts" true, some "notes"),
          (.notAnnotationType "Memo", some "drafts")] ∧
      ((recurring.verify {}).diagnostics.filter (·.rule = .duplicateClass)).length = 2 ∧
      (recurring.verify {}).registry.declaredIds.length = 5 ∧
      Diagnostic.message ((redeclarations recurring.declarations)[1].report) =
        "Invalid duplicate class definition of class Draft : " ++
          "The sources notes and drafts each contain a class with the name Draft." := by
  obtain ⟨-, hduplicates, hcount, hworded, hlisted⟩ := recurring.verify_redeclared {}
  refine ⟨by decide +kernel, ?_, ?_, ?_⟩
  · have hnames : recurring.declaredNames.eraseDups.length = 3 := by decide
    have hdeclarations : recurring.declarations.length = 5 := by decide
    rw [hduplicates, List.length_map]
    omega
  · have hlength := congrArg List.length hlisted
    rw [List.length_map, List.length_map] at hlength
    exact hlength
  · obtain ⟨-, -, -, hother⟩ := hworded _ (List.getElem_mem _)
    exact hother (by decide)

end Drafts

end DeclCheck
