/-
# DeclCheck.Proofs.Verification.Gates — each switch of the settings gates its own rules.

With a check switched off, a run finds what it finds with all checks on, less the problems of the
rules that the check reports.  That is so stop by stop: no check looks at what another one found,
and what folding makes of annotations is looked at by none.  Registered classes are as they are when
no check has been made, so what holds stop by stop holds of every class and of the whole run.
-/
import DeclCheck.Proofs.Compilation.Registration
import DeclCheck.Proofs.Verification.Stops

namespace DeclCheck

namespace CheckSettings

/-- The settings with every check on, for the same release. -/
def everything (settings : CheckSettings) : CheckSettings :=
  { settings with targets := true, folding := true, overrides := true, members := true }

/-- Whether the settings let problems of a rule be reported. -/
def reports (settings : CheckSettings) : Rule → Bool
  | .targetMismatch => settings.targets
  | .duplicateUse | .containerConflict => settings.folding
  | .missingOverride => settings.overrides
  | .memberParameters | .memberThrows | .memberType | .circularDefault => settings.members
  | .duplicateClass | .annotationsUnsupported | .notAnnotationType => true

/-- The problems that are reported under the settings. -/
def sift (settings : CheckSettings) (diagnostics : List Diagnostic) : List Diagnostic :=
  diagnostics.filter fun diagnostic => settings.reports diagnostic.rule

variable (settings : CheckSettings)

theorem sift_append (first second : List Diagnostic) :
    settings.sift (first ++ second) = settings.sift first ++ settings.sift second :=
  List.filter_append first second

theorem sift_flatMap {α : Type} (values : List α) (findings : α → List Diagnostic) :
    settings.sift (values.flatMap findings) =
      values.flatMap fun value => settings.sift (findings value) :=
  List.filter_flatMap

variable {settings}

theorem sift_eq_self {diagnostics : List Diagnostic}
    (hreported : ∀ diagnostic ∈ diagnostics, settings.reports diagnostic.rule = true) :
    settings.sift diagnostics = diagnostics :=
  List.filter_eq_self.mpr hreported

/-- Problems that a switch gates are all reported or none is. -/
theorem sift_gated {diagnostics : List Diagnostic} {switch : Bool}
    (hgated : ∀ diagnostic ∈ diagnostics, settings.reports diagnostic.rule = switch) :
    settings.sift diagnostics = if switch then diagnostics else [] := by
  cases switch with
  | true => exact sift_eq_self hgated
  | false =>
      refine List.filter_eq_nil_iff.mpr fun diagnostic hmem => ?_
      rw [hgated diagnostic hmem]
      exact Bool.false_ne_true

/-- A single report is made if its condition holds and its rule is switched on. -/
theorem sift_alert (condition : Bool) (diagnostic : Diagnostic) :
    settings.sift (if condition then [diagnostic] else []) =
      if settings.reports diagnostic.rule && condition then [diagnostic] else [] := by
  cases condition with
  | true => simp [sift, List.filter_singleton]
  | false => simp [sift]

end CheckSettings

/-! ## Rules of single checks -/

theorem Scope.rule_of_mem_fold (scope : Scope) {uses : List AnnotationUse} {diagnostic : Diagnostic}
    (hmem : diagnostic ∈ (scope.fold uses).2) :
    diagnostic.rule = .duplicateUse ∨ diagnostic.rule = .containerConflict := by
  obtain ⟨⟨kind, verdict⟩, -, hverdict⟩ := List.mem_filterMap.mp hmem
  cases verdict with
  | illegal second =>
      cases hverdict
      exact .inl rfl
  | conflicting container explicit =>
      cases hverdict
      exact .inr rfl
  | folded container => cases hverdict

theorem Registry.rule_of_mem_checkMember (registry : Registry) {definition : ClassDecl}
    {member : Method} {diagnostic : Diagnostic}
    (hmem : diagnostic ∈ registry.checkMember definition member) :
    diagnostic.rule ∈ [.memberParameters, .memberThrows, .memberType, .circularDefault] := by
  unfold checkMember at hmem
  split at hmem
  · cases hmem
  · simp only [List.mem_append] at hmem
    -- Three checks of the member itself, then the one of its default value.
    rcases hmem with ((hmem | hmem) | hmem) | hmem
    · split at hmem
      · rw [List.mem_singleton.mp hmem]
        exact List.mem_of_elem_eq_true rfl
      · cases hmem
    · split at hmem
      · rw [List.mem_singleton.mp hmem]
        exact List.mem_of_elem_eq_true rfl
      · cases hmem
    · split at hmem
      · rw [List.mem_singleton.mp hmem]
        exact List.mem_of_elem_eq_true rfl
      · cases hmem
    · split at hmem
      · cases hmem
      · split at hmem
        · rw [List.mem_singleton.mp hmem]
          exact List.mem_of_elem_eq_true rfl
        · cases hmem

/-! ## One visit -/

namespace Surroundings

variable (around : Surroundings)

/-- The uses of a declaration, completed from their types. -/
def completedUses (declaration : Declaration) : List AnnotationUse :=
  declaration.annotations.map fun use => (around.complete declaration.target use).value

/-- What is found about repeated uses. -/
def repeatFindings (declaration : Declaration) : List Diagnostic :=
  if around.settings.folding then (around.scope.fold (around.completedUses declaration)).2 else []

/-- What is found about a method that claims to override. -/
def overrideFindings (declaration : Declaration) : List Diagnostic :=
  match declaration, declaration.annotations.reverse.find? (around.isUseOf .overriding) with
  | .method method, some mark => around.checkOverride mark method
  | _, _ => []

/-- What is left of the uses once repeated ones are treated. -/
def treatedUses (declaration : Declaration) : List AnnotationUse :=
  if around.settings.folding then (around.scope.fold (around.completedUses declaration)).1
  else around.completedUses declaration

theorem rule_of_mem_repeatFindings {declaration : Declaration} {finding : Diagnostic}
    (hmem : finding ∈ around.repeatFindings declaration) :
    finding.rule = .duplicateUse ∨ finding.rule = .containerConflict := by
  unfold repeatFindings at hmem
  split at hmem
  · exact around.scope.rule_of_mem_fold hmem
  · cases hmem

theorem rule_of_mem_overrideFindings {declaration : Declaration} {finding : Diagnostic}
    (hmem : finding ∈ around.overrideFindings declaration) : finding.rule = .missingOverride := by
  unfold overrideFindings at hmem
  split at hmem
  · unfold checkOverride at hmem
    simp only [List.mem_ite_nil_right, List.mem_singleton] at hmem
    rw [hmem.2]
    rfl
  · cases hmem

theorem repeatFindings_unfolded (hfolding : around.settings.folding = false)
    (declaration : Declaration) : around.repeatFindings declaration = [] := by
  rw [repeatFindings, hfolding]
  rfl

theorem treatedUses_unfolded (hfolding : around.settings.folding = false)
    (declaration : Declaration) :
    around.treatedUses declaration = around.completedUses declaration := by
  rw [treatedUses, hfolding]
  rfl

/-- A visit of a declaration whose annotations are looked at. -/
theorem visit_supported {declaration : Declaration}
    (hsome : declaration.annotations.isEmpty = false)
    (hsupports : around.settings.supportsAnnotations = true) :
    around.visit declaration = {
      value :=
        ⟨around.treatedUses declaration, declaration.annotations.any (around.isUseOf .deprecated)⟩
      findings :=
        declaration.annotations.flatMap
            (fun use => (around.complete declaration.target use).findings) ++
          around.repeatFindings declaration ++ around.overrideFindings declaration
      annotated := true } := by
  have hmapM := Visit.findings_mapM (around.complete declaration.target) declaration.annotations
  have hvalue := Visit.value_mapM (around.complete declaration.target) declaration.annotations
  unfold visit repeatFindings treatedUses completedUses overrideFindings
  rw [← hmapM, ← hvalue]
  simp only [hsome, hsupports]
  generalize declaration.annotations.mapM (around.complete declaration.target) = completed
  generalize declaration.annotations.reverse.find? (around.isUseOf .overriding) = mark
  -- Whether uses are folded and whether a method is marked fix the path.
  cases around.settings.folding <;> cases declaration <;> cases mark <;>
    simp [bind, Visit.meet, Visit.report, pure]

/-- Annotations that the release cannot hold are left as they are. -/
theorem visit_unsupported {declaration : Declaration}
    (hsome : declaration.annotations.isEmpty = false)
    (hsupports : around.settings.supportsAnnotations = false) :
    around.visit declaration = {
      value := ⟨declaration.annotations, false⟩
      findings := [{
        problem := .annotationsUnsupported around.settings.release.toNat
          firstAnnotationRelease.toNat
        span := declaration.span }]
      annotated := true } := by
  unfold visit
  simp only [hsome, hsupports]
  rfl

theorem visit_unannotated {declaration : Declaration}
    (hempty : declaration.annotations.isEmpty = true) :
    around.visit declaration = pure ⟨declaration.annotations, false⟩ := by
  unfold visit
  rw [if_pos hempty]

/-! ## Switches at one stop -/

/-- The same surroundings with every check on. -/
def everything : Surroundings :=
  { around with settings := around.settings.everything }

/-- A completed use, and what is found of it. -/
theorem complete_eq (target : Target) (use : AnnotationUse) :
    around.complete target use =
      match around.registry.annotationType? use.kind with
      | none =>
        { value := use
          findings :=
            if (around.registry.find? use.kind).isSome then
              [{ problem := .notAnnotationType use.kind, span := use.span }]
            else []
          annotated := false }
      | some type =>
        { value := { use with
            retention := around.scope.retentionOf? use
            targets := use.targets.or (some type.targets) }
          findings :=
            if around.settings.targets && !(type.known = .target && target = .annotationType) &&
                !type.targets.allows target then
              [{ problem := .targetMismatch use.kind target, span := use.span }]
            else []
          annotated := false } := by
  unfold complete
  cases around.registry.annotationType? use.kind with
  | none => dsimp only; split <;> rfl
  | some type => dsimp only; split <;> rfl

/-- What a use is completed to is no matter of the switches. -/
theorem value_complete_congr {other : Surroundings} (hscope : around.scope = other.scope)
    (target : Target) (use : AnnotationUse) :
    (around.complete target use).value = (other.complete target use).value := by
  rw [complete_eq, complete_eq]
  unfold registry
  rw [hscope]
  cases other.scope.registry.annotationType? use.kind <;> rfl

theorem completedUses_congr (other : Surroundings) (hscope : around.scope = other.scope)
    (declaration : Declaration) :
    around.completedUses declaration = other.completedUses declaration :=
  List.map_congr_left fun use _ => around.value_complete_congr hscope declaration.target use

theorem findings_complete_gated (target : Target) (use : AnnotationUse) :
    (around.complete target use).findings =
      around.settings.sift (around.everything.complete target use).findings := by
  rw [complete_eq, complete_eq]
  change _ = around.settings.sift (match around.registry.annotationType? use.kind with
    | none => _
    | some type => _ : Visit AnnotationUse).findings
  cases around.registry.annotationType? use.kind with
  | none =>
      -- A class that is no annotation type is reported whatever the switches are.
      refine Eq.trans ?_ (CheckSettings.sift_alert _ _).symm
      rfl
  | some type =>
      refine Eq.trans ?_ (CheckSettings.sift_alert _ _).symm
      change (if _ then _ else _) = if (around.settings.targets && _) then _ else _
      rw [Bool.and_assoc]
      rfl

theorem repeatFindings_gated (declaration : Declaration) :
    around.repeatFindings declaration =
      around.settings.sift (around.everything.repeatFindings declaration) := by
  have hgated : ∀ diagnostic ∈ around.everything.repeatFindings declaration,
      around.settings.reports diagnostic.rule = around.settings.folding := by
    intro diagnostic hmem
    rcases around.scope.rule_of_mem_fold hmem with hrule | hrule <;> rw [hrule] <;> rfl
  rw [CheckSettings.sift_gated hgated, repeatFindings,
    around.completedUses_congr around.everything rfl]
  rfl

theorem checkOverride_gated (mark : AnnotationUse) (method : Method) :
    around.checkOverride mark method =
      around.settings.sift (around.everything.checkOverride mark method) := by
  refine Eq.trans ?_ (CheckSettings.sift_alert _ _).symm
  change (if _ then _ else _) = if (around.settings.overrides && _) then _ else _
  rw [Bool.and_assoc]
  rfl

theorem overrideFindings_gated (declaration : Declaration) :
    around.overrideFindings declaration =
      around.settings.sift (around.everything.overrideFindings declaration) := by
  unfold overrideFindings
  change _ = around.settings.sift (match declaration,
    declaration.annotations.reverse.find? (around.isUseOf .overriding) with
    | .method method, some mark => _
    | _, _ => _)
  split
  · exact around.checkOverride_gated _ _
  · rfl

theorem memberFindings_gated (method : Method) :
    around.memberFindings method =
      around.settings.sift (around.everything.memberFindings method) := by
  have hgated : ∀ diagnostic ∈ around.registry.checkMember around.declaring method,
      around.settings.reports diagnostic.rule = around.settings.members := by
    intro diagnostic hmem
    have hrule := around.registry.rule_of_mem_checkMember hmem
    simp only [List.mem_cons, List.not_mem_nil, or_false] at hrule
    rcases hrule with hrule | hrule | hrule | hrule <;> rw [hrule] <;> rfl
  unfold memberFindings
  change _ = around.settings.sift
    (if around.declaring.isAnnotationType && true then
      around.registry.checkMember around.declaring method else [])
  cases around.declaring.isAnnotationType with
  | false => rfl
  | true => exact (CheckSettings.sift_gated hgated).symm

/-- At every stop, a walk finds what it finds with every check on, less what is switched off. -/
theorem findings_stopAt_gated (stop : Stop) :
    (around.stopAt stop).findings =
      around.settings.sift (around.everything.stopAt stop).findings := by
  cases stop with
  | member method => exact around.memberFindings_gated method
  | declaration declaration =>
    show (around.visit declaration).findings =
      around.settings.sift (around.everything.visit declaration).findings
    cases hempty : declaration.annotations.isEmpty with
    | true => rw [visit_unannotated _ hempty, visit_unannotated _ hempty]; rfl
    | false =>
      cases hsupports : around.settings.supportsAnnotations with
      | false =>
        rw [visit_unsupported _ hempty hsupports,
          visit_unsupported around.everything hempty hsupports]
        rfl
      | true =>
        rw [visit_supported _ hempty hsupports, visit_supported around.everything hempty hsupports]
        simp only [CheckSettings.sift_append, CheckSettings.sift_flatMap,
          ← findings_complete_gated, ← repeatFindings_gated, ← overrideFindings_gated]

/-! ## What a stop makes of a declaration -/

variable {around} {other : Surroundings}

theorem supportsAnnotations_congr (hrelease : around.settings.release = other.settings.release) :
    around.settings.supportsAnnotations = other.settings.supportsAnnotations := by
  unfold CheckSettings.supportsAnnotations
  rw [hrelease]

/-- Of the switches, only folding plays a part in what a visit makes of a declaration. -/
theorem value_visit_congr (hscope : around.scope = other.scope)
    (hfolding : around.settings.folding = other.settings.folding)
    (hrelease : around.settings.release = other.settings.release) (declaration : Declaration) :
    (around.visit declaration).value = (other.visit declaration).value := by
  have hsame := supportsAnnotations_congr hrelease
  cases hempty : declaration.annotations.isEmpty with
  | true => rw [visit_unannotated _ hempty, visit_unannotated _ hempty]
  | false =>
    cases hsupports : around.settings.supportsAnnotations with
    | false =>
        rw [visit_unsupported _ hempty hsupports, visit_unsupported _ hempty (hsame ▸ hsupports)]
    | true =>
        rw [visit_supported _ hempty hsupports, visit_supported _ hempty (hsame ▸ hsupports)]
        unfold treatedUses isUseOf registry
        rw [around.completedUses_congr other hscope, hscope, hfolding]

variable (around) in
/-- A visit meets an annotation if there is one. -/
theorem annotated_visit (declaration : Declaration) :
    (around.visit declaration).annotated = !declaration.annotations.isEmpty := by
  cases hempty : declaration.annotations.isEmpty with
  | true => rw [visit_unannotated _ hempty]; rfl
  | false =>
    cases hsupports : around.settings.supportsAnnotations with
    | false => rw [visit_unsupported _ hempty hsupports]; rfl
    | true => rw [visit_supported _ hempty hsupports]; rfl

/-- A stop is annotated or not, whatever it is checked by. -/
theorem annotated_stopAt (stop : Stop) :
    (around.stopAt stop).annotated = (other.stopAt stop).annotated := by
  cases stop with
  | declaration declaration =>
      exact (around.annotated_visit declaration).trans (other.annotated_visit declaration).symm
  | member method => rfl

end Surroundings

/-! ## Classes and compilations -/

namespace Verifier

/-- The same verifier with every check on. -/
def everything (verifier : Verifier) : Verifier :=
  { verifier with settings := verifier.settings.everything }

variable (verifier : Verifier) (registry : Registry)

theorem findings_walk_gated (decl : ClassDecl) :
    (verifier.walk registry decl).findings =
      verifier.settings.sift (verifier.everything.walk registry decl).findings := by
  unfold walk
  rw [Surroundings.findings_walkClass, Surroundings.findings_walkClass,
    CheckSettings.sift_flatMap]
  refine List.flatMap_congr fun stop _ => ?_
  exact Surroundings.findings_stopAt_gated _ stop

theorem findingsAlone_gated (id : ClassId) :
    verifier.findingsAlone registry id =
      verifier.settings.sift (verifier.everything.findingsAlone registry id) := by
  unfold findingsAlone
  rw [verifyClass?_eq, verifyClass?_eq]
  cases registry.class? id with
  | none => rfl
  | some decl =>
      -- A finding keeps its rule when it is given its unit.
      simp only [Option.map_some, Option.getD_some, findings, verifier.findings_walk_gated]
      unfold CheckSettings.sift
      rw [List.filter_map]
      rfl

theorem verifyAll_gated :
    (verifier.verifyAll registry).2 =
      verifier.settings.sift (verifier.everything.verifyAll registry).2 := by
  have hdistinct := registry.nodup_declaredIds
  rw [verifyAll, verifyAll, verifyEach_snd _ _ hdistinct, verifyEach_snd _ _ hdistinct,
    CheckSettings.sift_flatMap]
  exact List.flatMap_congr fun id _ => verifier.findingsAlone_gated registry id

variable {verifier} {other : Verifier}

/-- Verifiers that differ in no more than what they report write the same declarations. -/
theorem completed_eq_completed (hconstants : verifier.constants = other.constants)
    (hfolding : verifier.settings.folding = other.settings.folding)
    (hrelease : verifier.settings.release = other.settings.release) (decl : ClassDecl) :
    verifier.completed registry decl = other.completed registry decl := by
  have hscope : verifier.scope registry = other.scope registry := by
    unfold scope
    rw [hconstants]
  have hvalue : (verifier.walk registry decl).value = (other.walk registry decl).value :=
    Surroundings.value_walkClass_congr
      (Surroundings.value_visit_congr hscope hfolding hrelease) decl
  have hannotated :
      (verifier.walk registry decl).annotated = (other.walk registry decl).annotated := by
    unfold walk
    rw [Surroundings.annotated_walkClass, Surroundings.annotated_walkClass]
    congr 1
    exact funext Surroundings.annotated_stopAt
  simp only [completed, hvalue, hannotated]

theorem verifyAll_fst_congr (hconstants : verifier.constants = other.constants)
    (hfolding : verifier.settings.folding = other.settings.folding)
    (hrelease : verifier.settings.release = other.settings.release) :
    (verifier.verifyAll registry).1 = (other.verifyAll registry).1 := by
  have hchecked : verifier.checked = other.checked := by
    funext registry id
    unfold checked
    rw [verifyClass?_eq, verifyClass?_eq]
    cases registry.class? id with
    | none => rfl
    | some decl =>
        simp only [Option.map_some, Option.getD_some,
          completed_eq_completed registry hconstants hfolding hrelease]
  rw [verifyAll, verifyAll, verifyEach_fst, verifyEach_fst, hchecked]

end Verifier

namespace Compilation

variable (compilation : Compilation)

/-- Each switch gates its own rules and nothing else: a run reports what the run with every check on
reports, in that order, less the problems of the rules that are switched off.  The classes depend on
folding and the release alone, and unresolved names on neither. -/
theorem verify_gated (settings : CheckSettings) :
    (compilation.verify settings).diagnostics =
        (compilation.verify settings.everything).diagnostics.filter
          (fun diagnostic => settings.reports diagnostic.rule) ∧
      (∀ other : CheckSettings, other.folding = settings.folding →
        other.release = settings.release →
        (compilation.verify other).registry = (compilation.verify settings).registry) ∧
      ∀ other : CheckSettings,
        (compilation.verify other).unresolved = (compilation.verify settings).unresolved := by
  refine ⟨?_, ?_, ?_⟩
  · have hduplicates : settings.sift compilation.register.diagnostics =
        compilation.register.diagnostics := by
      refine CheckSettings.sift_eq_self fun diagnostic hmem => ?_
      rw [compilation.register_eq_after] at hmem
      rw [Registry.rule_of_mem_diagnostics _ diagnostic hmem]
      rfl
    change compilation.register.diagnostics ++ _ =
      settings.sift (compilation.register.diagnostics ++ _)
    rw [CheckSettings.sift_append, hduplicates]
    exact congrArg (compilation.register.diagnostics ++ ·) (Verifier.verifyAll_gated { settings } _)
  · intro other hfolding hrelease
    exact Verifier.verifyAll_fst_congr _ rfl hfolding hrelease
  · intro other
    change (Verifier.verifyAll _ _).1.pending.keys = (Verifier.verifyAll _ _).1.pending.keys
    rw [Verifier.pending_verifyAll, Verifier.pending_verifyAll]

end Compilation

namespace Drafts

/-- A class that repeats a use, and uses another class as an annotation. -/
def repeating : ClassDecl where
  name := "Draft"
  annotations := [use "Marker", use "Memo", use "Marker"]

/-- The marker, a class with one use of it, and a class with two. -/
def compilation : Compilation where
  units := [{ name := "drafts", tree := some { classes := [marker, memo, repeating] } }]

/-- Without folding a repeated use is passed over, and other problems stay where they are. -/
theorem verify_drafts :
    (compilation.verify {}).diagnostics.map (·.problem) =
        [.notAnnotationType "Memo", .duplicateUse "Marker"] ∧
      (compilation.verify { folding := false }).diagnostics.map (·.problem) =
        [.notAnnotationType "Memo"] ∧
      (compilation.verify { folding := false, targets := false }).registry =
        (compilation.verify { folding := false }).registry := by
  obtain ⟨hdiagnostics, hregistry, -⟩ := Compilation.verify_gated compilation { folding := false }
  refine ⟨by decide +kernel, ?_, hregistry { folding := false, targets := false } rfl rfl⟩
  rw [hdiagnostics]
  decide +kernel

end Drafts

end DeclCheck
