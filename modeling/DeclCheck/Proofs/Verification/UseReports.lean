/-
# DeclCheck.Proofs.Verification.UseReports — what is reported of annotations, one for one.

Three rules are about single uses: a use has to be of an annotation definition, its type has to let
it stand where it stands, and a method that claims to override has to.  What a check reports under
these rules can be read off the declarations of the class as they were before: declaration by
declaration in the order of a walk, use by use as they are attached, and the claim to override last.
No declaration is left out or looked at twice, however deep it is nested, and neither the folding of
repeated uses nor the reports under other rules have a part in it.
-/
import DeclCheck.Proofs.Compilation.Reports
import DeclCheck.Proofs.Inheritance.Overriding
import DeclCheck.Proofs.Verification.Placement

namespace DeclCheck

/-! ## What there is to report -/

/-- The rules about single uses. -/
def Rule.ofUses : List Rule :=
  [.notAnnotationType, .targetMismatch, .missingOverride]

namespace Registry

variable (registry : Registry) (settings : CheckSettings)

/-- The report on a use that stands on the given target, if there is anything to say: its class is
no annotation definition, or it is one whose uses may not stand there. -/
def useReports (target : Target) (use : AnnotationUse) : List Diagnostic :=
  match registry.findClass? use.kind with
  | none => []
  | some decl =>
    if decl.isAnnotationType = false then
      [{ problem := .notAnnotationType use.kind, span := use.span }]
    else if settings.targets = true ∧ ¬ registry.Permitted target use.kind then
      [{ problem := .targetMismatch use.kind target, span := use.span }]
    else []

/-- The report on a method of `declaring` that claims to override and does not.  It is made at the
last claim, and not for overloads that stand for default arguments. -/
def overrideReports (declaring : ClassDecl) : Declaration → List Diagnostic
  | .method method =>
    match (method.annotations.filter (registry.isUse WellKnown.overrideName)).getLast? with
    | none => []
    | some claim =>
      if settings.overrides = true ∧ method.defaultVariant = false ∧
          registry.searchOverridden declaring method = some .exhausted then
        [{ problem := .missingOverride method.name declaring.name, span := claim.span }]
      else []
  | _ => []

/-- All reports on the uses of a declaration. -/
def reportsOn (declaring : ClassDecl) (declaration : Declaration) : List Diagnostic :=
  declaration.annotations.flatMap (registry.useReports settings declaration.target) ++
    registry.overrideReports settings declaring declaration

end Registry

namespace Surroundings

variable {around : Surroundings}

/-! ## One use -/

theorem permitted_iff (hnames : around.registry.NamesTypes) {use : AnnotationUse}
    {type : AnnotationType} (htype : around.registry.annotationType? use.kind = some type)
    (target : Target) :
    around.registry.Permitted target use.kind ↔
      type.targets.allows target = true ∨ type.known = .target ∧ target = .annotationType := by
  have hknown : type.known = .target ↔ use.kind = WellKnown.targetName :=
    hnames.known_eq_iff htype rfl
  unfold Registry.Permitted
  rw [htype, hknown]
  simp

theorem findings_complete (hdefinite : around.registry.Definite) (target : Target)
    (use : AnnotationUse) :
    (around.complete target use).findings =
      around.registry.useReports around.settings target use := by
  have hdefines := Registry.isSome_annotationType? hdefinite use.kind
  have hknown := Registry.isSome_find? hdefinite.toConsistent use.kind
  rw [complete_eq]
  unfold Registry.useReports
  unfold Registry.defines at hdefines
  cases htype : around.registry.annotationType? use.kind with
  | none =>
      rw [htype] at hdefines
      cases hclass : around.registry.findClass? use.kind with
      | none => simp [hknown, hclass]
      | some decl =>
          have hplain : decl.isAnnotationType = false := by simpa [hclass] using hdefines.symm
          simp [hknown, hclass, hplain]
  | some type =>
      rw [htype] at hdefines
      cases hclass : around.registry.findClass? use.kind with
      | none => simp [hclass] at hdefines
      | some decl =>
          have hdefinition : decl.isAnnotationType = true := by simpa [hclass] using hdefines
          simp only [hdefinition, permitted_iff hdefinite.names htype]
          by_cases hallows : type.targets.allows target = true <;> simp [hallows, imp_iff_not_or]

/-! ## One declaration -/

theorem overrideFindings_eq (hdefinite : around.registry.Definite) (declaration : Declaration) :
    around.overrideFindings declaration =
      around.registry.overrideReports around.settings around.declaring declaration := by
  have huse : around.isUseOf .overriding = around.registry.isUse WellKnown.overrideName :=
    isUseOf_eq hdefinite rfl
  cases declaration with
  | method method =>
      -- Searching backwards for a claim gives the last of all claims.
      have hlast : method.annotations.reverse.find? (around.isUseOf .overriding) =
          (method.annotations.filter (around.registry.isUse WellKnown.overrideName)).getLast? := by
        rw [huse, List.getLast?_eq_head?_reverse, ← List.filter_reverse, List.head?_filter]
      unfold overrideFindings Registry.overrideReports
      dsimp only [Declaration.annotations]
      rw [hlast]
      cases (method.annotations.filter (around.registry.isUse WellKnown.overrideName)).getLast? with
      | none => rfl
      | some claim =>
          unfold checkOverride
          simp [and_assoc]
  | _ => rfl

/-- Of what a visit finds, the rules about single uses are broken by what there is to report. -/
theorem filter_findings_visit (hdefinite : around.registry.Definite)
    (hsupports : around.settings.supportsAnnotations = true) (declaration : Declaration) :
    (around.visit declaration).findings.filter (·.rule ∈ Rule.ofUses) =
      around.registry.reportsOn around.settings around.declaring declaration := by
  have hoverride := overrideFindings_eq hdefinite declaration
  cases hempty : declaration.annotations.isEmpty with
  | true =>
      have hnone : around.overrideFindings declaration = [] := by
        unfold overrideFindings
        rw [List.isEmpty_iff.mp hempty]
        split <;> simp_all
      rw [visit_unannotated _ hempty, Registry.reportsOn, ← hoverride, hnone,
        List.isEmpty_iff.mp hempty]
      rfl
  | false =>
      -- All that is found of single uses is kept, and nothing that is found of repeated ones.
      have huses : (declaration.annotations.flatMap fun use =>
            (around.complete declaration.target use).findings).filter (·.rule ∈ Rule.ofUses) =
          declaration.annotations.flatMap
            (around.registry.useReports around.settings declaration.target) := by
        rw [List.filter_eq_self.mpr]
        · exact List.flatMap_congr fun use _ => findings_complete hdefinite declaration.target use
        · intro finding hmem
          obtain ⟨use, -, hmem⟩ := List.mem_flatMap.mp hmem
          rcases around.rule_of_mem_complete hmem with hrule | hrule <;> rw [hrule] <;> rfl
      have hrepeat : (around.repeatFindings declaration).filter (·.rule ∈ Rule.ofUses) = [] := by
        rw [List.filter_eq_nil_iff]
        intro finding hmem
        rcases around.rule_of_mem_repeatFindings hmem with hrule | hrule <;>
          rw [hrule, decide_eq_true_iff] <;> decide
      have hclaim : (around.overrideFindings declaration).filter (·.rule ∈ Rule.ofUses) =
          around.overrideFindings declaration := by
        rw [List.filter_eq_self]
        intro finding hmem
        rw [around.rule_of_mem_overrideFindings hmem]
        rfl
      rw [visit_supported _ hempty hsupports]
      simp only [List.filter_append, huses, hrepeat, hclaim, List.append_nil]
      rw [hoverride, Registry.reportsOn]

/-! ## A class -/

theorem filter_findings_walkClass (hdefinite : around.registry.Definite)
    (hsupports : around.settings.supportsAnnotations = true) (decl : ClassDecl) :
    (around.walkClass decl).findings.filter (·.rule ∈ Rule.ofUses) =
      decl.declarations.flatMap
        (around.registry.reportsOn around.settings around.declaring) := by
  have hmember : ∀ method,
      (around.stopAt (.member method)).findings.filter (·.rule ∈ Rule.ofUses) = [] :=
    fun method => around.filter_findings_member method (p := (· ∈ Rule.ofUses)) (by decide)
  rw [findings_walkClass, List.filter_flatMap, decl.flatMap_stops hmember]
  exact List.flatMap_congr fun declaration _ =>
    filter_findings_visit hdefinite hsupports declaration

end Surroundings

namespace Verifier

variable (verifier : Verifier)

/-- **Reports match uses one for one.**  For a release with annotations, checking a class gives an
answer here even where the search for an overridden method has no end: such a search counts as no
report.  What is reported under the rules about single uses, in this order, is what there is to
report of the declarations as they were: of each in the order of a walk, use by use, and then of its
claim to override.  Each report names the unit of the class. -/
theorem verifyClass?_reports (operations : List Operation) {id : ClassId} {decl : ClassDecl}
    (hrelease : 5 ≤ verifier.settings.release)
    (hclass : (Registry.after operations).class? id = some decl) :
    ∃ checked findings,
      verifier.verifyClass? (Registry.after operations) id = some (checked, findings) ∧
      findings.filter (·.rule ∈ [.notAnnotationType, .targetMismatch, .missingOverride]) =
        (decl.declarations.flatMap
          ((Registry.after operations).reportsOn verifier.settings decl)).map
            fun finding => { finding with unit := (Registry.after operations).unitOf? id } := by
  let registry := Registry.after operations
  let around : Surroundings := ⟨verifier.settings, verifier.scope registry, decl⟩
  have hdefinite : around.registry.Definite := Registry.definite_after operations
  refine ⟨registry.setDecl id (verifier.completed registry decl),
    verifier.findings registry id decl, ?_, ?_⟩
  · exact verifier.verifyClass?_of_class? hclass
  · refine (verifier.filter_findings (· ∈ Rule.ofUses) id decl).trans ?_
    exact congrArg (List.map _)
      (Surroundings.filter_findings_walkClass hdefinite (decide_eq_true hrelease) decl)

end Verifier

/-! ## A sketch with reports at every depth -/

namespace Studio

/-- The annotation definition that marks overriding methods. -/
def overriding : ClassDecl where
  name := WellKnown.overrideName
  kind := .annotationType

/-- An ordinary class. -/
def paper : ClassDecl where
  name := "Paper"

/-- A variable that bears `Tags`, which are for fields. -/
def dot : Local :=
  ⟨"dot", none, [Stationery.use "Tags" []], none, .nowhere⟩

/-- A variable whose initializer lists a closure that declares another one. -/
def line : Local :=
  ⟨"line", none, [Stationery.use "Tags" []],
    some (.list [.closure [.declare dot] .nowhere] .nowhere), .nowhere⟩

/-- A method that is marked as overriding, with the variables deep in its body. -/
def draw : Method where
  name := "draw"
  annotations := [Stationery.use WellKnown.overrideName []]
  body := some [.block [.evaluate (.closure [.declare line] .nowhere) .nowhere] .nowhere]

/-- `Paper` is no annotation definition, there is nothing to override, and `Tags` are for fields. -/
def sketch : ClassDecl where
  name := "Sketch"
  annotations := [Stationery.use "Paper" []]
  methods := [draw]

/-- The container, the mark and the two classes are declared, in this order. -/
def operations : List Operation :=
  [.change (.declare Stationery.tags "tags"), .change (.declare overriding "lang"),
    .change (.declare paper "studio"), .change (.declare sketch "studio")]

/-- The classes with the sketch among them. -/
def classes : Registry := Registry.after operations

theorem searchOverridden_draw : classes.searchOverridden sketch draw = some .exhausted := by
  have hinterfaces : classes.interfacesOf sketch (.erased sketch) = [] := by decide
  have hparent : classes.parentOf? sketch (.erased sketch) = none := by decide
  refine Registry.searchOverridden_eq_some_iff.mpr ⟨[], ?_⟩
  rw [hinterfaces, hparent]
  exact .top .nil

theorem overrideReports_draw :
    classes.overrideReports {} sketch (.method draw) =
      [{ problem := .missingOverride "draw" "Sketch", span := .nowhere }] :=
  if_pos ⟨rfl, rfl, searchOverridden_draw⟩

/-- The variable in the initializer comes after the variable that it initializes. -/
theorem verifyClass?_sketch :
    ∃ checked findings, ({} : Verifier).verifyClass? classes ⟨3⟩ = some (checked, findings) ∧
      (findings.filter (·.rule ∈ [.notAnnotationType, .targetMismatch, .missingOverride])).map
          (fun finding => (finding.problem, finding.unit)) =
        [(.notAnnotationType "Paper", some "studio"),
          (.missingOverride "draw" "Sketch", some "studio"),
          (.targetMismatch "Tags" .localVariable, some "studio"),
          (.targetMismatch "Tags" .localVariable, some "studio")] := by
  have hclass : classes.class? ⟨3⟩ = some sketch := rfl
  obtain ⟨checked, findings, hcheck, hreports⟩ :=
    Verifier.verifyClass?_reports {} operations (by decide) hclass
  have hdeclarations : sketch.declarations =
      [.type sketch, .method draw, .localVariable line, .localVariable dot] := rfl
  refine ⟨checked, findings, hcheck, ?_⟩
  rw [hreports, hdeclarations]
  simp only [List.flatMap_cons, List.flatMap_nil, Registry.reportsOn]
  rw [show (Registry.after operations).overrideReports _ _ _ = _ from overrideReports_draw]
  decide +kernel

end Studio

end DeclCheck
