/-
# DeclCheck.Proofs.Verification.Rerun — checking what has been checked.

Without folding a check can be made again and again: the second time it finds what it found the
first time and writes what is there already.  A use that has been completed is completed to itself,
because a retention or targets that are told are not asked for any more, and one that nobody could
tell is not told the second time either.  So the visit of a declaration that a walk has rewritten is
the visit of the declaration before, and the walk of a rewritten class is the walk of the class.
-/
import DeclCheck.Proofs.Compilation.Reports
import DeclCheck.Proofs.Verification.Placement
import DeclCheck.Proofs.Verification.Unaltered

namespace DeclCheck

namespace Visit

variable {α β : Type}

theorem effect_eq_iff {a : Visit α} {b : Visit β} :
    a.effect = b.effect ↔ a.findings = b.findings ∧ a.annotated = b.annotated := by
  simp [effect]

theorem ext_effect {a b : Visit α} (hvalue : a.value = b.value) (heffect : a.effect = b.effect) :
    a = b := by
  obtain ⟨hfindings, hannotated⟩ := effect_eq_iff.mp heffect
  cases a
  cases b
  simp_all

end Visit

namespace Surroundings

variable (around : Surroundings)

/-! ## Completed uses -/

theorem retentionOf?_complete (target : Target) (use : AnnotationUse) :
    around.scope.retentionOf? (around.complete target use).value =
      around.scope.retentionOf? use := by
  rw [complete_eq]
  cases htype : around.registry.annotationType? use.kind with
  | none => rfl
  | some type =>
      -- The retention that was told is the first choice, and the type's own the second as before.
      unfold Scope.retentionOf?
      dsimp only
      rw [Option.or_assoc, Option.or_self]

/-- A completed use is completed to itself, and the same is found of it. -/
theorem complete_complete (target : Target) (use : AnnotationUse) :
    around.complete target (around.complete target use).value = around.complete target use := by
  have hretention := around.retentionOf?_complete target use
  have hcomplete := around.complete_eq target use
  cases htype : around.registry.annotationType? use.kind with
  | none =>
      rw [htype] at hcomplete
      rw [congrArg Visit.value hcomplete]
  | some type =>
      rw [htype] at hcomplete
      rw [hcomplete] at hretention ⊢
      rw [complete_eq]
      dsimp only at hretention ⊢
      rw [htype]
      simp only [hretention, Option.or_assoc, Option.or_self]

theorem isUseOf_complete (known : WellKnown) (target : Target) (use : AnnotationUse) :
    around.isUseOf known (around.complete target use).value = around.isUseOf known use := by
  unfold isUseOf
  rw [kind_complete]

/-! ## Rewritten declarations -/

/-- Whether a method overrides is a matter of bare forms. -/
theorem checkOverride_congr {other : ClassDecl} (hclass : other.bare = around.declaring.bare)
    {mark mark' : AnnotationUse} (hspan : mark'.span = mark.span) {method method' : Method}
    (hmethod : method'.bare = method.bare) :
    checkOverride { around with declaring := other } mark' method' =
      around.checkOverride mark method := by
  have hsearch : around.registry.searchOverridden other method' =
      around.registry.searchOverridden around.declaring method :=
    around.registry.searchOverridden_congr_bare hclass hmethod
  have hvariant : method'.defaultVariant = method.defaultVariant :=
    show method'.bare.defaultVariant = method.bare.defaultVariant by rw [hmethod]
  have hname : method'.name = method.name :=
    show method'.bare.name = method.bare.name by rw [hmethod]
  have hdeclaring : other.name = around.declaring.name :=
    show other.bare.name = around.declaring.bare.name by rw [hclass]
  unfold checkOverride
  rw [hspan, hvariant, hname, ← hsearch, ← hdeclaring]
  rfl

theorem span_complete (target : Target) (use : AnnotationUse) :
    (around.complete target use).value.span = use.span := by
  rw [complete_eq]
  split <;> rfl

/-- A claim to override is judged alike once it is completed. -/
theorem overrideFindings_rewritten {declaration : Declaration}
    (hcompleted : (around.rewritten declaration).annotations =
      around.completedUses declaration) :
    around.overrideFindings (around.rewritten declaration) =
      around.overrideFindings declaration := by
  have hmark : (around.rewritten declaration).annotations.reverse.find?
        (around.isUseOf .overriding) =
      (declaration.annotations.reverse.find? (around.isUseOf .overriding)).map
        fun use => (around.complete declaration.target use).value := by
    rw [hcompleted, completedUses, ← List.map_reverse, List.find?_map]
    simp only [Function.comp_def, isUseOf_complete]
  cases declaration with
  | method method =>
      unfold overrideFindings
      rw [hmark]
      cases (Declaration.method method).annotations.reverse.find? (around.isUseOf .overriding) with
      | none => rfl
      | some mark =>
          exact around.checkOverride_congr rfl (around.span_complete _ mark)
            (around.bare_walkMethod method)
  | _ => rfl

variable {around}

theorem visit_rewritten (hfolding : around.settings.folding = false) (declaration : Declaration) :
    around.visit (around.rewritten declaration) = around.visit declaration := by
  have hannotations := around.annotations_rewritten declaration
  cases hempty : declaration.annotations.isEmpty with
  | true =>
      rw [visit_unannotated _ hempty] at hannotations ⊢
      change (around.rewritten declaration).annotations = declaration.annotations at hannotations
      rw [visit_unannotated _ (by rwa [hannotations]), hannotations]
  | false =>
    cases hsupports : around.settings.supportsAnnotations with
    | false =>
        rw [visit_unsupported _ hempty hsupports] at hannotations ⊢
        rw [visit_unsupported _ (by rwa [hannotations]) hsupports, hannotations, span_rewritten]
    | true =>
        rw [visit_supported _ hempty hsupports] at hannotations ⊢
        -- Nothing is folded, so what a visit hands back are the completed uses.
        have htreated := around.treatedUses_unfolded hfolding
        have hrepeat := around.repeatFindings_unfolded hfolding
        change (around.rewritten declaration).annotations = around.treatedUses declaration
          at hannotations
        rw [htreated] at hannotations
        have hsome : (around.rewritten declaration).annotations.isEmpty = false := by
          rw [hannotations, completedUses, List.isEmpty_map, hempty]
        have hcompleted : around.completedUses (around.rewritten declaration) =
            around.completedUses declaration := by
          rw [completedUses, target_rewritten, hannotations, completedUses, List.map_map]
          exact List.map_congr_left fun use _ =>
            congrArg Visit.value (around.complete_complete declaration.target use)
        rw [visit_supported _ hsome hsupports, htreated, htreated, hrepeat, hrepeat, hcompleted,
          around.overrideFindings_rewritten hannotations, hannotations, target_rewritten,
          completedUses, List.flatMap_map, List.any_map]
        simp only [complete_complete, Function.comp_def, isUseOf_complete]

theorem stopAt_rewrittenStop (hfolding : around.settings.folding = false) (stop : Stop) :
    around.stopAt (around.rewrittenStop stop) = around.stopAt stop := by
  cases stop with
  | declaration declaration => exact congrArg Visit.effect (visit_rewritten hfolding declaration)
  | member method =>
      have hmember : around.memberFindings (around.walkMethod method).value =
          around.memberFindings method := by
        unfold memberFindings
        rw [around.registry.checkMember_congr_bare rfl (around.bare_walkMethod method)]
      exact congrArg Visit.report hmember

theorem keeps_rewritten (hfolding : around.settings.folding = false) (declaration : Declaration) :
    around.Keeps (around.rewritten declaration) where
  annotations := by rw [visit_rewritten hfolding, annotations_rewritten]
  deprecated := by
    rw [visit_rewritten hfolding, deprecated?_rewritten, Option.map_map]
    congr 1
    funext mark
    simp

/-! ## Rewritten classes -/

/-- The walk of a rewritten class is the walk of the class. -/
theorem walkClass_walkClass (hfolding : around.settings.folding = false) (decl : ClassDecl) :
    around.walkClass (around.walkClass decl).value = around.walkClass decl := by
  refine Visit.ext_effect (value_walkClass_self _ ?_) ?_
  · -- Each declaration of the rewritten class has been handed back by a visit.
    rw [declarations_walkClass]
    intro declaration hmem
    obtain ⟨before, -, rfl⟩ := List.mem_map.mp hmem
    exact keeps_rewritten hfolding before
  · rw [effect_walkClass, effect_walkClass, stops_walkClass, List.forM_map]
    simp only [stopAt_rewrittenStop hfolding]

/-- Of the class that is checked a walk asks for the bare form. -/
theorem walkClass_declaring {other : ClassDecl} (hbare : other.bare = around.declaring.bare) :
    walkClass { around with declaring := other } = around.walkClass := by
  refine walkClass_congr ?_ ?_
  · have hcomplete : complete { around with declaring := other } = around.complete := rfl
    have hisUseOf : isUseOf { around with declaring := other } = around.isUseOf := rfl
    have hoverride : checkOverride { around with declaring := other } = around.checkOverride :=
      funext fun mark => funext fun method => around.checkOverride_congr hbare rfl rfl
    funext declaration
    simp only [visit, hcomplete, hisUseOf, hoverride]
  · have hkind : other.isAnnotationType = around.declaring.isAnnotationType :=
      show other.bare.isAnnotationType = around.declaring.bare.isAnnotationType by rw [hbare]
    have hname : other.name = around.declaring.name :=
      show other.bare.name = around.declaring.bare.name by rw [hbare]
    funext method
    have hmember := around.registry.checkMember_congr_bare hname (rfl : method.bare = _)
    unfold memberFindings
    rw [← hkind, ← hmember]
    rfl

variable (around) in
/-- The mark of annotated classes is handed on by a walk, and has no part in it otherwise. -/
theorem walkClass_marked (mark : Bool) (decl : ClassDecl) :
    (around.walkClass { decl with annotated := mark }).value =
        { (around.walkClass decl).value with annotated := mark } ∧
      (around.walkClass { decl with annotated := mark }).effect = (around.walkClass decl).effect :=
  ⟨rfl, rfl⟩

end Surroundings

/-! ## Verified classes -/

namespace Verifier

variable {verifier : Verifier} (hfolding : verifier.settings.folding = false) (registry : Registry)
include hfolding

/-- Checking a completed class gives it back, with what was found before. -/
theorem walk_completed (decl : ClassDecl) :
    (verifier.walk registry (verifier.completed registry decl)).value =
        verifier.completed registry decl ∧
      (verifier.walk registry (verifier.completed registry decl)).effect =
        (verifier.walk registry decl).effect := by
  let around : Surroundings := ⟨verifier.settings, verifier.scope registry, decl⟩
  have hdeclaring : verifier.walk registry (verifier.completed registry decl) =
      around.walkClass (verifier.completed registry decl) :=
    congrFun (around.walkClass_declaring (verifier.bare_completed registry decl)) _
  -- The class is marked after the walk, and a second walk takes the mark along.
  obtain ⟨hvalue, heffect⟩ := around.walkClass_marked
    (verifier.completed registry decl).annotated (around.walkClass decl).value
  rw [around.walkClass_walkClass hfolding] at hvalue heffect
  rw [hdeclaring]
  exact ⟨hvalue, heffect⟩

theorem completed_completed (decl : ClassDecl) :
    verifier.completed registry (verifier.completed registry decl) =
      verifier.completed registry decl := by
  obtain ⟨hvalue, heffect⟩ := walk_completed hfolding registry decl
  obtain ⟨-, hannotated⟩ := Visit.effect_eq_iff.mp heffect
  have hmark : ((verifier.completed registry decl).annotated ||
      (verifier.walk registry decl).annotated) = (verifier.completed registry decl).annotated := by
    rw [completed, Bool.or_assoc, Bool.or_self]
  rw [completed, hvalue, hannotated, hmark]

theorem findings_completed (id : ClassId) (decl : ClassDecl) :
    verifier.findings registry id (verifier.completed registry decl) =
      verifier.findings registry id decl := by
  obtain ⟨-, heffect⟩ := walk_completed hfolding registry decl
  obtain ⟨hfindings, -⟩ := Visit.effect_eq_iff.mp heffect
  rw [findings, findings, hfindings]

/-! ## Verified registries -/

/-- Checking a verified class writes what is there. -/
theorem checked_verifyAll {id : ClassId} (hid : id ∈ registry.declaredIds) :
    verifier.checked (verifier.verifyAll registry).1 id = (verifier.verifyAll registry).1 := by
  obtain ⟨decl, hclass⟩ := registry.exists_class?_of_mem_declaredIds hid
  have hcompleted := verifier.class?_verifyAll registry hid hclass
  have hbare := verifier.bare_verifyAll registry
  rw [verifier.checked_of_class? hcompleted, verifier.completed_congr hbare,
    completed_completed hfolding]
  refine Registry.setDecl_eq_self _ fun old hold => ?_
  exact Option.some.inj (hold.symm.trans hcompleted)

theorem findingsAlone_verifyAll {id : ClassId} (hid : id ∈ registry.declaredIds) :
    verifier.findingsAlone (verifier.verifyAll registry).1 id =
      verifier.findingsAlone registry id := by
  obtain ⟨decl, hclass⟩ := registry.exists_class?_of_mem_declaredIds hid
  have hcompleted := verifier.class?_verifyAll registry hid hclass
  have hbare := verifier.bare_verifyAll registry
  rw [verifier.findingsAlone_of_class? hcompleted, verifier.findingsAlone_of_class? hclass,
    verifier.findings_congr hbare, findings_completed hfolding]

/-- **Without folding a second run finds the same and changes nothing.** -/
theorem verifyAll_verifyAll :
    verifier.verifyAll (verifier.verifyAll registry).1 = verifier.verifyAll registry := by
  have hids : (verifier.verifyAll registry).1.declaredIds = registry.declaredIds := by
    rw [← Registry.declaredIds_bare, verifier.bare_verifyAll, Registry.declaredIds_bare]
  have hdistinct := registry.nodup_declaredIds
  refine Prod.ext ?_ ?_
  · -- Checks of the second run leave the registry that the first has made, one after another.
    have hsame : ∀ ids ⊆ registry.declaredIds,
        ids.foldl verifier.checked (verifier.verifyAll registry).1 =
          (verifier.verifyAll registry).1 := by
      intro ids hids
      induction ids with
      | nil => rfl
      | cons id rest ih =>
          obtain ⟨hid, hrest⟩ := List.cons_subset.mp hids
          rw [List.foldl_cons, checked_verifyAll hfolding registry hid, ih hrest]
    rw [verifyAll, verifyEach_fst, hids]
    exact hsame _ (List.Subset.refl _)
  · rw [verifyAll, hids, verifyEach_snd _ _ hdistinct, verifyAll, verifyEach_snd _ _ hdistinct]
    exact List.flatMap_congr fun id hid => findingsAlone_verifyAll hfolding registry hid

end Verifier

/-! ## A letter that is stamped twice -/

namespace Mailroom

/-- A constant tells how long a stamp is kept, and stamps are collected in `Tags`. -/
def stamp : ClassDecl where
  name := "Stamp"
  kind := .annotationType
  annotations := [
    Stationery.use WellKnown.retentionName
      [(AnnotationUse.valueMember, .constant "POLICY" .nowhere)],
    Stationery.use WellKnown.repeatableName
      [(AnnotationUse.valueMember, .classLiteral (.named "Tags" []) .nowhere)]]

/-- The stamps are on a variable within a closure, where `Tags` may not stand. -/
def letter : ClassDecl where
  name := "Letter"
  methods := [{
    name := "seal"
    body := some [.evaluate (.closure [.declare
      ⟨"sheet", none, [Stationery.use "Stamp" [], Stationery.use "Stamp" []], none, .nowhere⟩]
      .nowhere) .nowhere] }]

/-- The container, the stamp and the letter. -/
def classes : Registry :=
  .after [.change (.declare Stationery.tags "tags"), .change (.declare stamp "stamps"),
    .change (.declare letter "letters")]

/-- A verifier that knows the constant, with or without folding. -/
def clerk (folding : Bool) : Verifier where
  settings := { folding }
  constants := NameMap.insert ∅ "POLICY" "RUNTIME"

/-- The first run fills the stamps in and the second finds them so.  Folded, the stamps are in a
container after the first run, which the second one reports. -/
theorem verifyAll_letter :
    (((clerk false).verifyAll classes).1.class? ⟨2⟩).map (fun decl =>
        decl.declarations.map fun declaration => declaration.annotations.map (·.retention)) =
      some [[], [], [some .runtime, some .runtime]] ∧
    (clerk false).verifyAll ((clerk false).verifyAll classes).1 = (clerk false).verifyAll classes ∧
    ((clerk true).verifyAll classes).2 = [] ∧
    ((clerk true).verifyAll ((clerk true).verifyAll classes).1).2.map (·.problem) =
      [.targetMismatch "Tags" .localVariable] := by
  refine ⟨?_, Verifier.verifyAll_verifyAll rfl classes, ?_, ?_⟩ <;> decide +kernel

end Mailroom

end DeclCheck
