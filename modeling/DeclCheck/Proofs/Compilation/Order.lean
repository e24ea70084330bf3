/-
# DeclCheck.Proofs.Compilation.Order — the order of source units does not matter.

Another order of units gives the classes other numbers, makes other placeholders and checks the
classes in another order.  As long as no two classes share a name, every name has the same class
either way, and a check asks for nothing else: not for the numbers, not for what is pending, not for
what was checked before.  So each class is found fault with and completed in the same way, and only
the order of the reports changes.
-/
import Mathlib.Data.List.TakeWhile
import DeclCheck.Proofs.Compilation.Duplicates
import DeclCheck.Proofs.Inheritance.Renumbering

namespace DeclCheck

/-! ## Registries with the same classes -/

namespace Registry

variable {a b : Registry}

theorem isSome_find? (hconsistent : a.Consistent) (name : String) :
    (a.find? name).isSome = (a.findClass? name).isSome := by
  unfold findClass?
  cases hfind : a.find? name with
  | none => rfl
  | some id =>
      obtain ⟨entry, hentry, -⟩ := exists_entry?_of_find? hconsistent hfind
      rw [Option.bind_some, class?, hentry]
      rfl

theorem AnswersAlike.of_findClass?_eq (ha : a.Consistent) (hb : b.Consistent)
    (hclass : a.findClass? = b.findClass?) (htype : a.annotationType? = b.annotationType?) :
    a.AnswersAlike b where
  annotationType := congrFun htype
  known name := by rw [isSome_find? ha, isSome_find? hb, hclass]
  overriding := searchOverridden_congr ha hb hclass
  member := checkMember_congr ha hb hclass

/-! ## Declared classes and their numbers -/

/-- The declared classes, number by number. -/
theorem map_declaredIds (registry : Registry) :
    registry.declaredIds.map (fun id => (registry.class? id, registry.unitOf? id)) =
      registry.declarations.map fun declaration => (some declaration.1, some declaration.2) := by
  have hentries : registry.entries.toList.zipIdx.map Prod.fst = registry.entries.toList :=
    List.zipIdx_map_fst 0 _
  unfold declaredIds declarations
  rw [← hentries, List.filterMap_map, List.map_filterMap, List.map_filterMap, hentries]
  refine List.filterMap_congr ?_
  rintro ⟨entry, index⟩ hmem
  have hentry : registry.entry? ⟨index⟩ = some entry := registry.mem_zipIdx_entries.mp hmem
  cases horigin : entry.origin with
  | declared unit =>
      simp [horigin, Origin.isDeclared, Entry.declaration?, class?, hentry,
        unitOf?_of_declared hentry horigin]
  | _ => simp [horigin, Origin.isDeclared, Entry.declaration?]

theorem mem_declaredIds {registry : Registry} {id : ClassId} {entry : Entry}
    (hentry : registry.entry? id = some entry) (hdeclared : entry.origin.isDeclared) :
    id ∈ registry.declaredIds := by
  have hmem : (entry, id.index) ∈ registry.entries.toList.zipIdx :=
    registry.mem_zipIdx_entries.mpr hentry
  exact List.mem_filterMap.mpr ⟨_, hmem, by simp [hdeclared]⟩

end Registry

/-! ## Checks in their turn -/

namespace Verifier

variable (verifier : Verifier) (registry : Registry)

/-- What is found in a declaration of a unit. -/
def findingsIn (declaration : ClassDecl × String) : List Diagnostic :=
  (verifier.walk registry declaration.1).findings.map fun finding =>
    { finding with unit := some declaration.2 }

/-- What the check of a class finds when its turn comes, all declared classes before it having been
checked. -/
def foundInTurn? (id : ClassId) : Option (List Diagnostic) :=
  let before := registry.declaredIds.takeWhile (· ≠ id)
  (verifier.verifyClass? (verifier.verifyEach registry before).1 id).map (·.2)

theorem findingsAlone_foldl_checked {id : ClassId} {ids : List ClassId} (hid : id ∉ ids) :
    verifier.findingsAlone (ids.foldl verifier.checked registry) id =
      verifier.findingsAlone registry id := by
  induction ids generalizing registry with
  | nil => rfl
  | cons first rest ih =>
      rw [List.mem_cons, not_or] at hid
      rw [List.foldl_cons, ih _ hid.2]
      exact (verifier.alone_checked hid.1).1

/-- What a check finds in its turn is what it would find alone. -/
theorem foundInTurn?_eq (id : ClassId) :
    verifier.foundInTurn? registry id =
      (registry.class? id).map fun _ => verifier.findingsAlone registry id := by
  have hbefore : id ∉ registry.declaredIds.takeWhile (· ≠ id) := by
    intro hmem
    have hne := List.mem_takeWhile_imp hmem
    simp at hne
  have hdistinct : (registry.declaredIds.takeWhile (· ≠ id)).Nodup :=
    registry.nodup_declaredIds.sublist (List.takeWhile_sublist _)
  simp only [foundInTurn?, verifyEach_fst]
  rw [verifyClass?_eq_alone, verifier.class?_foldl_checked registry hdistinct, if_neg hbefore,
    verifier.findingsAlone_foldl_checked registry hbefore, Option.map_map]
  rfl

theorem findingsAlone_eq_findingsIn {id : ClassId} {decl : ClassDecl} {unit : String}
    (hclass : registry.class? id = some decl) (hunit : registry.unitOf? id = some unit) :
    verifier.findingsAlone registry id = verifier.findingsIn registry (decl, unit) := by
  rw [findingsAlone, verifyClass?_eq, hclass, findingsIn, ← hunit]
  rfl

/-- All that is found, declaration by declaration. -/
theorem verifyAll_snd :
    (verifier.verifyAll registry).2 =
      registry.declarations.flatMap (verifier.findingsIn registry) := by
  rw [verifyAll, verifyEach_snd _ _ registry.nodup_declaredIds]
  -- A number counts by its class and its unit, and those are the declarations one after another.
  let report (seen : Option ClassDecl × Option String) : List Diagnostic :=
    (seen.1.map fun decl => (verifier.walk registry decl).findings.map fun finding =>
      { finding with unit := seen.2 }).getD []
  have halone : verifier.findingsAlone registry =
      fun id => report (registry.class? id, registry.unitOf? id) := by
    funext id
    rw [findingsAlone, verifyClass?_eq, Option.map_map]
    rfl
  calc registry.declaredIds.flatMap (verifier.findingsAlone registry)
      = (registry.declaredIds.map fun id =>
          (registry.class? id, registry.unitOf? id)).flatMap report := by
        rw [halone, List.flatMap_map]
    _ = registry.declarations.flatMap (verifier.findingsIn registry) := by
        rw [registry.map_declaredIds, List.flatMap_map]
        rfl

theorem class?_verifyAll {id : ClassId} (hid : id ∈ registry.declaredIds) {decl : ClassDecl}
    (hclass : registry.class? id = some decl) :
    (verifier.verifyAll registry).1.class? id = some (verifier.completed registry decl) := by
  rw [verifyAll, verifyEach_fst, verifier.class?_foldl_checked registry registry.nodup_declaredIds,
    if_pos hid, declAlone?, verifyClass?_eq, hclass, Option.map_some, Option.bind_some,
    Registry.class?_setDecl, if_pos rfl, hclass]
  rfl

variable {registry} {other : Registry}

theorem findingsIn_congr (halike : registry.AnswersAlike other) :
    verifier.findingsIn registry = verifier.findingsIn other := by
  funext declaration
  rw [findingsIn, findingsIn, verifier.walk_congr halike]

theorem completed_alike (halike : registry.AnswersAlike other) :
    verifier.completed registry = verifier.completed other := by
  funext decl
  rw [completed, completed, verifier.walk_congr halike]

end Verifier

/-! ## Compilations -/

namespace Compilation

/-- The registry that is checked. -/
def registered (compilation : Compilation) : Registry :=
  compilation.register.takeDiagnostics.2

/-- What the check of the class declared under a name finds in its turn, and the declaration that
the class has in the end. -/
def outcome? (compilation : Compilation) (settings : CheckSettings) (name : String) :
    Option (List Diagnostic × ClassDecl) := do
  let id ← compilation.registered.known.get? name
  let found ← Verifier.foundInTurn? { settings } compilation.registered id
  let completed ← (compilation.verify settings).registry.class? id
  return (found, completed)

theorem consistent_registered (compilation : Compilation) :
    compilation.registered.Consistent :=
  compilation.consistent_register.apply .takeDiagnostics

theorem declarations_registered (compilation : Compilation) :
    compilation.registered.declarations = compilation.declarations :=
  compilation.declarations_register

theorem find?_registered (compilation : Compilation) (name : String) :
    compilation.registered.find? name = compilation.register.find? name := by
  rw [Registry.find?_eq_or compilation.consistent_registered,
    Registry.find?_eq_or compilation.consistent_register]
  rfl

theorem findClass?_registered (compilation : Compilation) (name : String) :
    compilation.registered.findClass? name = compilation.register.findClass? name :=
  congrArg (Option.bind · compilation.register.class?) (compilation.find?_registered name)

theorem annotationType?_registered (compilation : Compilation) (name : String) :
    compilation.registered.annotationType? name =
      (compilation.registered.findClass? name).bind AnnotationType.ofDecl? := by
  rw [findClass?_registered, ← annotationType?_register, Registry.annotationType?,
    find?_registered]
  rfl

/-- A declared class among the entries of the registry that is checked. -/
theorem exists_known (compilation : Compilation) {name : String}
    (hname : name ∈ compilation.declaredNames) :
    ∃ id decl unit, compilation.registered.known.get? name = some id ∧
      id ∈ compilation.registered.declaredIds ∧ decl.name = name ∧
      (decl, unit) ∈ compilation.declarations ∧
      compilation.registered.class? id = some decl ∧
      compilation.registered.unitOf? id = some unit := by
  have hsome : (compilation.registered.known.get? name).isSome := by
    show (compilation.register.known.get? name).isSome
    rw [register_eq_ran, Registry.isSome_known_ran fun _ => enters_of_mem_calls, declared_calls]
    exact hname
  obtain ⟨id, hknown⟩ := Option.isSome_iff_exists.mp hsome
  obtain ⟨entry, hentry, hbears, hdeclared⟩ :=
    compilation.consistent_registered.known name id hknown
  obtain ⟨unit, horigin⟩ : ∃ unit, entry.origin = .declared unit := by
    cases horigin : entry.origin with
    | declared unit => exact ⟨unit, rfl⟩
    | _ => rw [horigin] at hdeclared; cases hdeclared
  refine ⟨id, entry.decl, unit, hknown, Registry.mem_declaredIds hentry hdeclared, hbears, ?_, ?_,
    Registry.unitOf?_of_declared hentry horigin⟩
  · rw [← declarations_registered]
    refine List.mem_filterMap.mpr ⟨entry, ?_, by rw [Entry.declaration?, horigin]⟩
    exact Array.mem_toList_iff.mpr (Array.mem_of_getElem? hentry)
  · rw [Registry.class?, hentry]
    rfl

/-- The outcome for a declared class, read off its declaration. -/
theorem exists_outcome? (compilation : Compilation) (settings : CheckSettings) {name : String}
    (hname : name ∈ compilation.declaredNames) :
    ∃ declaration ∈ compilation.declarations, declaration.1.name = name ∧
      compilation.outcome? settings name =
        some (Verifier.findingsIn { settings } compilation.registered declaration,
          Verifier.completed { settings } compilation.registered declaration.1) := by
  obtain ⟨id, decl, unit, hknown, hid, hbears, hmem, hclass, hunit⟩ :=
    compilation.exists_known hname
  refine ⟨(decl, unit), hmem, hbears, ?_⟩
  have hfound : Verifier.foundInTurn? { settings } compilation.registered id =
      some (Verifier.findingsIn { settings } compilation.registered (decl, unit)) := by
    rw [Verifier.foundInTurn?_eq, hclass, Option.map_some,
      Verifier.findingsAlone_eq_findingsIn _ _ hclass hunit]
  have hcompleted : (compilation.verify settings).registry.class? id =
      some (Verifier.completed { settings } compilation.registered decl) :=
    Verifier.class?_verifyAll { settings } compilation.registered hid hclass
  simp [outcome?, hknown, hfound, hcompleted]

end Compilation

/-! ## Units in another order -/

namespace Compilation

variable {first second : Compilation}

theorem declarations_perm (hunits : first.units.Perm second.units) :
    first.declarations.Perm second.declarations :=
  hunits.flatMap_right _

theorem declaredNames_perm (hunits : first.units.Perm second.units) :
    first.declaredNames.Perm second.declaredNames :=
  (declarations_perm hunits).map _

/-- Every name has the same class, whatever the order of the units. -/
theorem findClass?_perm (hexternal : first.external = second.external)
    (hunits : first.units.Perm second.units) (hdistinct : first.declaredNames.Nodup) :
    first.registered.findClass? = second.registered.findClass? := by
  funext name
  have hperm := (declarations_perm hunits).map Prod.fst
  have hfirst : ((first.declarations.map Prod.fst).map (·.name)).Nodup := by
    rwa [List.map_map]
  have hsecond : ((second.declarations.map Prod.fst).map (·.name)).Nodup :=
    (hperm.map _).nodup_iff.mp hfirst
  have hlast : lastNamed? ClassDecl.name (first.declarations.map Prod.fst) name =
      lastNamed? ClassDecl.name (second.declarations.map Prod.fst) name := by
    refine Option.ext fun decl => ?_
    rw [lastNamed?_eq_some_iff hfirst, lastNamed?_eq_some_iff hsecond, hperm.mem_iff]
  have hprovided : first.provided = second.provided := by
    rw [provided, provided, hexternal]
  rw [findClass?_registered, findClass?_registered, findClass?_register, findClass?_register, hlast,
    hprovided]

theorem answersAlike_perm (hexternal : first.external = second.external)
    (hunits : first.units.Perm second.units) (hdistinct : first.declaredNames.Nodup) :
    first.registered.AnswersAlike second.registered := by
  have hclass := findClass?_perm hexternal hunits hdistinct
  refine .of_findClass?_eq first.consistent_registered second.consistent_registered hclass ?_
  funext name
  rw [annotationType?_registered, annotationType?_registered, hclass]

/-- The reports of a run: redeclarations first, then what the checks find, declaration by
declaration. -/
theorem diagnostics_eq (compilation : Compilation) (settings : CheckSettings) :
    (compilation.verify settings).diagnostics =
      (redeclarations compilation.declarations).map Redeclaration.report ++
        compilation.declarations.flatMap
          (Verifier.findingsIn { settings } compilation.registered) := by
  show compilation.register.diagnostics ++
    (Verifier.verifyAll { settings } compilation.registered).2 = _
  rw [diagnostics_register, Verifier.verifyAll_snd, declarations_registered]

theorem diagnostics_verify (compilation : Compilation) (settings : CheckSettings)
    (hdistinct : compilation.declaredNames.Nodup) :
    (compilation.verify settings).diagnostics =
      compilation.declarations.flatMap
        (Verifier.findingsIn { settings } compilation.registered) := by
  rw [diagnostics_eq, redeclarations_eq_nil hdistinct]
  rfl

theorem unresolved_verify (compilation : Compilation) (settings : CheckSettings) :
    (compilation.verify settings).unresolved = compilation.register.pending.keys :=
  congrArg NameMap.keys (Verifier.pending_verifyAll { settings } compilation.registered)

/-- The order of source units does not matter where no two classes share a name.  Every declared
class is found fault with alike in its turn and ends up alike, the reports are the same in some
order, and the same names stay unresolved. -/
theorem verify_perm (settings : CheckSettings) (hexternal : first.external = second.external)
    (hunits : first.units.Perm second.units) (hdistinct : first.declaredNames.Nodup) :
    (∀ name ∈ first.declaredNames, ∃ found completed,
        first.outcome? settings name = some (found, completed) ∧
          second.outcome? settings name = some (found, completed)) ∧
      (first.verify settings).diagnostics.Perm (second.verify settings).diagnostics ∧
      (first.verify settings).hasErrors = (second.verify settings).hasErrors ∧
      ∀ name, name ∈ (first.verify settings).unresolved ↔
        name ∈ (second.verify settings).unresolved := by
  have halike := answersAlike_perm hexternal hunits hdistinct
  have hnames := declaredNames_perm hunits
  have hreports :
      (first.verify settings).diagnostics.Perm (second.verify settings).diagnostics := by
    rw [diagnostics_verify _ _ hdistinct, diagnostics_verify _ _ (hnames.nodup_iff.mp hdistinct),
      Verifier.findingsIn_congr _ halike]
    exact (declarations_perm hunits).flatMap_right _
  refine ⟨?_, hreports, ?_, ?_⟩
  · intro name hname
    obtain ⟨one, honeMem, honeName, hone⟩ := first.exists_outcome? settings hname
    obtain ⟨two, htwoMem, htwoName, htwo⟩ :=
      second.exists_outcome? settings (hnames.mem_iff.mp hname)
    -- No other class has the name, so the two declarations are one.
    obtain rfl : one = two := List.inj_on_of_nodup_map hdistinct honeMem
      ((declarations_perm hunits).mem_iff.mpr htwoMem) (honeName.trans htwoName.symm)
    rw [Verifier.findingsIn_congr _ halike, Verifier.completed_alike _ halike] at hone
    exact ⟨_, _, hone, htwo⟩
  · exact hreports.any_eq
  · intro name
    have hused : first.usedNames.Perm second.usedNames := hunits.flatMap_right _
    rw [unresolved_verify, unresolved_verify, pending_register, pending_register]
    simp only [List.mem_filter, List.mem_eraseDups, hused.mem_iff, hnames.mem_iff]

end Compilation

namespace Drafts

/-- The class `Draft` is wrongly used as an annotation here. -/
def sketch : ClassDecl where
  name := "Sketch"
  annotations := [use "Draft"]

/-- Every unit uses a class of a later one. -/
def forward : Compilation where
  units := [
    { name := "sketches", tree := some ⟨[sketch], [{ name := "Draft" }, { name := "Ghost" }]⟩ },
    { name := "drafts", tree := some ⟨[draft], [{ name := "Memo" }]⟩ },
    { name := "notes", tree := some ⟨[memo, marker], []⟩ }]

/-- The same units the other way round. -/
def backward : Compilation where
  units := forward.units.reverse

/-- The other way round no placeholder is needed but for `Ghost`, and the reports change places. -/
theorem verify_backward :
    (forward.verify {}).diagnostics.map (·.problem) =
        [.notAnnotationType "Draft", .notAnnotationType "Memo"] ∧
      (backward.verify {}).diagnostics.map (·.problem) =
        [.notAnnotationType "Memo", .notAnnotationType "Draft"] ∧
      (forward.verify {}).diagnostics.Perm (backward.verify {}).diagnostics ∧
      (∃ found completed, forward.outcome? {} "Draft" = some (found, completed) ∧
        backward.outcome? {} "Draft" = some (found, completed)) ∧
      "Ghost" ∈ (backward.verify {}).unresolved := by
  have hexternal : forward.external = backward.external := rfl
  have hunits : forward.units.Perm backward.units := (List.reverse_perm _).symm
  have hdistinct : forward.declaredNames.Nodup := by decide
  obtain ⟨hclasses, hreports, -, hnames⟩ :=
    Compilation.verify_perm {} hexternal hunits hdistinct
  refine ⟨by decide +kernel, by decide +kernel, hreports, hclasses "Draft" (by decide), ?_⟩
  exact (hnames "Ghost").mp (by decide +kernel)

end Drafts

end DeclCheck
