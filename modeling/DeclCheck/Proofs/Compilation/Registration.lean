/-
# DeclCheck.Proofs.Compilation.Registration — what a registered compilation leaves in the registry.

Registering a compilation is a history like any other: compiled classes come in, then the source
units in order.  So all that holds after every history holds of the registry that is checked.  But
such a history only ever enters names and classes, and what it leaves behind can be read off the
input: the declared classes in order (`declarations_register`), the class that each name stands for
(`findClass?_register`) and the names that are still pending (`pending_register`).
-/
import Mathlib.Data.List.Induction
import DeclCheck.Proofs.Registry.Names
import DeclCheck.Verification

namespace DeclCheck

/-! ## The calls of a compilation -/

namespace Compilation

variable (compilation : Compilation)

/-- The operations that register a compilation. -/
def operations : List Operation :=
  (Platform.classes ++ compilation.external).map (fun decl => .change (.addExternal decl)) ++
    compilation.units.map .addUnit

/-- The calls that these operations come down to. -/
def calls : List Call :=
  compilation.operations.flatMap Operation.calls

theorem register_eq_after : compilation.register = Registry.after compilation.operations := by
  rw [Registry.after, operations, List.foldl_append, List.foldl_map, List.foldl_map,
    List.foldl_append]
  rfl

theorem register_eq_ran : compilation.register = Registry.ran compilation.calls := by
  rw [register_eq_after, Registry.after_eq_ran, calls]

theorem calls_eq :
    compilation.calls =
      (Platform.classes ++ compilation.external).map .addExternal ++
        compilation.units.flatMap SourceUnit.calls := by
  rw [calls, operations, List.flatMap_append, List.flatMap_map, List.flatMap_map]
  simp [Operation.calls, List.map_eq_flatMap]

end Compilation

/-- What is selected from one more call comes last. -/
theorem Call.filterMap_concat {α : Type} (select : Call → Option α) (calls : List Call)
    (call : Call) :
    (calls ++ [call]).filterMap select = calls.filterMap select ++ (select call).toList := by
  cases hselect : select call <;> simp [hselect]

/-- Calls that enter a name or a class and leave all else as it is. -/
def Call.enters : Call → Bool
  | .enterUnit _ | .refer _ _ | .declare _ _ | .addExternal _ => true
  | _ => false

theorem SourceUnit.enters_of_mem_calls {unit : SourceUnit} {call : Call}
    (hmem : call ∈ unit.calls) : call.enters := by
  obtain ⟨name, tree⟩ := unit
  cases tree with
  | none =>
      rw [List.mem_singleton.mp hmem]
      rfl
  | some tree =>
      simp only [calls, List.mem_cons, List.mem_append, List.mem_map] at hmem
      rcases hmem with rfl | ⟨reference, -, rfl⟩ | ⟨decl, -, rfl⟩ <;> rfl

theorem Compilation.enters_of_mem_calls {compilation : Compilation} {call : Call}
    (hmem : call ∈ compilation.calls) : call.enters := by
  rw [calls_eq, List.mem_append, List.mem_map, List.mem_flatMap] at hmem
  rcases hmem with ⟨decl, -, rfl⟩ | ⟨unit, -, hmem⟩
  · rfl
  · exact SourceUnit.enters_of_mem_calls hmem

namespace Registry

variable {registry : Registry}

/-! ## Reports of the registry itself -/

theorem diagnostics_declare (registry : Registry) (decl : ClassDecl) (unit : String) :
    (registry.declare decl unit).1.diagnostics =
      registry.diagnostics ++ (registry.known.get? decl.name).toList.map
        ((registry.push decl (.declared unit)).1.duplicate decl unit) := by
  rw [declare_eq]
  cases (registry.registered decl unit).pending.get? decl.name with
  | none => rfl
  | some placeholder =>
      cases hredirect : (registry.registered decl unit).redirect placeholder ⟨registry.size⟩ with
      | error refusal => simp only [hredirect]; rfl
      | ok result =>
          obtain ⟨-, -, entry, -, rfl⟩ := redirect_eq_ok.mp hredirect
          simp only [hredirect]
          rfl

/-- What a call adds to the reports of a registry, or takes from them. -/
theorem diagnostics_apply (registry : Registry) (call : Call) :
    (registry.apply call).diagnostics =
      match call with
      | .declare decl unit =>
        registry.diagnostics ++ (registry.known.get? decl.name).toList.map
          ((registry.push decl (.declared unit)).1.duplicate decl unit)
      | .takeDiagnostics => []
      | _ => registry.diagnostics := by
  cases call with
  | enterUnit name => rfl
  | refer name location =>
      simp only [apply, refer]
      cases registry.lookup? name <;> rfl
  | declare decl unit => exact registry.diagnostics_declare decl unit
  | addGenerated decl => rfl
  | addExternal decl => rfl
  | addOuterNested enclosing name =>
      simp only [apply, addOuterNested]
      cases registry.class? enclosing <;> rfl
  | listen placeholder listener =>
      simp only [apply, listen]
      cases registry.openPlaceholder placeholder <;> rfl
  | redirect placeholder target =>
      simp only [apply]
      cases hredirect : registry.redirect placeholder target with
      | error refusal => rfl
      | ok result =>
          obtain ⟨-, -, entry, -, rfl⟩ := redirect_eq_ok.mp hredirect
          rfl
  | verifyClass verifier id =>
      obtain ⟨decl, hchecked, -⟩ := verifier.exists_checked_eq_setDecl registry id
      simp only [apply, hchecked]
      rfl
  | takeDiagnostics => rfl

/-- All that a registry itself reports is duplicated classes. -/
theorem rule_of_mem_diagnostics (operations : List Operation) :
    ∀ diagnostic ∈ (after operations).diagnostics, diagnostic.rule = .duplicateClass := by
  refine after_induction (P := fun registry =>
    ∀ diagnostic ∈ registry.diagnostics, diagnostic.rule = .duplicateClass) nofun ?_ operations
  intro registry call hregistry diagnostic hmem
  rw [diagnostics_apply] at hmem
  cases call with
  | declare decl unit =>
      rcases List.mem_append.mp hmem with hold | hnew
      · exact hregistry diagnostic hold
      · obtain ⟨earlier, -, rfl⟩ := List.mem_map.mp hnew
        rfl
  | takeDiagnostics => cases hmem
  | _ => exact hregistry diagnostic hmem

/-! ## Declarations, in order -/

end Registry

/-- A declared class and its unit. -/
def Entry.declaration? (entry : Entry) : Option (ClassDecl × String) :=
  match entry.origin with
  | .declared unit => some (entry.decl, unit)
  | _ => none

/-- The class that a call declares, with its unit. -/
def Call.declaration? : Call → Option (ClassDecl × String)
  | .declare decl unit => some (decl, unit)
  | _ => none

namespace Registry

variable {registry : Registry}

/-- The declared classes with their units, in order. -/
def declarations (registry : Registry) : List (ClassDecl × String) :=
  registry.entries.toList.filterMap Entry.declaration?

theorem declarations_push (registry : Registry) (decl : ClassDecl) (origin : Origin) :
    (registry.push decl origin).1.declarations =
      registry.declarations ++ (Entry.new decl origin).declaration?.toList := by
  unfold declarations push
  rw [Array.toList_push, List.filterMap_append]
  cases hnew : (Entry.new decl origin).declaration? <;> simp [hnew]

theorem declarations_modifyEntry (registry : Registry) (id : ClassId) {change : Entry → Entry}
    (hkeep : ∀ entry, (change entry).declaration? = entry.declaration?) :
    (registry.modifyEntry id change).declarations = registry.declarations := by
  have hsame : (registry.modifyEntry id change).entries.toList.map Entry.declaration? =
      registry.entries.toList.map Entry.declaration? := by
    refine List.ext_getElem? fun index => ?_
    simp only [modifyEntry, List.getElem?_map, Array.getElem?_toList, Array.getElem?_modify]
    by_cases hindex : id.index = index
    · simp [hindex, Option.map_map, Function.comp_def, hkeep]
    · simp [hindex]
  have hfiltered := congrArg (List.filterMap fun declaration => declaration) hsame
  rwa [List.filterMap_map, List.filterMap_map] at hfiltered

theorem declarations_settle (registry : Registry) (name : String) (placeholder target : ClassId) :
    (registry.settle name placeholder target).declarations = registry.declarations := by
  let quiet := registry.modifyEntry placeholder fun entry => { entry with listeners := [] }
  calc (registry.settle name placeholder target).declarations
      = (quiet.modifyEntry placeholder fun entry =>
          { entry with redirect := some target }).declarations := rfl
    _ = quiet.declarations := quiet.declarations_modifyEntry placeholder fun _ => rfl
    _ = registry.declarations := registry.declarations_modifyEntry placeholder fun _ => rfl

theorem declare_fst (hconsistent : registry.Consistent) (decl : ClassDecl) (unit : String) :
    (registry.declare decl unit).1 =
      match registry.pending.get? decl.name with
      | none => registry.registered decl unit
      | some placeholder =>
        (registry.registered decl unit).settle decl.name placeholder ⟨registry.size⟩ := by
  rw [declare_eq, pending_registered]
  cases hpending : registry.pending.get? decl.name with
  | none => rfl
  | some placeholder =>
      obtain ⟨events, hok⟩ := hconsistent.redirect_registered hpending unit
      simp only [hok]

theorem declarations_apply (hconsistent : registry.Consistent) {call : Call}
    (henters : call.enters) :
    (registry.apply call).declarations = registry.declarations ++ call.declaration?.toList := by
  cases call with
  | enterUnit name => exact (List.append_nil _).symm
  | refer name location =>
      simp only [apply, refer]
      cases registry.lookup? name with
      | some id => exact (List.append_nil _).symm
      | none => exact registry.declarations_push { name } (.pending location)
  | declare decl unit =>
      rw [apply, declare_fst hconsistent]
      cases registry.pending.get? decl.name with
      | none => exact registry.declarations_push decl (.declared unit)
      | some placeholder =>
          refine (declarations_settle _ _ _ _).trans ?_
          exact registry.declarations_push decl (.declared unit)
  | addExternal decl => exact registry.declarations_push decl .external
  | _ => cases henters

/-- The declared classes after calls that only enter names and classes. -/
theorem declarations_ran {calls : List Call} (henters : ∀ call ∈ calls, call.enters) :
    (ran calls).declarations = calls.filterMap Call.declaration? := by
  induction calls using List.reverseRecOn with
  | nil => rfl
  | append_singleton calls call ih =>
      have hcalls := ih fun call hmem => henters call (List.mem_append_left _ hmem)
      have hlast := henters call (List.mem_append_right _ (List.mem_singleton.mpr rfl))
      rw [ran_concat, declarations_apply (consistent_ran calls) hlast, hcalls,
        Call.filterMap_concat]

/-! ## Names that are pending -/

theorem known_apply (registry : Registry) (call : Call) :
    (registry.apply call).known = (registry.enrolled call).known :=
  congrArg Roster.known (registry.roster_apply call)

end Registry

/-- The name that a call uses. -/
def Call.used? : Call → Option String
  | .refer name _ => some name
  | _ => none

/-- The name that a call declares. -/
def Call.declared? : Call → Option String
  | .declare decl _ => some decl.name
  | _ => none

namespace Registry

variable {registry : Registry}

theorem isSome_known_apply (registry : Registry) {call : Call} (henters : call.enters)
    (name : String) :
    ((registry.apply call).known.get? name).isSome ↔
      (registry.known.get? name).isSome ∨ call.declared? = some name := by
  rw [known_apply]
  cases call with
  | enterUnit unit => simp [enrolled, roster, Call.declared?]
  | refer used location =>
      cases hlookup : registry.lookup? used <;>
        simp [enrolled, hlookup, roster, Roster.add, Call.declared?]
  | declare decl unit =>
      simp only [enrolled, Call.declared?, NameMap.get?_insert]
      by_cases hname : name = decl.name
      · simp [hname]
      · have hother : ¬ decl.name = name := fun hsame => hname hsame.symm
        simp [hname, hother]
  | addExternal decl => simp [enrolled, roster, Roster.add, Call.declared?]
  | _ => cases henters

/-- The names that are pending after a call, in their order. -/
def waiting (registry : Registry) : Call → List String
  | .refer name _ =>
    if (registry.known.get? name).isSome ∨ name ∈ registry.pending.keys then registry.pending.keys
    else registry.pending.keys ++ [name]
  | .declare decl _ => registry.pending.keys.filter (· ≠ decl.name)
  | _ => registry.pending.keys

theorem pending_apply (hconsistent : registry.Consistent) {call : Call} (henters : call.enters) :
    (registry.apply call).pending.keys = registry.waiting call := by
  cases call with
  | enterUnit name => rfl
  | refer name location =>
      simp only [apply, refer]
      cases hlookup : registry.lookup? name with
      | some id =>
          have hmentioned : (registry.known.get? name).isSome ∨ name ∈ registry.pending.keys := by
            rw [NameMap.mem_keys_iff]
            rcases Option.or_eq_some_iff.mp hlookup with hknown | ⟨-, hpending⟩
            · exact .inl (by rw [hknown]; rfl)
            · exact .inr (by rw [hpending]; rfl)
          exact (if_pos hmentioned).symm
      | none =>
          obtain ⟨hknown, hpending⟩ := Option.or_eq_none_iff.mp hlookup
          have hnew : name ∉ registry.pending.keys := by
            rw [NameMap.mem_keys_iff, hpending]
            exact Bool.false_ne_true
          rw [waiting, if_neg (by simp [hknown, hnew])]
          exact (NameMap.keys_insert ..).trans (if_neg hnew)
  | declare decl unit =>
      rw [apply, declare_fst hconsistent]
      cases hpending : registry.pending.get? decl.name with
      | none =>
          -- No placeholder waits under the name, so there is nothing to take away.
          have hnone : decl.name ∉ registry.pending.keys := by
            rw [NameMap.mem_keys_iff, hpending]
            exact Bool.false_ne_true
          refine (List.filter_eq_self.mpr fun name hmem => decide_eq_true ?_).symm
          rintro rfl
          exact hnone hmem
      | some placeholder =>
          show (registry.pending.eraseIf decl.name placeholder).keys = _
          rw [NameMap.eraseIf, if_pos hpending, NameMap.keys_erase, waiting]
  | addExternal decl => rfl
  | _ => cases henters

/-- After calls that only enter names and classes, a name is listed as declared if one of them
declares it. -/
theorem isSome_known_ran {calls : List Call} (henters : ∀ call ∈ calls, call.enters)
    (name : String) :
    ((ran calls).known.get? name).isSome ↔ name ∈ calls.filterMap Call.declared? := by
  induction calls using List.reverseRecOn with
  | nil => simp [ran, show (∅ : Registry).known = ∅ from rfl]
  | append_singleton calls call ih =>
      have hcalls := ih fun call hmem => henters call (List.mem_append_left _ hmem)
      have hlast := henters call (List.mem_append_right _ (List.mem_singleton.mpr rfl))
      rw [ran_concat, isSome_known_apply _ hlast, hcalls, Call.filterMap_concat, List.mem_append,
        Option.mem_toList]

/-- One more use at the end of a list of names in order of first use. -/
theorem filter_eraseDups_concat (used declared : List String) (name : String) :
    (used ++ [name]).eraseDups.filter (fun name => name ∉ declared) =
      if name ∈ declared ∨ name ∈ used.eraseDups.filter (fun name => name ∉ declared) then
        used.eraseDups.filter fun name => name ∉ declared
      else used.eraseDups.filter (fun name => name ∉ declared) ++ [name] := by
  rw [eraseDups_concat]
  by_cases hused : name ∈ used <;> by_cases hdeclared : name ∈ declared <;> simp [hused, hdeclared]

/-- The names that are pending: those used and never declared, in order of first use. -/
theorem pending_ran {calls : List Call} (henters : ∀ call ∈ calls, call.enters) :
    (ran calls).pending.keys = (calls.filterMap Call.used?).eraseDups.filter
      fun name => name ∉ calls.filterMap Call.declared? := by
  induction calls using List.reverseRecOn with
  | nil => rfl
  | append_singleton calls call ih =>
      have hcalls := fun call hmem => henters call (List.mem_append_left _ hmem)
      have hlast := henters call (List.mem_append_right _ (List.mem_singleton.mpr rfl))
      rw [ran_concat, pending_apply (consistent_ran calls) hlast, Call.filterMap_concat,
        Call.filterMap_concat]
      cases call with
      | refer name location =>
          simp only [Call.declared?, Call.used?, Option.toList_none, Option.toList_some,
            List.append_nil]
          rw [filter_eraseDups_concat, waiting, ih hcalls]
          exact if_congr (or_congr_left (isSome_known_ran hcalls name)) rfl rfl
      | declare decl unit =>
          simp only [Call.declared?, Call.used?, Option.toList_none, Option.toList_some,
            List.append_nil]
          rw [waiting, ih hcalls, List.filter_filter]
          refine List.filter_congr fun name _ => ?_
          simp [and_comm]
      | enterUnit name =>
          simpa only [waiting, Call.declared?, Call.used?, Option.toList_none, List.append_nil]
            using ih hcalls
      | addExternal decl =>
          simpa only [waiting, Call.declared?, Call.used?, Option.toList_none, List.append_nil]
            using ih hcalls
      | _ => cases hlast

/-! ## Classes by name -/

theorem class?_push (registry : Registry) (decl : ClassDecl) (origin : Origin) (id : ClassId) :
    (registry.push decl origin).1.class? id =
      if id = ⟨registry.size⟩ then some decl else registry.class? id := by
  rw [class?, entry?_push]
  split <;> rfl

theorem class?_push_of_eq_some {id : ClassId} {held : ClassDecl}
    (hheld : registry.class? id = some held) (decl : ClassDecl) (origin : Origin) :
    (registry.push decl origin).1.class? id = some held := by
  rw [class?_push, if_neg, hheld]
  rintro rfl
  rw [class?, entry?_size] at hheld
  cases hheld

theorem class?_settle (registry : Registry) (name : String) (placeholder target id : ClassId) :
    (registry.settle name placeholder target).class? id = registry.class? id := by
  rw [class?, entry?_settle, class?, Option.map_map]
  refine congrArg (Option.map · (registry.entry? id)) (funext fun entry => ?_)
  rw [Function.comp_apply]
  split <;> rfl

theorem class?_declare (hconsistent : registry.Consistent) (decl : ClassDecl) (unit : String)
    (id : ClassId) :
    (registry.declare decl unit).1.class? id =
      (registry.push decl (.declared unit)).1.class? id := by
  rw [declare_fst hconsistent]
  cases registry.pending.get? decl.name with
  | none => rfl
  | some placeholder => exact class?_settle _ _ _ _ _

/-- Calls that only enter names and classes leave declarations as they are. -/
theorem class?_apply (hconsistent : registry.Consistent) {call : Call} (henters : call.enters)
    {id : ClassId} {held : ClassDecl} (hheld : registry.class? id = some held) :
    (registry.apply call).class? id = some held := by
  cases call with
  | enterUnit name => exact hheld
  | refer name location =>
      simp only [apply, refer]
      cases registry.lookup? name with
      | some found => exact hheld
      | none => exact class?_push_of_eq_some hheld { name } (.pending location)
  | declare decl unit =>
      rw [apply, class?_declare hconsistent]
      exact class?_push_of_eq_some hheld decl (.declared unit)
  | addExternal decl => exact class?_push_of_eq_some hheld decl .external
  | _ => cases henters

/-- Every class that the log tells of is there as it came in. -/
def Holds (registry : Registry) (log : List Event) : Prop :=
  ∀ provenance decl id, .entered provenance decl id ∈ log → registry.class? id = some decl

theorem class?_of_mem_events (hconsistent : registry.Consistent) {call : Call}
    {provenance : Provenance} {decl : ClassDecl} {id : ClassId}
    (hmem : .entered provenance decl id ∈ registry.events call) :
    (registry.apply call).class? id = some decl := by
  cases call with
  | declare entered unit =>
      rw [events, declare_id] at hmem
      cases List.mem_singleton.mp hmem
      rw [apply, class?_declare hconsistent, class?_push, if_pos rfl]
  | addExternal entered =>
      cases List.mem_singleton.mp hmem
      exact (registry.class?_push decl .external _).trans (if_pos rfl)
  | refer name location => cases List.mem_singleton.mp hmem
  | _ => cases hmem

theorem holds_ran {calls : List Call} (henters : ∀ call ∈ calls, call.enters) :
    (ran calls).Holds ((∅ : Registry).log calls) := by
  induction calls using List.reverseRecOn with
  | nil => exact fun _ _ _ hmem => nomatch hmem
  | append_singleton calls call ih =>
      have hcalls := ih fun call hmem => henters call (List.mem_append_left _ hmem)
      have hlast := henters call (List.mem_append_right _ (List.mem_singleton.mpr rfl))
      have hconsistent := consistent_ran calls
      intro provenance decl id hmem
      rw [Registry.log, collect_append, collect, collect, List.append_nil] at hmem
      rw [ran_concat]
      rcases List.mem_append.mp hmem with hold | hnew
      · exact class?_apply hconsistent hlast (hcalls provenance decl id hold)
      · exact class?_of_mem_events hconsistent hnew

theorem findClass?_eq_selected? {log : List Event} (hrecords : registry.roster.Records log)
    (hconsistent : registry.Consistent) (hholds : registry.Holds log) (name : String) :
    registry.findClass? name = (selected? log name).map Prod.snd := by
  rw [findClass?, find?_eq_selected? hrecords hconsistent]
  cases hselected : selected? log name with
  | none => rfl
  | some chosen =>
      obtain ⟨provenance, hmem⟩ := exists_entered_of_selected? hselected
      exact hholds _ _ _ hmem

end Registry

/-- The class that a call brings in. -/
def Call.entered? (provenance : Provenance) : Call → Option ClassDecl
  | .declare decl _ => if provenance = .declared then some decl else none
  | .addExternal decl => if provenance = .external then some decl else none
  | _ => none

namespace Registry

theorem filterMap_entered?_log (registry : Registry) (provenance : Provenance)
    (calls : List Call) :
    ((registry.log calls).filterMap (Event.entered? provenance)).map Prod.snd =
      calls.filterMap (Call.entered? provenance) := by
  induction calls generalizing registry with
  | nil => rfl
  | cons call rest ih =>
      rw [log_cons, List.filterMap_append, List.map_append, ih, List.filterMap_cons]
      cases call with
      | declare decl unit => cases provenance <;> rfl
      | addExternal decl => cases provenance <;> rfl
      | _ => rfl

theorem lastEntered?_log (registry : Registry) (provenance : Provenance) (calls : List Call)
    (name : String) :
    (lastEntered? provenance (registry.log calls) name).map Prod.snd =
      lastNamed? ClassDecl.name (calls.filterMap (Call.entered? provenance)) name := by
  rw [← filterMap_entered?_log registry, lastNamed?_map, lastEntered?]

end Registry

/-! ## Compilations -/

/-- The names that a unit uses.  A unit without a tree uses none. -/
def SourceUnit.references (unit : SourceUnit) : List Reference :=
  match unit.tree with
  | some tree => tree.references
  | none => []

/-- What is selected from the calls of a unit: from the names it uses, then from its classes. -/
theorem SourceUnit.filterMap_calls {α : Type} (unit : SourceUnit) {select : Call → Option α}
    (hunit : select (.enterUnit unit.name) = none) :
    unit.calls.filterMap select =
      unit.references.filterMap
          (fun reference => select (.refer reference.name ⟨unit.name, reference.span⟩)) ++
        unit.classes.filterMap fun decl => select (.declare decl unit.name) := by
  obtain ⟨name, tree⟩ := unit
  rw [calls, List.filterMap_cons_none hunit]
  cases tree with
  | none => rfl
  | some tree =>
      rw [List.filterMap_append, List.filterMap_map, List.filterMap_map]
      rfl

namespace Compilation

variable (compilation : Compilation)

/-- The classes that the units declare, with their units, in order. -/
def declarations : List (ClassDecl × String) :=
  compilation.units.flatMap fun unit => unit.classes.map (·, unit.name)

/-- The names that the units declare, in order. -/
def declaredNames : List String :=
  compilation.declarations.map (·.1.name)

/-- The names that the units use, in order. -/
def usedNames : List String :=
  compilation.units.flatMap fun unit => unit.references.map (·.name)

/-- The classes that come in compiled, in order. -/
def provided : List ClassDecl :=
  Platform.classes ++ compilation.external

/-- What is selected from the calls of a compilation. -/
theorem filterMap_calls {α : Type} {select : Call → Option α}
    (hunit : ∀ name, select (.enterUnit name) = none) :
    compilation.calls.filterMap select =
      compilation.provided.filterMap (fun decl => select (.addExternal decl)) ++
        compilation.units.flatMap fun unit =>
          unit.references.filterMap
              (fun reference => select (.refer reference.name ⟨unit.name, reference.span⟩)) ++
            unit.classes.filterMap fun decl => select (.declare decl unit.name) := by
  rw [calls_eq, List.filterMap_append, List.filterMap_map, List.filterMap_flatMap]
  simp only [SourceUnit.filterMap_calls _ (hunit _)]
  rfl

theorem declarations_calls :
    compilation.calls.filterMap Call.declaration? = compilation.declarations := by
  rw [filterMap_calls _ fun _ => rfl]
  simp [Call.declaration?, declarations]

theorem declared_calls :
    compilation.calls.filterMap Call.declared? = compilation.declaredNames := by
  rw [filterMap_calls _ fun _ => rfl]
  simp [Call.declared?, declaredNames, declarations, List.map_flatMap, Function.comp_def]

theorem used_calls : compilation.calls.filterMap Call.used? = compilation.usedNames := by
  rw [filterMap_calls _ fun _ => rfl]
  simp [Call.used?, usedNames]

theorem entered_calls :
    compilation.calls.filterMap (Call.entered? .declared) = compilation.declarations.map Prod.fst ∧
      compilation.calls.filterMap (Call.entered? .external) = compilation.provided := by
  rw [filterMap_calls _ fun _ => rfl, filterMap_calls _ fun _ => rfl]
  constructor <;> simp [Call.entered?, declarations, List.map_flatMap, Function.comp_def]

/-! ## What is registered -/

/-- The declared classes, in order. -/
theorem declarations_register : compilation.register.declarations = compilation.declarations := by
  rw [register_eq_ran, Registry.declarations_ran fun _ => enters_of_mem_calls, declarations_calls]

/-- The names that are pending: those used and never declared, in order of first use. -/
theorem pending_register :
    compilation.register.pending.keys =
      compilation.usedNames.eraseDups.filter fun name => name ∉ compilation.declaredNames := by
  rw [register_eq_ran, Registry.pending_ran fun _ => enters_of_mem_calls, used_calls,
    declared_calls]

theorem consistent_register : compilation.register.Consistent := by
  rw [register_eq_ran]
  exact Registry.consistent_ran compilation.calls

theorem records_register :
    compilation.register.roster.Records ((∅ : Registry).log compilation.calls) := by
  rw [register_eq_after]
  exact Registry.records_history compilation.operations

theorem holds_register : compilation.register.Holds ((∅ : Registry).log compilation.calls) := by
  rw [register_eq_ran]
  exact Registry.holds_ran fun _ => enters_of_mem_calls

/-- The class that a name stands for: the last one declared, or else the last one compiled. -/
theorem findClass?_register (name : String) :
    compilation.register.findClass? name =
      (lastNamed? ClassDecl.name (compilation.declarations.map Prod.fst) name).or
        (lastNamed? ClassDecl.name compilation.provided name) := by
  obtain ⟨hdeclared, hprovided⟩ := compilation.entered_calls
  have hselected := Registry.findClass?_eq_selected? compilation.records_register
    compilation.consistent_register compilation.holds_register name
  rw [hselected, selected?, ← hdeclared, ← hprovided, ← Registry.lastEntered?_log ∅,
    ← Registry.lastEntered?_log ∅]
  exact Option.map_or

/-- The annotation type of a name is read off its class. -/
theorem annotationType?_register (name : String) :
    compilation.register.annotationType? name =
      (compilation.register.findClass? name).bind AnnotationType.ofDecl? := by
  rw [Registry.annotationType?_eq_selected? compilation.records_register
      compilation.consistent_register,
    Registry.findClass?_eq_selected? compilation.records_register compilation.consistent_register
      compilation.holds_register, Option.bind_map]
  rfl

end Compilation

end DeclCheck
