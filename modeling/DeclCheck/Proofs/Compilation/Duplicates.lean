/-
# DeclCheck.Proofs.Compilation.Duplicates — classes that are declared again.

A class that is declared under a name declared before is reported once, against the declaration that
held the name until then.  Which one that was can be read off the input: the last declaration of the
name among those that came before.  Compiled classes and placeholders of the name play no part.
-/
import DeclCheck.Proofs.Compilation.Registration
import DeclCheck.Proofs.Registry.Redirects

namespace DeclCheck

/-! ## Declarations of one name -/

/-- A class declared under a name that was declared before, with the last declaration of the name
until then. -/
structure Redeclaration where
  declared : ClassDecl × String
  earlier : ClassDecl × String

/-- The report of a redeclaration, at the place of the later class. -/
def Redeclaration.report (again : Redeclaration) : Diagnostic where
  problem :=
    .duplicateClass again.declared.1.name again.declared.2 again.earlier.2
      (again.declared.1.scriptBody || again.earlier.1.scriptBody)
  span := again.declared.1.span
  unit := some again.declared.2

/-- The declarations of names that were declared before, in order. -/
def redeclarations (declarations : List (ClassDecl × String)) : List Redeclaration :=
  declarations.zipIdx.filterMap fun (declaration, index) =>
    (lastNamed? (·.1.name) (declarations.take index) declaration.1.name).map (.mk declaration)

/-- One more declaration is compared with what was declared before, and no other comparison
changes. -/
theorem redeclarations_concat (declarations : List (ClassDecl × String))
    (declaration : ClassDecl × String) :
    redeclarations (declarations ++ [declaration]) =
      redeclarations declarations ++
        (lastNamed? (·.1.name) declarations declaration.1.name).toList.map (.mk declaration) := by
  unfold redeclarations
  rw [List.zipIdx_append, List.filterMap_append]
  congr 1
  · refine List.filterMap_congr ?_
    rintro ⟨older, index⟩ hmem
    have hindex : index < declarations.length := List.snd_lt_of_mem_zipIdx hmem
    simp only [List.take_append_of_le_length hindex.le]
  · cases hlast : lastNamed? (·.1.name) declarations declaration.1.name <;> simp [hlast]

/-- Every declaration is the first of its name or a redeclaration. -/
theorem length_redeclarations (declarations : List (ClassDecl × String)) :
    (redeclarations declarations).length + (declarations.map (·.1.name)).eraseDups.length =
      declarations.length := by
  induction declarations using List.reverseRecOn with
  | nil => rfl
  | append_singleton declarations declaration ih =>
      rw [redeclarations_concat, List.map_append, List.map_singleton, eraseDups_concat]
      by_cases hold : declaration.1.name ∈ declarations.map (·.1.name)
      · obtain ⟨earlier, hearlier⟩ := Option.isSome_iff_exists.mp (isSome_lastNamed?.mpr hold)
        rw [if_pos hold, hearlier]
        simp only [Option.toList_some, List.map_cons, List.map_nil, List.length_append,
          List.length_singleton]
        omega
      · rw [if_neg hold, lastNamed?_eq_none.mpr hold]
        simp only [Option.toList_none, List.map_nil, List.append_nil, List.length_append,
          List.length_singleton]
        omega

theorem redeclarations_eq_nil {declarations : List (ClassDecl × String)}
    (hdistinct : (declarations.map (·.1.name)).Nodup) : redeclarations declarations = [] := by
  induction declarations using List.reverseRecOn with
  | nil => rfl
  | append_singleton declarations declaration ih =>
      rw [List.map_append, List.nodup_append] at hdistinct
      obtain ⟨hold, -, hnew⟩ := hdistinct
      have hnone : lastNamed? (·.1.name) declarations declaration.1.name = none := by
        rw [lastNamed?_eq_none]
        intro hmem
        exact hnew _ hmem _ (List.mem_singleton.mpr rfl) rfl
      rw [redeclarations_concat, ih hold, hnone]
      rfl

/-! ## Declared entries -/

namespace Registry

variable {registry : Registry}

/-- The declared class with this number, and its unit. -/
def declarationAt? (registry : Registry) (id : ClassId) : Option (ClassDecl × String) :=
  (registry.entry? id).bind Entry.declaration?

theorem declarationAt?_eq_some {id : ClassId} {decl : ClassDecl} {unit : String} :
    registry.declarationAt? id = some (decl, unit) ↔
      registry.Has id fun entry => entry.decl = decl ∧ entry.origin = .declared unit := by
  unfold declarationAt? Has
  rw [Option.bind_eq_some_iff]
  refine exists_congr fun entry => and_congr_right fun _ => ?_
  unfold Entry.declaration?
  cases horigin : entry.origin <;> simp [horigin]

theorem unitOf?_of_declared {id : ClassId} {entry : Entry} {unit : String}
    (hentry : registry.entry? id = some entry) (horigin : entry.origin = .declared unit) :
    registry.unitOf? id = some unit := by
  rw [unitOf?, unitFrom, hentry, Option.map_some, horigin]

/-- A declared entry stays what it is when names and classes are entered. -/
theorem declarationAt?_apply (hconsistent : registry.Consistent) {call : Call}
    (henters : call.enters) {id : ClassId} {declaration : ClassDecl × String}
    (hat : registry.declarationAt? id = some declaration) :
    (registry.apply call).declarationAt? id = some declaration := by
  obtain ⟨decl, unit⟩ := declaration
  obtain ⟨entry, hentry, hdecl, horigin⟩ := declarationAt?_eq_some.mp hat
  have hclass : registry.class? id = some decl := by
    rw [class?, hentry, ← hdecl]
    rfl
  obtain ⟨kept, hkept, hsame⟩ := (lasts_apply hconsistent call).exists_kept hentry
  have hkeptClass := class?_apply hconsistent henters hclass
  rw [class?, hkept] at hkeptClass
  refine declarationAt?_eq_some.mpr ⟨kept, hkept, Option.some.inj hkeptClass, ?_⟩
  rw [← horigin]
  exact congrArg Identity.origin hsame

theorem declarationAt?_declare (hconsistent : registry.Consistent) (decl : ClassDecl)
    (unit : String) :
    (registry.apply (.declare decl unit)).declarationAt? ⟨registry.size⟩ = some (decl, unit) := by
  have hnew : entry? (registry.registered decl unit) ⟨registry.size⟩ =
      some (.new decl (.declared unit)) :=
    entry?_push_eq_some.mpr (.inr ⟨rfl, rfl⟩)
  rw [apply, declare_fst hconsistent]
  cases registry.pending.get? decl.name with
  | none => exact declarationAt?_eq_some.mpr ⟨_, hnew, rfl, rfl⟩
  | some placeholder =>
      have hsettled := entry?_settle (registry.registered decl unit) decl.name placeholder
        ⟨registry.size⟩ ⟨registry.size⟩
      rw [hnew, Option.map_some] at hsettled
      refine declarationAt?_eq_some.mpr ⟨_, hsettled, ?_⟩
      split <;> exact ⟨rfl, rfl⟩

/-- The report that the registry makes, read off the two declarations. -/
theorem duplicate_eq_report {earlier : ClassId} {held : ClassDecl × String}
    (hat : registry.declarationAt? earlier = some held) (decl : ClassDecl) (unit : String) :
    (registry.push decl (.declared unit)).1.duplicate decl unit earlier =
      Redeclaration.report ⟨(decl, unit), held⟩ := by
  obtain ⟨entry, hentry, hdecl, horigin⟩ := declarationAt?_eq_some.mp hat
  have hpushed : entry? (registry.push decl (.declared unit)).1 earlier = some entry :=
    entry?_push_eq_some.mpr (.inl hentry)
  unfold duplicate
  rw [unitOf?_of_declared hpushed horigin, class?, hpushed, Option.map_some, hdecl]
  rfl

/-! ## Reports -/

theorem map_name_declarations (calls : List Call) :
    (calls.filterMap Call.declaration?).map (·.1.name) = calls.filterMap Call.declared? := by
  rw [List.map_filterMap]
  refine List.filterMap_congr fun call _ => ?_
  cases call <;> rfl

/-- A declared name leads to its last declaration. -/
theorem exists_declarationAt?_known {calls : List Call} (henters : ∀ call ∈ calls, call.enters)
    {name : String} {id : ClassId} (hknown : (ran calls).known.get? name = some id) :
    ∃ declaration, (ran calls).declarationAt? id = some declaration ∧
      lastNamed? (·.1.name) (calls.filterMap Call.declaration?) name = some declaration := by
  induction calls using List.reverseRecOn with
  | nil => cases hknown
  | append_singleton calls call ih =>
      have hcalls := fun call hmem => henters call (List.mem_append_left _ hmem)
      have hlast := henters call (List.mem_append_right _ (List.mem_singleton.mpr rfl))
      have hconsistent := consistent_ran calls
      -- Whatever the call is, a name that it does not declare leads where it led.
      have hold : (ran calls).known.get? name = some id → call.declared? ≠ some name →
          ∃ declaration, (ran (calls ++ [call])).declarationAt? id = some declaration ∧
            lastNamed? (·.1.name) ((calls ++ [call]).filterMap Call.declaration?) name =
              some declaration := by
        intro hknown hother
        obtain ⟨declaration, hat, hdeclared⟩ := ih hcalls hknown
        refine ⟨declaration, ?_, ?_⟩
        · rw [ran_concat]
          exact declarationAt?_apply hconsistent hlast hat
        · rw [Call.filterMap_concat]
          cases call with
          | declare decl unit =>
              have hname : ¬ decl.name = name := fun hname => hother (congrArg some hname)
              exact (lastNamed?_concat (decl, unit)).trans ((if_neg hname).trans hdeclared)
          | _ =>
              show lastNamed? _ (_ ++ []) name = _
              rwa [List.append_nil]
      rw [ran_concat, known_apply] at hknown
      cases call with
      | declare decl unit =>
          rw [enrolled, NameMap.get?_insert] at hknown
          by_cases hname : name = decl.name
          · rw [if_pos hname] at hknown
            cases hknown
            refine ⟨(decl, unit), ?_, ?_⟩
            · rw [ran_concat]
              exact declarationAt?_declare hconsistent decl unit
            · rw [Call.filterMap_concat]
              exact (lastNamed?_concat (decl, unit)).trans (if_pos hname.symm)
          · rw [if_neg hname] at hknown
            refine hold hknown fun hsame => hname ?_
            exact (Option.some.inj hsame).symm
      | enterUnit unit => exact hold hknown (Option.some_ne_none name).symm
      | refer used location =>
          refine hold ?_ (Option.some_ne_none name).symm
          rw [← hknown, enrolled]
          cases (ran calls).lookup? used <;> rfl
      | addExternal decl => exact hold hknown (Option.some_ne_none name).symm
      | _ => cases hlast

/-- Calls that only enter names and classes are reported for redeclarations, once for each. -/
theorem diagnostics_ran {calls : List Call} (henters : ∀ call ∈ calls, call.enters) :
    (ran calls).diagnostics =
      (redeclarations (calls.filterMap Call.declaration?)).map Redeclaration.report := by
  induction calls using List.reverseRecOn with
  | nil => rfl
  | append_singleton calls call ih =>
      have hcalls := fun call hmem => henters call (List.mem_append_left _ hmem)
      have hlast := henters call (List.mem_append_right _ (List.mem_singleton.mpr rfl))
      rw [ran_concat, diagnostics_apply, Call.filterMap_concat]
      cases call with
      | declare decl unit =>
          show (ran calls).diagnostics ++ _ = _
          rw [Call.declaration?, Option.toList_some, redeclarations_concat, List.map_append,
            ih hcalls]
          congr 1
          cases hknown : (ran calls).known.get? decl.name with
          | none =>
              have hnone :
                  lastNamed? (·.1.name) (calls.filterMap Call.declaration?) decl.name = none := by
                rw [lastNamed?_eq_none, map_name_declarations, ← isSome_known_ran hcalls, hknown]
                exact Bool.false_ne_true
              rw [hnone]
              rfl
          | some earlier =>
              obtain ⟨held, hat, hheld⟩ := exists_declarationAt?_known hcalls hknown
              rw [hheld]
              exact congrArg (fun report => [report]) (duplicate_eq_report hat decl unit)
      | takeDiagnostics => cases hlast
      | _ =>
          show (ran calls).diagnostics = (redeclarations (_ ++ [])).map _
          rw [List.append_nil, ih hcalls]

end Registry

namespace Compilation

variable (compilation : Compilation)

/-- The reports of the registry: one for each redeclaration, in order. -/
theorem diagnostics_register :
    compilation.register.diagnostics =
      (redeclarations compilation.declarations).map Redeclaration.report := by
  rw [register_eq_ran, Registry.diagnostics_ran fun _ => enters_of_mem_calls, declarations_calls]

end Compilation

end DeclCheck
