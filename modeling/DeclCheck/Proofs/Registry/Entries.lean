/-
# DeclCheck.Proofs.Registry.Entries — what updates do to entries.

Each primitive update through its view: which entry every number has afterwards.
-/
import Mathlib.Data.List.Sigma
import DeclCheck.Registry.Register

namespace DeclCheck

@[ext]
theorem ClassId.ext {a b : ClassId} (hindex : a.index = b.index) : a = b := by
  cases a; cases b; cases hindex; rfl

namespace Registry

variable (registry : Registry)

theorem entry?_modifyEntry (id other : ClassId) (change : Entry → Entry) :
    entry? (registry.modifyEntry id change) other =
      (registry.entry? other).map fun entry => if other = id then change entry else entry := by
  simp only [modifyEntry, entry?, Array.getElem?_modify]
  by_cases hid : other = id
  · subst hid
    simp
  · have hindex : ¬ id.index = other.index := fun hindex => hid (ClassId.ext hindex.symm)
    simp [hid, hindex]

theorem entry?_push (decl : ClassDecl) (origin : Origin) (id : ClassId) :
    entry? (registry.push decl origin).1 id =
      if id = ⟨registry.size⟩ then some (.new decl origin) else registry.entry? id := by
  simp only [push, entry?, size, Array.getElem?_push]
  by_cases hid : id = ⟨registry.entries.size⟩
  · subst hid
    simp
  · have hindex : ¬ id.index = registry.entries.size := fun hindex => hid (ClassId.ext hindex)
    simp [hid, hindex]

theorem lt_size_of_entry? {id : ClassId} {entry : Entry}
    (hentry : registry.entry? id = some entry) : id.index < registry.size :=
  (Array.getElem?_eq_some_iff.mp hentry).1

theorem entry?_size : registry.entry? ⟨registry.size⟩ = none := by
  simp [size, entry?]

theorem mem_zipIdx_entries {entry : Entry} {index : Nat} :
    (entry, index) ∈ registry.entries.toList.zipIdx ↔ registry.entry? ⟨index⟩ = some entry := by
  rw [List.mk_mem_zipIdx_iff_getElem?, Array.getElem?_toList]
  rfl

/-- There is an entry with this number, and it satisfies `P`. -/
def Has (id : ClassId) (P : Entry → Prop) : Prop :=
  ∃ entry, registry.entry? id = some entry ∧ P entry

variable {registry}

theorem entry?_push_eq_some {decl : ClassDecl} {origin : Origin} {id : ClassId} {entry : Entry} :
    entry? (registry.push decl origin).1 id = some entry ↔
      registry.entry? id = some entry ∨ id = ⟨registry.size⟩ ∧ entry = .new decl origin := by
  rw [entry?_push]
  by_cases hid : id = ⟨registry.size⟩
  · simp [hid, entry?_size, eq_comm]
  · simp [hid]

theorem has_push {decl : ClassDecl} {origin : Origin} {id : ClassId} {P : Entry → Prop} :
    (registry.push decl origin).1.Has id P ↔
      registry.Has id P ∨ id = ⟨registry.size⟩ ∧ P (.new decl origin) := by
  simp only [Has, entry?_push_eq_some, or_and_right, exists_or]
  simp

variable (registry)

/-! ## Declarations -/

theorem class?_setDecl (id other : ClassId) (decl : ClassDecl) :
    (registry.setDecl id decl).class? other =
      if other = id then (registry.class? id).map fun _ => decl else registry.class? other := by
  simp only [class?, setDecl, entry?_modifyEntry, Option.map_map]
  by_cases hid : other = id <;> simp [hid, Function.comp_def]

/-- Writing the declaration that is there, or writing into no entry, changes nothing. -/
theorem setDecl_eq_self {id : ClassId} {decl : ClassDecl}
    (hsame : ∀ old ∈ registry.class? id, old = decl) : registry.setDecl id decl = registry := by
  have hentries : registry.entries.modify id.index (fun entry => { entry with decl := decl }) =
      registry.entries := by
    apply Array.ext_getElem?
    intro index
    rw [Array.getElem?_modify]
    by_cases hindex : id.index = index
    · subst hindex
      cases hentry : registry.entries[id.index]? with
      | none => simp
      | some entry =>
          have hdecl : entry.decl = decl := hsame _ (by simp [class?, entry?, hentry])
          simp [← hdecl]
    · simp [hindex]
  simp only [setDecl, modifyEntry, hentries]

theorem setDecl_of_class?_eq_none {id : ClassId} (hnone : registry.class? id = none)
    (decl : ClassDecl) : registry.setDecl id decl = registry := by
  refine registry.setDecl_eq_self fun old hold => ?_
  rw [hnone] at hold
  cases hold

theorem setDecl_comm {a b : ClassId} (hne : a ≠ b) (declA declB : ClassDecl) :
    (registry.setDecl a declA).setDecl b declB = (registry.setDecl b declB).setDecl a declA := by
  have hindex : a.index ≠ b.index := fun hindex => hne (ClassId.ext hindex)
  simp only [setDecl, modifyEntry, Registry.mk.injEq, and_true]
  apply Array.ext_getElem?
  intro index
  simp only [Array.getElem?_modify]
  by_cases ha : a.index = index
  · have hb : ¬ b.index = index := fun hb => hindex (ha.trans hb.symm)
    simp [ha, hb]
  · simp [ha]

/-- Declared classes are listed once each. -/
theorem nodup_declaredIds : registry.declaredIds.Nodup := by
  have hindices : registry.entries.toList.zipIdx.Pairwise fun a b => a.2 ≠ b.2 :=
    List.pairwise_map.mp (List.nodup_zipIdx_map_snd _)
  refine List.pairwise_filterMap.mpr (hindices.imp ?_)
  rintro ⟨entryA, indexA⟩ ⟨entryB, indexB⟩ hne a ha b hb rfl
  simp only [Option.ite_none_right_eq_some, Option.some.injEq] at ha hb
  exact hne (congrArg ClassId.index (ha.2.trans hb.2.symm))

theorem exists_class?_of_mem_declaredIds {id : ClassId} (hid : id ∈ registry.declaredIds) :
    ∃ decl, registry.class? id = some decl := by
  obtain ⟨⟨entry, index⟩, hmem, hsome⟩ := List.mem_filterMap.mp hid
  simp only [Option.ite_none_right_eq_some, Option.some.injEq] at hsome
  have hentry : registry.entry? id = some entry := by
    rw [← hsome.2]
    exact registry.mem_zipIdx_entries.mp hmem
  exact ⟨entry.decl, by rw [class?, hentry]; rfl⟩

/-! ## Redirects -/

variable {registry}

theorem openPlaceholder_eq_ok {id : ClassId} {entry : Entry} :
    registry.openPlaceholder id = .ok entry ↔
      registry.entry? id = some entry ∧ entry.isPlaceholder ∧ entry.redirect = none := by
  unfold openPlaceholder
  cases hentry : registry.entry? id with
  | none => simp
  | some found =>
      cases hplaceholder : found.isPlaceholder <;> cases hredirect : found.redirect <;>
        grind

/-- The registry after a redirect of a placeholder with the given name. -/
def settle (registry : Registry) (name : String) (placeholder target : ClassId) : Registry :=
  (registry.modifyEntry placeholder fun entry => { entry with listeners := [] }).link
    name placeholder target

theorem redirect_eq_ok {placeholder target : ClassId} {result : Registry × List RedirectEvent} :
    registry.redirect placeholder target = .ok result ↔
      (registry.entry? target).isSome ∧ registry.resolve target ≠ placeholder ∧
        ∃ entry, registry.openPlaceholder placeholder = .ok entry ∧
          result = (registry.settle entry.name placeholder target,
            entry.listeners.map fun listener => ⟨listener, placeholder, target,
              registry.modifyEntry placeholder fun entry => { entry with listeners := [] }⟩) := by
  unfold redirect
  cases registry.entry? target with
  | none => simp
  | some found =>
      cases registry.openPlaceholder placeholder with
      | error refusal => simp [bind, Except.bind]
      | ok entry =>
          by_cases hself : registry.resolve target = placeholder
          · simp [bind, Except.bind, hself]
          · simp [bind, Except.bind, pure, Except.pure, hself, settle, eq_comm]

theorem entry?_settle (registry : Registry) (name : String) (placeholder target id : ClassId) :
    entry? (registry.settle name placeholder target) id =
      (registry.entry? id).map fun entry =>
        if id = placeholder then { entry with listeners := [], redirect := some target }
        else entry := by
  let quiet := registry.modifyEntry placeholder fun entry => { entry with listeners := [] }
  have hlink : entry? (registry.settle name placeholder target) id =
      entry? (quiet.modifyEntry placeholder fun entry => { entry with redirect := some target })
        id := rfl
  rw [hlink, entry?_modifyEntry, entry?_modifyEntry, Option.map_map]
  by_cases hid : id = placeholder <;> simp [hid, Function.comp_def]

/-- An entry that leads nowhere is its own end. -/
theorem resolve_eq_self {id : ClassId} (hredirect : registry.redirect? id = none) :
    registry.resolve id = id := by
  unfold resolve
  cases registry.size with
  | zero => rfl
  | succ count => simp [follow, hredirect]

end Registry

theorem NameMap.get?_eraseIf {map : NameMap ClassId} {name other : String} {id found : ClassId} :
    (map.eraseIf name id).get? other = some found ↔
      map.get? other = some found ∧ ¬ (other = name ∧ found = id) := by
  unfold eraseIf
  by_cases hheld : map.get? name = some id
  · rw [if_pos hheld, get?_erase]
    by_cases hname : other = name
    · subst hname
      simp [hheld, eq_comm]
    · simp [hname]
  · rw [if_neg hheld]
    refine ⟨fun hfound => ⟨hfound, ?_⟩, And.left⟩
    rintro ⟨rfl, rfl⟩
    exact hheld hfound

end DeclCheck
