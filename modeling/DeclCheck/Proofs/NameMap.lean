/-
# DeclCheck.Proofs.NameMap — names in order of first occurrence.

A map that names are inserted into one after another lists them in the order in which they first
came.  On a bare list of names that order is what `List.eraseDups` gives, which keeps the first
occurrence of every name.  A map is fixed by the names it lists and by what they lead to.  Where
later items replace earlier ones of the same name, `lastNamed?` is the one that counts.
-/
import Mathlib.Data.List.Basic
import Mathlib.Data.List.Induction
import Mathlib.Data.List.Nodup
import DeclCheck.NameMap

namespace DeclCheck

/-! ## First occurrences -/

/-- One more name at the end counts if it is new. -/
theorem eraseDups_concat (names : List String) (name : String) :
    (names ++ [name]).eraseDups =
      if name ∈ names then names.eraseDups else names.eraseDups ++ [name] := by
  rw [List.eraseDups_append]
  by_cases hold : name ∈ names
  · simp [List.removeAll, hold]
  · simp [List.removeAll, hold, List.eraseDups_cons]

/-- Names come in the order of their first places. -/
theorem pairwise_eraseDups (names : List String) :
    names.eraseDups.Pairwise fun first second => names.idxOf first < names.idxOf second := by
  induction names using List.reverseRecOn with
  | nil => exact .nil
  | append_singleton names name ih =>
      -- An old name has its first place where it was.
      have hold : ∀ old ∈ names.eraseDups, (names ++ [name]).idxOf old = names.idxOf old :=
        fun old hmem => List.idxOf_append_of_mem (List.mem_eraseDups.mp hmem)
      have hnames : names.eraseDups.Pairwise fun first second =>
          (names ++ [name]).idxOf first < (names ++ [name]).idxOf second := by
        refine ih.imp_of_mem ?_
        intro first second hfirst hsecond hlt
        rwa [hold first hfirst, hold second hsecond]
      rw [eraseDups_concat]
      by_cases hmem : name ∈ names
      · rwa [if_pos hmem]
      · rw [if_neg hmem, List.pairwise_append]
        refine ⟨hnames, List.pairwise_singleton _ _, ?_⟩
        intro old holdMem new hnew
        rw [List.mem_singleton.mp hnew, hold old holdMem, List.idxOf_append_of_notMem hmem]
        have hlt := List.idxOf_lt_length_of_mem (List.mem_eraseDups.mp holdMem)
        omega

theorem nodup_eraseDups (names : List String) : names.eraseDups.Nodup := by
  refine (pairwise_eraseDups names).imp ?_
  rintro first second hlt rfl
  exact Nat.lt_irrefl _ hlt

/-! ## Last occurrences -/

section

variable {α : Type} {nameOf : α → String} {items : List α} {name : String}

/-- The last of the items that has the name. -/
def lastNamed? (nameOf : α → String) (items : List α) (name : String) : Option α :=
  (items.filter (nameOf · = name)).getLast?

theorem lastNamed?_concat (item : α) :
    lastNamed? nameOf (items ++ [item]) name =
      if nameOf item = name then some item else lastNamed? nameOf items name := by
  unfold lastNamed?
  by_cases hname : nameOf item = name
  · simp [hname]
  · simp [hname]

theorem isSome_lastNamed? : (lastNamed? nameOf items name).isSome ↔ name ∈ items.map nameOf := by
  unfold lastNamed?
  rw [List.getLast?_isSome, List.mem_map]
  simp [List.filter_eq_nil_iff]

theorem lastNamed?_eq_none : lastNamed? nameOf items name = none ↔ name ∉ items.map nameOf := by
  rw [← Option.not_isSome_iff_eq_none, isSome_lastNamed?]

theorem of_lastNamed?_eq_some {item : α} (hlast : lastNamed? nameOf items name = some item) :
    item ∈ items ∧ nameOf item = name := by
  obtain ⟨hmem, hname⟩ := List.mem_filter.mp (List.mem_of_getLast? hlast)
  exact ⟨hmem, of_decide_eq_true hname⟩

/-- Among items of distinct names the last one of a name is the only one. -/
theorem lastNamed?_eq_some_iff (hdistinct : (items.map nameOf).Nodup) {item : α} :
    lastNamed? nameOf items name = some item ↔ item ∈ items ∧ nameOf item = name := by
  constructor
  · exact of_lastNamed?_eq_some
  · rintro ⟨hmem, hname⟩
    have hsome := isSome_lastNamed?.mpr (List.mem_map.mpr ⟨item, hmem, hname⟩)
    obtain ⟨found, hfound⟩ := Option.isSome_iff_exists.mp hsome
    obtain ⟨hfoundMem, hfoundName⟩ := of_lastNamed?_eq_some hfound
    rw [hfound, List.inj_on_of_nodup_map hdistinct hfoundMem hmem (hfoundName.trans hname.symm)]

theorem lastNamed?_map {β : Type} (f : β → α) (items : List β) :
    lastNamed? nameOf (items.map f) name =
      (lastNamed? (fun item => nameOf (f item)) items name).map f := by
  rw [lastNamed?, List.filter_map, List.getLast?_map]
  rfl

end

/-! ## Maps -/

namespace NameMap

variable {α : Type u} {map : NameMap α}

theorem mem_keys_iff {name : String} : name ∈ map.keys ↔ (map.get? name).isSome := by
  unfold keys get?
  induction map.entries with
  | nil => simp
  | cons entry rest ih =>
      obtain ⟨key, value⟩ := entry
      rw [List.map_cons, List.mem_cons, ih, lookup_cons_eq]
      by_cases hname : name = key <;> simp [hname]

/-- An entry is what looking up its name finds. -/
theorem get?_of_mem_entries {name : String} {value : α} (hmem : (name, value) ∈ map.entries) :
    map.get? name = some value := by
  obtain ⟨entries, hdistinct⟩ := map
  show entries.lookup name = some value
  replace hmem : (name, value) ∈ entries := hmem
  induction entries with
  | nil => cases hmem
  | cons entry rest ih =>
      obtain ⟨key, old⟩ := entry
      rw [List.map_cons, List.nodup_cons] at hdistinct
      rw [lookup_cons_eq]
      rcases List.mem_cons.mp hmem with hhead | hrest
      · cases hhead
        exact if_pos rfl
      · have hother : name ≠ key := by
          rintro rfl
          exact hdistinct.1 (List.mem_map.mpr ⟨_, hrest, rfl⟩)
        rw [if_neg hother]
        exact ih hdistinct.2 hrest

/-- The entries of a map, from its names and what they lead to. -/
theorem entries_eq_map {value : String → α}
    (hvalue : ∀ name ∈ map.keys, map.get? name = some (value name)) :
    map.entries = map.keys.map fun name => (name, value name) := by
  unfold keys
  rw [List.map_map]
  refine (List.map_id map.entries).symm.trans (List.map_congr_left ?_)
  rintro ⟨name, held⟩ hmem
  have hfound := hvalue name (List.mem_map.mpr ⟨_, hmem, rfl⟩)
  rw [get?_of_mem_entries hmem] at hfound
  exact congrArg (name, ·) (Option.some.inj hfound)

end NameMap

end DeclCheck
