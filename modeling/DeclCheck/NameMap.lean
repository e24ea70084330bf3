/-
# DeclCheck.NameMap — maps from names that remember the order of insertion.

A name keeps the place of its first insertion for as long as it stays in the map: inserting it
again replaces the value only, and removing another name never moves it.  Every list that an
answer shows (unresolved names, registered units of a name space, members of an annotation) is in
this order, so the order belongs to the type.

`put` works on bare entry lists, which is the form an inductive type can nest; `NameMap` carries
the proof that no name occurs twice.
-/

namespace DeclCheck

/-! ## Entry lists -/

/-- Set the value of `name`: in place if it occurs, else at the end. -/
def put {α : Type u} (name : String) (value : α) : List (String × α) → List (String × α)
  | [] => [(name, value)]
  | (key, old) :: rest =>
    if key = name then (key, value) :: rest else (key, old) :: put name value rest

theorem keys_put {α : Type u} (name : String) (value : α) (entries : List (String × α)) :
    (put name value entries).map Prod.fst =
      if name ∈ entries.map Prod.fst then entries.map Prod.fst
      else entries.map Prod.fst ++ [name] := by
  induction entries with
  | nil => simp [put]
  | cons entry rest ih =>
    obtain ⟨key, old⟩ := entry
    by_cases h : key = name
    · simp [put, h]
    · have h' : ¬ name = key := fun e => h e.symm
      by_cases m : name ∈ rest.map Prod.fst <;> simp_all [put]

theorem lookup_cons_eq {α : Type u} (name key : String) (value : α) (rest : List (String × α)) :
    List.lookup name ((key, value) :: rest) =
      if name = key then some value else rest.lookup name := by
  by_cases h : name = key
  · simp [h]
  · have differ : (name == key) = false := by simp [h]
    rw [List.lookup_cons, differ, if_neg h]

theorem lookup_put {α : Type u} (name other : String) (value : α) (entries : List (String × α)) :
    (put name value entries).lookup other =
      if other = name then some value else entries.lookup other := by
  induction entries with
  | nil => simp [put, lookup_cons_eq]
  | cons entry rest ih =>
    obtain ⟨key, old⟩ := entry
    by_cases h : key = name
    · by_cases k : other = name <;> simp [put, lookup_cons_eq, h, k]
    · by_cases k : other = key
      · simp [put, h, k]
      · simp [put, h, k, lookup_cons_eq, ih]

/-! ## Maps -/

/-- A finite map from names, in order of first insertion. -/
structure NameMap (α : Type u) where
  entries : List (String × α)
  distinct : (entries.map Prod.fst).Nodup

namespace NameMap

variable {α : Type u}

@[ext]
theorem ext {a b : NameMap α} (h : a.entries = b.entries) : a = b := by
  cases a; cases b; cases h; rfl

/-- The map without names. -/
def empty : NameMap α := ⟨[], List.nodup_nil⟩

instance : EmptyCollection (NameMap α) := ⟨empty⟩

instance : Inhabited (NameMap α) := ⟨empty⟩

/-- The value that a name leads to. -/
def get? (map : NameMap α) (name : String) : Option α :=
  map.entries.lookup name

/-- The names of a map, in order. -/
def keys (map : NameMap α) : List String :=
  map.entries.map Prod.fst

/-- Whether the map has no names. -/
def isEmpty (map : NameMap α) : Bool :=
  map.entries.isEmpty

/-- Make a name lead to a value.  A name that is there keeps its place, and a new one comes last. -/
def insert (map : NameMap α) (name : String) (value : α) : NameMap α where
  entries := put name value map.entries
  distinct := by
    rw [keys_put]
    split
    · exact map.distinct
    · next h =>
      refine List.nodup_append.2 ⟨map.distinct, by simp, ?_⟩
      intro a ha b hb
      rcases List.mem_singleton.1 hb with rfl
      exact fun e => h (e ▸ ha)

/-- Set the value of `name` unless it has one. -/
def insertIfNew (map : NameMap α) (name : String) (value : α) : NameMap α :=
  if (map.get? name).isSome then map else map.insert name value

/-- Take a name out.  The others stay in order. -/
def erase (map : NameMap α) (name : String) : NameMap α where
  entries := map.entries.filter fun entry => entry.1 ≠ name
  distinct := map.distinct.sublist (List.Sublist.map Prod.fst (List.filter_sublist))

/-- Insert the entries one after another; the last value of a name stays, at its first place. -/
def ofList (entries : List (String × α)) : NameMap α :=
  entries.foldl (fun map entry => map.insert entry.1 entry.2) empty

@[simp]
theorem get?_empty (name : String) : (∅ : NameMap α).get? name = none := rfl

@[simp]
theorem keys_empty : (∅ : NameMap α).keys = [] := rfl

theorem get?_insert (map : NameMap α) (name other : String) (value : α) :
    (map.insert name value).get? other = if other = name then some value else map.get? other :=
  lookup_put name other value map.entries

theorem keys_insert (map : NameMap α) (name : String) (value : α) :
    (map.insert name value).keys = if name ∈ map.keys then map.keys else map.keys ++ [name] :=
  keys_put name value map.entries

theorem keys_erase (map : NameMap α) (name : String) :
    (map.erase name).keys = map.keys.filter (· ≠ name) := by
  simp only [keys, erase, List.filter_map]
  rfl

theorem lookup_filter_ne (name other : String) (entries : List (String × α)) :
    (entries.filter fun entry => entry.1 ≠ name).lookup other =
      if other = name then none else entries.lookup other := by
  induction entries with
  | nil => simp
  | cons entry rest ih =>
    obtain ⟨key, value⟩ := entry
    by_cases h : key = name
    · rw [List.filter_cons_of_neg (by simp [h]), ih, lookup_cons_eq, h]
      by_cases m : other = name <;> simp [m]
    · rw [List.filter_cons_of_pos (by simp [h]), lookup_cons_eq, lookup_cons_eq, ih]
      by_cases m : other = name
      · have : ¬ name = key := fun e => h e.symm
        simp [m, this]
      · simp [m]

theorem get?_erase (map : NameMap α) (name other : String) :
    (map.erase name).get? other = if other = name then none else map.get? other :=
  lookup_filter_ne name other map.entries

end NameMap

end DeclCheck
