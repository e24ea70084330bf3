/-
# DeclCheck.Proofs.Form.Spelling — values that a reader takes for what they were written for.

A reader is given how many levels may still be nested, so `Spells` asks that it succeeds on every
presentation of the written form as soon as that presentation's own nesting fits.  The lemmas follow
the kinds of layout: single values, optional values, arrays, maps, tagged bodies and records.  What
a type's nodes are spelled as is then put together from the spellings of their parts, without
looking into the reader of a part.
-/
import Mathlib.Data.List.Forall2
import DeclCheck.Proofs.Form.Layout
import DeclCheck.Proofs.Json.Text
import DeclCheck.Proofs.NameMap

namespace DeclCheck

/-- A name that does not occur is set at the end. -/
theorem put_of_notMem {α : Type} {name : String} (value : α) {entries : List (String × α)}
    (hnew : name ∉ entries.map Prod.fst) : put name value entries = entries ++ [(name, value)] := by
  induction entries with
  | nil => rfl
  | cons entry rest ih =>
      rw [List.map_cons, List.mem_cons, not_or] at hnew
      rw [put, if_neg (Ne.symm hnew.1), ih hnew.2, List.cons_append]

/-- `null` is presented as itself and presents nothing else. -/
theorem Layout.Presents.eq_null_iff : ∀ {layout : Layout} {written json : Json},
    layout.Presents written json → (json = .null ↔ written = .null)
  | _, _, _, .scalar => Iff.rfl
  | _, _, _, .node hpresents => hpresents.eq_null_iff
  | _, _, _, .absent => Iff.rfl
  | _, _, _, .present hpresents => hpresents.eq_null_iff
  | _, _, _, .list _ => by simp
  | _, _, _, .map _ => by simp
  | _, _, _, .constant => by simp
  | _, _, _, .variant _ _ => by simp
  | _, _, _, .object _ _ => by simp
  | _, _, _, .array _ _ => by simp

theorem Layout.Presents.of_nullable {inner : Layout} {written json : Json}
    (hpresents : (Layout.nullable inner).Presents written json) (hjson : json ≠ .null) :
    inner.Presents written json := by
  cases hpresents with
  | absent => exact absurd rfl hjson
  | present hpresents => exact hpresents

/-! ## What presents itself -/

namespace Layout

theorem presentsAll_self {element : Layout} {elements : List Json}
    (hself : ∀ json ∈ elements, element.Presents json json) :
    element.PresentsAll elements elements := by
  induction elements with
  | nil => exact .nil
  | cons json rest ih =>
      obtain ⟨hfirst, hrest⟩ := List.forall_mem_cons.mp hself
      exact .cons hfirst (ih hrest)

theorem presentsEntries_self {value : Layout} {members : List (String × Json)}
    (hself : ∀ member ∈ members, value.Presents member.2 member.2) :
    value.PresentsEntries members members := by
  induction members with
  | nil => exact .nil
  | cons member rest ih =>
      obtain ⟨hfirst, hrest⟩ := List.forall_mem_cons.mp hself
      exact .cons hfirst (ih hrest)

/-- A record presents itself if it gives its fields one by one and each presents itself. -/
theorem record_self {slots : List (Slot Layout)} {members : List (String × Json)}
    (hself : List.Forall₂ (fun slot member => member.1 = slot.name ∧
      slot.layout.Presents member.2 member.2) slots members) :
    (Layout.record slots).Presents (.object members) (.object members) := by
  have hnames : members.map Prod.fst = slots.map Slot.name := by
    induction hself with
    | nil => rfl
    | cons hfirst _ ih => rw [List.map_cons, List.map_cons, hfirst.1, ih]
  have hfields : PresentsFields slots members members := by
    clear hnames
    induction hself with
    | nil => exact .nil
    | @cons slot member slots members hfirst _ ih =>
        obtain ⟨name, json⟩ := member
        obtain ⟨rfl, hpresents⟩ := hfirst
        exact .given hpresents ih
  refine .object hfields ?_
  rw [List.filter_eq_self.mpr]
  intro member hmember
  rw [← hnames]
  simpa using ⟨_, hmember⟩

end Layout

namespace Json

/-! ## Parts of arrays and objects -/

theorem plainElements_iff {elements : List Json} :
    PlainElements elements ↔ ∀ element ∈ elements, element.Plain := by
  induction elements with
  | nil => simp [PlainElements]
  | cons element rest ih => simp [PlainElements, ih]

theorem plainMembers_iff {members : List (String × Json)} :
    PlainMembers members ↔ ∀ member ∈ members, member.2.Plain := by
  induction members with
  | nil => simp [PlainMembers]
  | cons member rest ih => simp [PlainMembers, ih]

theorem depthElements_le_iff {elements : List Json} {level : Nat} :
    depthElements elements ≤ level ↔ ∀ element ∈ elements, element.depth ≤ level := by
  induction elements with
  | nil => simp [depthElements]
  | cons element rest ih => rw [depthElements, Nat.max_le, ih, List.forall_mem_cons]

theorem depthMembers_le_iff {members : List (String × Json)} {level : Nat} :
    depthMembers members ≤ level ↔ ∀ member ∈ members, member.2.depth ≤ level := by
  induction members with
  | nil => simp [depthMembers]
  | cons member rest ih =>
      obtain ⟨name, value⟩ := member
      rw [depthMembers, Nat.max_le, ih, List.forall_mem_cons]

/-- An array takes one level for itself and the others for its elements. -/
theorem depth_array_le_iff {elements : List Json} {level : Nat} :
    (Json.array elements).depth ≤ level ↔
      ∃ inner, level = inner + 1 ∧ ∀ element ∈ elements, element.depth ≤ inner := by
  show depthElements elements + 1 ≤ level ↔ _
  cases level with
  | zero => simp
  | succ level => simp [depthElements_le_iff]

theorem depth_object_le_iff {members : List (String × Json)} {level : Nat} :
    (Json.object members).depth ≤ level ↔
      ∃ inner, level = inner + 1 ∧ ∀ member ∈ members, member.2.depth ≤ inner := by
  show depthMembers members + 1 ≤ level ↔ _
  cases level with
  | zero => simp
  | succ level => simp [depthMembers_le_iff]

/-! ## Fields of records -/

namespace Fields

/-- The field is given by a presentation of what was written for it, or it is left out and holds its
default. -/
def Holds (fields : Fields) (level : Nat) (slot : Slot Layout) (written : Json) : Prop :=
  (∃ json, fields.given.lookup slot.name = some json ∧ slot.layout.Presents written json ∧
    json.depth ≤ level) ∨
  fields.given.lookup slot.name = none ∧ slot.default = some written

/-- Every field of a record holds what was written for it. -/
def HoldAll (fields : Fields) (level : Nat) (slots : List (Slot Layout))
    (written : List (String × Json)) : Prop :=
  List.Forall₂ (fun slot member => fields.Holds level slot member.2) slots written

end Fields

end Json

namespace Layout.PresentsFields

variable {slots : List (Slot Layout)} {written given : List (String × Json)}

/-- Only fields are given, in their order. -/
theorem sublist_names : ∀ {slots : List (Slot Layout)} {written given : List (String × Json)},
    PresentsFields slots written given → (given.map Prod.fst).Sublist (slots.map Slot.name)
  | _, _, _, .nil => .slnil
  | _, _, _, .given _ hrest => hrest.sublist_names.cons_cons _
  | _, _, _, .omitted _ hrest => hrest.sublist_names.cons _

/-- Fields that are found, up to their order, have different names. -/
theorem nodup_of_perm {slots : List (Slot Layout)} {written given found : List (String × Json)}
    (hfields : PresentsFields slots written given) (hnodup : (slots.map Slot.name).Nodup)
    (hperm : found.Perm given) : (found.map Prod.fst).Nodup :=
  (hperm.map Prod.fst).nodup_iff.mpr (hfields.sublist_names.nodup hnodup)

/-- If looking up the given fields finds them and nothing else is found, every field holds what was
written for it. -/
theorem holdAll {fields : Json.Fields} {level : Nat} :
    ∀ {slots : List (Slot Layout)} {written given : List (String × Json)},
    PresentsFields slots written given → (slots.map Slot.name).Nodup →
    (∀ member ∈ given, fields.given.lookup member.1 = some member.2 ∧ member.2.depth ≤ level) →
    (∀ slot ∈ slots, slot.name ∉ given.map Prod.fst → fields.given.lookup slot.name = none) →
    fields.HoldAll level slots written
  | _, _, _, .nil, _, _, _ => .nil
  | _, _, _, @PresentsFields.given _ _ _ json _ _ hpresents hrest, hnodup, hgiven, habsent => by
      obtain ⟨hnew, hnodup⟩ := List.nodup_cons.mp hnodup
      obtain ⟨hfirst, hgiven⟩ := List.forall_mem_cons.mp hgiven
      refine .cons (.inl ⟨json, hfirst.1, hpresents, hfirst.2⟩) ?_
      refine hrest.holdAll hnodup hgiven fun other hother hnone => ?_
      -- no other field has this name, so what is given here is not found for another
      refine habsent other (List.mem_cons_of_mem _ hother) ?_
      rw [List.map_cons, List.mem_cons, not_or]
      exact ⟨fun hsame => hnew (List.mem_map.mpr ⟨other, hother, hsame⟩), hnone⟩
  | _, _, _, .omitted hdefault hrest, hnodup, hgiven, habsent => by
      obtain ⟨hnew, hnodup⟩ := List.nodup_cons.mp hnodup
      obtain ⟨hfirst, habsent⟩ := List.forall_mem_cons.mp habsent
      have hnone := hfirst fun hmem => hnew (hrest.sublist_names.subset hmem)
      exact .cons (.inr ⟨hnone, hdefault⟩) (hrest.holdAll hnodup hgiven habsent)

end Layout.PresentsFields

theorem lookup_of_mem {α : Type} {entries : List (String × α)}
    (hnodup : (entries.map Prod.fst).Nodup) {entry : String × α} (hmem : entry ∈ entries) :
    entries.lookup entry.1 = some entry.2 :=
  @NameMap.get?_of_mem_entries α ⟨entries, hnodup⟩ _ _ hmem

theorem lookup_of_notMem {α : Type} {entries : List (String × α)} {name : String}
    (hnew : name ∉ entries.map Prod.fst) : entries.lookup name = none := by
  rw [List.lookup_eq_none_iff]
  intro entry hentry
  have hne : name ≠ entry.1 := fun hsame => hnew (hsame ▸ List.mem_map_of_mem hentry)
  simpa using hne

theorem Layout.PresentsFields.holdAll_of_perm {slots : List (Slot Layout)}
    {written given found : List (String × Json)} {level : Nat}
    (hfields : PresentsFields slots written given) (hnodup : (slots.map Slot.name).Nodup)
    (hperm : found.Perm given) (hdeep : ∀ member ∈ found, member.2.depth ≤ level) :
    (⟨found⟩ : Json.Fields).HoldAll level slots written := by
  refine hfields.holdAll hnodup (fun member hmember => ?_) fun slot _ hnone => ?_
  · have hfound := hperm.mem_iff.mpr hmember
    exact ⟨lookup_of_mem (hfields.nodup_of_perm hnodup hperm) hfound, hdeep member hfound⟩
  · exact lookup_of_notMem fun hmem => hnone ((hperm.map Prod.fst).mem_iff.mp hmem)

/-- However a record is presented, its fields are found, and they hold what was written for them. -/
theorem Layout.Presents.exists_fields {slots : List (Slot Layout)} {written : List (String × Json)}
    {json : Json} (hpresents : (Layout.record slots).Presents (.object written) json)
    (hnodup : (slots.map Slot.name).Nodup) {level : Nat} (hlevel : json.depth ≤ level) :
    ∃ inner fields, level = inner + 1 ∧ json.fields? (slots.map Slot.name) = some fields ∧
      fields.HoldAll inner slots written := by
  cases hpresents with
  | @object _ _ given members hfields hperm =>
      obtain ⟨inner, rfl, hdeep⟩ := Json.depth_object_le_iff.mp hlevel
      refine ⟨inner, ⟨_⟩, rfl, ?_, hfields.holdAll_of_perm hnodup hperm ?_⟩
      · exact if_pos (hfields.nodup_of_perm hnodup hperm)
      · exact fun member hmember => hdeep member (List.mem_of_mem_filter hmember)
  | @array _ _ given hfields hfirst =>
      obtain ⟨inner, rfl, hdeep⟩ := Json.depth_array_le_iff.mp hlevel
      refine ⟨inner, ⟨given⟩, rfl, ?_, hfields.holdAll_of_perm hnodup (.refl _) ?_⟩
      · obtain ⟨others, hnames⟩ := hfirst
        have hlength : (given.map Prod.snd).length ≤ (slots.map Slot.name).length := by
          simp [← hnames]
        -- the first names belong to the given values, and the others to no value
        have hzip : (slots.map Slot.name).zip (given.map Prod.snd) = given := by
          rw [← hnames, ← List.append_nil (given.map Prod.snd), List.zip_append (by simp),
            List.zip_nil_right, List.append_nil]
          exact (List.zip_of_prod rfl rfl).symm
        simp only [Json.fields?, if_pos hlength, hzip]
      · exact fun member hmember => hdeep _ (List.mem_map_of_mem hmember)

/-! ## Spellings -/

namespace Json

/-- `json` is a written form of `value`: its own text is read back, it presents itself, and `read`
takes every presentation of it for `value` wherever the nesting fits. -/
structure Spells (layout : Layout) (read : Nat → Json → Option α) (json : Json) (value : α) :
    Prop where
  plain : json.Plain
  self : layout.Presents json json
  reads : ∀ {other : Json}, layout.Presents json other → ∀ {level : Nat}, other.depth ≤ level →
    read level other = some value

/-- The same of the fields of a record: `read` is given fields that hold what `members` holds. -/
structure SpellsFields (slots : List (Slot Layout)) (read : Nat → Fields → Option α)
    (members : List (String × Json)) (value : α) : Prop where
  plain : PlainMembers members
  self : List.Forall₂ (fun slot member => member.1 = slot.name ∧
    slot.layout.Presents member.2 member.2) slots members
  reads : ∀ {level : Nat} {fields : Fields}, fields.HoldAll level slots members →
    read level fields = some value

namespace Spells

variable {α : Type} {layout : Layout} {read : Nat → Json → Option α} {write : α → Json}

/-- What is nested no deeper than is read at all is read back from every text of every
presentation. -/
theorem readText_of_presents {json other : Json} {value : α}
    (hspells : Spells layout read json value) (hpresents : layout.Presents json other)
    (hdepth : other.depth ≤ maxNesting) {text : String} (htext : HasText other text.toList) :
    Json.readText read text = some value := by
  rw [Json.readText, htext.parse?]
  exact hspells.reads hpresents hdepth

theorem readText {json : Json} {value : α} (hspells : Spells layout read json value)
    (hdepth : json.depth ≤ maxNesting) : readText read json.toText = some value :=
  hspells.readText_of_presents hspells.self hdepth hspells.plain.hasText_toText

theorem map {β : Type} (wrap : α → β) {json : Json} {value : α}
    (hspells : Spells layout read json value) :
    Spells layout (fun level json => (read level json).map wrap) json (wrap value) where
  plain := hspells.plain
  self := hspells.self
  reads hpresents _ hlevel := by rw [hspells.reads hpresents hlevel, Option.map_some]

theorem node {kind : NodeType} {json : Json} {value : α}
    (hspells : Spells kind.layout read json value) : Spells (.node kind) read json value where
  plain := hspells.plain
  self := .node hspells.self
  reads := by
    intro other hpresents
    cases hpresents with
    | node hpresents => exact hspells.reads hpresents

/-! ### Single values and constants -/

theorem scalar {json : Json} {value : α} (hplain : json.Plain)
    (hread : ∀ level, read level json = some value) : Spells .scalar read json value where
  plain := hplain
  self := .scalar
  reads := by
    intro other hpresents level _
    cases hpresents
    exact hread level

theorem string (text : String) : Spells .scalar (fun _ => string?) (.string text) text :=
  .scalar trivial fun _ => rfl

theorem bool (value : Bool) : Spells .scalar (fun _ => bool?) (.bool value) value :=
  .scalar trivial fun _ => rfl

theorem char (c : Char) : Spells .scalar (fun _ => char?) (.string c.toString) c :=
  .scalar trivial fun _ => by simp [char?]

theorem word64 (value : UInt64) : Spells .scalar (fun _ => word64?) (ofWord64 value) value :=
  .scalar trivial fun _ => by
    rw [ofWord64, word64?, if_pos value.toNat_lt_size, UInt64.ofNat_toNat]

/-- A constant is found by its tag. -/
theorem choice {all : List α} {tag : α → String} {value : α}
    (hfind : all.find? (tag · = tag value) = some value) :
    Spells .scalar (choice? all tag) (.string (tag value)) value :=
  .scalar trivial fun _ => hfind

/-! ### Optional values and arrays -/

/-- `null` stands for an absent value and for no other. -/
theorem option {value : Option α} (hnull : ∀ given, write given ≠ .null)
    (hspells : ∀ given ∈ value, Spells layout read (write given) given) :
    Spells (.nullable layout) (fun level => nullable (read level)) (ofOption write value)
      value := by
  cases value with
  | none =>
      refine ⟨trivial, .absent, fun {other} hpresents level _ => ?_⟩
      rw [hpresents.eq_null_iff.mpr rfl]
      rfl
  | some given =>
      have hgiven := hspells given rfl
      refine ⟨hgiven.plain, .present hgiven.self, fun {other} hpresents level hlevel => ?_⟩
      have hother : other ≠ .null := fun hother => hnull given (hpresents.eq_null_iff.mp hother)
      rw [nullable, hgiven.reads (hpresents.of_nullable hother) hlevel]
      · rfl
      · exact hother

theorem mapM_of_presentsAll {values : List α}
    (hspells : ∀ value ∈ values, Spells layout read (write value) value) {others : List Json}
    (hall : layout.PresentsAll (values.map write) others) {level : Nat}
    (hdeep : ∀ other ∈ others, other.depth ≤ level) : others.mapM (read level) = some values := by
  induction values generalizing others with
  | nil =>
      cases hall
      rfl
  | cons value rest ih =>
      rw [List.map_cons] at hall
      cases hall with
      | cons hpresents hall =>
          obtain ⟨hfirst, hrest⟩ := List.forall_mem_cons.mp hdeep
          obtain ⟨hspell, hspells⟩ := List.forall_mem_cons.mp hspells
          rw [List.mapM_cons, hspell.reads hpresents hfirst, ih hspells hall hrest]
          rfl

/-- An array is spelled by its elements, one level further in.  The writer and the reader of the
list are given by their equations, since each of the nested types has its own. -/
theorem array {writeAll : List α → List Json} {readAll : Nat → Json → Option (List α)}
    (hnil : writeAll [] = [])
    (hcons : ∀ value rest, writeAll (value :: rest) = write value :: writeAll rest)
    (hread : ∀ level elements, readAll (level + 1) (.array elements) = elements.mapM (read level))
    {values : List α} (hspells : ∀ value ∈ values, Spells layout read (write value) value) :
    Spells (.list layout) readAll (.array (writeAll values)) values := by
  have hmap : writeAll values = values.map write := by
    clear hspells
    induction values with
    | nil => exact hnil
    | cons value rest ih => rw [hcons, ih, List.map_cons]
  rw [hmap]
  refine ⟨?_, .list (Layout.presentsAll_self ?_), fun {other} hpresents level hlevel => ?_⟩
  · show PlainElements (values.map write)
    rw [plainElements_iff, List.forall_mem_map]
    exact fun value hvalue => (hspells value hvalue).plain
  · rw [List.forall_mem_map]
    exact fun value hvalue => (hspells value hvalue).self
  · cases hpresents with
    | list hall =>
        obtain ⟨level, rfl, hdeep⟩ := depth_array_le_iff.mp hlevel
        rw [hread]
        exact mapM_of_presentsAll hspells hall hdeep

theorem list {values : List α}
    (hspells : ∀ value ∈ values, Spells layout read (write value) value) :
    Spells (.list layout) (list? read) (ofList write values) values :=
  .array rfl (fun _ _ => rfl) (fun _ _ => rfl) hspells

/-! ### Objects -/

theorem constant {bodies : List (String × Layout)} {tag : String} {value : α}
    (hread : ∀ level, read level (.string tag) = some value) :
    Spells (.variants bodies) read (.string tag) value where
  plain := trivial
  self := .constant
  reads := by
    intro other hpresents level _
    cases hpresents
    exact hread level

/-- The entries read so far stand before the ones to come, and all of their names differ. -/
theorem foldlM_of_presentsEntries {entries : List (String × α)}
    (hspells : ∀ entry ∈ entries, Spells layout read (write entry.2) entry.2)
    {members : List (String × Json)}
    (hall : layout.PresentsEntries (entries.map fun entry => (entry.1, write entry.2)) members)
    {level : Nat} (hdeep : ∀ member ∈ members, member.2.depth ≤ level)
    (before : List (String × α)) (hnodup : ((before ++ entries).map Prod.fst).Nodup) :
    members.foldlM (fun found member => (read level member.2).map (put member.1 · found)) before
      = some (before ++ entries) := by
  induction entries generalizing members before with
  | nil =>
      cases hall
      simp
  | cons entry rest ih =>
      rw [List.map_cons] at hall
      cases hall with
      | cons hpresents hall =>
          obtain ⟨hspell, hspells⟩ := List.forall_mem_cons.mp hspells
          obtain ⟨hfirst, hrest⟩ := List.forall_mem_cons.mp hdeep
          have hnew : entry.1 ∉ before.map Prod.fst := by
            intro hmem
            rw [List.map_append, List.nodup_append] at hnodup
            exact hnodup.2.2 _ hmem _ (by simp) rfl
          rw [List.append_cons] at hnodup
          rw [List.foldlM_cons, hspell.reads hpresents hfirst]
          show List.foldlM _ (put entry.1 entry.2 before) _ = _
          rw [put_of_notMem entry.2 hnew, ih hspells hall hrest _ hnodup, List.append_assoc]
          rfl

/-- A tag in front of a body is spelled by the body. -/
theorem variant (inner : Nat → Json → Option α) {bodies : List (String × Layout)} {tag : String}
    {body : Json} {value : α} (hlayout : (Layout.variants bodies).body? tag = some layout)
    (hread : ∀ level body, read (level + 1) (.object [(tag, body)]) = inner level body)
    (hbody : Spells layout inner body value) :
    Spells (.variants bodies) read (.object [(tag, body)]) value where
  plain := plainMembers_iff.mpr (by simpa using hbody.plain)
  self := .variant hlayout hbody.self
  reads := by
    intro other hpresents level hlevel
    cases hpresents with
    | variant hother hpresents =>
        cases hlayout.symm.trans hother
        obtain ⟨level, rfl, hdeep⟩ := depth_object_le_iff.mp hlevel
        rw [hread]
        exact hbody.reads hpresents (by simpa using hdeep)

/-- A record is spelled by the object that gives its fields one by one. -/
theorem record {slots : List (Slot Layout)} {readFields : Nat → Fields → Option α}
    {members : List (String × Json)} {value : α}
    (hread : ∀ level json,
      read (level + 1) json = json.fields? (slots.map Slot.name) >>= readFields level)
    (hnodup : (slots.map Slot.name).Nodup)
    (hfields : SpellsFields slots readFields members value) :
    Spells (.record slots) read (.object members) value where
  plain := hfields.plain
  self := Layout.record_self hfields.self
  reads := by
    intro other hpresents level hlevel
    obtain ⟨level, fields, rfl, hfound, hholds⟩ := hpresents.exists_fields hnodup hlevel
    rw [hread, hfound]
    exact hfields.reads hholds

/-- A map without repeated names keeps its members and their order. -/
theorem entries {entries : List (String × α)} (hnames : (entries.map Prod.fst).Nodup)
    (hspells : ∀ entry ∈ entries, Spells layout read (write entry.2) entry.2) :
    Spells (.map layout) (map? read) (.object (entries.map fun entry => (entry.1, write entry.2)))
      entries := by
  refine ⟨?_, .map (Layout.presentsEntries_self ?_), fun {other} hpresents level hlevel => ?_⟩
  · refine plainMembers_iff.mpr ?_
    rw [List.forall_mem_map]
    exact fun entry hentry => (hspells entry hentry).plain
  · rw [List.forall_mem_map]
    exact fun entry hentry => (hspells entry hentry).self
  · cases hpresents with
    | map hall =>
        obtain ⟨level, rfl, hdeep⟩ := depth_object_le_iff.mp hlevel
        exact foldlM_of_presentsEntries hspells hall hdeep [] hnames

end Spells

/-! ### Fields of records -/

namespace SpellsFields

variable {α β : Type} {name : String} {layout : Layout} {read : Nat → Json → Option β}
  {json : Json} {part : β} {slots : List (Slot Layout)} {rest : β → Nat → Fields → Option α}
  {members : List (String × Json)} {value : α}

theorem done (value : α) : SpellsFields [] (fun _ _ => pure value) [] value :=
  ⟨trivial, .nil, fun _ => rfl⟩

/-- The first field is read as its part, and the rest given that part. -/
theorem cons (slot : Slot Layout) {readPart : Nat → Fields → Option β}
    (hpart : Spells slot.layout read json part)
    (hread : ∀ {level : Nat} {fields : Fields}, fields.Holds level slot json →
      readPart level fields = some part)
    (hrest : SpellsFields slots (rest part) members value) :
    SpellsFields (slot :: slots)
      (fun level fields => readPart level fields >>= fun part => rest part level fields)
      ((slot.name, json) :: members) value where
  plain := ⟨hpart.plain, hrest.plain⟩
  self := .cons ⟨rfl, hpart.self⟩ hrest.self
  reads := by
    intro level fields hholds
    cases hholds with
    | cons hfirst hothers =>
        rw [hread hfirst]
        exact hrest.reads hothers

theorem required (hpart : Spells layout read json part)
    (hrest : SpellsFields slots (rest part) members value) :
    SpellsFields (.required name layout :: slots)
      (fun level fields => fields.required name (read level) >>= fun part => rest part level fields)
      ((name, json) :: members) value := by
  refine cons (.required name layout) hpart ?_ hrest
  intro level fields hholds
  rcases hholds with ⟨other, hfound, hpresents, hdeep⟩ | ⟨-, hdefault⟩
  · replace hfound : fields.given.lookup name = some other := hfound
    rw [Fields.required, hfound]
    exact hpart.reads hpresents hdeep
  · cases hdefault

/-- A field that is left out holds its default, which is what its reader takes `written` for. -/
theorem optional {written : Json} {default : β}
    (hdefault : read written.depth written = some default) (hpart : Spells layout read json part)
    (hrest : SpellsFields slots (rest part) members value) :
    SpellsFields (.optional name written layout :: slots)
      (fun level fields =>
        fields.optional name default (read level) >>= fun part => rest part level fields)
      ((name, json) :: members) value := by
  refine cons (.optional name written layout) hpart ?_ hrest
  intro level fields hholds
  rcases hholds with ⟨other, hfound, hpresents, hdeep⟩ | ⟨hnone, hsame⟩
  · replace hfound : fields.given.lookup name = some other := hfound
    rw [Fields.optional, hfound]
    exact hpart.reads hpresents hdeep
  · -- what was written is what is written for the default, and it presents itself
    replace hnone : fields.given.lookup name = none := hnone
    cases hsame
    rw [Fields.optional, hnone, ← hdefault]
    exact hpart.reads hpart.self le_rfl

theorem flag (part : Bool) {rest : Bool → Nat → Fields → Option α}
    (hrest : SpellsFields slots (rest part) members value) :
    SpellsFields (.flag name :: slots)
      (fun level fields => fields.flag name >>= fun part => rest part level fields)
      ((name, .bool part) :: members) value :=
  .optional rfl (.bool part) hrest

end SpellsFields

end Json

end DeclCheck
