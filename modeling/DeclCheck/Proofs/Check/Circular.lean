/-
# DeclCheck.Proofs.Check.Circular — the search for circular defaults has room enough.

`circularFrom` counts how many annotation types it may still enter inside one another.  `traceUses`
and `traceMembers` are the same search without a count, which gives `none` if it has no end.

Each annotation type that the search enters has a class and was not visited before, and what is
visited stays visited.  So where there is more room than there are classes left to visit, the count
never runs out, and the search without a count ends with the same answer (`traceUses_eq_of_room`).
There are no more names with a class than entries, which is why the search is given one more than
that.
-/
import Mathlib.Data.Finset.Card
import DeclCheck.Proofs.Registry.Names

namespace DeclCheck

namespace Registry

/-! ## The search without a count -/

mutual

/-- Go through the annotations among the elements of a value. -/
def traceUses (registry : Registry) (sought : String) (visited : List String)
    (elements : List Expr) : Option (Option String × List String) :=
  match elements with
  | [] => some (none, visited)
  | element :: rest =>
    match element.annotationUse? with
    | none => registry |>.traceUses sought visited rest
    | some use =>
      if use.kind ∈ visited then registry |>.traceUses sought visited rest
      else
        match registry.findClass? use.kind with
        | none => registry |>.traceUses sought (use.kind :: visited) rest
        | some decl => do
          let (culprit?, visited) ←
            registry |>.traceMembers sought decl.name (use.kind :: visited) decl.methods
          if culprit?.isSome then return (culprit?, visited)
          else registry |>.traceUses sought visited rest
partial_fixpoint

/-- Go through the members of the annotation type `owner`. -/
def traceMembers (registry : Registry) (sought owner : String) (visited : List String)
    (members : List Method) : Option (Option String × List String) :=
  match members with
  | [] => some (none, visited)
  | member :: rest =>
    if member.returnType.innermost.className? = some sought then some (some owner, visited)
    else
      match member.returnedValue? with
      | none => registry |>.traceMembers sought owner visited rest
      | some nested => do
        let (culprit?, visited) ← registry |>.traceUses sought visited nested.elements
        if culprit?.isSome then return (culprit?, visited)
        else registry |>.traceMembers sought owner visited rest
partial_fixpoint

end

end Registry

/-- A search that goes from element to element by the same steps ends with the same answer.  `P`
holds of every state on the way. -/
theorem eq_firstAnswer {α β σ : Type} {step : σ → α → Option β × σ}
    {search : σ → List α → Option (Option β × σ)} {P : σ → Prop}
    (hnil : ∀ state, search state [] = some (none, state))
    (hstep : ∀ state value rest, P state →
      search state (value :: rest) =
        (if (step state value).1.isSome then some (step state value)
        else search (step state value).2 rest) ∧
      P (step state value).2)
    {state : σ} (hstate : P state) (values : List α) :
    search state values = some (firstAnswer step state values) ∧
      P (firstAnswer step state values).2 := by
  induction values generalizing state with
  | nil => exact ⟨hnil state, hstate⟩
  | cons value rest ih =>
      obtain ⟨hsearch, hkept⟩ := hstep state value rest hstate
      rw [hsearch, firstAnswer]
      cases hfirst : step state value with
      | mk answer next =>
          rw [hfirst] at hkept
          cases answer with
          | some answer => exact ⟨rfl, hkept⟩
          | none => exact ih hkept

namespace Registry

variable {registry : Registry}

/-! ## Room -/

/-- How many of the names are not visited yet. -/
def unvisited (names : Finset String) (visited : List String) : Nat :=
  (names \ visited.toFinset).card

theorem unvisited_le (names : Finset String) {visited later : List String}
    (hkept : visited ⊆ later) : unvisited names later ≤ unvisited names visited := by
  refine Finset.card_le_card (Finset.sdiff_subset_sdiff subset_rfl ?_)
  intro name hname
  rw [List.mem_toFinset] at hname ⊢
  exact hkept hname

theorem unvisited_cons_lt {names : Finset String} {visited : List String} {name : String}
    (hname : name ∈ names) (hnew : name ∉ visited) :
    unvisited names (name :: visited) < unvisited names visited := by
  refine Finset.card_lt_card ⟨Finset.sdiff_subset_sdiff subset_rfl ?_, fun hback => ?_⟩
  · rw [List.toFinset_cons]
    exact Finset.subset_insert name visited.toFinset
  · have hleft : name ∈ names \ visited.toFinset := by simp [hname, hnew]
    have hgone := (Finset.mem_sdiff.mp (hback hleft)).2
    simp at hgone

/-- The members of one annotation type, if the search ends in the default values of all of them. -/
theorem traceMembers_eq {sought : String} (owner : String) {visited : List String}
    {nested : List String → Expr → Option String × List String}
    (hnested : ∀ inner value, visited ⊆ inner →
      registry.traceUses sought inner value.elements = some (nested inner value) ∧
        inner ⊆ (nested inner value).2)
    (members : List Method) :
    let step := fun visited (member : Method) =>
      if member.returnType.innermost.className? = some sought then (some owner, visited)
      else
        match member.returnedValue? with
        | some value => nested visited value
        | none => (none, visited)
    registry.traceMembers sought owner visited members = some (firstAnswer step visited members) ∧
      visited ⊆ (firstAnswer step visited members).2 := by
  refine eq_firstAnswer (P := fun inner => visited ⊆ inner) (fun _ => by rw [traceMembers]) ?_
    (List.Subset.refl _) members
  intro inner member rest hinner
  rw [traceMembers]
  split
  · exact ⟨rfl, hinner⟩
  · cases member.returnedValue? with
    | none => exact ⟨rfl, hinner⟩
    | some value =>
        obtain ⟨hsame, hkept⟩ := hnested inner value hinner
        exact ⟨congrArg (Option.bind · _) hsame, List.Subset.trans hinner hkept⟩

/-- With room for all that is left to visit, the search ends as it does without a count, and nothing
visited is forgotten. -/
theorem traceUses_eq_of_room (sought : String) {names : Finset String}
    (hnames : ∀ name, (registry.findClass? name).isSome → name ∈ names) {count : Nat}
    {visited : List String} (hroom : unvisited names visited < count) (value : Expr) :
    registry.traceUses sought visited value.elements =
        some (registry.circularFrom sought count visited value) ∧
      visited ⊆ (registry.circularFrom sought count visited value).2 := by
  induction count generalizing visited value with
  | zero => exact absurd hroom (Nat.not_lt_zero _)
  | succ count ih =>
    unfold circularFrom
    refine eq_firstAnswer (P := fun state => visited ⊆ state) (fun _ => by rw [traceUses]) ?_
      (List.Subset.refl _) _
    intro state element rest hstate
    rw [traceUses]
    cases element.annotationUse? with
    | none => exact ⟨rfl, hstate⟩
    | some use =>
      by_cases hseen : use.kind ∈ state
      · simp only [if_pos hseen]
        exact ⟨rfl, hstate⟩
      · simp only [if_neg hseen]
        have hentered : visited ⊆ use.kind :: state :=
          List.Subset.trans hstate (List.subset_cons_self use.kind state)
        cases hclass : registry.findClass? use.kind with
        | none => exact ⟨rfl, hentered⟩
        | some decl =>
          -- A type is entered: it was one of those left to visit, so less is left now.
          have hknown : use.kind ∈ names := hnames _ (by rw [hclass]; rfl)
          have hless : unvisited names (use.kind :: state) < count := by
            have hdown := unvisited_cons_lt hknown hseen
            have hback := unvisited_le names hstate
            omega
          have hnested : ∀ inner nested, use.kind :: state ⊆ inner →
              registry.traceUses sought inner nested.elements =
                  some (registry.circularFrom sought count inner nested) ∧
                inner ⊆ (registry.circularFrom sought count inner nested).2 :=
            fun _ nested hinner => ih (Nat.lt_of_le_of_lt (unvisited_le names hinner) hless) nested
          obtain ⟨hmembers, hkept⟩ := traceMembers_eq decl.name hnested decl.methods
          exact ⟨congrArg (Option.bind · _) hmembers, List.Subset.trans hentered hkept⟩

/-- More room than enough makes no difference. -/
theorem circularFrom_eq_of_room (sought : String) {names : Finset String}
    (hnames : ∀ name, (registry.findClass? name).isSome → name ∈ names) {count many : Nat}
    {visited : List String} (hroom : unvisited names visited < count) (hmany : count ≤ many)
    (value : Expr) :
    registry.circularFrom sought count visited value =
      registry.circularFrom sought many visited value := by
  have hfew := (traceUses_eq_of_room sought hnames hroom value).1
  have hall := (traceUses_eq_of_room sought hnames (Nat.lt_of_lt_of_le hroom hmany) value).1
  exact Option.some.inj (hfew.symm.trans hall)

/-! ## Classes by name are all that counts -/

/-- A name that is found has an entry that bears it. -/
theorem exists_entry?_of_find? (hconsistent : registry.Consistent) {name : String} {id : ClassId}
    (hfind : registry.find? name = some id) :
    ∃ entry, registry.entry? id = some entry ∧ entry.name = name := by
  rw [find?_eq_or hconsistent] at hfind
  rcases Option.or_eq_some_iff.mp hfind with hknown | ⟨-, hexternal⟩
  · obtain ⟨entry, hentry, hname, -⟩ := hconsistent.known name id hknown
    exact ⟨entry, hentry, hname⟩
  · obtain ⟨entry, hentry, hname, -⟩ := hconsistent.external name id hexternal
    exact ⟨entry, hentry, hname⟩

/-- A class that is found by a name bears it. -/
theorem name_of_findClass? (hconsistent : registry.Consistent) {name : String} {decl : ClassDecl}
    (hclass : registry.findClass? name = some decl) : decl.name = name := by
  obtain ⟨id, hfind, hdecl⟩ := Option.bind_eq_some_iff.mp hclass
  obtain ⟨entry, hentry, hname⟩ := exists_entry?_of_find? hconsistent hfind
  obtain ⟨same, hsame, rfl⟩ := Option.map_eq_some_iff.mp hdecl
  obtain rfl : entry = same := Option.some.inj (hentry.symm.trans hsame)
  exact hname

/-- The names of all entries. -/
def entryNames (registry : Registry) : Finset String :=
  (registry.entries.toList.map Entry.name).toFinset

theorem card_entryNames_le (registry : Registry) : registry.entryNames.card ≤ registry.size := by
  refine (List.toFinset_card_le _).trans ?_
  rw [List.length_map, Array.length_toList]
  exact Nat.le_refl _

theorem mem_entryNames_of_findClass? (hconsistent : registry.Consistent) {name : String}
    (hsome : (registry.findClass? name).isSome) : name ∈ registry.entryNames := by
  obtain ⟨decl, hclass⟩ := Option.isSome_iff_exists.mp hsome
  obtain ⟨id, hfind, -⟩ := Option.bind_eq_some_iff.mp hclass
  obtain ⟨entry, hentry, hname⟩ := exists_entry?_of_find? hconsistent hfind
  refine List.mem_toFinset.mpr (List.mem_map.mpr ⟨entry, ?_, hname⟩)
  exact Array.mem_toList_iff.mpr (Array.mem_of_getElem? hentry)

/-- A search that has visited nothing has room enough in its registry. -/
theorem unvisited_entryNames_lt (registry : Registry) :
    unvisited registry.entryNames [] < registry.size + 1 := by
  refine Nat.lt_succ_of_le (le_trans (Finset.card_le_card Finset.sdiff_subset) ?_)
  exact registry.card_entryNames_le

variable {other : Registry}

theorem circularFrom_congr (hclass : registry.findClass? = other.findClass?) (sought : String)
    (count : Nat) :
    registry.circularFrom sought count = other.circularFrom sought count := by
  induction count with
  | zero => rfl
  | succ count ih =>
      funext visited value
      unfold circularFrom
      rw [hclass, ih]

/-- Registries in which every name has the same class find the same circles, however many entries
they have besides. -/
theorem circular?_congr (hconsistent : registry.Consistent) (hother : other.Consistent)
    (hclass : registry.findClass? = other.findClass?) (sought : String) (value : Expr) :
    registry.circular? sought value = other.circular? sought value := by
  -- Both have room enough for themselves, so both may be given as much as the larger one.
  have hfirst := circularFrom_eq_of_room sought
    (fun name => mem_entryNames_of_findClass? hconsistent) registry.unvisited_entryNames_lt
    (Nat.le_max_left _ (other.size + 1)) value
  have hsecond := circularFrom_eq_of_room sought
    (fun name => mem_entryNames_of_findClass? hother) other.unvisited_entryNames_lt
    (Nat.le_max_right (registry.size + 1) _) value
  unfold circular?
  rw [hfirst, hsecond, circularFrom_congr hclass]

/-- The check of a member asks for classes by name only. -/
theorem checkMember_congr (hconsistent : registry.Consistent) (hother : other.Consistent)
    (hclass : registry.findClass? = other.findClass?) (definition : ClassDecl) (member : Method) :
    registry.checkMember definition member = other.checkMember definition member := by
  have helement : registry.isMemberElement = other.isMemberElement := by
    funext type
    unfold isMemberElement
    rw [hclass]
  have htype : registry.isMemberType = other.isMemberType := by
    funext type
    unfold isMemberType
    rw [helement]
  have hcircular : registry.circular? = other.circular? :=
    funext fun sought => funext fun value => circular?_congr hconsistent hother hclass sought value
  unfold checkMember
  rw [htype, hcircular]

end Registry

end DeclCheck
