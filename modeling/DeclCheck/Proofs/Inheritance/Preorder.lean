/-
# DeclCheck.Proofs.Inheritance.Preorder — the search looks at supertypes in recursive order.

`Registry.preorder` lists the supertypes of a class by plain recursion, without a list of what
stands next and without stopping at a hit: beside each class of the climb every interface in the
order in which it is named, and after an interface first all that is above it.  What was listed
before is passed over, and the climb ends at a superclass that was listed before.

The search keeps its own list of what stands next and stops at a hit.  `Hierarchy.Passes` is what
ties the two together: whatever else stands next, looking at a recursive listing in turn brings the
search from one list to the other, or to the first hit in the listing.  So the search gives the
first supertype of the preorder that has an overridden method, and of that one the first method.
-/
import DeclCheck.Proofs.Inheritance.Ancestors

namespace DeclCheck

/-! ## The recursive order -/

namespace Registry

/-- The references of a supertype to its interfaces, as written in its class. -/
def interfaceReferences (registry : Registry) (supertype : Supertype) : List TypeExpr :=
  match registry.class? supertype.id with
  | some decl => decl.interfaces
  | none => []

/-- List the interfaces that references lead to from the level `map`, each followed by all that is
above it.  The list `seen` has the latest one first. -/
def explore (registry : Registry) (seen : List Supertype) (map : Substitution)
    (references : List TypeExpr) : Option (List Supertype) :=
  match references with
  | [] => some seen
  | reference :: rest =>
    match registry.supertype? reference map with
    | none => registry |>.explore seen map rest
    | some interface =>
      if interface ∈ seen then registry |>.explore seen map rest
      else do
        let seen ← registry |>.explore (interface :: seen) interface.map
          (registry.interfaceReferences interface)
        registry |>.explore seen map rest
partial_fixpoint

/-- List the interfaces of a class, then its superclass, and go on from there.  A superclass that
was seen before is the end. -/
def exploreUp (registry : Registry) (seen : List Supertype) (map : Substitution)
    (references : List TypeExpr) (parent? : Option Supertype) : Option (List Supertype) := do
  let seen ← registry.explore seen map references
  match parent? with
  | none => return seen
  | some parent =>
    if parent ∈ seen then return seen
    else
      registry |>.exploreUp (parent :: seen) parent.map (registry.interfaceReferences parent)
        (registry.parentAbove? parent)
partial_fixpoint

/-- The supertypes of a class in the order in which the recursion comes to them. -/
def preorder (registry : Registry) (declaring : ClassDecl) : Option (List Supertype) :=
  let map := Substitution.erased declaring
  (registry.exploreUp [] map declaring.interfaces (registry.parentOf? declaring map)).map
    List.reverse

end Registry

/-! ## Searches that pass a listing -/

namespace Hierarchy

variable {hierarchy : Hierarchy}

/-- The outcome of looking at supertypes in turn. -/
def firstIn (hierarchy : Hierarchy) (supertypes : List Supertype) : SearchOutcome :=
  match supertypes.findSome? hierarchy.overridden? with
  | some overridden => .found overridden
  | none => .exhausted

/-- Looking at `listed` in turn brings an interface search from `next` to `later`, unless it ends at
the first hit. -/
def Passes (hierarchy : Hierarchy) (visited next listed later : List Supertype) : Prop :=
  match hierarchy.firstIn listed with
  | .found overridden => ∃ last, Searched hierarchy visited next (.found overridden) last
  | .exhausted => ∀ outcome last,
      Searched hierarchy (listed.reverse ++ visited) later outcome last →
        Searched hierarchy visited next outcome last

theorem firstIn_append (hierarchy : Hierarchy) (first second : List Supertype) :
    hierarchy.firstIn (first ++ second) =
      match hierarchy.firstIn first with
      | .found overridden => .found overridden
      | .exhausted => hierarchy.firstIn second := by
  unfold firstIn
  rw [List.findSome?_append]
  cases first.findSome? hierarchy.overridden? <;> rfl

theorem firstIn_eq_found_iff {supertypes : List Supertype} {overridden : Overridden} :
    hierarchy.firstIn supertypes = .found overridden ↔
      ∃ before supertype after, supertypes = before ++ supertype :: after ∧
        hierarchy.overridden? supertype = some overridden ∧
        ∀ other ∈ before, hierarchy.overridden? other = none := by
  rw [← List.findSome?_eq_some_iff, firstIn]
  cases supertypes.findSome? hierarchy.overridden? <;> simp

theorem firstIn_eq_exhausted_iff {supertypes : List Supertype} :
    hierarchy.firstIn supertypes = .exhausted ↔
      ∀ supertype ∈ supertypes, hierarchy.overridden? supertype = none := by
  rw [← List.findSome?_eq_none_iff, firstIn]
  cases supertypes.findSome? hierarchy.overridden? <;> simp

theorem Passes.refl (visited next : List Supertype) : hierarchy.Passes visited next [] next :=
  fun _ _ hrun => hrun

theorem Passes.met {visited rest : List Supertype} {supertype : Supertype}
    (hmet : supertype ∈ visited) : hierarchy.Passes visited (supertype :: rest) [] rest :=
  fun _ _ hrun => .met hmet hrun

theorem Passes.look {visited : List Supertype} {supertype : Supertype}
    (hnew : supertype ∉ visited) (rest : List Supertype) :
    hierarchy.Passes visited (supertype :: rest) [supertype]
      (hierarchy.interfaces supertype ++ rest) := by
  unfold Passes firstIn
  cases hfound : hierarchy.overridden? supertype with
  | some overridden =>
      simp only [List.findSome?_cons, hfound]
      exact ⟨_, .hit hnew hfound⟩
  | none =>
      simp only [List.findSome?_cons, hfound, List.findSome?_nil]
      exact fun _ _ hrun => .miss hnew hfound hrun

/-- Two listings one after the other. -/
theorem Passes.trans {visited next first between second later : List Supertype}
    (hfirst : hierarchy.Passes visited next first between)
    (hsecond : hierarchy.Passes (first.reverse ++ visited) between second later) :
    hierarchy.Passes visited next (first ++ second) later := by
  unfold Passes at hfirst hsecond ⊢
  rw [firstIn_append]
  cases houtcome : hierarchy.firstIn first with
  | found overridden => simpa only [houtcome] using hfirst
  | exhausted =>
      simp only [houtcome] at hfirst ⊢
      cases hlater : hierarchy.firstIn second with
      | found overridden =>
          simp only [hlater] at hsecond ⊢
          obtain ⟨last, hrun⟩ := hsecond
          exact ⟨last, hfirst _ _ hrun⟩
      | exhausted =>
          simp only [hlater] at hsecond ⊢
          intro outcome last hrun
          rw [List.reverse_append, List.append_assoc] at hrun
          exact hfirst _ _ (hsecond _ _ hrun)

/-- A climb whose interface search passes `beside` goes on to what is above, unless it ends there at
the first hit. -/
theorem Passes.climbed {visited interfaces beside : List Supertype} {parent? : Option Supertype}
    (hbeside : hierarchy.Passes visited interfaces beside []) (above : List Supertype)
    (habove : Searched hierarchy visited interfaces .exhausted (beside.reverse ++ visited) →
      ∃ last, Climbed hierarchy visited interfaces parent? (hierarchy.firstIn above) last) :
    ∃ last, Climbed hierarchy visited interfaces parent? (hierarchy.firstIn (beside ++ above))
      last := by
  unfold Passes at hbeside
  rw [firstIn_append]
  cases houtcome : hierarchy.firstIn beside with
  | found overridden =>
      simp only [houtcome] at hbeside
      obtain ⟨last, hside⟩ := hbeside
      exact ⟨last, .aside hside⟩
  | exhausted =>
      simp only [houtcome] at hbeside
      exact habove (hbeside _ _ .nil)

/-- A climb to a new superclass gives the first hit among it and what is above. -/
theorem Climbed.up {visited interfaces seen above last : List Supertype} {parent : Supertype}
    (hside : Searched hierarchy visited interfaces .exhausted seen) (hnew : parent ∉ seen)
    (habove : Climbed hierarchy (parent :: seen) (hierarchy.interfaces parent)
      (hierarchy.parent? parent) (hierarchy.firstIn above) last) :
    ∃ last, Climbed hierarchy visited interfaces (some parent)
      (hierarchy.firstIn (parent :: above)) last := by
  unfold firstIn at habove ⊢
  rw [List.findSome?_cons]
  cases hfound : hierarchy.overridden? parent with
  | some overridden => exact ⟨_, .hit hside hnew hfound⟩
  | none => exact ⟨last, .miss hside hnew hfound habove⟩

end Hierarchy

namespace Registry

variable {registry : Registry} {declaring : ClassDecl}

theorem interfacesAbove_eq (supertype : Supertype) :
    registry.interfacesAbove supertype =
      (registry.interfaceReferences supertype).filterMap
        (registry.supertype? · supertype.map) := by
  unfold interfacesAbove interfaceReferences
  cases registry.class? supertype.id <;> rfl

/-- A listing by recursion adds to what was seen, and a search with the same interfaces next passes
what is added, whatever stands after them. -/
theorem explore_passes (wanted : List Signature) {seen final : List Supertype} {map : Substitution}
    {references : List TypeExpr} (hlist : registry.explore seen map references = some final) :
    ∃ listed, final = listed.reverse ++ seen ∧
      ∀ later, (registry.hierarchy wanted).Passes seen
        (references.filterMap (registry.supertype? · map) ++ later) listed later := by
  refine explore.partial_correctness registry (fun seen map references final =>
    ∃ listed, final = listed.reverse ++ seen ∧
      ∀ later, (registry.hierarchy wanted).Passes seen
        (references.filterMap (registry.supertype? · map) ++ later) listed later)
    ?_ seen map references final hlist
  intro explore ih seen map references final hstep
  cases references with
  | nil =>
      cases hstep
      exact ⟨[], rfl, fun later => .refl seen later⟩
  | cons reference rest =>
      cases hreference : registry.supertype? reference map with
      | none =>
          simp only [hreference] at hstep
          simpa only [List.filterMap_cons, hreference] using ih _ _ _ _ hstep
      | some interface =>
          simp only [hreference] at hstep
          simp only [List.filterMap_cons, hreference, List.cons_append]
          by_cases hmet : interface ∈ seen
          · rw [if_pos hmet] at hstep
            obtain ⟨listed, hfinal, hpasses⟩ := ih _ _ _ _ hstep
            exact ⟨listed, hfinal, fun later => (Hierarchy.Passes.met hmet).trans (hpasses later)⟩
          · rw [if_neg hmet] at hstep
            obtain ⟨middle, habove, hrest⟩ := Option.bind_eq_some_iff.mp hstep
            obtain ⟨above, rfl, hpassesAbove⟩ := ih _ _ _ _ habove
            obtain ⟨others, hfinal, hpassesRest⟩ := ih _ _ _ _ hrest
            refine ⟨[interface] ++ (above ++ others), by simpa using hfinal, fun later => ?_⟩
            -- The interface, then what is above it, then what stood after it.
            refine .trans (.look hmet _) (.trans ?_ (hpassesRest later))
            show (registry.hierarchy wanted).Passes _ (registry.interfacesAbove interface ++ _) _ _
            rw [interfacesAbove_eq]
            exact hpassesAbove _

/-- A climb gives the first hit of what the recursion lists, superclasses included. -/
theorem exploreUp_climbed (wanted : List Signature) {seen final : List Supertype}
    {map : Substitution} {references : List TypeExpr} {parent? : Option Supertype}
    (hlist : registry.exploreUp seen map references parent? = some final) :
    ∃ listed last, final = listed.reverse ++ seen ∧
      (registry.hierarchy wanted).Climbed seen
        (references.filterMap (registry.supertype? · map)) parent?
        ((registry.hierarchy wanted).firstIn listed) last := by
  refine exploreUp.partial_correctness registry (fun seen map references parent? final =>
    ∃ listed last, final = listed.reverse ++ seen ∧
      (registry.hierarchy wanted).Climbed seen
        (references.filterMap (registry.supertype? · map)) parent?
        ((registry.hierarchy wanted).firstIn listed) last)
    ?_ seen map references parent? final hlist
  intro exploreUp ih seen map references parent? final hstep
  obtain ⟨beside, hbeside, hup⟩ := Option.bind_eq_some_iff.mp hstep
  obtain ⟨interfaces, rfl, hpasses⟩ := explore_passes wanted hbeside
  have hsearch := hpasses []
  rw [List.append_nil] at hsearch
  cases parent? with
  | none =>
      cases hup
      obtain ⟨last, hclimbed⟩ := hsearch.climbed [] fun hside => ⟨_, .top hside⟩
      rw [List.append_nil] at hclimbed
      exact ⟨interfaces, last, rfl, hclimbed⟩
  | some parent =>
      by_cases hmet : parent ∈ interfaces.reverse ++ seen
      · simp only [if_pos hmet] at hup
        cases hup
        obtain ⟨last, hclimbed⟩ := hsearch.climbed [] fun hside => ⟨_, .met hside hmet⟩
        rw [List.append_nil] at hclimbed
        exact ⟨interfaces, last, rfl, hclimbed⟩
      · simp only [if_neg hmet] at hup
        obtain ⟨above, last, rfl, habove⟩ := ih _ _ _ _ _ hup
        rw [← interfacesAbove_eq] at habove
        obtain ⟨last, hclimbed⟩ := hsearch.climbed _ fun hside => habove.up hside hmet
        exact ⟨interfaces ++ parent :: above, last, by simp, hclimbed⟩

/-! ## That the recursion ends -/

variable {Level Interface : Supertype → Prop}

/-- Each call either has fewer references or has seen a further supertype. -/
theorem explore_ends
    (hclosed : (registry.hierarchy []).ClosedUpward Level Interface) (all : Finset Supertype)
    (hall : ∀ s, Interface s → s ∈ all) (seen : List Supertype) (map : Substitution)
    (references : List TypeExpr)
    (hreferences : ∀ s ∈ references.filterMap (registry.supertype? · map), Interface s) :
    ∃ final, registry.explore seen map references = some final := by
  -- The outer induction is on what is not seen yet, the inner one on the references.
  induction hleft : (all \ seen.toFinset).card using Nat.strong_induction_on
    generalizing seen map references with
  | _ left ih =>
      induction references with
      | nil => exact ⟨seen, by rw [explore]⟩
      | cons reference rest ihRest =>
          rw [explore]
          cases hreference : registry.supertype? reference map with
          | none =>
              simp only [List.filterMap_cons, hreference] at hreferences
              exact ihRest hreferences
          | some interface =>
              simp only [List.filterMap_cons, hreference, List.forall_mem_cons] at hreferences
              obtain ⟨hinterface, hrest⟩ := hreferences
              by_cases hmet : interface ∈ seen
              · simp only [if_pos hmet]
                exact ihRest hrest
              · simp only [if_neg hmet]
                have hmem : interface ∈ all := hall _ hinterface
                have hlook := Hierarchy.card_unvisited_lt hmem hmet (List.Subset.refl _)
                have habove : ∀ s ∈ (registry.interfaceReferences interface).filterMap
                    (registry.supertype? · interface.map), Interface s := by
                  intro s hs
                  rw [← interfacesAbove_eq] at hs
                  exact hclosed.ofInterface hinterface hs
                obtain ⟨middle, hmiddle⟩ := ih _ (hleft ▸ hlook) (interface :: seen) _ _ habove rfl
                obtain ⟨listed, rfl, -⟩ := explore_passes [] hmiddle
                have hon := Hierarchy.card_unvisited_lt hmem hmet
                  (List.subset_append_right listed.reverse (interface :: seen))
                obtain ⟨final, hfinal⟩ := ih _ (hleft ▸ hon) _ map rest hrest rfl
                exact ⟨final, Option.bind_eq_some_iff.mpr ⟨_, hmiddle, hfinal⟩⟩

theorem exploreUp_ends
    (hclosed : (registry.hierarchy []).ClosedUpward Level Interface) (all : Finset Supertype)
    (hall : ∀ s, Level s ∨ Interface s → s ∈ all) (seen : List Supertype) (map : Substitution)
    (references : List TypeExpr) (parent? : Option Supertype)
    (hreferences : ∀ s ∈ references.filterMap (registry.supertype? · map), Interface s)
    (hparent : ∀ s ∈ parent?, Level s) :
    ∃ final, registry.exploreUp seen map references parent? = some final := by
  induction hleft : (all \ seen.toFinset).card using Nat.strong_induction_on
    generalizing seen map references parent? with
  | _ left ih =>
      obtain ⟨beside, hbeside⟩ := explore_ends hclosed all (fun s hs => hall s (.inr hs)) seen map
        references hreferences
      obtain ⟨listed, rfl, -⟩ := explore_passes [] hbeside
      rw [exploreUp, hbeside]
      cases parent? with
      | none => exact ⟨_, rfl⟩
      | some parent =>
          by_cases hmet : parent ∈ listed.reverse ++ seen
          · exact ⟨_, if_pos hmet⟩
          · have hlevel : Level parent := hparent parent rfl
            have habove : ∀ s ∈ (registry.interfaceReferences parent).filterMap
                (registry.supertype? · parent.map), Interface s := by
              intro s hs
              rw [← interfacesAbove_eq] at hs
              exact hclosed.ofLevel hlevel hs
            -- The interfaces beside the class only add to what is seen; the superclass is new.
            have hkept : seen ⊆ listed.reverse ++ seen := List.subset_append_right _ _
            have hlt := Hierarchy.card_unvisited_lt (hall _ (.inl hlevel))
              (fun hseen => hmet (hkept hseen)) (List.cons_subset_cons parent hkept)
            obtain ⟨final, hfinal⟩ := ih _ (hleft ▸ hlt) _ parent.map _ _ habove
              (fun s hs => hclosed.parent hlevel hs) rfl
            exact ⟨final, (if_neg hmet).trans hfinal⟩

/-- A class with finitely many supertypes has a preorder. -/
theorem exists_preorder (hfinite : {s | registry.IsAbove declaring s}.Finite) :
    ∃ order, registry.preorder declaring = some order := by
  obtain ⟨final, hfinal⟩ := exploreUp_ends (registry.closedUpward declaring []) hfinite.toFinset
    (fun _ hs => hfinite.mem_toFinset.mpr hs) [] (.erased declaring) declaring.interfaces
    (registry.parentOf? declaring (.erased declaring))
    (fun _ hs => interfaceAbove_of_mem hs) (fun _ hs => superclassLevel_of_eq_some hs)
  exact ⟨final.reverse, by simp [preorder, hfinal]⟩

/-- What is searched for plays no part in the order: it only tells the hits in it. -/
theorem searchOverridden_eq_firstIn {order : List Supertype}
    (horder : registry.preorder declaring = some order) (method : Method) :
    registry.searchOverridden declaring method =
      some ((registry.hierarchy (method.variants (.erased declaring))).firstIn order) := by
  obtain ⟨final, hfinal, rfl⟩ := Option.map_eq_some_iff.mp horder
  obtain ⟨listed, last, rfl, hclimbed⟩ :=
    exploreUp_climbed (method.variants (.erased declaring)) hfinal
  rw [List.append_nil, List.reverse_reverse]
  exact searchOverridden_eq_some_iff.mpr ⟨last, hclimbed⟩

/-! ## The first method of the first supertype -/

/-- The first declared method of a supertype, among those of the searched method's name, that the
searched method overrides. -/
def FirstCandidate (registry : Registry) (declaring : ClassDecl) (method : Method)
    (supertype : Supertype) (candidate : Method) : Prop :=
  ∃ decl earlier later, registry.class? supertype.id = some decl ∧
    decl.methodsNamed method.name = earlier ++ candidate :: later ∧
    registry.Overrides declaring method supertype candidate ∧
    ∀ other ∈ earlier, ¬ registry.Overrides declaring method supertype other

/-- The first method overridden in a list of supertypes: the first candidate of the first supertype
that has one. -/
def FirstOverridden (registry : Registry) (declaring : ClassDecl) (method : Method)
    (order : List Supertype) (overridden : Overridden) : Prop :=
  ∃ before supertype after candidate, order = before ++ supertype :: after ∧
    (∀ other ∈ before, ∀ candidate, ¬ registry.Overrides declaring method other candidate) ∧
    registry.FirstCandidate declaring method supertype candidate ∧
    overridden = ⟨supertype.id, candidate.descriptor⟩

theorem overrides_iff_agrees {method candidate : Method} {supertype : Supertype} {decl : ClassDecl}
    (hdecl : registry.class? supertype.id = some decl)
    (hmem : candidate ∈ decl.methodsNamed method.name) :
    registry.Overrides declaring method supertype candidate ↔
      (method.variants (.erased declaring)).any
        (·.agrees (.ofMethodAt candidate supertype.map)) = true := by
  have hname : candidate.name = method.name := by simpa using (List.mem_filter.mp hmem).2
  rw [any_agrees_iff]
  exact ⟨fun hoverrides => ⟨hname, hoverrides.2⟩,
    fun hagrees => ⟨⟨decl, hdecl, hmem⟩, hagrees.2⟩⟩

/-- A comparison includes names, so only the methods of the searched name count. -/
theorem find?_agrees_eq (decl : ClassDecl) (method : Method) (map level : Substitution) :
    (decl.methods.find? fun candidate =>
        (method.variants map).any (·.agrees (.ofMethodAt candidate level))) =
      (decl.methodsNamed method.name).find? fun candidate =>
        (method.variants map).any (·.agrees (.ofMethodAt candidate level)) := by
  rw [ClassDecl.methodsNamed, List.find?_filter]
  congr 1
  funext candidate
  rw [Bool.eq_iff_iff, decide_eq_true_iff, any_agrees_iff, decide_eq_true_iff]
  exact ⟨fun hagrees => ⟨hagrees.1, hagrees⟩, fun hagrees => hagrees.2⟩

theorem firstCandidate_iff {method candidate : Method} {supertype : Supertype} {decl : ClassDecl}
    (hdecl : registry.class? supertype.id = some decl) :
    registry.FirstCandidate declaring method supertype candidate ↔
      (decl.methods.find? fun candidate => (method.variants (.erased declaring)).any
        (·.agrees (.ofMethodAt candidate supertype.map))) = some candidate := by
  rw [find?_agrees_eq, List.find?_eq_some_iff_append]
  constructor
  · rintro ⟨same, earlier, later, hsame, hsplit, hoverrides, hearlier⟩
    obtain rfl : decl = same := Option.some.inj (hdecl.symm.trans hsame)
    refine ⟨(overrides_iff_agrees hdecl (by simp [hsplit])).mp hoverrides, earlier, later, hsplit,
      ?_⟩
    intro other hother
    have hnot := (overrides_iff_agrees hdecl (by simp [hsplit, hother])).not.mp
      (hearlier other hother)
    simpa using hnot
  · rintro ⟨hagrees, earlier, later, hsplit, hearlier⟩
    refine ⟨decl, earlier, later, hdecl, hsplit,
      (overrides_iff_agrees hdecl (by simp [hsplit])).mpr hagrees, ?_⟩
    intro other hother
    refine (overrides_iff_agrees hdecl (by simp [hsplit, hother])).not.mpr ?_
    simpa using hearlier other hother

theorem overriddenIn?_eq_some_iff {method : Method} {supertype : Supertype}
    {overridden : Overridden} :
    registry.overriddenIn? (method.variants (.erased declaring)) supertype = some overridden ↔
      ∃ candidate, registry.FirstCandidate declaring method supertype candidate ∧
        overridden = ⟨supertype.id, candidate.descriptor⟩ := by
  cases hdecl : registry.class? supertype.id with
  | none => simp [overriddenIn?, FirstCandidate, hdecl]
  | some decl =>
      simp only [overriddenIn?, hdecl, Option.bind_eq_bind, Option.bind_some,
        Option.bind_eq_some_iff, Option.pure_def, Option.some.injEq, firstCandidate_iff hdecl]
      exact exists_congr fun candidate => and_congr_right fun _ => eq_comm

theorem overriddenIn?_eq_none_iff {method : Method} {supertype : Supertype} :
    registry.overriddenIn? (method.variants (.erased declaring)) supertype = none ↔
      ∀ candidate, ¬ registry.Overrides declaring method supertype candidate := by
  constructor
  · intro hmiss candidate
    exact not_overrides_of_overriddenIn? hmiss
  · intro hnone
    refine Option.eq_none_iff_forall_ne_some.mpr fun overridden hhit => ?_
    obtain ⟨candidate, hoverrides, -⟩ := overrides_of_overriddenIn? hhit
    exact hnone candidate hoverrides

theorem firstOverridden_iff {method : Method} {order : List Supertype} {overridden : Overridden} :
    registry.FirstOverridden declaring method order overridden ↔
      (registry.hierarchy (method.variants (.erased declaring))).firstIn order =
        .found overridden := by
  rw [Hierarchy.firstIn_eq_found_iff]
  constructor
  · rintro ⟨before, supertype, after, candidate, hsplit, hbefore, hcandidate, hoverridden⟩
    refine ⟨before, supertype, after, hsplit, ?_, fun other hother => ?_⟩
    · exact overriddenIn?_eq_some_iff.mpr ⟨candidate, hcandidate, hoverridden⟩
    · exact overriddenIn?_eq_none_iff.mpr (hbefore other hother)
  · rintro ⟨before, supertype, after, hsplit, hhit, hbefore⟩
    obtain ⟨candidate, hcandidate, hoverridden⟩ := overriddenIn?_eq_some_iff.mp hhit
    refine ⟨before, supertype, after, candidate, hsplit, fun other hother => ?_, hcandidate,
      hoverridden⟩
    exact overriddenIn?_eq_none_iff.mp (hbefore other hother)

/-- **The search follows the recursive order.**  If a class has finitely many supertypes, the
recursion lists them in some order, and the search finds the first method overridden in that order,
or nothing if no supertype in it has one. -/
theorem searchOverridden_first_in_preorder (registry : Registry) (declaring : ClassDecl)
    (method : Method) (hfinite : {supertype | registry.IsAbove declaring supertype}.Finite) :
    ∃ order, registry.preorder declaring = some order ∧
      (∀ overridden, registry.searchOverridden declaring method = some (.found overridden) ↔
        registry.FirstOverridden declaring method order overridden) ∧
      (registry.searchOverridden declaring method = some .exhausted ↔
        ∀ supertype ∈ order, ∀ candidate,
          ¬ registry.Overrides declaring method supertype candidate) := by
  obtain ⟨order, horder⟩ := exists_preorder hfinite
  refine ⟨order, horder, fun overridden => ?_, ?_⟩
  · rw [searchOverridden_eq_firstIn horder, Option.some.injEq, firstOverridden_iff]
  · rw [searchOverridden_eq_firstIn horder, Option.some.injEq, Hierarchy.firstIn_eq_exhausted_iff]
    exact forall₂_congr fun supertype _ => overriddenIn?_eq_none_iff

theorem IsAbove.ancestor {supertype : Supertype} (habove : registry.IsAbove declaring supertype) :
    registry.Ancestor declaring supertype := by
  have hclosed := registry.closedUpward_ancestor declaring []
  have hlevel : ∀ s, registry.SuperclassLevel declaring s → registry.Ancestor declaring s := by
    intro s hs
    induction hs with
    | first href hstep => exact ancestor_of_mem_parentOf? (parentOf?_eq_some.mpr ⟨_, href, hstep⟩)
    | next _ hdecl href hstep ih =>
        exact hclosed.parent ih (parentAbove?_eq_some.mpr ⟨_, hdecl, _, href, hstep⟩)
  rcases habove with habove | habove
  · exact hlevel _ habove
  · induction habove with
    | ofDeclaring href hstep =>
        exact ancestor_of_mem_interfacesOf (mem_interfacesOf.mpr ⟨_, href, hstep⟩)
    | ofLevel hs hdecl href hstep =>
        exact hclosed.ofLevel (hlevel _ hs) (mem_interfacesAbove.mpr ⟨_, hdecl, _, href, hstep⟩)
    | ofInterface _ hdecl href hstep ih =>
        exact hclosed.ofInterface ih (mem_interfacesAbove.mpr ⟨_, hdecl, _, href, hstep⟩)

/-- With simple arguments there is no more than finitely much to search. -/
theorem finite_isAbove (hsimple : registry.SimpleArguments declaring) :
    {supertype | registry.IsAbove declaring supertype}.Finite :=
  (finite_ancestors hsimple).subset fun _ habove => IsAbove.ancestor habove

end Registry

/-! ## A diamond

`Knife` implements `Sharp` and `Handled`, which both extend `Tool`, and extends `Blade`, which
implements `Tool` once more.  `clean` is declared by `Tool` and by `Handled`; the recursion comes to
`Tool` first, on its way up from `Sharp`. -/

namespace Cutlery

/-- The interface at the top, with `clean`. -/
def tool : ClassDecl where
  name := "Tool"
  kind := .interface
  methods := [{ name := "clean", params := [{ name := "cloth", type := .plain "Cloth" }] }]

/-- An interface with nothing of its own. -/
def sharp : ClassDecl where
  name := "Sharp"
  kind := .interface
  interfaces := [.plain "Tool"]

/-- An interface that declares `clean` again. -/
def handled : ClassDecl where
  name := "Handled"
  kind := .interface
  interfaces := [.plain "Tool"]
  methods := [{ name := "clean", params := [{ name := "towel", type := .plain "Cloth" }] }]

/-- The superclass, which comes back to `Tool`. -/
def blade : ClassDecl where
  name := "Blade"
  interfaces := [.plain "Tool"]

/-- The class at the bottom. -/
def knife : ClassDecl where
  name := "Knife"
  superclass := some (.plain "Blade")
  interfaces := [.plain "Sharp", .plain "Handled"]

/-- `clean(Cloth rag)`, which `Knife` declares. -/
def clean : Method where
  name := "clean"
  params := [{ name := "rag", type := .plain "Cloth" }]

/-- Everything above `Knife`, in order of declaration. -/
def classes : Registry :=
  [tool, sharp, handled, blade].foldl (fun registry decl => (registry.declare decl "drawer").1) ∅

/-- A class of the drawer; none of them has type parameters. -/
def entry (index : Nat) : Supertype := ⟨⟨index⟩, ∅⟩

theorem entry_inj (first second : Nat) : entry first = entry second ↔ first = second := by
  simp [entry]

/-- `Tool` stands before `Handled`, and once only. -/
theorem preorder_knife :
    classes.preorder knife = some [entry 1, entry 0, entry 2, entry 3] := by
  have htool : classes.supertype? (.plain "Tool") ∅ = some (entry 0) := by decide
  have hsharp : classes.supertype? (.plain "Sharp") ∅ = some (entry 1) := by decide
  have hhandled : classes.supertype? (.plain "Handled") ∅ = some (entry 2) := by decide
  have htop : classes.interfaceReferences (entry 0) = [] := by decide
  have habove : ∀ index ∈ [1, 2, 3],
      classes.interfaceReferences (entry index) = [.plain "Tool"] := by decide
  have hmap : ∀ index, (entry index).map = ∅ := fun _ => rfl
  have hbeside : classes.explore [] ∅ knife.interfaces = some [entry 2, entry 0, entry 1] := by
    simp [Registry.explore, knife, hsharp, hhandled, htool, htop, habove, hmap, entry_inj]
  have hblade : classes.explore [entry 3, entry 2, entry 0, entry 1] ∅ [.plain "Tool"] =
      some [entry 3, entry 2, entry 0, entry 1] := by
    simp [Registry.explore, htool]
  have hparent : classes.parentOf? knife ∅ = some (entry 3) := by decide
  have hroot : classes.parentAbove? (entry 3) = none := by decide
  have herased : Substitution.erased knife = ∅ := by decide
  have hnew : entry 3 ∉ [entry 2, entry 0, entry 1] := by decide
  have hclimb : classes.exploreUp [] ∅ knife.interfaces (some (entry 3)) =
      some [entry 3, entry 2, entry 0, entry 1] := by
    rw [Registry.exploreUp, hbeside]
    simp only [Option.bind_eq_bind, Option.bind_some, if_neg hnew]
    rw [habove 3 (by simp), hroot, hmap, Registry.exploreUp, hblade]
    rfl
  rw [Registry.preorder, herased, hparent, hclimb]
  rfl

/-- The search gives the `clean` of `Tool` and not that of `Handled`. -/
theorem searchOverridden_clean :
    {supertype | classes.IsAbove knife supertype}.Finite ∧
    classes.preorder knife = some [entry 1, entry 0, entry 2, entry 3] ∧
    classes.searchOverridden knife clean = some (.found ⟨⟨0⟩, "void clean(Cloth)"⟩) := by
  have hsimple : classes.SimpleArguments knife := by decide
  have hfinite := Registry.finite_isAbove hsimple
  have hsharp : classes.overriddenIn? (clean.variants (.erased knife)) (entry 1) = none := by decide
  have htool : classes.overriddenIn? (clean.variants (.erased knife)) (entry 0) =
      some ⟨⟨0⟩, "void clean(Cloth)"⟩ := by decide
  obtain ⟨order, horder, hfound, -⟩ :=
    Registry.searchOverridden_first_in_preorder classes knife clean hfinite
  obtain rfl := Option.some.inj (preorder_knife.symm.trans horder)
  obtain ⟨candidate, hcandidate, hoverridden⟩ := Registry.overriddenIn?_eq_some_iff.mp htool
  refine ⟨hfinite, preorder_knife, (hfound _).mpr ?_⟩
  refine ⟨[entry 1], entry 0, [entry 2, entry 3], candidate, rfl, ?_, hcandidate, hoverridden⟩
  intro other hother
  rw [List.mem_singleton.mp hother]
  exact Registry.overriddenIn?_eq_none_iff.mp hsharp

end Cutlery

end DeclCheck
