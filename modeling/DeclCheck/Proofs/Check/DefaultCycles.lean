/-
# DeclCheck.Proofs.Check.DefaultCycles — the search for circular defaults decides reachability.

A default value uses annotation types, and the defaults of their members use further ones.  What is
*reached* from a value is everything on such a way; the annotation types may well lead in a circle.
The search looks for a reached type that has a member of the sought type.

It keeps one list of visited types for all its branches, so a type may be passed over while its own
members are still being gone through.  This hides nothing.  `Cleared` says what is known of a
visited type once the search has come back from it without an answer: it has no member of the sought
type, and all that its defaults use has been visited.  When the whole search has come to its end,
nothing visited is left unfinished, so what it has visited is closed under going on, and whatever is
reached has been looked at.
-/
import Mathlib.Logic.Relation
import DeclCheck.Proofs.Check.Circular

namespace DeclCheck

/-! ## Reached annotation types -/

/-- The annotation types used among the elements of a value. -/
def usedKinds (elements : List Expr) : List String :=
  elements.filterMap fun element => element.annotationUse?.map AnnotationUse.kind

/-- Some member has the given class as its type, or arrays of it. -/
def ClassDecl.HasMemberOf (decl : ClassDecl) (sought : String) : Prop :=
  ∃ member ∈ decl.methods, member.returnType.innermost.className? = some sought

namespace Registry

variable {registry : Registry} {sought : String}

/-- A member of one annotation type has a default that uses the other. -/
def DefaultUses (registry : Registry) (kind next : String) : Prop :=
  ∃ decl, registry.findClass? kind = some decl ∧ ∃ member ∈ decl.methods,
    ∃ value, member.returnedValue? = some value ∧ next ∈ usedKinds value.elements

/-- An annotation type that is used among the elements of a value, or in the defaults of one that is
reached. -/
def Reached (registry : Registry) (elements : List Expr) (kind : String) : Prop :=
  ∃ start ∈ usedKinds elements, Relation.ReflTransGen registry.DefaultUses start kind

/-- The name of a reached annotation type that has a member of the sought type. -/
def Culprit (registry : Registry) (sought : String) (elements : List Expr) (name : String) : Prop :=
  ∃ kind decl, registry.Reached elements kind ∧ registry.findClass? kind = some decl ∧
    decl.HasMemberOf sought ∧ decl.name = name

theorem Culprit.tail {element : Expr} {rest : List Expr} {name : String}
    (hculprit : registry.Culprit sought rest name) :
    registry.Culprit sought (element :: rest) name := by
  obtain ⟨kind, decl, ⟨start, hstart, hpath⟩, hculprit⟩ := hculprit
  have hmem : start ∈ usedKinds (element :: rest) :=
    ((List.sublist_cons_self element rest).filterMap _).subset hstart
  exact ⟨kind, decl, ⟨start, hmem, hpath⟩, hculprit⟩

/-! ## What the search finds -/

/-- A member of the annotation type `owner` that gives an answer: it is of the sought type itself,
or its default leads on to a culprit. -/
def MemberLeads (registry : Registry) (sought owner : String) (member : Method) (name : String) :
    Prop :=
  member.returnType.innermost.className? = some sought ∧ owner = name ∨
    ∃ value ∈ member.returnedValue?, registry.Culprit sought value.elements name

/-- An answer from the members of a used annotation type is an answer to the whole search. -/
theorem Culprit.of_member {element : Expr} {rest : List Expr} {use : AnnotationUse}
    {decl : ClassDecl} {member : Method} {name : String} (huse : element.annotationUse? = some use)
    (hclass : registry.findClass? use.kind = some decl) (hmember : member ∈ decl.methods)
    (hleads : registry.MemberLeads sought decl.name member name) :
    registry.Culprit sought (element :: rest) name := by
  have hused : use.kind ∈ usedKinds (element :: rest) := by simp [usedKinds, huse]
  rcases hleads with ⟨htype, hname⟩ | ⟨value, hvalue, kind, culprit, hreached, hculprit⟩
  · exact ⟨use.kind, decl, ⟨use.kind, hused, .refl⟩, hclass, ⟨member, hmember, htype⟩, hname⟩
  · obtain ⟨start, hstart, hpath⟩ := hreached
    have hstep : registry.DefaultUses use.kind start :=
      ⟨decl, hclass, member, hmember, value, hvalue, hstart⟩
    exact ⟨kind, culprit, ⟨use.kind, hused, .head hstep hpath⟩, hculprit⟩

/-! ## What the search clears -/

/-- A member that is not of the sought type, all that its default uses being visited. -/
structure MemberCleared (sought : String) (visited : List String) (member : Method) : Prop where
  type : member.returnType.innermost.className? ≠ some sought
  uses : ∀ value ∈ member.returnedValue?, usedKinds value.elements ⊆ visited

/-- An annotation type of which every member is cleared, if its class is known. -/
def Cleared (registry : Registry) (sought : String) (visited : List String) (kind : String) :
    Prop :=
  ∀ decl ∈ registry.findClass? kind, ∀ member ∈ decl.methods, MemberCleared sought visited member

theorem MemberCleared.mono {visited later : List String} {member : Method}
    (hcleared : MemberCleared sought visited member) (hsubset : visited ⊆ later) :
    MemberCleared sought later member where
  type := hcleared.type
  uses value hvalue := List.Subset.trans (hcleared.uses value hvalue) hsubset

/-- From `before` to `later` nothing was forgotten, and what was added is cleared. -/
structure Explored (registry : Registry) (sought : String) (before later : List String) : Prop where
  kept : before ⊆ later
  cleared : ∀ kind ∈ later, kind ∈ before ∨ registry.Cleared sought later kind

namespace Explored

theorem refl (visited : List String) : registry.Explored sought visited visited where
  kept := List.Subset.refl visited
  cleared _ hkind := .inl hkind

theorem trans {first second third : List String} (hfirst : registry.Explored sought first second)
    (hsecond : registry.Explored sought second third) : registry.Explored sought first third where
  kept := List.Subset.trans hfirst.kept hsecond.kept
  cleared kind hkind := by
    rcases hsecond.cleared kind hkind with hbefore | hcleared
    · rcases hfirst.cleared kind hbefore with hbefore | hcleared
      · exact .inl hbefore
      · refine .inr fun decl hdecl member hmember => ?_
        exact (hcleared decl hdecl member hmember).mono hsecond.kept
    · exact .inr hcleared

/-- An annotation type that is marked as visited first and cleared in the end. -/
theorem enter {kind : String} {before later : List String}
    (hinside : registry.Explored sought (kind :: before) later)
    (hcleared : registry.Cleared sought later kind) : registry.Explored sought before later where
  kept := List.Subset.trans (List.subset_cons_self kind before) hinside.kept
  cleared other hother := by
    rcases hinside.cleared other hother with hbefore | hother
    · rcases List.mem_cons.mp hbefore with rfl | hbefore
      · exact .inr hcleared
      · exact .inl hbefore
    · exact .inr hother

/-- There is nothing to clear in a name without a class. -/
theorem unknown {kind : String} {before : List String}
    (hclass : registry.findClass? kind = none) :
    registry.Explored sought before (kind :: before) := by
  refine (refl (kind :: before)).enter fun decl hdecl => ?_
  rw [hclass] at hdecl
  cases hdecl

end Explored

/-! ## Every answer is right -/

/-- What the answer to a search through elements says. -/
structure UsesTraced (registry : Registry) (sought : String) (visited : List String)
    (elements : List Expr) (answer : Option String × List String) : Prop where
  found : ∀ name ∈ answer.1, registry.Culprit sought elements name
  cleared : answer.1 = none →
    registry.Explored sought visited answer.2 ∧ usedKinds elements ⊆ answer.2

/-- What the answer to a search through members says. -/
structure MembersTraced (registry : Registry) (sought owner : String) (visited : List String)
    (members : List Method) (answer : Option String × List String) : Prop where
  found : ∀ name ∈ answer.1, ∃ member ∈ members, registry.MemberLeads sought owner member name
  cleared : answer.1 = none →
    registry.Explored sought visited answer.2 ∧
      ∀ member ∈ members, MemberCleared sought answer.2 member

theorem UsesTraced.nil (visited : List String) :
    registry.UsesTraced sought visited [] (none, visited) where
  found _ hname := by cases hname
  cleared _ := ⟨.refl visited, List.nil_subset visited⟩

/-- One more element that is no annotation. -/
theorem UsesTraced.skip {element : Expr} {rest : List Expr} {visited : List String}
    {answer : Option String × List String}
    (hrest : registry.UsesTraced sought visited rest answer)
    (huse : element.annotationUse? = none) :
    registry.UsesTraced sought visited (element :: rest) answer where
  found name hname := (hrest.found name hname).tail
  cleared hnone := by
    have hkinds : usedKinds (element :: rest) = usedKinds rest := by simp [usedKinds, huse]
    rw [hkinds]
    exact hrest.cleared hnone

/-- One more element, once the annotation type that it uses is visited and cleared. -/
theorem UsesTraced.cons {element : Expr} {rest : List Expr} {use : AnnotationUse}
    {visited seen : List String} {answer : Option String × List String}
    (hrest : registry.UsesTraced sought seen rest answer)
    (huse : element.annotationUse? = some use)
    (hbefore : registry.Explored sought visited seen ∧ use.kind ∈ seen) :
    registry.UsesTraced sought visited (element :: rest) answer where
  found name hname := (hrest.found name hname).tail
  cleared hnone := by
    obtain ⟨hexplored, hused⟩ := hrest.cleared hnone
    have hkinds : usedKinds (element :: rest) = use.kind :: usedKinds rest := by
      simp [usedKinds, huse]
    rw [hkinds, List.cons_subset]
    exact ⟨hbefore.1.trans hexplored, hexplored.kept hbefore.2, hused⟩

/-- An answer from the members of the annotation type that an element uses. -/
theorem UsesTraced.of_members {element : Expr} {rest : List Expr} {use : AnnotationUse}
    {decl : ClassDecl} {visited seen : List String} {culprit : String}
    (hmembers : registry.MembersTraced sought decl.name (use.kind :: visited) decl.methods
      (some culprit, seen))
    (huse : element.annotationUse? = some use)
    (hclass : registry.findClass? use.kind = some decl) :
    registry.UsesTraced sought visited (element :: rest) (some culprit, seen) where
  found name hname := by
    obtain ⟨member, hmember, hleads⟩ := hmembers.found name hname
    exact .of_member huse hclass hmember hleads
  cleared hnone := by cases hnone

theorem MembersTraced.nil (owner : String) (visited : List String) :
    registry.MembersTraced sought owner visited [] (none, visited) where
  found _ hname := by cases hname
  cleared _ := ⟨.refl visited, List.forall_mem_nil _⟩

/-- One more member, which gives the answer. -/
theorem MembersTraced.of_leads {owner culprit : String} {member : Method} {rest : List Method}
    {visited seen : List String} (hleads : registry.MemberLeads sought owner member culprit) :
    registry.MembersTraced sought owner visited (member :: rest) (some culprit, seen) where
  found name hname := by
    obtain rfl : culprit = name := Option.some.inj hname
    exact ⟨member, List.mem_cons_self, hleads⟩
  cleared hnone := by cases hnone

/-- One more member, once it is cleared. -/
theorem MembersTraced.cons {owner : String} {member : Method} {rest : List Method}
    {visited seen : List String} {answer : Option String × List String}
    (hrest : registry.MembersTraced sought owner seen rest answer)
    (hbefore : registry.Explored sought visited seen)
    (hcleared : MemberCleared sought seen member) :
    registry.MembersTraced sought owner visited (member :: rest) answer where
  found name hname := by
    obtain ⟨later, hlater, hleads⟩ := hrest.found name hname
    exact ⟨later, List.mem_cons_of_mem _ hlater, hleads⟩
  cleared hnone := by
    obtain ⟨hexplored, hmembers⟩ := hrest.cleared hnone
    exact ⟨hbefore.trans hexplored,
      List.forall_mem_cons.mpr ⟨hcleared.mono hexplored.kept, hmembers⟩⟩

/-- Without an answer from its members, an annotation type is cleared. -/
theorem MembersTraced.explored {kind : String} {decl : ClassDecl} {visited seen : List String}
    (hmembers : registry.MembersTraced sought decl.name (kind :: visited) decl.methods (none, seen))
    (hclass : registry.findClass? kind = some decl) :
    registry.Explored sought visited seen ∧ kind ∈ seen := by
  obtain ⟨hexplored, hcleared⟩ := hmembers.cleared rfl
  refine ⟨hexplored.enter ?_, hexplored.kept List.mem_cons_self⟩
  intro same hsame
  obtain rfl : decl = same := Option.some.inj (hclass.symm.trans hsame)
  exact hcleared

/-- The answer of a search, through elements or through members, says what it should. -/
theorem traced (registry : Registry) (sought : String) :
    (∀ visited elements answer, registry.traceUses sought visited elements = some answer →
      registry.UsesTraced sought visited elements answer) ∧
    ∀ owner visited members answer,
      registry.traceMembers sought owner visited members = some answer →
        registry.MembersTraced sought owner visited members answer := by
  -- The induction is on the calls that come to an end.  In each case the calls that are made there
  -- have already been shown to answer rightly.
  refine traceUses.mutual_partial_correctness registry sought
    (registry.UsesTraced sought) (registry.MembersTraced sought) ?_ ?_
  · intro traceUses traceMembers ihUses ihMembers visited elements answer hanswer
    cases elements with
    | nil =>
        cases hanswer
        exact .nil visited
    | cons element rest =>
        cases huse : element.annotationUse? with
        | none =>
            simp only [huse] at hanswer
            exact (ihUses _ _ _ hanswer).skip huse
        | some use =>
            simp only [huse] at hanswer
            by_cases hseen : use.kind ∈ visited
            · rw [if_pos hseen] at hanswer
              exact (ihUses _ _ _ hanswer).cons huse ⟨.refl visited, hseen⟩
            rw [if_neg hseen] at hanswer
            cases hclass : registry.findClass? use.kind with
            | none =>
                simp only [hclass] at hanswer
                exact (ihUses _ _ _ hanswer).cons huse ⟨.unknown hclass, List.mem_cons_self⟩
            | some decl =>
                simp only [hclass] at hanswer
                obtain ⟨⟨culprit?, seen⟩, hinside, hon⟩ := Option.bind_eq_some_iff.mp hanswer
                have hmembers := ihMembers _ _ _ _ hinside
                cases culprit? with
                | some culprit =>
                    cases hon
                    exact .of_members hmembers huse hclass
                | none => exact (ihUses _ _ _ hon).cons huse (hmembers.explored hclass)
  · intro traceUses traceMembers ihUses ihMembers owner visited members answer hanswer
    cases members with
    | nil =>
        cases hanswer
        exact .nil owner visited
    | cons member rest =>
        by_cases htype : member.returnType.innermost.className? = some sought
        · simp only [if_pos htype] at hanswer
          cases hanswer
          exact .of_leads (.inl ⟨htype, rfl⟩)
        simp only [if_neg htype] at hanswer
        cases hvalue : member.returnedValue? with
        | none =>
            simp only [hvalue] at hanswer
            exact (ihMembers _ _ _ _ hanswer).cons (.refl visited) ⟨htype, by simp [hvalue]⟩
        | some nested =>
            simp only [hvalue] at hanswer
            obtain ⟨⟨culprit?, seen⟩, hinside, hon⟩ := Option.bind_eq_some_iff.mp hanswer
            have huses := ihUses _ _ _ hinside
            cases culprit? with
            | some culprit =>
                cases hon
                exact .of_leads (.inr ⟨nested, hvalue, huses.found culprit rfl⟩)
            | none =>
                obtain ⟨hexplored, hused⟩ := huses.cleared rfl
                exact (ihMembers _ _ _ _ hon).cons hexplored ⟨htype, by simpa [hvalue] using hused⟩

/-! ## Reachability -/

/-- What was visited in a whole search without an answer is closed under going on, so it has all
that is reached. -/
theorem UsesTraced.mem_of_reached {elements : List Expr} {answer : Option String × List String}
    (htraced : registry.UsesTraced sought [] elements answer) (hnone : answer.1 = none)
    {kind : String} (hreached : registry.Reached elements kind) :
    kind ∈ answer.2 ∧ registry.Cleared sought answer.2 kind := by
  obtain ⟨hexplored, hused⟩ := htraced.cleared hnone
  -- Nothing was visited to begin with, so nothing is left that is visited and not cleared.
  have hcleared : ∀ kind ∈ answer.2, registry.Cleared sought answer.2 kind := by
    intro kind hkind
    rcases hexplored.cleared kind hkind with hbefore | hcleared
    · cases hbefore
    · exact hcleared
  obtain ⟨start, hstart, hpath⟩ := hreached
  have hmem : kind ∈ answer.2 := by
    induction hpath with
    | refl => exact hused hstart
    | tail _ hstep ih =>
        obtain ⟨decl, hclass, member, hmember, value, hvalue, hnext⟩ := hstep
        exact (hcleared _ ih decl hclass member hmember).uses value hvalue hnext
  exact ⟨hmem, hcleared kind hmem⟩

/-- **The search for circular defaults decides reachability.**  After any operations, the search
from a default value comes to an end by itself.  It gives an answer exactly if some reached
annotation type has a member of the sought type, and the answer is the name of such a type. -/
theorem circular?_iff_reached (operations : List Operation) (sought : String) (value : Expr) :
    let registry := after operations
    (∃ visited, registry.traceUses sought [] value.elements =
      some (registry.circular? sought value, visited)) ∧
    ((registry.circular? sought value).isSome ↔
      ∃ kind decl, registry.Reached value.elements kind ∧
        registry.findClass? kind = some decl ∧ decl.HasMemberOf sought) ∧
    ∀ name, registry.circular? sought value = some name →
      ∃ decl, registry.Reached value.elements name ∧ registry.findClass? name = some decl ∧
        decl.name = name ∧ decl.HasMemberOf sought := by
  intro registry
  have hconsistent : registry.Consistent := consistent_after operations
  have htrace := (traceUses_eq_of_room sought
    (fun name => mem_entryNames_of_findClass? hconsistent) registry.unvisited_entryNames_lt value).1
  have htraced := (registry.traced sought).1 _ _ _ htrace
  have hfound : ∀ name, registry.circular? sought value = some name →
      ∃ decl, registry.Reached value.elements name ∧ registry.findClass? name = some decl ∧
        decl.name = name ∧ decl.HasMemberOf sought := by
    intro name hname
    obtain ⟨kind, decl, hreached, hclass, hmember, rfl⟩ := htraced.found name hname
    obtain rfl : decl.name = kind := name_of_findClass? hconsistent hclass
    exact ⟨decl, hreached, hclass, rfl, hmember⟩
  refine ⟨⟨_, htrace⟩, ⟨fun hsome => ?_, ?_⟩, hfound⟩
  · obtain ⟨name, hname⟩ := Option.isSome_iff_exists.mp hsome
    obtain ⟨decl, hreached, hclass, -, hmember⟩ := hfound name hname
    exact ⟨name, decl, hreached, hclass, hmember⟩
  · rintro ⟨kind, decl, hreached, hclass, member, hmember, htype⟩
    -- Without an answer this type would be cleared, and so would its member.
    by_contra hnone
    have hcleared := (htraced.mem_of_reached (Option.not_isSome_iff_eq_none.mp hnone) hreached).2
    exact (hcleared decl hclass member hmember).type htype

end Registry

/-! ## Defaults in a circle -/

namespace Medals

/-- A value that uses an annotation type. -/
def award (kind : String) : Expr :=
  .annotationUse ⟨kind, [], none, none, .nowhere⟩

/-- An annotation type with one member and its default. -/
def medal (name memberType : String) (default : Expr) : ClassDecl where
  name := name
  kind := .annotationType
  methods := [{
    name := "value"
    returnType := .plain memberType
    body := some [.giveBack (some default) .nowhere] }]

/-- The defaults lead from `Gold` to `Silver`, on to `Bronze` and back to `Gold`. -/
def medals : Registry :=
  [medal "Gold" "Silver" (award "Silver"), medal "Silver" "Bronze" (award "Bronze"),
    medal "Bronze" "Ribbon" (award "Gold")].foldl
      (fun registry decl => (registry.declare decl "chest").1) ∅

example : medals.circular? "Silver" (award "Bronze") = some "Gold" := by decide

example : medals.circular? "Gold" (award "Bronze") = none := by decide

end Medals

end DeclCheck
