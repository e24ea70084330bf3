/-
# DeclCheck.Proofs.Registry.Bare — what the checks read of a registry.

The bare form of a registry has the bare form of every declaration in it, and everything else as it
is: origins, redirects, annotation types, name maps.  Every question that a check asks has the same
answer in the bare registry, up to the bare form of declarations that are handed out.  So a check
that changes nothing but annotations and marks cannot be noticed by another one.
-/
import DeclCheck.Check.Member
import DeclCheck.Inheritance.Search
import DeclCheck.Proofs.Tree.Bare

namespace DeclCheck

/-- The entry with its declaration bare.  What it said as an annotation definition is kept. -/
def Entry.bare (entry : Entry) : Entry :=
  { entry with decl := entry.decl.bare }

theorem Method.variants_bare (method : Method) (map : Substitution) :
    method.bare.variants map = method.variants map := by
  have hmarks : method.bare.params.map (·.default.isSome) =
      method.params.map (·.default.isSome) := by
    rw [Method.bare, List.map_map]
    refine List.map_congr_left fun param _ => ?_
    cases hdefault : param.default <;> simp [Param.bare, Expr.bareOption, hdefault]
  unfold variants
  rw [hmarks, Signature.ofMethodAt_bare]

namespace Registry

variable (registry : Registry)

/-- The registry with every declaration bare. -/
def bare : Registry :=
  { registry with entries := registry.entries.map Entry.bare }

/-! ## Entries and names -/

@[simp]
theorem entry?_bare (id : ClassId) :
    registry.bare.entry? id = (registry.entry? id).map Entry.bare := by
  simp [bare, entry?]

@[simp]
theorem class?_bare (id : ClassId) :
    registry.bare.class? id = (registry.class? id).map ClassDecl.bare := by
  cases hentry : registry.entry? id <;> simp [class?, hentry, Entry.bare]

@[simp]
theorem redirect?_bare (id : ClassId) : registry.bare.redirect? id = registry.redirect? id := by
  cases hentry : registry.entry? id <;> simp [redirect?, hentry, Entry.bare]

theorem follow_bare (count : Nat) (id : ClassId) :
    registry.bare.follow count id = registry.follow count id := by
  induction count generalizing id with
  | zero => rfl
  | succ count ih => simp only [follow, redirect?_bare, ih]

@[simp]
theorem resolve_bare (id : ClassId) : registry.bare.resolve id = registry.resolve id := by
  have hsize : registry.bare.size = registry.size := by simp [size, bare]
  rw [resolve, resolve, hsize, follow_bare]

@[simp]
theorem find?_bare (name : String) : registry.bare.find? name = registry.find? name := by
  have hlookup : (registry.bare.lookup? name).map registry.bare.resolve =
      (registry.lookup? name).map registry.resolve := by
    have hresolve : registry.bare.resolve = registry.resolve := funext registry.resolve_bare
    rw [hresolve]
    rfl
  unfold find?
  rw [hlookup]
  cases (registry.lookup? name).map registry.resolve with
  | none => rfl
  | some id =>
      cases hentry : registry.entry? id with
      | none => simp only [entry?_bare, hentry, Option.map_none]; rfl
      | some entry => simp only [entry?_bare, hentry, Option.map_some]; rfl

@[simp]
theorem findClass?_bare (name : String) :
    registry.bare.findClass? name = (registry.findClass? name).map ClassDecl.bare := by
  cases hfind : registry.find? name <;> simp [findClass?, hfind]

@[simp]
theorem annotationType?_bare (name : String) :
    registry.bare.annotationType? name = registry.annotationType? name := by
  cases hfind : registry.find? name with
  | none => simp [annotationType?, hfind]
  | some id =>
      cases hentry : registry.entry? id <;> simp [annotationType?, hfind, hentry, Entry.bare]

theorem unitFrom_bare (count : Nat) (id : ClassId) :
    registry.bare.unitFrom count id = registry.unitFrom count id := by
  induction count generalizing id with
  | zero => rfl
  | succ count ih =>
      have horigin : (registry.bare.entry? id).map Entry.origin =
          (registry.entry? id).map Entry.origin := by
        cases hentry : registry.entry? id <;> simp [hentry, Entry.bare]
      simp only [unitFrom, horigin, ih]

@[simp]
theorem unitOf?_bare (id : ClassId) : registry.bare.unitOf? id = registry.unitOf? id :=
  registry.unitFrom_bare (id.index + 1) id

/-! ## The search for overridden methods -/

@[simp]
theorem supertype?_bare (reference : TypeExpr) (outer : Substitution) :
    registry.bare.supertype? reference outer = registry.supertype? reference outer := by
  cases hname : reference.className? with
  | none => simp [supertype?, hname]
  | some name =>
      cases hfind : registry.find? name with
      | none => simp [supertype?, hname, hfind]
      | some id =>
          cases hclass : registry.class? id with
          | none => simp [supertype?, hname, hfind, hclass]
          | some decl => simp [supertype?, hname, hfind, hclass]; rfl

theorem interfacesOf_bare (decl : ClassDecl) (map : Substitution) :
    registry.bare.interfacesOf decl map = registry.interfacesOf decl map := by
  simp only [interfacesOf, supertype?_bare]

theorem parentOf?_bare (decl : ClassDecl) (map : Substitution) :
    registry.bare.parentOf? decl map = registry.parentOf? decl map := by
  simp only [parentOf?, supertype?_bare]

theorem interfacesAbove_bare (supertype : Supertype) :
    registry.bare.interfacesAbove supertype = registry.interfacesAbove supertype := by
  cases hclass : registry.class? supertype.id with
  | none => simp [interfacesAbove, hclass]
  | some decl =>
      simp only [interfacesAbove, class?_bare, hclass, Option.map_some]
      exact registry.interfacesOf_bare decl.bare supertype.map

theorem parentAbove?_bare (supertype : Supertype) :
    registry.bare.parentAbove? supertype = registry.parentAbove? supertype := by
  cases hclass : registry.class? supertype.id with
  | none => simp [parentAbove?, hclass]
  | some decl =>
      simp only [parentAbove?, class?_bare, hclass, Option.map_some, Option.bind_some]
      exact registry.parentOf?_bare decl.bare supertype.map

theorem overriddenIn?_bare (wanted : List Signature) (supertype : Supertype) :
    registry.bare.overriddenIn? wanted supertype = registry.overriddenIn? wanted supertype := by
  cases hclass : registry.class? supertype.id with
  | none => simp [overriddenIn?, hclass]
  | some decl =>
      have hmethods : decl.bare.methods = decl.methods.map Method.bare := rfl
      simp only [overriddenIn?, class?_bare, hclass, Option.map_some, Option.bind_eq_bind,
        Option.bind_some, hmethods, List.find?_map, Function.comp_def, Signature.ofMethodAt_bare]
      cases decl.methods.find? _ with
      | none => rfl
      | some method => simp [Method.descriptor_bare]

theorem hierarchy_bare (wanted : List Signature) :
    registry.bare.hierarchy wanted = registry.hierarchy wanted := by
  simp only [hierarchy, Hierarchy.mk.injEq]
  exact ⟨funext registry.interfacesAbove_bare, funext registry.parentAbove?_bare,
    funext (registry.overriddenIn?_bare wanted)⟩

@[simp]
theorem searchOverridden_bare (declaring : ClassDecl) (method : Method) :
    registry.bare.searchOverridden declaring method =
      registry.searchOverridden declaring method := by
  simp only [searchOverridden, hierarchy_bare, interfacesOf_bare, parentOf?_bare]

/-! ## The check of annotation members -/

theorem isMemberElement_bare (type : TypeExpr) :
    registry.bare.isMemberElement type = registry.isMemberElement type := by
  cases type with
  | named name arguments =>
      simp only [isMemberElement, findClass?_bare]
      cases registry.findClass? name <;> rfl
  | _ => rfl

theorem isMemberType_bare (type : TypeExpr) :
    registry.bare.isMemberType type = registry.isMemberType type := by
  cases type <;> simp only [isMemberType, isMemberElement_bare]

theorem firstAnswer_map {σ α β γ : Type} (step : σ → β → Option γ × σ) (change : α → β) (state : σ)
    (values : List α) :
    firstAnswer step state (values.map change) =
      firstAnswer (fun state value => step state (change value)) state values := by
  induction values generalizing state with
  | nil => rfl
  | cons value rest ih => simp only [List.map_cons, firstAnswer, ih]

/-- Of a default value only the annotations among its elements are looked at. -/
theorem circularFrom_bare_value (sought : String) (count : Nat) (visited : List String)
    (value : Expr) :
    registry.circularFrom sought count visited value.bare =
      registry.circularFrom sought count visited value := by
  cases count with
  | zero => rfl
  | succ count =>
      simp only [circularFrom, Expr.elements_bare, firstAnswer_map, Expr.annotationUse?_bare]

theorem circularFrom_bare (sought : String) (count : Nat) (visited : List String) (value : Expr) :
    registry.bare.circularFrom sought count visited value =
      registry.circularFrom sought count visited value := by
  induction count generalizing visited value with
  | zero => rfl
  | succ count ih =>
      unfold circularFrom
      congr 1
      funext visited element
      cases element.annotationUse? with
      | none => rfl
      | some use =>
          simp only [findClass?_bare]
          cases registry.findClass? use.kind with
          | none => rfl
          | some decl =>
              have hmethods : decl.bare.methods = decl.methods.map Method.bare := rfl
              simp only [Option.map_some, hmethods, firstAnswer_map]
              congr 2
              funext visited member
              simp only [Method.returnedValue?_bare]
              cases member.returnedValue? with
              | none => rfl
              | some nested =>
                  simp only [Option.map_some, ih, circularFrom_bare_value]
                  rfl

@[simp]
theorem checkMember_bare (definition : ClassDecl) (member : Method) :
    registry.bare.checkMember definition member = registry.checkMember definition member := by
  have hcircular : ∀ value, registry.bare.circular? definition.name value =
      registry.circular? definition.name value := by
    intro value
    have hsize : registry.bare.size = registry.size := by simp [size, bare]
    rw [circular?, circular?, hsize, circularFrom_bare]
  simp only [checkMember, isMemberType_bare, hcircular]

/-! ## What is searched for and what is checked -/

/-- The search looks at the bare form of the class and of the method that it starts from. -/
theorem searchOverridden_congr_bare {a b : ClassDecl} {m n : Method} (hclass : a.bare = b.bare)
    (hmethod : m.bare = n.bare) :
    registry.searchOverridden a m = registry.searchOverridden b n := by
  have hbare : ∀ (decl : ClassDecl) (method : Method),
      registry.searchOverridden decl.bare method.bare = registry.searchOverridden decl method := by
    intro decl method
    unfold searchOverridden
    simp only [Method.variants_bare]
    rfl
  rw [← hbare a m, hclass, hmethod, hbare]

/-- The check of a member looks at its bare form and at the name of the definition. -/
theorem checkMember_congr_bare {a b : ClassDecl} {m n : Method} (hclass : a.name = b.name)
    (hmember : m.bare = n.bare) : registry.checkMember a m = registry.checkMember b n := by
  have hbare : ∀ (decl : ClassDecl) (member : Method),
      registry.checkMember decl member.bare = registry.checkMember decl member := by
    intro decl member
    have hparams : member.bare.params.isEmpty = member.params.isEmpty := List.isEmpty_map
    have hspan : ∀ value : Expr, value.bare.span = value.span := by
      intro value
      cases value <;> rfl
    have hcircular : ∀ value : Expr, registry.circular? decl.name value.bare =
        registry.circular? decl.name value := by
      intro value
      rw [circular?, circular?, circularFrom_bare_value]
    unfold checkMember
    rw [Method.returnedValue?_bare, hparams]
    cases member.returnedValue? with
    | none => rfl
    | some value =>
        simp only [Option.map_some, hcircular, hspan]
        rfl
  have hname : registry.checkMember a n = registry.checkMember b n := by
    unfold checkMember
    rw [hclass]
  rw [← hbare a m, hmember, hbare, hname]

/-! ## Writing back -/

/-- A declaration that differs only in annotations and marks leaves no trace in the bare form. -/
theorem bare_setDecl {id : ClassId} {old decl : ClassDecl} (hold : registry.class? id = some old)
    (hbare : decl.bare = old.bare) : (registry.setDecl id decl).bare = registry.bare := by
  have hentries : (registry.setDecl id decl).entries.map Entry.bare =
      registry.entries.map Entry.bare := by
    apply Array.ext_getElem?
    intro index
    simp only [setDecl, modifyEntry, Array.getElem?_map, Array.getElem?_modify]
    by_cases hindex : id.index = index
    · subst hindex
      cases hentry : registry.entries[id.index]? with
      | none => simp
      | some entry =>
          have hdecl : entry.decl = old := by
            simpa [class?, entry?, hentry] using hold
          simp [Entry.bare, hdecl, hbare]
    · simp [hindex]
  simp only [bare, hentries]
  rfl

end Registry

end DeclCheck
