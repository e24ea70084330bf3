/-
# DeclCheck.Proofs.Inheritance.DefaultArguments — a method with default arguments overrides whatever
one of its shorter forms overrides.

A call may leave out the last of those parameters that have a default, wherever they stand, so a
method with defaults stands for several methods without any: its shortened forms.  The search
compares all of them at once with every supertype that it comes to.  It could as well be made for
each form by itself: the order of the supertypes does not depend on what is searched for, and at a
supertype the forms are compared one by one.
-/
import DeclCheck.Proofs.Inheritance.Preorder

namespace DeclCheck

/-! ## Shortened forms -/

/-- The parameters without the last `dropped` of those that have a default.  A parameter is one of
these if it has a default and fewer than `dropped` of those after it have one. -/
def Param.dropDefaulted (dropped : Nat) : List Param → List Param
  | [] => []
  | param :: rest =>
    if param.default.isSome ∧ rest.countP (·.default.isSome) < dropped then
      dropDefaulted dropped rest
    else param :: dropDefaulted dropped rest

namespace Method

/-- How many parameters have a default. -/
def defaultCount (method : Method) : Nat :=
  method.params.countP (·.default.isSome)

/-- The method without the last `dropped` of its parameters that have a default, and without any
default values. -/
def shortened (method : Method) (dropped : Nat) : Method :=
  { method with
    params := (Param.dropDefaulted dropped method.params).map fun param =>
      { param with default := none } }

end Method

theorem Param.dropDefaulted_zero (params : List Param) : dropDefaulted 0 params = params := by
  induction params with
  | nil => rfl
  | cons param rest ih => simp [dropDefaulted, ih]

/-- Keeping the first of the marked values drops the last of them. -/
theorem keepMarked_eq_dropDefaulted {α : Type} (value : Param → α) (dropped : Nat)
    (params : List Param) :
    keepMarked (params.countP (·.default.isSome) - dropped)
        ((params.map (·.default.isSome)).zip (params.map value)) =
      (Param.dropDefaulted dropped params).map value := by
  induction params with
  | nil => rfl
  | cons param rest ih =>
      by_cases hdefault : param.default.isSome
      · by_cases hlast : rest.countP (·.default.isSome) < dropped
        · -- The parameter is dropped, and so are all after it that have a default.
          have hall : rest.countP (·.default.isSome) - dropped = 0 := by omega
          have hnone : rest.countP (·.default.isSome) + 1 - dropped = 0 := by omega
          simp [keepMarked, Param.dropDefaulted, hdefault, hlast, hnone, ← ih, hall]
        · have hkept : rest.countP (·.default.isSome) + 1 - dropped =
              rest.countP (·.default.isSome) - dropped + 1 := by omega
          simp [keepMarked, Param.dropDefaulted, hdefault, hlast, hkept, ih]
      · simp [keepMarked, Param.dropDefaulted, hdefault, ih]

namespace Method

theorem params_ofMethodAt_shortened (method : Method) (dropped : Nat) (map : Substitution) :
    (Signature.ofMethodAt (method.shortened dropped) map).params =
      (Param.dropDefaulted dropped method.params).map fun param =>
        param.type.substitute (map.bindAll (Substitution.erasedBindings method.typeParams)) := by
  simp [Signature.ofMethodAt, Signature.ofMethod, Signature.substitute, shortened, paramTypes,
    Function.comp_def]

/-- The signatures that a method answers to are those of its shortened forms. -/
theorem variants_eq (method : Method) (map : Substitution) :
    method.variants map = (List.range (method.defaultCount + 1)).map fun dropped =>
      .ofMethodAt (method.shortened dropped) map := by
  have hcount : (method.params.map (·.default.isSome)).count true = method.defaultCount := by
    simp [defaultCount, List.count_eq_countP, List.countP_map, Function.comp_def]
  have hparams : (Signature.ofMethodAt method map).params = method.params.map fun param =>
      param.type.substitute (map.bindAll (Substitution.erasedBindings method.typeParams)) :=
    List.map_map
  unfold variants
  simp only [hcount, hparams]
  refine List.map_congr_left fun dropped _ => ?_
  show ({ Signature.ofMethodAt method map with params := _ } : Signature) =
    { Signature.ofMethodAt method map with
      params := (Signature.ofMethodAt (method.shortened dropped) map).params }
  rw [params_ofMethodAt_shortened, defaultCount, keepMarked_eq_dropDefaulted]

theorem defaultCount_shortened (method : Method) (dropped : Nat) :
    (method.shortened dropped).defaultCount = 0 := by
  simp [defaultCount, shortened, List.countP_map, Function.comp_def]

/-- A shortened form answers to its own signature only. -/
theorem variants_shortened (method : Method) (dropped : Nat) (map : Substitution) :
    (method.shortened dropped).variants map = [.ofMethodAt (method.shortened dropped) map] := by
  have hself : (method.shortened dropped).shortened 0 = method.shortened dropped := by
    simp [shortened, Param.dropDefaulted_zero, Function.comp_def]
  rw [variants_eq, defaultCount_shortened]
  show [Signature.ofMethodAt ((method.shortened dropped).shortened 0) map] = _
  rw [hself]

end Method

namespace Registry

variable {registry : Registry} {declaring : ClassDecl}

/-- The search ends and finds a method that is overridden. -/
def Confirms (registry : Registry) (declaring : ClassDecl) (method : Method) : Prop :=
  ∃ overridden, registry.searchOverridden declaring method = some (.found overridden)

theorem isSome_overriddenIn?_iff {wanted : List Signature} {supertype : Supertype} :
    (registry.overriddenIn? wanted supertype).isSome ↔
      ∃ decl, registry.class? supertype.id = some decl ∧ ∃ candidate ∈ decl.methods,
        ∃ signature ∈ wanted, signature.agrees (.ofMethodAt candidate supertype.map) = true := by
  cases hdecl : registry.class? supertype.id with
  | none => simp [overriddenIn?, hdecl]
  | some decl => simp [overriddenIn?, hdecl, Option.isSome_bind]

theorem confirms_iff {order : List Supertype} (horder : registry.preorder declaring = some order)
    (method : Method) :
    registry.Confirms declaring method ↔ ∃ supertype ∈ order,
      (registry.overriddenIn? (method.variants (.erased declaring)) supertype).isSome := by
  unfold Confirms
  rw [searchOverridden_eq_firstIn horder, ← List.findSome?_isSome_iff, Hierarchy.firstIn]
  show _ ↔ (order.findSome?
    (registry.hierarchy (method.variants (.erased declaring))).overridden?).isSome
  cases order.findSome?
    (registry.hierarchy (method.variants (.erased declaring))).overridden? <;> simp

/-- A supertype has an overridden method if it has one for some shortened form. -/
theorem isSome_overriddenIn?_variants (method : Method) (map : Substitution)
    (supertype : Supertype) :
    (registry.overriddenIn? (method.variants map) supertype).isSome ↔
      ∃ dropped ≤ method.defaultCount,
        (registry.overriddenIn? ((method.shortened dropped).variants map) supertype).isSome := by
  simp only [isSome_overriddenIn?_iff, Method.variants_shortened, Method.variants_eq method,
    List.mem_map, List.mem_range, Nat.lt_succ_iff, List.mem_singleton]
  constructor
  · rintro ⟨decl, hdecl, candidate, hmem, _, ⟨dropped, hle, rfl⟩, hagrees⟩
    exact ⟨dropped, hle, decl, hdecl, candidate, hmem, _, rfl, hagrees⟩
  · rintro ⟨dropped, hle, decl, hdecl, candidate, hmem, _, rfl, hagrees⟩
    exact ⟨decl, hdecl, candidate, hmem, _, ⟨dropped, hle, rfl⟩, hagrees⟩

/-- **Default arguments stand for shortened forms.**  If a class has finitely many supertypes, the
searches for a method and for each of its shortened forms end, and the method overrides an inherited
one exactly if one of these forms does. -/
theorem confirms_iff_shortened (registry : Registry) (declaring : ClassDecl) (method : Method)
    (hfinite : {supertype | registry.IsAbove declaring supertype}.Finite) :
    (registry.searchOverridden declaring method).isSome ∧
    (∀ dropped ≤ method.defaultCount,
      (registry.searchOverridden declaring (method.shortened dropped)).isSome) ∧
    (registry.Confirms declaring method ↔ ∃ dropped ≤ method.defaultCount,
      registry.Confirms declaring (method.shortened dropped)) := by
  obtain ⟨order, horder⟩ := exists_preorder hfinite
  have hends : ∀ method, (registry.searchOverridden declaring method).isSome := by
    intro method
    rw [searchOverridden_eq_firstIn horder]
    rfl
  refine ⟨hends method, fun dropped _ => hends (method.shortened dropped), ?_⟩
  simp only [confirms_iff horder, isSome_overriddenIn?_variants method]
  constructor
  · rintro ⟨supertype, hmem, dropped, hle, hhit⟩
    exact ⟨dropped, hle, supertype, hmem, hhit⟩
  · rintro ⟨dropped, hle, supertype, hmem, hhit⟩
    exact ⟨supertype, hmem, dropped, hle, hhit⟩

end Registry

/-! ## A greeting

`Host` extends `Greeter` and declares `greet(greeting = "hi", name, times = "1")`.  `Greeter` has a
`greet` with two parameters, which is what is left when only the last default is used. -/

namespace Reception

/-- `greet(words, whom)` is declared here. -/
def greeter : ClassDecl where
  name := "Greeter"
  methods := [{
    name := "greet"
    params := [
      { name := "words", type := .plain "Text" },
      { name := "whom", type := .plain "Text" }] }]

/-- The class that declares `greet` again. -/
def host : ClassDecl where
  name := "Host"
  superclass := some (.plain "Greeter")

/-- `greet(greeting = "hi", name, times = 1)` -/
def greet : Method where
  name := "greet"
  params := [
    { name := "greeting"
      type := .plain "Text"
      default := some (.literal (.string "hi") .nowhere) },
    { name := "name", type := .plain "Text" },
    { name := "times"
      type := .primitive "int"
      default := some (.literal (.number "1") .nowhere) }]

example : [0, 1, 2].map (fun dropped => (greet.shortened dropped).paramTypes) =
    [[.plain "Text", .plain "Text", .primitive "int"], [.plain "Text", .plain "Text"],
      [.plain "Text"]] := by decide

/-- `Greeter` is the only class that is known. -/
def classes : Registry :=
  ((∅ : Registry).declare greeter "house").1

/-- The form without `times` overrides, so the method does. -/
theorem confirms_greet :
    {supertype | classes.IsAbove host supertype}.Finite ∧ 1 ≤ greet.defaultCount ∧
    classes.Confirms host (greet.shortened 1) ∧ classes.Confirms host greet := by
  have hsimple : classes.SimpleArguments host := by decide
  have hfinite := Registry.finite_isAbove hsimple
  have hcount : 1 ≤ greet.defaultCount := by decide
  have hinterfaces : classes.interfacesOf host (.erased host) = [] := by decide
  have hparent : classes.parentOf? host (.erased host) = some ⟨⟨0⟩, ∅⟩ := by decide
  have hhit : classes.overriddenIn? ((greet.shortened 1).variants (.erased host)) ⟨⟨0⟩, ∅⟩ =
      some ⟨⟨0⟩, "void greet(Text, Text)"⟩ := by decide
  have hshort : classes.Confirms host (greet.shortened 1) := by
    refine ⟨⟨⟨0⟩, "void greet(Text, Text)"⟩,
      Registry.searchOverridden_eq_some_iff.mpr ⟨[⟨⟨0⟩, ∅⟩], ?_⟩⟩
    rw [hinterfaces, hparent]
    exact .hit .nil List.not_mem_nil hhit
  obtain ⟨-, -, hiff⟩ := Registry.confirms_iff_shortened classes host greet hfinite
  exact ⟨hfinite, hcount, hshort, hiff.mpr ⟨1, hcount, hshort⟩⟩

end Reception

end DeclCheck
