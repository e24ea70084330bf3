/-
# DeclCheck.Generics.Substitution — replacing type variables.

A substitution is one level of a class hierarchy: it binds the type parameters of a class to the
types that a reference to the class gives them.  Its bindings are kept sorted by name, so two
substitutions that bind alike are equal.  Variables without a binding stay.

A level is made from the one below it: the arguments of a reference are first read at the lower
level (`ofReference`).  A reference without arguments binds every parameter to its erasure.
-/
import DeclCheck.Tree.Declaration

namespace DeclCheck

/-- Set the type of `name` in bindings that are sorted by name. -/
def bindSorted (name : String) (type : TypeExpr) :
    List (String × TypeExpr) → List (String × TypeExpr)
  | [] => [(name, type)]
  | (key, old) :: rest =>
    if name < key then (name, type) :: (key, old) :: rest
    else if name = key then (name, type) :: rest
    else (key, old) :: bindSorted name type rest

theorem mem_keys_bindSorted {name key : String} {type : TypeExpr}
    {bindings : List (String × TypeExpr)}
    (h : key ∈ (bindSorted name type bindings).map Prod.fst) :
    key = name ∨ key ∈ bindings.map Prod.fst := by
  induction bindings with
  | nil => simpa [bindSorted] using h
  | cons binding rest ih =>
    obtain ⟨first, old⟩ := binding
    simp only [bindSorted] at h
    split at h
    · simpa using h
    · split at h
      · next e => subst e; simp at h ⊢; rcases h with h | h <;> simp [h]
      · simp only [List.map_cons, List.mem_cons] at h ⊢
        rcases h with h | h
        · exact Or.inr (Or.inl h)
        · rcases ih h with h | h
          · exact Or.inl h
          · exact Or.inr (Or.inr h)

theorem pairwise_bindSorted {name : String} {type : TypeExpr}
    {bindings : List (String × TypeExpr)} (h : (bindings.map Prod.fst).Pairwise (· < ·)) :
    ((bindSorted name type bindings).map Prod.fst).Pairwise (· < ·) := by
  induction bindings with
  | nil => simp [bindSorted]
  | cons binding rest ih =>
    obtain ⟨first, old⟩ := binding
    simp only [List.map_cons, List.pairwise_cons] at h
    simp only [bindSorted]
    split
    · next lt =>
      simp only [List.map_cons, List.pairwise_cons, List.mem_cons]
      refine ⟨?_, h⟩
      rintro key (rfl | mem)
      · exact lt
      · exact String.lt_trans lt (h.1 key mem)
    · split
      · next e => subst e; simpa using h
      · next notLt ne =>
        simp only [List.map_cons, List.pairwise_cons]
        refine ⟨?_, ih h.2⟩
        intro key mem
        rcases mem_keys_bindSorted mem with rfl | mem
        · exact String.not_le.1 fun le => ne (String.le_antisymm le (String.not_lt.1 notLt))
        · exact h.1 key mem

theorem lookup_bindSorted (name other : String) (type : TypeExpr)
    (bindings : List (String × TypeExpr)) :
    (bindSorted name type bindings).lookup other =
      if other = name then some type else bindings.lookup other := by
  induction bindings with
  | nil => simp [bindSorted, lookup_cons_eq]
  | cons binding rest ih =>
    obtain ⟨first, old⟩ := binding
    simp only [bindSorted]
    split
    · simp [lookup_cons_eq]
    · split
      · next e => subst e; by_cases k : other = name <;> simp [lookup_cons_eq, k]
      · next ne =>
        rw [lookup_cons_eq, lookup_cons_eq, ih]
        by_cases k : other = first
        · have differ : ¬ first = name := fun e => ne e.symm
          simp [k, differ]
        · simp [k]

/-- Bindings of type variables, sorted by name. -/
structure Substitution where
  bindings : List (String × TypeExpr)
  sorted : (bindings.map Prod.fst).Pairwise (· < ·)
deriving DecidableEq

namespace Substitution

/-- The substitution that binds nothing. -/
def empty : Substitution := ⟨[], List.Pairwise.nil⟩

instance : EmptyCollection Substitution := ⟨empty⟩

instance : Inhabited Substitution := ⟨empty⟩

/-- The type that a variable is bound to. -/
def get? (map : Substitution) (name : String) : Option TypeExpr :=
  map.bindings.lookup name

/-- Bind a variable, in place of what it was bound to before. -/
def bind (map : Substitution) (name : String) (type : TypeExpr) : Substitution :=
  ⟨bindSorted name type map.bindings, pairwise_bindSorted map.sorted⟩

@[simp]
theorem get?_empty (name : String) : (∅ : Substitution).get? name = none := rfl

theorem get?_bind (map : Substitution) (name other : String) (type : TypeExpr) :
    (map.bind name type).get? other = if other = name then some type else map.get? other :=
  lookup_bindSorted name other type map.bindings

/-- Add the bindings one after another; the last one of a name counts. -/
def bindAll (map : Substitution) (bindings : List (String × TypeExpr)) : Substitution :=
  bindings.foldl (fun map binding => map.bind binding.1 binding.2) map

/-- The substitution of a list of bindings; the last one of a name counts. -/
def ofList (bindings : List (String × TypeExpr)) : Substitution :=
  bindAll ∅ bindings

end Substitution

namespace TypeExpr

mutual

/-- The type with its bound variables replaced. -/
def substitute (map : Substitution) : TypeExpr → TypeExpr
  | .variable name => (map.get? name).getD (.variable name)
  | .named name arguments => .named name (substituteAll map arguments)
  | .array element => .array (element.substitute map)
  | .wildcard kind bound => .wildcard kind (substituteBound map bound)
  | .primitive name => .primitive name
  | .void => .void

/-- The types of a list, each with its bound variables replaced. -/
def substituteAll (map : Substitution) : List TypeExpr → List TypeExpr
  | [] => []
  | type :: rest => type.substitute map :: substituteAll map rest

/-- The bound of a wildcard with its bound variables replaced, if there is one. -/
def substituteBound (map : Substitution) : Option TypeExpr → Option TypeExpr
  | none => none
  | some bound => some (bound.substitute map)

end

end TypeExpr

namespace Substitution

/-- Each parameter with its erasure. -/
def erasedBindings (params : List TypeParam) : List (String × TypeExpr) :=
  params.map fun param => (param.name, param.erasure)

/-- The level of a class that is used without arguments. -/
def erased (decl : ClassDecl) : Substitution :=
  ofList (erasedBindings decl.typeParams)

/-- The level that `reference` makes of `decl`, seen from the level `outer` below. -/
def ofReference (reference : TypeExpr) (decl : ClassDecl) (outer : Substitution) : Substitution :=
  match reference.arguments with
  | [] => erased decl
  | first :: rest =>
    ofList <| (decl.typeParams.zip (first :: rest)).map fun (param, argument) =>
      (param.name, argument.substitute outer)

end Substitution

end DeclCheck
