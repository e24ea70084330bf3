/-
# DeclCheck.Inheritance.Search — does a method override an inherited one?

The search climbs from the declaring class through its superclasses.  At each class it looks at the
class's own methods (not those of the declaring class), then at its interfaces depth first: an
interface before the interfaces above it, in declaration order.  A supertype is looked at once; a
superclass that was met before ends the climb.  Within a class the first declared method that agrees
with the searched one counts.

A method with default arguments stands for several: the one with all parameters, and those without
its last one, two, ... defaulted parameters.

Type arguments can grow without end along a cyclic hierarchy (`A<T>` below `A<List<T>>`).  The
search then has no end and no answer, which is `none`.
-/
import DeclCheck.Inheritance.Supertype

namespace DeclCheck

/-! ## What is searched for -/

/-- The values not marked as droppable, and the first `count` of those that are. -/
def keepMarked : Nat → List (Bool × α) → List α
  | _, [] => []
  | count, (false, value) :: rest => value :: keepMarked count rest
  | 0, (true, _) :: rest => keepMarked 0 rest
  | count + 1, (true, value) :: rest => value :: keepMarked count rest

/-- The signatures a method answers to: with all its parameters, then without the last one, two,
... of those that have a default. -/
def Method.variants (method : Method) (map : Substitution) : List Signature :=
  let full := Signature.ofMethodAt method map
  let marks := method.params.map (·.default.isSome)
  let defaults := marks.count true
  (List.range (defaults + 1)).map fun dropped =>
    { full with params := keepMarked (defaults - dropped) (marks.zip full.params) }

/-- The inherited method that was found. -/
structure Overridden where
  owner : ClassId
  /-- As declared by the owner. -/
  descriptor : String
deriving DecidableEq

/-- How a search that comes to an end ends. -/
inductive SearchOutcome where
  | found (overridden : Overridden)
  | exhausted
deriving DecidableEq

/-! ## The search -/

/-- What the search asks about the supertypes of a class. -/
structure Hierarchy where
  interfaces : Supertype → List Supertype
  parent? : Supertype → Option Supertype
  /-- The method that is searched for, if the supertype has it. -/
  overridden? : Supertype → Option Overridden

namespace Hierarchy

/-- Look at the supertypes `next` and the interfaces above them, depth first.  Supertypes in
`visited` are passed over; those looked at are added to it. -/
def searchInterfaces (hierarchy : Hierarchy) (visited next : List Supertype) :
    Option (SearchOutcome × List Supertype) :=
  match next with
  | [] => some (.exhausted, visited)
  | supertype :: rest =>
    if supertype ∈ visited then hierarchy |>.searchInterfaces visited rest
    else
      match hierarchy.overridden? supertype with
      | some overridden => some (.found overridden, supertype :: visited)
      | none =>
        hierarchy |>.searchInterfaces (supertype :: visited)
          (hierarchy.interfaces supertype ++ rest)
partial_fixpoint

/-- Look at the interfaces of a class, then at its superclass, and climb on from there. -/
def climb (hierarchy : Hierarchy) (visited interfaces : List Supertype)
    (parent? : Option Supertype) : Option (SearchOutcome × List Supertype) :=
  match hierarchy.searchInterfaces visited interfaces with
  | some (.exhausted, visited) =>
    match parent? with
    | none => some (.exhausted, visited)
    | some parent =>
      if parent ∈ visited then some (.exhausted, visited)
      else
        match hierarchy.overridden? parent with
        | some overridden => some (.found overridden, parent :: visited)
        | none =>
          hierarchy |>.climb (parent :: visited) (hierarchy.interfaces parent)
            (hierarchy.parent? parent)
  | stopped => stopped
partial_fixpoint

end Hierarchy

namespace Registry

/-- The first method of a supertype that agrees with a wanted signature. -/
def overriddenIn? (registry : Registry) (wanted : List Signature) (supertype : Supertype) :
    Option Overridden := do
  let decl ← registry.class? supertype.id
  let method ← decl.methods.find? fun method =>
    wanted.any (·.agrees (.ofMethodAt method supertype.map))
  return ⟨supertype.id, method.descriptor⟩

/-- The supertypes in a registry, and where they have a wanted method. -/
def hierarchy (registry : Registry) (wanted : List Signature) : Hierarchy where
  interfaces := registry.interfacesAbove
  parent? := registry.parentAbove?
  overridden? := registry.overriddenIn? wanted

/-- Search what `method` of `declaring` overrides. -/
def searchOverridden (registry : Registry) (declaring : ClassDecl) (method : Method) :
    Option SearchOutcome :=
  let map := Substitution.erased declaring
  ((registry.hierarchy (method.variants map)).climb [] (registry.interfacesOf declaring map)
    (registry.parentOf? declaring map)).map (·.1)

end Registry

end DeclCheck
