/-
# DeclCheck.Inheritance.Supertype — the classes above a class.

A supertype is a class together with what its type parameters stand for there: the same interface
may be inherited twice under different arguments, and those are two supertypes.  A reference whose
class is not known leads nowhere.
-/
import DeclCheck.Generics.Signature
import DeclCheck.Registry.Basic

namespace DeclCheck

/-- A class at a level of a hierarchy. -/
structure Supertype where
  id : ClassId
  map : Substitution
deriving DecidableEq

namespace Registry

/-- The supertype that a reference leads to, seen from the level `outer`. -/
def supertype? (registry : Registry) (reference : TypeExpr) (outer : Substitution) :
    Option Supertype := do
  let name ← reference.className?
  let id ← registry.find? name
  let decl ← registry.class? id
  return ⟨id, .ofReference reference decl outer⟩

/-- The interfaces that a declaration names, seen from its level. -/
def interfacesOf (registry : Registry) (decl : ClassDecl) (map : Substitution) : List Supertype :=
  decl.interfaces.filterMap (registry.supertype? · map)

/-- The superclass of a declaration, seen from its level. -/
def parentOf? (registry : Registry) (decl : ClassDecl) (map : Substitution) : Option Supertype :=
  decl.parent?.bind (registry.supertype? · map)

/-- The interfaces directly above a supertype. -/
def interfacesAbove (registry : Registry) (supertype : Supertype) : List Supertype :=
  match registry.class? supertype.id with
  | some decl => registry.interfacesOf decl supertype.map
  | none => []

/-- The superclass directly above a supertype. -/
def parentAbove? (registry : Registry) (supertype : Supertype) : Option Supertype :=
  (registry.class? supertype.id).bind (registry.parentOf? · supertype.map)

end Registry

end DeclCheck
