/-
# DeclCheck.Generics.Signature — method signatures and when they agree.

Two signatures agree when names are equal and parameters have equal erasures, position by position.
The result type plays no part.
-/
import DeclCheck.Generics.Substitution

namespace DeclCheck

/-- What methods are compared by: a name, parameter types and a return type. -/
structure Signature where
  name : String
  params : List TypeExpr
  returnType : TypeExpr
deriving DecidableEq, Inhabited

namespace Signature

/-- The signature of a method as it is declared. -/
def ofMethod (method : Method) : Signature :=
  ⟨method.name, method.paramTypes, method.returnType⟩

/-- Whether the two agree in name and erased parameters. -/
def agrees (a b : Signature) : Bool :=
  a.name = b.name && a.params.map TypeExpr.erasure = b.params.map TypeExpr.erasure

/-- The signature with bound variables replaced in every type.  The name stays. -/
def substitute (map : Substitution) (signature : Signature) : Signature where
  name := signature.name
  params := signature.params.map (·.substitute map)
  returnType := signature.returnType.substitute map

/-- A method's signature at a level of the hierarchy.  The method's own type parameters hide the
level's bindings and stand for their erasures. -/
def ofMethodAt (method : Method) (map : Substitution) : Signature :=
  (ofMethod method).substitute (map.bindAll (Substitution.erasedBindings method.typeParams))

end Signature

end DeclCheck
