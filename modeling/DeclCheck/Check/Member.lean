/-
# DeclCheck.Check.Member — the members of an annotation definition.

A member takes no parameters, throws nothing, and has a type that constants can have.  Its default
value must not lead back to the definition: a default that uses another annotation type leads to
the types of that one's members and to their defaults in turn.
-/
import DeclCheck.Registry.Basic

namespace DeclCheck

/-- Try `step` on the elements in turn until one gives an answer, passing a state along. -/
def firstAnswer (step : σ → α → Option β × σ) : σ → List α → Option β × σ
  | state, [] => (none, state)
  | state, value :: rest =>
    match step state value with
    | (some answer, state) => (some answer, state)
    | (none, state) => firstAnswer step state rest

/-- The name of the class of strings. -/
def stringName : String := "java.lang.String"

/-- The name of the class of class literals. -/
def className : String := "java.lang.Class"

namespace Registry

variable (registry : Registry)

/-- Whether a type that is no array may be the type of a member.  A class that is not known is
given the benefit of the doubt. -/
def isMemberElement : TypeExpr → Bool
  | .primitive _ => true
  | .named name _ =>
    name = stringName || name = className ||
      match registry.findClass? name with
      | some decl => decl.kind = .enumeration || decl.kind = .annotationType
      | none => true
  | _ => false

/-- Whether a type may be the type of a member: such a type, or an array of one. -/
def isMemberType : TypeExpr → Bool
  | .array element => registry.isMemberElement element
  | other => registry.isMemberElement other

/-- The definition whose member has the type `sought`, reached from a default value.  Annotation
types in `visited` are passed over; `count` bounds how many may be entered inside one another. -/
def circularFrom (sought : String) : Nat → List String → Expr → Option String × List String
  | 0, visited, _ => (none, visited)
  | count + 1, visited, value =>
    firstAnswer (fun visited element =>
      match element.annotationUse? with
      | none => (none, visited)
      | some use =>
        if use.kind ∈ visited then (none, visited)
        else
          match registry.findClass? use.kind with
          | none => (none, use.kind :: visited)
          | some decl =>
            firstAnswer (fun visited member =>
              if member.returnType.innermost.className? = some sought then
                (some decl.name, visited)
              else
                match member.returnedValue? with
                | some nested => circularFrom sought count visited nested
                | none => (none, visited)) (use.kind :: visited) decl.methods)
      visited value.elements

/-- The definition through which a default value leads back to `sought`.  No more types can be
entered inside one another than there are entries. -/
def circular? (sought : String) (value : Expr) : Option String :=
  (registry.circularFrom sought (registry.size + 1) [] value).1

/-- Check one member of an annotation definition.  A static initializer is no member. -/
def checkMember (definition : ClassDecl) (member : Method) : List Diagnostic :=
  if member.staticInitializer then []
  else
    let report (broken : Bool) (problem : Problem) : List Diagnostic :=
      if broken then [{ problem, span := member.span }] else []
    report (!member.params.isEmpty) .memberParameters ++
    report (!member.exceptions.isEmpty) .memberThrows ++
    report (!registry.isMemberType member.returnType)
      (.memberType member.returnType member.name definition.name) ++
    match member.returnedValue? with
    | none => []
    | some value =>
      match registry.circular? definition.name value with
      | some culprit => [{ problem := .circularDefault culprit, span := value.span }]
      | none => []

end Registry

end DeclCheck
