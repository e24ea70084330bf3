/-
# DeclCheck.Tree.Declaration — fields, methods and classes.

Absent parts have their default here once and for all, so a declaration can be written down by its
telling parts only and a reader fills in the rest by the same values.
-/
import DeclCheck.Tree.Body
import DeclCheck.Text.LetterCase

namespace DeclCheck

/-- The kinds of classes. -/
inductive ClassKind where
  | ordinary
  | interface
  | enumeration
  | annotationType
deriving DecidableEq, Inhabited

/-- The package declaration of a source unit. -/
structure Package where
  name : String
  annotations : List AnnotationUse := []
  span : Span := .nowhere

/-- A field of a class. -/
structure Field where
  name : String
  type : TypeExpr
  annotations : List AnnotationUse := []
  initializer : Option Expr := none
  isStatic : Bool := false
  deprecated : Bool := false
  span : Span := .nowhere

/-- A parameter of a method or constructor. -/
structure Param where
  name : String
  type : TypeExpr
  annotations : List AnnotationUse := []
  default : Option Expr := none
  span : Span := .nowhere

/-- A method or a constructor. -/
structure Method where
  name : String
  typeParams : List TypeParam := []
  params : List Param := []
  returnType : TypeExpr := .void
  exceptions : List TypeExpr := []
  annotations : List AnnotationUse := []
  /-- Absent for abstract methods. -/
  body : Option (List Stmt) := none
  isStatic : Bool := false
  staticInitializer : Bool := false
  /-- An overload made from a method with default arguments. -/
  defaultVariant : Bool := false
  deprecated : Bool := false
  span : Span := .nowhere

/-- A class, interface, enum or annotation type. -/
structure ClassDecl where
  name : String
  kind : ClassKind := .ordinary
  typeParams : List TypeParam := []
  superclass : Option TypeExpr := none
  interfaces : List TypeExpr := []
  annotations : List AnnotationUse := []
  fields : List Field := []
  constructors : List Method := []
  methods : List Method := []
  package : Option Package := none
  /-- The class around a nested one. -/
  enclosing : Option String := none
  /-- Made from the body of a script rather than from a class statement. -/
  scriptBody : Bool := false
  deprecated : Bool := false
  /-- Some declaration of the class carries an annotation. -/
  annotated : Bool := false
  span : Span := .nowhere

/-! ## Methods -/

/-- A property's name from the rest of an accessor's name: the first letter is lowered, unless
the first two are both capitals. -/
def decapitalize : List Char → List Char
  | [] => []
  | first :: second :: rest =>
    if isUppercase second && isUppercase first then first :: second :: rest
    else lowercase first ++ second :: rest
  | [only] => lowercase only

namespace Method

/-- The types of the parameters, in order. -/
def paramTypes (method : Method) : List TypeExpr :=
  method.params.map (·.type)

/-- Whether any parameter may be left out in a call. -/
def hasDefaults (method : Method) : Bool :=
  method.params.any (·.default.isSome)

/-- The value of the first top-level return that gives one: the default of an annotation member. -/
def returnedValue? (method : Method) : Option Expr :=
  (method.body.getD []).findSome? fun
    | .giveBack value _ => value
    | _ => none

/-- Result, name and parameters in erased form. -/
def descriptor (method : Method) : String :=
  method.returnType.erasure.text ++ " " ++ method.name ++ "(" ++
    ", ".intercalate (method.paramTypes.map (·.erasure.text)) ++ ")"

/-- Name and parameters in erased form, each parameter followed by a comma. -/
def descriptorWithoutReturn (method : Method) : String :=
  method.name ++ ":" ++ String.join (method.paramTypes.map (·.erasure.text ++ ","))

/-- The property that an accessor `getX`, `setX` or `isX` reads or writes. -/
def propertyName? (method : Method) : Option String :=
  if method.name.utf8ByteSize ≤ 2 then none
  else
    match method.name.toList with
    | 'g' :: 'e' :: 't' :: rest =>
      if !rest.isEmpty && method.params.isEmpty && method.returnType ≠ .void then
        some (String.ofList (decapitalize rest))
      else none
    | 's' :: 'e' :: 't' :: rest =>
      if !rest.isEmpty && method.params.length = 1 then some (String.ofList (decapitalize rest))
      else none
    | 'i' :: 's' :: rest =>
      if method.params.isEmpty && method.returnType = .primitive "boolean" then
        some (String.ofList (decapitalize rest))
      else none
    | _ => none

end Method

/-! ## Classes -/

namespace ClassDecl

/-- Whether the class is an annotation definition. -/
def isAnnotationType (decl : ClassDecl) : Bool :=
  decl.kind = .annotationType

/-- Whether the class is an interface.  Annotation definitions are. -/
def isInterface (decl : ClassDecl) : Bool :=
  decl.kind = .interface || decl.kind = .annotationType

/-- The superclass, which is the root class unless another is given; the root class has none. -/
def parent? (decl : ClassDecl) : Option TypeExpr :=
  match decl.superclass with
  | some superclass => some superclass
  | none => if decl.name = objectName then none else some .object

/-- The methods of a name, in order of declaration. -/
def methodsNamed (decl : ClassDecl) (name : String) : List Method :=
  decl.methods.filter (·.name = name)

/-- The uses of one kind on the class itself. -/
def annotationsOf (decl : ClassDecl) (kind : String) : List AnnotationUse :=
  decl.annotations.filter (·.kind = kind)

end ClassDecl

end DeclCheck
