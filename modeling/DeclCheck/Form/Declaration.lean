/-
# DeclCheck.Form.Declaration — the JSON form of declarations, source units and compilations.
-/
import DeclCheck.Form.Body
import DeclCheck.Tree.Compilation

namespace DeclCheck

/-- The annotations of a declaration, which may be left out. -/
def Json.Fields.annotations (fields : Json.Fields) (level : Nat) : Option (List AnnotationUse) :=
  fields.optional "annotations" [] (Json.list? AnnotationUse.ofJson? level)

/-- An expression that may be left out or `null`. -/
def Json.Fields.expr (fields : Json.Fields) (name : String) (level : Nat) : Option (Option Expr) :=
  fields.optional name none (Json.nullable (Expr.ofJson? level))

/-- A list of types that may be left out. -/
def Json.Fields.types (fields : Json.Fields) (name : String) (level : Nat) :
    Option (List TypeExpr) :=
  fields.optional name [] (Json.list? TypeExpr.ofJson? level)

namespace ClassKind

/-- Every kind of class. -/
def all : List ClassKind := [.ordinary, .interface, .enumeration, .annotationType]

/-- The name of a kind in the form. -/
def tag : ClassKind → String
  | .ordinary => "Class"
  | .interface => "Interface"
  | .enumeration => "Enum"
  | .annotationType => "Annotation"

/-- A kind is written as its bare tag. -/
def toJson (kind : ClassKind) : Json :=
  .string kind.tag

/-- Read a kind by its tag. -/
def ofJson? : Nat → Json → Option ClassKind :=
  Json.choice? all tag

end ClassKind

namespace Package

/-- A package declaration as a record. -/
def toJson (package : Package) : Json :=
  .object [("name", .string package.name),
    ("annotations", .ofList AnnotationUse.toJson package.annotations),
    ("span", package.span.toJson)]

/-- Read a package declaration.  Only its name has to be given. -/
def ofJson? : Nat → Json → Option Package
  | 0, _ => none
  | level + 1, value => do
    let fields ← value.fields? ["name", "annotations", "span"]
    return {
      name := ← fields.required "name" Json.string?
      annotations := ← fields.annotations level
      span := ← fields.span level }

end Package

namespace Field

/-- A field as a record. -/
def toJson (field : Field) : Json :=
  .object [("name", .string field.name), ("ty", field.type.toJson),
    ("annotations", .ofList AnnotationUse.toJson field.annotations),
    ("initializer", .ofOption Expr.toJson field.initializer), ("is_static", .bool field.isStatic),
    ("deprecated", .bool field.deprecated), ("span", field.span.toJson)]

/-- Read a field.  Its name and type have to be given. -/
def ofJson? : Nat → Json → Option Field
  | 0, _ => none
  | level + 1, value => do
    let fields ← value.fields?
      ["name", "ty", "annotations", "initializer", "is_static", "deprecated", "span"]
    return {
      name := ← fields.required "name" Json.string?
      type := ← fields.required "ty" (TypeExpr.ofJson? level)
      annotations := ← fields.annotations level
      initializer := ← fields.expr "initializer" level
      isStatic := ← fields.flag "is_static"
      deprecated := ← fields.flag "deprecated"
      span := ← fields.span level }

end Field

namespace Param

/-- A parameter as a record; a default value that is missing is `null`. -/
def toJson (param : Param) : Json :=
  .object [("name", .string param.name), ("ty", param.type.toJson),
    ("annotations", .ofList AnnotationUse.toJson param.annotations),
    ("default_value", .ofOption Expr.toJson param.default), ("span", param.span.toJson)]

/-- Read a parameter.  Its name and type have to be given. -/
def ofJson? : Nat → Json → Option Param
  | 0, _ => none
  | level + 1, value => do
    let fields ← value.fields? ["name", "ty", "annotations", "default_value", "span"]
    return {
      name := ← fields.required "name" Json.string?
      type := ← fields.required "ty" (TypeExpr.ofJson? level)
      annotations := ← fields.annotations level
      default := ← fields.expr "default_value" level
      span := ← fields.span level }

end Param

namespace Method

/-- A method or constructor as a record; a body that is missing is `null`. -/
def toJson (method : Method) : Json :=
  .object [("name", .string method.name),
    ("type_parameters", .ofList TypeParam.toJson method.typeParams),
    ("parameters", .ofList Param.toJson method.params),
    ("return_type", method.returnType.toJson),
    ("exceptions", .ofList TypeExpr.toJson method.exceptions),
    ("annotations", .ofList AnnotationUse.toJson method.annotations),
    ("body", .ofOption (.ofList Stmt.toJson) method.body), ("is_static", .bool method.isStatic),
    ("static_initializer", .bool method.staticInitializer),
    ("generated_default_variant", .bool method.defaultVariant),
    ("deprecated", .bool method.deprecated), ("span", method.span.toJson)]

/-- Read a method or constructor.  Only its name has to be given, and without a return type it gives
back nothing. -/
def ofJson? : Nat → Json → Option Method
  | 0, _ => none
  | level + 1, value => do
    let fields ← value.fields?
      ["name", "type_parameters", "parameters", "return_type", "exceptions", "annotations", "body",
        "is_static", "static_initializer", "generated_default_variant", "deprecated", "span"]
    return {
      name := ← fields.required "name" Json.string?
      typeParams := ← fields.optional "type_parameters" [] (Json.list? TypeParam.ofJson? level)
      params := ← fields.optional "parameters" [] (Json.list? Param.ofJson? level)
      returnType := ← fields.optional "return_type" .void (TypeExpr.ofJson? level)
      exceptions := ← fields.types "exceptions" level
      annotations := ← fields.annotations level
      body := ← fields.optional "body" none (Json.nullable (Json.list? Stmt.ofJson? level))
      isStatic := ← fields.flag "is_static"
      staticInitializer := ← fields.flag "static_initializer"
      defaultVariant := ← fields.flag "generated_default_variant"
      deprecated := ← fields.flag "deprecated"
      span := ← fields.span level }

end Method

namespace ClassDecl

/-- A class as a record, with what a check has filled in. -/
def toJson (decl : ClassDecl) : Json :=
  .object [("name", .string decl.name), ("kind", decl.kind.toJson),
    ("type_parameters", .ofList TypeParam.toJson decl.typeParams),
    ("superclass", .ofOption TypeExpr.toJson decl.superclass),
    ("interfaces", .ofList TypeExpr.toJson decl.interfaces),
    ("annotations", .ofList AnnotationUse.toJson decl.annotations),
    ("fields", .ofList Field.toJson decl.fields),
    ("constructors", .ofList Method.toJson decl.constructors),
    ("methods", .ofList Method.toJson decl.methods),
    ("package", .ofOption Package.toJson decl.package),
    ("enclosing", .ofOption .string decl.enclosing), ("script_body", .bool decl.scriptBody),
    ("deprecated", .bool decl.deprecated), ("annotated", .bool decl.annotated),
    ("span", decl.span.toJson)]

/-- Read a class.  Only its name has to be given; its kind is the ordinary one unless it says
otherwise. -/
def ofJson? : Nat → Json → Option ClassDecl
  | 0, _ => none
  | level + 1, value => do
    let fields ← value.fields?
      ["name", "kind", "type_parameters", "superclass", "interfaces", "annotations", "fields",
        "constructors", "methods", "package", "enclosing", "script_body", "deprecated",
        "annotated", "span"]
    return {
      name := ← fields.required "name" Json.string?
      kind := ← fields.optional "kind" .ordinary (ClassKind.ofJson? level)
      typeParams := ← fields.optional "type_parameters" [] (Json.list? TypeParam.ofJson? level)
      superclass := ← fields.optional "superclass" none (Json.nullable (TypeExpr.ofJson? level))
      interfaces := ← fields.types "interfaces" level
      annotations := ← fields.annotations level
      fields := ← fields.optional "fields" [] (Json.list? Field.ofJson? level)
      constructors := ← fields.optional "constructors" [] (Json.list? Method.ofJson? level)
      methods := ← fields.optional "methods" [] (Json.list? Method.ofJson? level)
      package := ← fields.optional "package" none (Json.nullable (Package.ofJson? level))
      enclosing := ← fields.optional "enclosing" none (Json.nullable Json.string?)
      scriptBody := ← fields.flag "script_body"
      deprecated := ← fields.flag "deprecated"
      annotated := ← fields.flag "annotated"
      span := ← fields.span level }

end ClassDecl

/-! ## Source units -/

namespace Reference

/-- A use of a name as a record. -/
def toJson (reference : Reference) : Json :=
  .object [("name", .string reference.name), ("span", reference.span.toJson)]

/-- Read a use of a name. -/
def ofJson? : Nat → Json → Option Reference
  | 0, _ => none
  | level + 1, value => do
    let fields ← value.fields? ["name", "span"]
    return {
      name := ← fields.required "name" Json.string?
      span := ← fields.span level }

end Reference

namespace SourceTree

/-- The tree of a source unit as a record. -/
def toJson (tree : SourceTree) : Json :=
  .object [("classes", .ofList ClassDecl.toJson tree.classes),
    ("references", .ofList Reference.toJson tree.references)]

/-- Read a tree.  Classes and references may both be left out. -/
def ofJson? : Nat → Json → Option SourceTree
  | 0, _ => none
  | level + 1, value => do
    let fields ← value.fields? ["classes", "references"]
    return {
      classes := ← fields.optional "classes" [] (Json.list? ClassDecl.ofJson? level)
      references := ← fields.optional "references" [] (Json.list? Reference.ofJson? level) }

end SourceTree

namespace SourceUnit

/-- A source unit as a record; a unit without a tree has `null` for it. -/
def toJson (unit : SourceUnit) : Json :=
  .object [("name", .string unit.name), ("module", .ofOption SourceTree.toJson unit.tree)]

/-- Read a source unit.  It may come without a tree. -/
def ofJson? : Nat → Json → Option SourceUnit
  | 0, _ => none
  | level + 1, value => do
    let fields ← value.fields? ["name", "module"]
    return {
      name := ← fields.required "name" Json.string?
      tree := ← fields.optional "module" none (Json.nullable (SourceTree.ofJson? level)) }

end SourceUnit

namespace Compilation

/-- A compilation as a record. -/
def toJson (compilation : Compilation) : Json :=
  .object [("units", .ofList SourceUnit.toJson compilation.units),
    ("external", .ofList ClassDecl.toJson compilation.external)]

/-- Read a compilation.  Units and compiled classes may both be left out. -/
def ofJson? : Nat → Json → Option Compilation
  | 0, _ => none
  | level + 1, value => do
    let fields ← value.fields? ["units", "external"]
    return {
      units := ← fields.optional "units" [] (Json.list? SourceUnit.ofJson? level)
      external := ← fields.optional "external" [] (Json.list? ClassDecl.ofJson? level) }

end Compilation

end DeclCheck
