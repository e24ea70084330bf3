/-
# DeclCheck.Proofs.Form.Layout — what the JSON form of a node is made of, and how else it may be
given.

`NodeType` lists the types that have a JSON form of their own, and `NodeType.layout` says for each
of them which fields it has, in which order, and what a field stands for when it is left out.  The
table is used by no writer and no reader.

`Layout.Presents` is the freedom that a layout leaves: the members of a record come in any order and
among unknown ones, a field that holds its default may be left out, and the fields may be a list
instead, in their declared order and without the last ones that hold their defaults.
-/
import DeclCheck.Form.TypeExpr

namespace DeclCheck

/-- The types that are written and read on their own. -/
inductive NodeType where
  | span
  | type
  | typeParam
  | wildcardKind
  | retention
  | target
  | targetSet
  | wellKnown
  | literal
  | expr
  | stmt
  | annotationUse
  | binding
  | classKind
  | package
  | field
  | param
  | method
  | classDecl
  | reference
  | sourceTree
  | sourceUnit
  | compilation

/-! ## Layouts -/

/-- A field of a record: its name, what is written for its default if it has one, and its layout. -/
structure Slot (Layout : Type) where
  name : String
  default : Option Json
  layout : Layout

/-- What the form of a value is made of. -/
inductive Layout where
  /-- A value that is given in one way only. -/
  | scalar
  | node (kind : NodeType)
  | nullable (inner : Layout)
  | list (element : Layout)
  /-- An object whose members are entries in their order. -/
  | map (value : Layout)
  | record (slots : List (Slot Layout))
  /-- A constant, or one of the tags with its body. -/
  | variants (bodies : List (String × Layout))

/-- The layout of the body that stands behind a tag. -/
def Layout.body? : Layout → String → Option Layout
  | .variants bodies, tag => bodies.lookup tag
  | _, _ => none

namespace Slot

/-- A field that has to be given. -/
def required (name : String) (layout : Layout) : Slot Layout :=
  ⟨name, none, layout⟩

/-- A field that stands for `default` when it is left out. -/
def optional (name : String) (default : Json) (layout : Layout) : Slot Layout :=
  ⟨name, some default, layout⟩

/-- A list, which is empty when it is left out. -/
def list (name : String) (element : Layout) : Slot Layout :=
  .optional name (.array []) (.list element)

/-- A value that may be `null`, which it is when it is left out. -/
def nullable (name : String) (inner : Layout) : Slot Layout :=
  .optional name .null (.nullable inner)

/-- A flag, which is off when it is left out. -/
def flag (name : String) : Slot Layout :=
  .optional name (.bool false) .scalar

/-- The span, which is that of no text when it is left out. -/
def span : Slot Layout :=
  .optional "span" Span.nowhere.toJson (.node .span)

/-- The annotations, of which there are none when they are left out. -/
def annotations : Slot Layout :=
  .list "annotations" (.node .annotationUse)

end Slot

/-- The table of fields, tags and defaults, type by type. -/
def NodeType.layout : NodeType → Layout
  | .span =>
    .record [.required "start_line" .scalar, .required "start_column" .scalar,
      .required "end_line" .scalar, .required "end_column" .scalar]
  | .type =>
    .variants [("Primitive", .scalar),
      ("Class", .record [.required "name" .scalar, .list "type_arguments" (.node .type)]),
      ("Variable", .scalar), ("Array", .node .type),
      ("Wildcard",
        .record [.required "kind" (.node .wildcardKind), .nullable "bound" (.node .type)])]
  | .typeParam => .record [.required "name" .scalar, .list "bounds" (.node .type)]
  | .wildcardKind | .retention | .target | .wellKnown | .classKind => .scalar
  | .targetSet => .list (.node .target)
  | .literal =>
    .variants [("String", .scalar), ("Number", .scalar), ("Boolean", .scalar),
      ("Character", .scalar)]
  | .expr =>
    .variants [("Literal", .record [.required "value" (.node .literal), .span]),
      ("EnumConstant",
        .record [.required "type_name" .scalar, .required "constant" .scalar, .span]),
      ("ClassLiteral", .record [.required "ty" (.node .type), .span]),
      ("Constant", .record [.required "name" .scalar, .span]),
      ("Annotation", .node .annotationUse),
      ("List", .record [.required "elements" (.list (.node .expr)), .span]),
      ("Closure", .record [.required "body" (.list (.node .stmt)), .span]),
      ("Opaque", .record [.span])]
  | .stmt =>
    .variants [("Declaration", .node .binding),
      ("Return", .record [.nullable "value" (.node .expr), .span]),
      ("Expression", .record [.required "expr" (.node .expr), .span]),
      ("Block", .record [.required "statements" (.list (.node .stmt)), .span])]
  | .annotationUse =>
    .record [.required "kind" .scalar, .optional "members" (.object []) (.map (.node .expr)),
      .nullable "retention" (.node .retention), .nullable "targets" (.node .targetSet), .span]
  | .binding =>
    .record [.required "name" .scalar, .nullable "ty" (.node .type), .annotations,
      .nullable "initializer" (.node .expr), .span]
  | .package => .record [.required "name" .scalar, .annotations, .span]
  | .field =>
    .record [.required "name" .scalar, .required "ty" (.node .type), .annotations,
      .nullable "initializer" (.node .expr), .flag "is_static", .flag "deprecated", .span]
  | .param =>
    .record [.required "name" .scalar, .required "ty" (.node .type), .annotations,
      .nullable "default_value" (.node .expr), .span]
  | .method =>
    .record [.required "name" .scalar, .list "type_parameters" (.node .typeParam),
      .list "parameters" (.node .param), .optional "return_type" (.string "Void") (.node .type),
      .list "exceptions" (.node .type), .annotations, .nullable "body" (.list (.node .stmt)),
      .flag "is_static", .flag "static_initializer", .flag "generated_default_variant",
      .flag "deprecated", .span]
  | .classDecl =>
    .record [.required "name" .scalar, .optional "kind" (.string "Class") (.node .classKind),
      .list "type_parameters" (.node .typeParam), .nullable "superclass" (.node .type),
      .list "interfaces" (.node .type), .annotations, .list "fields" (.node .field),
      .list "constructors" (.node .method), .list "methods" (.node .method),
      .nullable "package" (.node .package), .nullable "enclosing" .scalar, .flag "script_body",
      .flag "deprecated", .flag "annotated", .span]
  | .reference => .record [.required "name" .scalar, .span]
  | .sourceTree =>
    .record [.list "classes" (.node .classDecl), .list "references" (.node .reference)]
  | .sourceUnit => .record [.required "name" .scalar, .nullable "module" (.node .sourceTree)]
  | .compilation =>
    .record [.list "units" (.node .sourceUnit), .list "external" (.node .classDecl)]

/-! ## Presentations -/

namespace Layout

mutual

/-- The second value presents the first one, which is a written form of the given layout. -/
inductive Presents : Layout → Json → Json → Prop
  | scalar {json : Json} : Presents .scalar json json
  | node {kind : NodeType} {written json : Json} : Presents kind.layout written json →
      Presents (.node kind) written json
  | absent {inner : Layout} : Presents (.nullable inner) .null .null
  | present {inner : Layout} {written json : Json} : Presents inner written json →
      Presents (.nullable inner) written json
  | list {element : Layout} {written elements : List Json} : PresentsAll element written elements →
      Presents (.list element) (.array written) (.array elements)
  | map {value : Layout} {written members : List (String × Json)} :
      PresentsEntries value written members →
      Presents (.map value) (.object written) (.object members)
  | constant {bodies : List (String × Layout)} {tag : String} :
      Presents (.variants bodies) (.string tag) (.string tag)
  | variant {bodies : List (String × Layout)} {tag : String} {layout : Layout}
      {written body : Json} : (Layout.variants bodies).body? tag = some layout →
      Presents layout written body →
      Presents (.variants bodies) (.object [(tag, written)]) (.object [(tag, body)])
  /-- The members with the names of fields are the given fields in any order. -/
  | object {slots : List (Slot Layout)} {written given members : List (String × Json)} :
      PresentsFields slots written given →
      (members.filter fun member => (slots.map Slot.name).contains member.1).Perm given →
      Presents (.record slots) (.object written) (.object members)
  /-- The given fields are the first ones. -/
  | array {slots : List (Slot Layout)} {written given : List (String × Json)} :
      PresentsFields slots written given → given.map Prod.fst <+: slots.map Slot.name →
      Presents (.record slots) (.object written) (.array (given.map Prod.snd))

/-- As many elements, each presented in its place. -/
inductive PresentsAll : Layout → List Json → List Json → Prop
  | nil {element : Layout} : PresentsAll element [] []
  | cons {element : Layout} {written json : Json} {others elements : List Json} :
      Presents element written json → PresentsAll element others elements →
      PresentsAll element (written :: others) (json :: elements)

/-- The names and their order are kept. -/
inductive PresentsEntries : Layout → List (String × Json) → List (String × Json) → Prop
  | nil {value : Layout} : PresentsEntries value [] []
  | cons {value : Layout} {name : String} {written json : Json}
      {others members : List (String × Json)} :
      Presents value written json → PresentsEntries value others members →
      PresentsEntries value ((name, written) :: others) ((name, json) :: members)

/-- Every field that is not given holds its default. -/
inductive PresentsFields : List (Slot Layout) → List (String × Json) → List (String × Json) → Prop
  | nil : PresentsFields [] [] []
  | given {slot : Slot Layout} {slots : List (Slot Layout)} {written json : Json}
      {others given : List (String × Json)} :
      Presents slot.layout written json → PresentsFields slots others given →
      PresentsFields (slot :: slots) ((slot.name, written) :: others) ((slot.name, json) :: given)
  | omitted {slot : Slot Layout} {slots : List (Slot Layout)} {written : Json}
      {others given : List (String × Json)} :
      slot.default = some written → PresentsFields slots others given →
      PresentsFields (slot :: slots) ((slot.name, written) :: others) given

end

end Layout

end DeclCheck
