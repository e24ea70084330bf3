/-
# DeclCheck.Proofs.Form.Presentation — reading does not depend on how a form is presented.

The written form of a node is one presentation of it among many.  Whichever is chosen, at each
record on its own, and whichever of its texts is given, the node that was written is read.
-/
import DeclCheck.Proofs.Form.RoundTrip

namespace DeclCheck

/-- The form written for a node presents itself, and every text of every presentation of it is read
as the node. -/
theorem NodeType.readText_of_presentation (kind : NodeType) (node : kind.form.Node)
    (hwell : kind.form.WellNamed node) :
    (Layout.node kind).Presents (kind.form.write node) (kind.form.write node) ∧
      ∀ json : Json, (Layout.node kind).Presents (kind.form.write node) json →
        json.depth ≤ Json.maxNesting → ∀ text : String, Json.HasText json text.toList →
          Json.readText kind.form.read text = some node := by
  have hspells := kind.spells hwell
  refine ⟨hspells.self, ?_⟩
  intro json hpresents hdepth text htext
  exact hspells.readText_of_presents hpresents hdepth htext

namespace Sketch

open Json

/-- A field with an initializer and a type that has an argument. -/
def field : Field where
  name := "size"
  type := .named "List" [.variable "T"]
  initializer := some (.literal (.number "3") .nowhere)
  deprecated := true
  span := ⟨1, 2, 1, 9⟩

/-- What is given of the field, the last members first.  What holds its default is left out, and the
records inside are lists. -/
def members : List (String × Json) :=
  [("span", .array [.natural 1, .natural 2, .natural 1, .natural 9]), ("deprecated", .bool true),
    ("initializer", .object [("Literal", .array [.object [("Number", .string "3")]])]),
    ("ty", .object [("Class", .array [.string "List",
      .array [.object [("Variable", .string "T")]]])]),
    ("name", .string "size")]

/-- The field with a member that nobody knows. -/
def json : Json :=
  .object (("note", .decimal "-1.5e3") :: members)

theorem isDigits_singleton {c : Char} (hdigit : c.isDigit = true) : IsDigits [c] :=
  ⟨List.cons_ne_nil _ _, List.forall_mem_singleton.mpr hdigit⟩

/-- The number of the unknown member, which has no value as an integer. -/
def number : Numeral where
  negative := true
  whole := ['1']
  fraction := ['.', '5']
  exponent := ['e', '3']
  whole_text := .digits (isDigits_singleton rfl) (by decide)
  fraction_text := .digits (isDigits_singleton rfl)
  exponent_text := .digits (.inl rfl) (.inl rfl) (isDigits_singleton rfl)

/-- The text `{ "note" : -1.5e3 ,"span":[1,2,1,9],"deprecated":true,"initializer":...}`, with blanks
around the unknown member and at the end. -/
def text : String :=
  .ofList ('\x7b' :: (((' ' :: (renderString "note" ++ [' '])) ++ ':' ::
    ((' ' :: (number.text ++ ['\t'])) ++ ',' :: renderMembers members)) ++ ['\x7d']) ++ ['\n'])

theorem field_wellNamed : field.WellNamed where
  annotations := List.forall_mem_nil _
  initializer := by
    rintro expr ⟨⟩
    exact .literal _ _

theorem presents_json : (Layout.node .field).Presents field.toJson json := by
  have htype : (Layout.node .type).Presents field.type.toJson (.object [("Class",
      .array [.string "List", .array [.object [("Variable", .string "T")]]])]) := by
    refine .node (.variant rfl (@Layout.Presents.array _ _
      [("name", _), ("type_arguments", _)] ?_ ?_))
    · exact .given .scalar (.given (.list (.cons (.node (.variant rfl .scalar)) .nil)) .nil)
    · exact List.prefix_rfl
  have hvalue : (Layout.nullable (.node .expr)).Presents
      (.ofOption Expr.toJson field.initializer)
      (.object [("Literal", .array [.object [("Number", .string "3")]])]) := by
    refine .present (.node (.variant rfl (@Layout.Presents.array _ _ [("value", _)] ?_ ?_)))
    · exact .given (.node (.variant rfl .scalar)) (.omitted rfl .nil)
    · exact ⟨["span"], rfl⟩
  have hspan : (Layout.node .span).Presents field.span.toJson
      (.array [.natural 1, .natural 2, .natural 1, .natural 9]) := by
    refine .node (@Layout.Presents.array _ _
      [("start_line", _), ("start_column", _), ("end_line", _), ("end_column", _)] ?_ ?_)
    · exact .given .scalar (.given .scalar (.given .scalar (.given .scalar .nil)))
    · exact List.prefix_rfl
  refine .node (.object (.given .scalar (.given htype (.omitted rfl (.given hvalue
    (.omitted rfl (.given .scalar (.given hspan .nil))))))) ?_)
  exact (List.reverse_perm members).symm

theorem hasText_json : HasText json text.toList := by
  have hname : LiteralText (some "note") (' ' :: (renderString "note" ++ [' '])) :=
    .before rfl (.after (literalText_renderString "note") rfl)
  have hnumber : HasText number.value (' ' :: (number.text ++ ['\t'])) :=
    .before rfl (.after (.number number) rfl)
  have hplain : PlainMembers members := by
    simp [members, PlainMembers, Plain, PlainElements]
  have hmembers := hplain.membersText (List.cons_ne_nil _ _)
  have hobject := HasText.object (.cons hname hnumber hmembers)
  rw [text, String.toList_ofList]
  exact hobject.after rfl

theorem readText_sketch :
    field.WellNamed ∧ (Layout.node .field).Presents field.toJson json ∧
      json.depth ≤ maxNesting ∧ HasText json text.toList ∧
        readText Field.ofJson? text = some field := by
  have hdepth : json.depth ≤ maxNesting := by decide
  obtain ⟨-, hread⟩ := NodeType.readText_of_presentation .field field field_wellNamed
  exact ⟨field_wellNamed, presents_json, hdepth, hasText_json,
    hread json presents_json hdepth text hasText_json⟩

end Sketch

end DeclCheck
