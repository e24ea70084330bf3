/-
# DeclCheck.Proofs.Form.TypeExpr — positions and types are read back from their JSON form.
-/
import DeclCheck.Form.TypeExpr
import DeclCheck.Proofs.Form.Spelling

namespace DeclCheck

open Json (Spells SpellsFields)

/-! ## Spans -/

theorem Span.spells (span : Span) : Spells (.node .span) Span.ofJson? span.toJson span :=
  .node (.record (fun _ _ => rfl) (by decide)
    (.required (.word64 _) (.required (.word64 _) (.required (.word64 _) (.required (.word64 _)
      (.done _))))))

/-- The span of a record, which may be left out. -/
theorem Json.SpellsFields.span {α : Type} (span : Span) {slots : List (Slot Layout)}
    {rest : Span → Nat → Json.Fields → Option α} {members : List (String × Json)} {value : α}
    (hrest : SpellsFields slots (rest span) members value) :
    SpellsFields (.span :: slots)
      (fun level fields => fields.span level >>= fun span => rest span level fields)
      (("span", span.toJson) :: members) value :=
  .optional (Span.nowhere.spells.reads Span.nowhere.spells.self le_rfl) span.spells hrest

/-! ## Types -/

theorem WildcardKind.spells (kind : WildcardKind) :
    Spells (.node .wildcardKind) WildcardKind.ofJson? kind.toJson kind :=
  .node (.choice (by cases kind <;> decide))

namespace TypeExpr

theorem toJsonBound_eq (bound : Option TypeExpr) : toJsonBound bound = .ofOption toJson bound := by
  cases bound <;> rfl

theorem toJson_ne_null (type : TypeExpr) : type.toJson ≠ .null := by
  cases type <;> simp [toJson]

mutual

/-- A type is read back from its form. -/
theorem spells (type : TypeExpr) : Spells (.node .type) ofJson? type.toJson type := by
  refine .node ?_
  cases type with
  | primitive name =>
      exact .variant _ rfl (fun _ _ => by simp [ofJson?]) ((Spells.string name).map primitive)
  | «variable» name =>
      exact .variant _ rfl (fun _ _ => by simp [ofJson?]) ((Spells.string name).map «variable»)
  | array element =>
      exact .variant _ rfl (fun _ _ => by simp [ofJson?]) ((spells element).map array)
  | void => exact .constant fun level => by simp [ofJson?]
  | named name arguments =>
      have harguments : Spells (.list (.node .type)) allOfJson? (.array (toJsonAll arguments))
          arguments :=
        .array rfl (fun _ _ => rfl) (fun _ _ => rfl) (spells_of_mem arguments)
      refine .variant namedOfJson? rfl (fun _ _ => by simp [ofJson?]) ?_
      exact .record (fun _ _ => rfl) (by decide)
        (.required (.string name) (.optional rfl harguments (.done _)))
  | wildcard kind bound =>
      have hbound : Spells (.nullable (.node .type)) (fun level => Json.nullable (ofJson? level))
          (toJsonBound bound) bound := by
        rw [toJsonBound_eq]
        exact .option toJson_ne_null (spells_bound bound)
      refine .variant wildcardOfJson? rfl (fun _ _ => by simp [ofJson?]) ?_
      exact .record (fun _ _ => rfl) (by decide)
        (.required kind.spells (.optional rfl hbound (.done _)))

theorem spells_of_mem (types : List TypeExpr) :
    ∀ type ∈ types, Spells (.node .type) ofJson? type.toJson type := by
  cases types with
  | nil => exact List.forall_mem_nil _
  | cons type rest => exact List.forall_mem_cons.mpr ⟨spells type, spells_of_mem rest⟩

theorem spells_bound (bound : Option TypeExpr) :
    ∀ type ∈ bound, Spells (.node .type) ofJson? type.toJson type := by
  cases bound with
  | none => intro type htype; cases htype
  | some type => intro _ htype; cases htype; exact spells type

end

end TypeExpr

theorem TypeParam.spells (param : TypeParam) :
    Spells (.node .typeParam) TypeParam.ofJson? param.toJson param :=
  .node (.record (fun _ _ => rfl) (by decide)
    (.required (.string _) (.optional rfl (.list (TypeExpr.spells_of_mem param.bounds)) (.done _))))

end DeclCheck
