/-
# DeclCheck.Proofs.Form.Body — annotation uses, expressions and statements are read back from their
JSON form.
-/
import Mathlib.Data.List.Sort
import DeclCheck.Form.Body
import DeclCheck.Proofs.Form.TypeExpr

namespace DeclCheck

open Json (Spells SpellsFields)

/-! ## Constants -/

theorem Retention.spells (retention : Retention) :
    Spells (.node .retention) Retention.ofJson? retention.toJson retention :=
  .node (.choice (by cases retention <;> decide))

theorem Target.spells (target : Target) :
    Spells (.node .target) Target.ofJson? target.toJson target :=
  .node (.choice (by cases target <;> decide))

theorem WellKnown.spells (known : WellKnown) :
    Spells (.node .wellKnown) WellKnown.ofJson? known.toJson known :=
  .node (.choice (by cases known <;> decide))

/-- A set of targets is the set of its members: both lists are in order and without repetition. -/
theorem TargetSet.ofList_members (set : TargetSet) : TargetSet.ofList set.members = set := by
  have hirrefl : Std.Irrefl fun a b : Target => a.rank < b.rank := ⟨fun _ => Nat.lt_irrefl _⟩
  have hantisymm : Std.Antisymm fun a b : Target => a.rank < b.rank :=
    ⟨fun _ _ hless hmore => absurd hmore (Nat.lt_asymm hless)⟩
  have hmembers : (TargetSet.ofList set.members).members = set.members :=
    (TargetSet.ofList set.members).sorted.eq_of_mem_iff set.sorted (mem_ofList set.members)
  cases set with
  | mk members sorted => simpa only [ofList, mk.injEq] using hmembers

theorem TargetSet.spells (set : TargetSet) :
    Spells (.node .targetSet) TargetSet.ofJson? set.toJson set := by
  have hmembers := (Spells.list fun target (_ : target ∈ set.members) => target.spells).map ofList
  rw [ofList_members] at hmembers
  exact .node hmembers

theorem Literal.spells (value : Literal) :
    Spells (.node .literal) Literal.ofJson? value.toJson value := by
  refine .node ?_
  cases value with
  | string text =>
      exact .variant _ rfl (fun _ _ => by simp [Literal.ofJson?])
        ((Spells.string text).map Literal.string)
  | number text =>
      exact .variant _ rfl (fun _ _ => by simp [Literal.ofJson?])
        ((Spells.string text).map Literal.number)
  | boolean value =>
      exact .variant _ rfl (fun _ _ => by simp [Literal.ofJson?])
        ((Spells.bool value).map Literal.boolean)
  | character c =>
      exact .variant _ rfl (fun _ _ => by simp [Literal.ofJson?])
        ((Spells.char c).map Literal.character)
  | null => exact .constant fun level => by simp [Literal.ofJson?]

/-! ## Members are given once -/

mutual

/-- Neither the use nor an annotation inside it gives a member twice. -/
inductive AnnotationUse.WellNamed : AnnotationUse → Prop
  | mk (kind : String) {members : List (String × Expr)} (distinct : (members.map Prod.fst).Nodup)
      (inside : ∀ expr ∈ members.map Prod.snd, Expr.WellNamed expr) (retention : Option Retention)
      (targets : Option TargetSet) (span : Span) :
      AnnotationUse.WellNamed ⟨kind, members, retention, targets, span⟩

/-- No annotation inside the expression gives a member twice. -/
inductive Expr.WellNamed : Expr → Prop
  | literal (value : Literal) (span : Span) : Expr.WellNamed (.literal value span)
  | enumConstant (typeName name : String) (span : Span) :
      Expr.WellNamed (.enumConstant typeName name span)
  | classLiteral (type : TypeExpr) (span : Span) : Expr.WellNamed (.classLiteral type span)
  | constant (name : String) (span : Span) : Expr.WellNamed (.constant name span)
  | annotationUse {use : AnnotationUse} (inside : AnnotationUse.WellNamed use) :
      Expr.WellNamed (.annotationUse use)
  | list {elements : List Expr} (inside : ∀ expr ∈ elements, Expr.WellNamed expr) (span : Span) :
      Expr.WellNamed (.list elements span)
  | closure {body : List Stmt} (inside : ∀ stmt ∈ body, Stmt.WellNamed stmt) (span : Span) :
      Expr.WellNamed (.closure body span)
  | unmodelled (span : Span) : Expr.WellNamed (.unmodelled span)

/-- No annotation inside the statement gives a member twice. -/
inductive Stmt.WellNamed : Stmt → Prop
  | declare {binding : Local} (inside : Local.WellNamed binding) : Stmt.WellNamed (.declare binding)
  | giveBack {value : Option Expr} (inside : ∀ expr ∈ value, Expr.WellNamed expr) (span : Span) :
      Stmt.WellNamed (.giveBack value span)
  | evaluate {expr : Expr} (inside : Expr.WellNamed expr) (span : Span) :
      Stmt.WellNamed (.evaluate expr span)
  | block {body : List Stmt} (inside : ∀ stmt ∈ body, Stmt.WellNamed stmt) (span : Span) :
      Stmt.WellNamed (.block body span)

/-- No annotation of the variable or inside its initializer gives a member twice. -/
inductive Local.WellNamed : Local → Prop
  | mk (name : String) (type : Option TypeExpr) {annotations : List AnnotationUse}
      (uses : ∀ use ∈ annotations, AnnotationUse.WellNamed use) {initializer : Option Expr}
      (inside : ∀ expr ∈ initializer, Expr.WellNamed expr) (span : Span) :
      Local.WellNamed ⟨name, type, annotations, initializer, span⟩

end

/-! ## Annotation uses and local variables -/

theorem Expr.toJsonMembers_eq_map (members : List (String × Expr)) :
    Expr.toJsonMembers members = members.map fun member => (member.1, member.2.toJson) := by
  induction members with
  | nil => rfl
  | cons member rest ih => rw [Expr.toJsonMembers, ih, List.map_cons]

theorem Expr.membersOfJson?_eq : Expr.membersOfJson? = Json.map? Expr.ofJson? := by
  funext level json
  cases level <;> cases json <;> rfl

/-- An annotation use is read back if the values of its members are and no name is given twice. -/
theorem AnnotationUse.spells (kind : String) {members : List (String × Expr)}
    (hdistinct : (members.map Prod.fst).Nodup)
    (hvalues : ∀ expr ∈ members.map Prod.snd, Spells (.node .expr) Expr.ofJson? expr.toJson expr)
    (retention : Option Retention) (targets : Option TargetSet) (span : Span) :
    Spells (.node .annotationUse) AnnotationUse.ofJson?
      (AnnotationUse.toJson ⟨kind, members, retention, targets, span⟩)
      ⟨kind, members, retention, targets, span⟩ := by
  have hmembers : Spells (.map (.node .expr)) Expr.membersOfJson?
      (.object (Expr.toJsonMembers members)) members := by
    rw [Expr.membersOfJson?_eq, Expr.toJsonMembers_eq_map]
    exact .entries hdistinct (List.forall_mem_map.mp hvalues)
  have hretention : Spells (.nullable (.node .retention))
      (fun level => Json.nullable (Retention.ofJson? level))
      (.ofOption Retention.toJson retention) retention :=
    .option (by simp [Retention.toJson]) fun retention _ => retention.spells
  have htargets : Spells (.nullable (.node .targetSet))
      (fun level => Json.nullable (TargetSet.ofJson? level))
      (.ofOption TargetSet.toJson targets) targets :=
    .option (by simp [TargetSet.toJson, Json.ofList]) fun targets _ => targets.spells
  exact .node (.record (fun _ _ => rfl) (by decide)
    (.required (.string kind) (.optional rfl hmembers (.optional rfl hretention
      (.optional rfl htargets (.span span (.done _)))))))

theorem Expr.toJson_ne_null (expr : Expr) : expr.toJson ≠ .null := by
  cases expr <;> simp [Expr.toJson]

theorem Expr.spells_option {value : Option Expr}
    (hvalue : ∀ expr ∈ value, Spells (.node .expr) Expr.ofJson? expr.toJson expr) :
    Spells (.nullable (.node .expr)) (fun level => Json.nullable (Expr.ofJson? level))
      (Expr.toJsonOption value) value := by
  have hform : Expr.toJsonOption value = .ofOption Expr.toJson value := by cases value <;> rfl
  rw [hform]
  exact .option Expr.toJson_ne_null hvalue

theorem Local.spells (name : String) (type : Option TypeExpr) {annotations : List AnnotationUse}
    (huses : ∀ use ∈ annotations,
      Spells (.node .annotationUse) AnnotationUse.ofJson? use.toJson use)
    {initializer : Option Expr}
    (hinitializer : ∀ expr ∈ initializer, Spells (.node .expr) Expr.ofJson? expr.toJson expr)
    (span : Span) :
    Spells (.node .binding) Local.ofJson?
      (Local.toJson ⟨name, type, annotations, initializer, span⟩)
      ⟨name, type, annotations, initializer, span⟩ := by
  have htype := Spells.option TypeExpr.toJson_ne_null (TypeExpr.spells_bound type)
  have hannotations : Spells (.list (.node .annotationUse)) AnnotationUse.allOfJson?
      (.array (AnnotationUse.toJsonAll annotations)) annotations :=
    .array rfl (fun _ _ => rfl) (fun _ _ => rfl) huses
  exact .node (.record (fun _ _ => rfl) (by decide)
    (.required (.string name) (.optional rfl htype (.optional rfl hannotations
      (.optional rfl (Expr.spells_option hinitializer) (.span span (.done _)))))))

/-! ## Expressions and statements -/

/-- An expression whose tag carries a record is spelled by the fields of the record. -/
theorem Expr.spells_record {tag : String} {slots : List (Slot Layout)}
    {readFields : Nat → Json.Fields → Option Expr} {members : List (String × Json)} {expr : Expr}
    (htag : tag ≠ "Annotation") (hlayout : (NodeType.layout .expr).body? tag = some (.record slots))
    (hread : ∀ level json, Expr.bodyOfJson? (level + 1) tag json =
      json.fields? (slots.map Slot.name) >>= readFields level)
    (hnodup : (slots.map Slot.name).Nodup)
    (hfields : SpellsFields slots readFields members expr) :
    Spells (.node .expr) Expr.ofJson? (.object [(tag, .object members)]) expr :=
  .node (.variant (Expr.bodyOfJson? · tag) hlayout (fun _ _ => by simp [Expr.ofJson?, htag])
    (.record hread hnodup hfields))

theorem Stmt.spells_record {tag : String} {slots : List (Slot Layout)}
    {readFields : Nat → Json.Fields → Option Stmt} {members : List (String × Json)} {stmt : Stmt}
    (htag : tag ≠ "Declaration")
    (hlayout : (NodeType.layout .stmt).body? tag = some (.record slots))
    (hread : ∀ level json, Stmt.bodyOfJson? (level + 1) tag json =
      json.fields? (slots.map Slot.name) >>= readFields level)
    (hnodup : (slots.map Slot.name).Nodup)
    (hfields : SpellsFields slots readFields members stmt) :
    Spells (.node .stmt) Stmt.ofJson? (.object [(tag, .object members)]) stmt :=
  .node (.variant (Stmt.bodyOfJson? · tag) hlayout (fun _ _ => by simp [Stmt.ofJson?, htag])
    (.record hread hnodup hfields))

theorem Expr.spells_all {exprs : List Expr}
    (hexprs : ∀ expr ∈ exprs, Spells (.node .expr) Expr.ofJson? expr.toJson expr) :
    Spells (.list (.node .expr)) Expr.allOfJson? (.array (Expr.toJsonAll exprs)) exprs :=
  .array rfl (fun _ _ => rfl) (fun _ _ => rfl) hexprs

theorem Stmt.spells_all {stmts : List Stmt}
    (hstmts : ∀ stmt ∈ stmts, Spells (.node .stmt) Stmt.ofJson? stmt.toJson stmt) :
    Spells (.list (.node .stmt)) Stmt.allOfJson? (.array (Stmt.toJsonAll stmts)) stmts :=
  .array rfl (fun _ _ => rfl) (fun _ _ => rfl) hstmts

-- The recursion is on the derivation that members are given once, so the lists and options inside a
-- node need no recursion of their own.
mutual

theorem AnnotationUse.WellNamed.spells : ∀ {use : AnnotationUse}, use.WellNamed →
    Spells (.node .annotationUse) AnnotationUse.ofJson? use.toJson use
  | _, .mk kind hdistinct hvalues retention targets span =>
      AnnotationUse.spells kind hdistinct (fun expr hexpr => (hvalues expr hexpr).spells) retention
        targets span

theorem Expr.WellNamed.spells : ∀ {expr : Expr}, expr.WellNamed →
    Spells (.node .expr) Expr.ofJson? expr.toJson expr
  | _, .literal value span =>
      Expr.spells_record (by decide) rfl (fun _ _ => rfl) (by decide)
        (.required value.spells (.span span (.done _)))
  | _, .enumConstant typeName name span =>
      Expr.spells_record (by decide) rfl (fun _ _ => rfl) (by decide)
        (.required (.string typeName) (.required (.string name) (.span span (.done _))))
  | _, .classLiteral type span =>
      Expr.spells_record (by decide) rfl (fun _ _ => rfl) (by decide)
        (.required type.spells (.span span (.done _)))
  | _, .constant name span =>
      Expr.spells_record (by decide) rfl (fun _ _ => rfl) (by decide)
        (.required (.string name) (.span span (.done _)))
  | _, .annotationUse hwell =>
      .node (.variant _ rfl (fun _ _ => by simp [Expr.ofJson?])
        (hwell.spells.map Expr.annotationUse))
  | _, .list hwell span =>
      Expr.spells_record (by decide) rfl (fun _ _ => rfl) (by decide)
        (.required (Expr.spells_all fun expr hexpr => (hwell expr hexpr).spells)
          (.span span (.done _)))
  | _, .closure hwell span =>
      Expr.spells_record (by decide) rfl (fun _ _ => rfl) (by decide)
        (.required (Stmt.spells_all fun stmt hstmt => (hwell stmt hstmt).spells)
          (.span span (.done _)))
  | _, .unmodelled span =>
      Expr.spells_record (by decide) rfl (fun _ _ => rfl) (by decide) (.span span (.done _))

theorem Stmt.WellNamed.spells : ∀ {stmt : Stmt}, stmt.WellNamed →
    Spells (.node .stmt) Stmt.ofJson? stmt.toJson stmt
  | _, .declare hwell =>
      .node (.variant _ rfl (fun _ _ => by simp [Stmt.ofJson?]) (hwell.spells.map Stmt.declare))
  | _, .giveBack hwell span =>
      Stmt.spells_record (by decide) rfl (fun _ _ => rfl) (by decide)
        (.optional rfl (Expr.spells_option fun expr hexpr => (hwell expr hexpr).spells)
          (.span span (.done _)))
  | _, .evaluate hwell span =>
      Stmt.spells_record (by decide) rfl (fun _ _ => rfl) (by decide)
        (.required hwell.spells (.span span (.done _)))
  | _, .block hwell span =>
      Stmt.spells_record (by decide) rfl (fun _ _ => rfl) (by decide)
        (.required (Stmt.spells_all fun stmt hstmt => (hwell stmt hstmt).spells)
          (.span span (.done _)))

theorem Local.WellNamed.spells : ∀ {binding : Local}, binding.WellNamed →
    Spells (.node .binding) Local.ofJson? binding.toJson binding
  | _, .mk name type huses hinitializer span =>
      Local.spells name type (fun use huse => (huses use huse).spells)
        (fun expr hexpr => (hinitializer expr hexpr).spells) span

end

end DeclCheck
