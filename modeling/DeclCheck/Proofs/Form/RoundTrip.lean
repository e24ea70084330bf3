/-
# DeclCheck.Proofs.Form.RoundTrip — whatever is written is read back.

For each type that has a JSON form of its own, writing a node as compact text and reading that text
gives the node again, as long as the form nests no deeper than is read at all.
-/
import DeclCheck.Proofs.Form.Declaration

namespace DeclCheck

/-- How the nodes of a type are written and read. -/
structure Form where
  Node : Type
  write : Node → Json
  read : Nat → Json → Option Node
  /-- The members of every annotation in the node are a map: no name is given twice.  Nodes without
  annotations have nothing to satisfy. -/
  WellNamed : Node → Prop := fun _ => True

namespace NodeType

/-- The writer and the reader of each type. -/
def form : NodeType → Form
  | .span => { Node := Span, write := Span.toJson, read := Span.ofJson? }
  | .type => { Node := TypeExpr, write := TypeExpr.toJson, read := TypeExpr.ofJson? }
  | .typeParam => { Node := TypeParam, write := TypeParam.toJson, read := TypeParam.ofJson? }
  | .wildcardKind =>
    { Node := WildcardKind, write := WildcardKind.toJson, read := WildcardKind.ofJson? }
  | .retention => { Node := Retention, write := Retention.toJson, read := Retention.ofJson? }
  | .target => { Node := Target, write := Target.toJson, read := Target.ofJson? }
  | .targetSet => { Node := TargetSet, write := TargetSet.toJson, read := TargetSet.ofJson? }
  | .wellKnown => { Node := WellKnown, write := WellKnown.toJson, read := WellKnown.ofJson? }
  | .literal => { Node := Literal, write := Literal.toJson, read := Literal.ofJson? }
  | .expr => ⟨Expr, Expr.toJson, Expr.ofJson?, Expr.WellNamed⟩
  | .stmt => ⟨Stmt, Stmt.toJson, Stmt.ofJson?, Stmt.WellNamed⟩
  | .annotationUse =>
    ⟨AnnotationUse, AnnotationUse.toJson, AnnotationUse.ofJson?, AnnotationUse.WellNamed⟩
  | .binding => ⟨Local, Local.toJson, Local.ofJson?, Local.WellNamed⟩
  | .classKind => { Node := ClassKind, write := ClassKind.toJson, read := ClassKind.ofJson? }
  | .package => ⟨Package, Package.toJson, Package.ofJson?, Package.WellNamed⟩
  | .field => ⟨Field, Field.toJson, Field.ofJson?, Field.WellNamed⟩
  | .param => ⟨Param, Param.toJson, Param.ofJson?, Param.WellNamed⟩
  | .method => ⟨Method, Method.toJson, Method.ofJson?, Method.WellNamed⟩
  | .classDecl => ⟨ClassDecl, ClassDecl.toJson, ClassDecl.ofJson?, ClassDecl.WellNamed⟩
  | .reference => { Node := Reference, write := Reference.toJson, read := Reference.ofJson? }
  | .sourceTree => ⟨SourceTree, SourceTree.toJson, SourceTree.ofJson?, SourceTree.WellNamed⟩
  | .sourceUnit => ⟨SourceUnit, SourceUnit.toJson, SourceUnit.ofJson?, SourceUnit.WellNamed⟩
  | .compilation =>
    ⟨Compilation, Compilation.toJson, Compilation.ofJson?, Compilation.WellNamed⟩

theorem spells (kind : NodeType) {node : kind.form.Node} (hwell : kind.form.WellNamed node) :
    Json.Spells (.node kind) kind.form.read (kind.form.write node) node := by
  cases kind with
  | span => exact Span.spells node
  | type => exact TypeExpr.spells node
  | typeParam => exact TypeParam.spells node
  | wildcardKind => exact WildcardKind.spells node
  | retention => exact Retention.spells node
  | target => exact Target.spells node
  | targetSet => exact TargetSet.spells node
  | wellKnown => exact WellKnown.spells node
  | literal => exact Literal.spells node
  | expr => exact Expr.WellNamed.spells hwell
  | stmt => exact Stmt.WellNamed.spells hwell
  | annotationUse => exact AnnotationUse.WellNamed.spells hwell
  | binding => exact Local.WellNamed.spells hwell
  | classKind => exact ClassKind.spells node
  | package => exact Package.WellNamed.spells hwell
  | field => exact Field.WellNamed.spells hwell
  | param => exact Param.WellNamed.spells hwell
  | method => exact Method.WellNamed.spells hwell
  | classDecl => exact ClassDecl.WellNamed.spells hwell
  | reference => exact Reference.spells node
  | sourceTree => exact SourceTree.WellNamed.spells hwell
  | sourceUnit => exact SourceUnit.WellNamed.spells hwell
  | compilation => exact Compilation.WellNamed.spells hwell

/-- The text written for a node is read as that node, and what was read is written as that text. -/
theorem readText_toText (kind : NodeType) (node : kind.form.Node)
    (hwell : kind.form.WellNamed node)
    (hdepth : (kind.form.write node).depth ≤ Json.maxNesting) :
    Json.readText kind.form.read (kind.form.write node).toText = some node ∧
      (Json.readText kind.form.read (kind.form.write node).toText).map
          (fun again => (kind.form.write again).toText)
        = some (kind.form.write node).toText := by
  have hread := (kind.spells hwell).readText hdepth
  exact ⟨hread, by rw [hread, Option.map_some]⟩

end NodeType

namespace Keepsake

/-- A position at the end of the largest source there is. -/
def farthest : Span := ⟨0, 1, 18446744073709551615, 7⟩

/-- Members out of alphabetical order, the first with letters of many scripts and the second a list
of an annotation and nothing. -/
def use : AnnotationUse where
  kind := "café.Note"
  members := [("value", .literal (.string "\"\\\u0001\t\u007f é 漢 🎉") .nowhere),
    ("also", .list [.annotationUse ⟨"Inner", [], some .runtime, none, farthest⟩, .list [] .nowhere]
      .nowhere)]
  retention := none
  targets := some (.ofList [.typeUse, .method])
  span := farthest

/-- One method without a body and one with an empty body. -/
def decl : ClassDecl where
  name := "Keepsake"
  typeParams := [⟨"T", [.named "Comparable" [.wildcard .lower (some (.variable "T"))]]⟩]
  annotations := [use]
  methods := [{ name := "open", annotations := [use] }, { name := "done", body := some [] }]

theorem use_wellNamed : use.WellNamed :=
  .mk _ (by decide)
    (by
      simp only [List.map_cons, List.map_nil, List.forall_mem_cons]
      refine ⟨.literal _ _, .list ?_ _, List.forall_mem_nil _⟩
      simp only [List.forall_mem_cons]
      exact ⟨.annotationUse (.mk _ (by decide) (List.forall_mem_nil _) _ _ _),
        .list (List.forall_mem_nil _) _, List.forall_mem_nil _⟩)
    _ _ _

theorem decl_wellNamed : decl.WellNamed where
  annotations := List.forall_mem_singleton.mpr use_wellNamed
  fields := List.forall_mem_nil _
  constructors := List.forall_mem_nil _
  methods := by
    refine List.forall_mem_cons.mpr ⟨?_, List.forall_mem_singleton.mpr ?_⟩
    · exact ⟨List.forall_mem_nil _, List.forall_mem_singleton.mpr use_wellNamed, by simp⟩
    · exact ⟨List.forall_mem_nil _, List.forall_mem_nil _, by simp⟩
  package := by simp [decl]

theorem decl_kept :
    decl.WellNamed ∧ decl.toJson.depth ≤ Json.maxNesting ∧
      Json.readText ClassDecl.ofJson? decl.toJson.toText = some decl ∧
        (Json.readText ClassDecl.ofJson? decl.toJson.toText).map (·.toJson.toText)
          = some decl.toJson.toText := by
  have hdepth : decl.toJson.depth ≤ Json.maxNesting := by decide
  exact ⟨decl_wellNamed, hdepth, NodeType.readText_toText .classDecl decl decl_wellNamed hdepth⟩

end Keepsake

end DeclCheck
