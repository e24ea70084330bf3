/-
# DeclCheck.Proofs.Form.Declaration — declarations, source units and compilations are read back from
their JSON form.

Each is a record, spelled field by field.  What has to hold of one is what has to hold of the
annotations inside it: none of them gives a member twice.
-/
import DeclCheck.Form.Declaration
import DeclCheck.Proofs.Form.Body

namespace DeclCheck

open Json (Spells)

/-! ## Members are given once -/

/-- No annotation of the package gives a member twice. -/
def Package.WellNamed (package : Package) : Prop :=
  ∀ use ∈ package.annotations, use.WellNamed

/-- No annotation of the field or inside its initializer gives a member twice. -/
structure Field.WellNamed (field : Field) : Prop where
  annotations : ∀ use ∈ field.annotations, use.WellNamed
  initializer : ∀ expr ∈ field.initializer, expr.WellNamed

/-- No annotation of the parameter or inside its default gives a member twice. -/
structure Param.WellNamed (param : Param) : Prop where
  annotations : ∀ use ∈ param.annotations, use.WellNamed
  default : ∀ expr ∈ param.default, expr.WellNamed

/-- No annotation of the method, of its parameters or inside its body gives a member twice. -/
structure Method.WellNamed (method : Method) : Prop where
  params : ∀ param ∈ method.params, param.WellNamed
  annotations : ∀ use ∈ method.annotations, use.WellNamed
  body : ∀ body ∈ method.body, ∀ stmt ∈ body, stmt.WellNamed

/-- No annotation of the class, of its members or inside their bodies gives a member twice. -/
structure ClassDecl.WellNamed (decl : ClassDecl) : Prop where
  annotations : ∀ use ∈ decl.annotations, use.WellNamed
  fields : ∀ field ∈ decl.fields, field.WellNamed
  constructors : ∀ method ∈ decl.constructors, method.WellNamed
  methods : ∀ method ∈ decl.methods, method.WellNamed
  package : ∀ package ∈ decl.package, package.WellNamed

/-- No annotation in the tree gives a member twice. -/
def SourceTree.WellNamed (tree : SourceTree) : Prop :=
  ∀ decl ∈ tree.classes, decl.WellNamed

/-- No annotation in the unit gives a member twice. -/
def SourceUnit.WellNamed (unit : SourceUnit) : Prop :=
  ∀ tree ∈ unit.tree, tree.WellNamed

/-- No annotation in the compilation gives a member twice, be it of a source unit or a compiled
class. -/
structure Compilation.WellNamed (compilation : Compilation) : Prop where
  units : ∀ unit ∈ compilation.units, unit.WellNamed
  external : ∀ decl ∈ compilation.external, decl.WellNamed

/-! ## Members of classes -/

theorem ClassKind.spells (kind : ClassKind) :
    Spells (.node .classKind) ClassKind.ofJson? kind.toJson kind :=
  .node (.choice (by cases kind <;> decide))

/-- Annotations that are well named are spelled as a list. -/
theorem AnnotationUse.spells_list {uses : List AnnotationUse}
    (hwell : ∀ use ∈ uses, use.WellNamed) :
    Spells (.list (.node .annotationUse)) (Json.list? AnnotationUse.ofJson?)
      (.ofList AnnotationUse.toJson uses) uses :=
  .list fun use huse => (hwell use huse).spells

theorem Expr.spells_ofOption {value : Option Expr} (hwell : ∀ expr ∈ value, expr.WellNamed) :
    Spells (.nullable (.node .expr)) (fun level => Json.nullable (Expr.ofJson? level))
      (.ofOption Expr.toJson value) value :=
  .option Expr.toJson_ne_null fun expr hexpr => (hwell expr hexpr).spells

theorem Package.WellNamed.spells {package : Package} (hwell : package.WellNamed) :
    Spells (.node .package) Package.ofJson? package.toJson package :=
  .node (.record (fun _ _ => rfl) (by decide)
    (.required (.string _) (.optional rfl (AnnotationUse.spells_list hwell)
      (.span _ (.done _)))))

theorem Field.WellNamed.spells {field : Field} (hwell : field.WellNamed) :
    Spells (.node .field) Field.ofJson? field.toJson field := by
  have hannotations := AnnotationUse.spells_list hwell.annotations
  have hvalue := Expr.spells_ofOption hwell.initializer
  exact .node (.record (fun _ _ => rfl) (by decide)
    (.required (.string _) (.required field.type.spells (.optional rfl hannotations
      (.optional rfl hvalue (.flag _ (.flag _ (.span _ (.done _)))))))))

theorem Param.WellNamed.spells {param : Param} (hwell : param.WellNamed) :
    Spells (.node .param) Param.ofJson? param.toJson param := by
  have hannotations := AnnotationUse.spells_list hwell.annotations
  have hvalue := Expr.spells_ofOption hwell.default
  exact .node (.record (fun _ _ => rfl) (by decide)
    (.required (.string _) (.required param.type.spells (.optional rfl hannotations
      (.optional rfl hvalue (.span _ (.done _)))))))

theorem Method.WellNamed.spells {method : Method} (hwell : method.WellNamed) :
    Spells (.node .method) Method.ofJson? method.toJson method := by
  have htypeParams := Spells.list fun param (_ : param ∈ method.typeParams) => param.spells
  have hparams := Spells.list fun param hparam => (hwell.params param hparam).spells
  have hexceptions := Spells.list (TypeExpr.spells_of_mem method.exceptions)
  have hannotations := AnnotationUse.spells_list hwell.annotations
  have hbody : Spells (.nullable (.list (.node .stmt)))
      (fun level => Json.nullable (Json.list? Stmt.ofJson? level))
      (.ofOption (.ofList Stmt.toJson) method.body) method.body :=
    .option (by simp [Json.ofList]) fun body hbody =>
      .list fun stmt hstmt => (hwell.body body hbody stmt hstmt).spells
  exact .node (.record (fun _ _ => rfl) (by decide)
    (.required (.string _) (.optional rfl htypeParams (.optional rfl hparams
      (.optional rfl method.returnType.spells (.optional rfl hexceptions
        (.optional rfl hannotations (.optional rfl hbody (.flag _ (.flag _ (.flag _ (.flag _
          (.span _ (.done _))))))))))))))

/-! ## Classes -/

theorem ClassDecl.WellNamed.spells {decl : ClassDecl} (hwell : decl.WellNamed) :
    Spells (.node .classDecl) ClassDecl.ofJson? decl.toJson decl := by
  have htypeParams := Spells.list fun param (_ : param ∈ decl.typeParams) => param.spells
  have hsuperclass := Spells.option TypeExpr.toJson_ne_null (TypeExpr.spells_bound decl.superclass)
  have hinterfaces := Spells.list (TypeExpr.spells_of_mem decl.interfaces)
  have hannotations := AnnotationUse.spells_list hwell.annotations
  have hfields := Spells.list fun field hfield => (hwell.fields field hfield).spells
  have hconstructors := Spells.list fun method hmethod => (hwell.constructors method hmethod).spells
  have hmethods := Spells.list fun method hmethod => (hwell.methods method hmethod).spells
  have hpackage : Spells (.nullable (.node .package))
      (fun level => Json.nullable (Package.ofJson? level))
      (.ofOption Package.toJson decl.package) decl.package :=
    .option (by simp [Package.toJson]) fun package hpackage =>
      (hwell.package package hpackage).spells
  have henclosing : Spells (.nullable .scalar) (fun _ => Json.nullable Json.string?)
      (.ofOption .string decl.enclosing) decl.enclosing :=
    .option (by simp) fun name _ => .string name
  exact .node (.record (fun _ _ => rfl) (by decide)
    (.required (.string _) (.optional rfl decl.kind.spells (.optional rfl htypeParams
      (.optional rfl hsuperclass (.optional rfl hinterfaces (.optional rfl hannotations
        (.optional rfl hfields (.optional rfl hconstructors (.optional rfl hmethods
          (.optional rfl hpackage (.optional rfl henclosing (.flag _ (.flag _ (.flag _
            (.span _ (.done _)))))))))))))))))

/-! ## Source units -/

theorem Reference.spells (reference : Reference) :
    Spells (.node .reference) Reference.ofJson? reference.toJson reference :=
  .node (.record (fun _ _ => rfl) (by decide) (.required (.string _) (.span _ (.done _))))

theorem SourceTree.WellNamed.spells {tree : SourceTree} (hwell : tree.WellNamed) :
    Spells (.node .sourceTree) SourceTree.ofJson? tree.toJson tree := by
  have hclasses := Spells.list fun decl hdecl => (hwell decl hdecl).spells
  have hreferences := Spells.list fun site (_ : site ∈ tree.references) => site.spells
  exact .node (.record (fun _ _ => rfl) (by decide)
    (.optional rfl hclasses (.optional rfl hreferences (.done _))))

theorem SourceUnit.WellNamed.spells {unit : SourceUnit} (hwell : unit.WellNamed) :
    Spells (.node .sourceUnit) SourceUnit.ofJson? unit.toJson unit := by
  have htree : Spells (.nullable (.node .sourceTree))
      (fun level => Json.nullable (SourceTree.ofJson? level))
      (.ofOption SourceTree.toJson unit.tree) unit.tree :=
    .option (by simp [SourceTree.toJson]) fun tree htree => (hwell tree htree).spells
  exact .node (.record (fun _ _ => rfl) (by decide)
    (.required (.string _) (.optional rfl htree (.done _))))

theorem Compilation.WellNamed.spells {compilation : Compilation} (hwell : compilation.WellNamed) :
    Spells (.node .compilation) Compilation.ofJson? compilation.toJson compilation := by
  have hunits := Spells.list fun unit hunit => (hwell.units unit hunit).spells
  have hexternal := Spells.list fun decl hdecl => (hwell.external decl hdecl).spells
  exact .node (.record (fun _ _ => rfl) (by decide)
    (.optional rfl hunits (.optional rfl hexternal (.done _))))

end DeclCheck
