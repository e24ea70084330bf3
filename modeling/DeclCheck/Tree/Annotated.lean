/-
# DeclCheck.Tree.Annotated — the declarations that can carry annotations, seen alike.
-/
import DeclCheck.Tree.Declaration

namespace DeclCheck

/-- Everything that annotations can be attached to. -/
inductive Declaration where
  | type (decl : ClassDecl)
  | package (decl : Package)
  | field (decl : Field)
  | method (decl : Method)
  | constructor (decl : Method)
  | parameter (decl : Param)
  | localVariable (decl : Local)

namespace Declaration

/-- What the declaration counts as for the targets of annotations. -/
def target : Declaration → Target
  | .type decl => if decl.isAnnotationType then .annotationType else .type
  | .package _ => .package
  | .field _ => .field
  | .method _ => .method
  | .constructor _ => .constructor
  | .parameter _ => .parameter
  | .localVariable _ => .localVariable

/-- The name that is declared. -/
def name : Declaration → String
  | .type decl => decl.name
  | .package decl => decl.name
  | .field decl => decl.name
  | .method decl => decl.name
  | .constructor decl => decl.name
  | .parameter decl => decl.name
  | .localVariable decl => decl.name

/-- Where the declaration stands. -/
def span : Declaration → Span
  | .type decl => decl.span
  | .package decl => decl.span
  | .field decl => decl.span
  | .method decl => decl.span
  | .constructor decl => decl.span
  | .parameter decl => decl.span
  | .localVariable decl => decl.span

/-- The annotation uses on the declaration itself. -/
def annotations : Declaration → List AnnotationUse
  | .type decl => decl.annotations
  | .package decl => decl.annotations
  | .field decl => decl.annotations
  | .method decl => decl.annotations
  | .constructor decl => decl.annotations
  | .parameter decl => decl.annotations
  | .localVariable decl => decl.annotations

/-- Put other uses on the declaration.  Nothing else in it changes. -/
def setAnnotations (annotations : List AnnotationUse) : Declaration → Declaration
  | .type decl => .type { decl with annotations }
  | .package decl => .package { decl with annotations }
  | .field decl => .field { decl with annotations }
  | .method decl => .method { decl with annotations }
  | .constructor decl => .constructor { decl with annotations }
  | .parameter decl => .parameter { decl with annotations }
  | .localVariable decl => .localVariable { decl with annotations }

/-- Mark the declaration as deprecated.  Packages, parameters and local variables bear no such
mark. -/
def markDeprecated : Declaration → Declaration
  | .type decl => .type { decl with deprecated := true }
  | .field decl => .field { decl with deprecated := true }
  | .method decl => .method { decl with deprecated := true }
  | .constructor decl => .constructor { decl with deprecated := true }
  | other => other

end Declaration

end DeclCheck
