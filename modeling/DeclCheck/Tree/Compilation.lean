/-
# DeclCheck.Tree.Compilation — source units and what is compiled together.
-/
import DeclCheck.Tree.Declaration

namespace DeclCheck

/-- A class name that a source unit uses. -/
structure Reference where
  name : String
  span : Span := .nowhere

/-- What was read from one source file. -/
structure SourceTree where
  classes : List ClassDecl := []
  references : List Reference := []

/-- A source file; it has no tree if it could not be read. -/
structure SourceUnit where
  name : String
  tree : Option SourceTree := none

/-- The classes that a unit declares.  A unit without a tree declares none. -/
def SourceUnit.classes (unit : SourceUnit) : List ClassDecl :=
  match unit.tree with
  | some tree => tree.classes
  | none => []

/-- The source units of one run and the compiled classes they can see. -/
structure Compilation where
  units : List SourceUnit := []
  external : List ClassDecl := []

end DeclCheck
