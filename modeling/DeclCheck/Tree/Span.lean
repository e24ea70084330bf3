/-
# DeclCheck.Tree.Span — source positions.

Lines and columns are machine words, as in the trees that front ends hand over.  The span of all
zeros marks a node that no source text stands for.
-/

namespace DeclCheck

/-- The stretch of source text a node was read from. -/
structure Span where
  startLine : UInt64
  startColumn : UInt64
  endLine : UInt64
  endColumn : UInt64
deriving DecidableEq

namespace Span

/-- The span of a node that was not read from source text. -/
def nowhere : Span := ⟨0, 0, 0, 0⟩

instance : Inhabited Span := ⟨nowhere⟩

/-- Whether the node was not read from source text. -/
def isNowhere (span : Span) : Bool :=
  span = nowhere

/-- Where the span starts, as `line:column`. -/
def text (span : Span) : String :=
  toString span.startLine.toNat ++ ":" ++ toString span.startColumn.toNat

end Span

end DeclCheck
