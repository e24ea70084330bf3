/-
# DeclCheck.Tree.Retention — how long an annotation is kept.
-/
import DeclCheck.Text.Qualified

namespace DeclCheck

/-- Kept in the source only, in the class file, or also at run time. -/
inductive Retention where
  | source
  | classFile
  | runtime
deriving DecidableEq, Inhabited

namespace Retention

/-- Every retention. -/
def all : List Retention := [.source, .classFile, .runtime]

/-- The constant of the retention policy. -/
def constantName : Retention → String
  | .source => "SOURCE"
  | .classFile => "CLASS"
  | .runtime => "RUNTIME"

/-- The retention that a constant names, whether or not its type is written before it. -/
def ofConstant? (name : String) : Option Retention :=
  all.find? fun retention => retention.constantName = simpleName name

/-- Rank among retentions that have to be merged. -/
def strength : Retention → Nat
  | .source => 0
  | .runtime => 1
  | .classFile => 2

/-- The stronger of the two. -/
def strongest (a b : Retention) : Retention :=
  if a.strength < b.strength then b else a

end Retention

end DeclCheck
