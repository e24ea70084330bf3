/-
# DeclCheck.Tree.Target — what an annotation may be attached to.

A target set is a list of targets in their fixed order without repetition, so equal sets are equal
as values and are written alike.
-/
import DeclCheck.Text.Qualified

namespace DeclCheck

/-- The places that annotations can be attached to. -/
inductive Target where
  | type
  | field
  | method
  | parameter
  | constructor
  | localVariable
  | annotationType
  | package
  | typeParameter
  | typeUse
deriving DecidableEq, Inhabited

namespace Target

/-- Every target, in order. -/
def all : List Target :=
  [.type, .field, .method, .parameter, .constructor, .localVariable, .annotationType, .package,
    .typeParameter, .typeUse]

theorem mem_all (target : Target) : target ∈ all := by
  cases target <;> decide

/-- The targets that are declarations in their own right. -/
def declarations : List Target :=
  [.type, .field, .method, .parameter, .constructor, .localVariable, .annotationType, .package]

/-- The place of a target in the fixed order. -/
def rank (target : Target) : Nat :=
  all.idxOf target

/-- The constant of the element type. -/
def constantName : Target → String
  | .type => "TYPE"
  | .field => "FIELD"
  | .method => "METHOD"
  | .parameter => "PARAMETER"
  | .constructor => "CONSTRUCTOR"
  | .localVariable => "LOCAL_VARIABLE"
  | .annotationType => "ANNOTATION_TYPE"
  | .package => "PACKAGE"
  | .typeParameter => "TYPE_PARAMETER"
  | .typeUse => "TYPE_USE"

/-- The target that a constant names, whether or not its type is written before it. -/
def ofConstant? (name : String) : Option Target :=
  all.find? fun target => target.constantName = simpleName name

end Target

/-- A set of targets. -/
structure TargetSet where
  members : List Target
  sorted : members.Pairwise (·.rank < ·.rank)
deriving DecidableEq

namespace TargetSet

/-- The set of the targets in a list, in whatever order they come and however often. -/
def ofList (targets : List Target) : TargetSet where
  members := Target.all.filter targets.contains
  sorted := List.Pairwise.filter _ (by decide)

theorem mem_ofList (targets : List Target) (target : Target) :
    target ∈ (ofList targets).members ↔ target ∈ targets := by
  simp [ofList, Target.mem_all]

instance : Inhabited TargetSet := ⟨ofList []⟩

/-- The targets of an annotation type that does not say. -/
def declarations : TargetSet :=
  ofList Target.declarations

/-- Whether the set has no members. -/
def isEmpty (set : TargetSet) : Bool :=
  set.members.isEmpty

/-- Whether an annotation restricted to this set may stand on `target`.  An annotation type is a
type, and a use of types covers declarations of types and of type parameters. -/
def allows (set : TargetSet) (target : Target) : Bool :=
  set.members.contains target ||
    match target with
    | .annotationType => set.members.contains .type || set.members.contains .typeUse
    | .type | .typeParameter => set.members.contains .typeUse
    | _ => false

end TargetSet

end DeclCheck
