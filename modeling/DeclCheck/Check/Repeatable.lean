/-
# DeclCheck.Check.Repeatable — several uses of one annotation type on a declaration.

Uses of a type that names a container are collected in one use of the container, which comes last.
A type without a container may not be repeated, and a container that is written out may not stand
beside repeated uses.  Uses that are kept in the source only, and uses of unknown types, are left
alone.
-/
import DeclCheck.Registry.Basic

namespace DeclCheck

/-- What annotation uses are judged by: the classes, and how expressions are evaluated. -/
structure Scope where
  registry : Registry
  evaluator : Evaluator

namespace Scope

variable (scope : Scope)

/-- The retention of a use: its own, or else what its type declares. -/
def retentionOf? (use : AnnotationUse) : Option Retention :=
  use.retention.or <|
    (scope.registry.annotationType? use.kind).bind (·.retention.evaluate? scope.evaluator)

/-- Whether a use takes part in folding. -/
def isFoldable (use : AnnotationUse) : Bool :=
  (scope.registry.annotationType? use.kind).isSome && scope.retentionOf? use ≠ some .source

/-- The foldable uses by kind, each kind at its first use. -/
def groups (uses : List AnnotationUse) : NameMap (List AnnotationUse) :=
  uses.foldl (fun groups use =>
    if scope.isFoldable use then
      groups.insert use.kind ((groups.get? use.kind).getD [] ++ [use])
    else groups) ∅

/-- The strongest retention among the uses. -/
def strongestRetention? (uses : List AnnotationUse) : Option Retention :=
  match uses.filterMap scope.retentionOf? with
  | [] => none
  | first :: rest => some (rest.foldl Retention.strongest first)

/-- A use of the container that holds the given uses. -/
def containerUse (container : AnnotationType) (first : AnnotationUse) (rest : List AnnotationUse) :
    AnnotationUse where
  kind := container.name
  members :=
    [(AnnotationUse.valueMember, .list ((first :: rest).map .annotationUse) .nowhere)]
  retention := some <|
    ((scope.strongestRetention? (first :: rest)).or
      (container.retention.evaluate? scope.evaluator)).getD .classFile
  targets := some container.targets
  span := first.span

/-- What becomes of a repeated kind. -/
inductive Verdict where
  /-- It names no container. -/
  | illegal (second : AnnotationUse)
  /-- Its container is written out. -/
  | conflicting (container : String) (explicit : AnnotationUse)
  | folded (container : AnnotationUse)

/-- Judge the uses of one kind among all uses of a declaration; a single use needs no judgement. -/
def judge? (uses : List AnnotationUse) (kind : String) : List AnnotationUse → Option Verdict
  | first :: second :: rest =>
    let container :=
      ((scope.registry.annotationType? kind).bind (·.container)).bind scope.registry.annotationType?
    match container with
    | none => some (.illegal second)
    | some container =>
      match uses.find? (·.kind = container.name) with
      | some explicit => some (.conflicting container.name explicit)
      | none => some (.folded (scope.containerUse container first (second :: rest)))
  | _ => none

/-- The repeated kinds with their verdicts, in order of first use. -/
def verdicts (uses : List AnnotationUse) : List (String × Verdict) :=
  (scope.groups uses).entries.filterMap fun (kind, group) =>
    (scope.judge? uses kind group).map (kind, ·)

/-- The report on the uses of one kind, unless they were folded. -/
def Verdict.diagnostic? (kind : String) : Verdict → Option Diagnostic
  | .illegal second => some { problem := .duplicateUse kind, span := second.span }
  | .conflicting container explicit =>
    some { problem := .containerConflict container kind, span := explicit.span }
  | .folded _ => none

/-- The container that the uses of one kind were folded into. -/
def Verdict.container? : Verdict → Option AnnotationUse
  | .folded container => some container
  | _ => none

/-- Fold repeated uses into their containers. -/
def fold (uses : List AnnotationUse) : List AnnotationUse × List Diagnostic :=
  let verdicts := scope.verdicts uses
  let folded := verdicts.filterMap fun (kind, verdict) => verdict.container?.map fun _ => kind
  let kept := uses.filter fun use => !(scope.isFoldable use && folded.contains use.kind)
  (kept ++ verdicts.filterMap (·.2.container?),
    verdicts.filterMap fun (kind, verdict) => verdict.diagnostic? kind)

end Scope

end DeclCheck
