/-
# DeclCheck.Check.Visit — visiting one declaration.

A visit gives a value and remembers what it found on the way, in order, and whether it met any
annotation.  `visit` treats the annotations of one declaration: each is completed from its type and
compared with the type's targets, repeated ones are folded, and a method marked as overriding is
searched for what it overrides.
-/
import DeclCheck.Check.Repeatable
import DeclCheck.Inheritance.Search
import DeclCheck.Settings
import DeclCheck.Tree.Annotated

namespace DeclCheck

/-! ## Visits -/

/-- What comes of looking at a part of a declaration: the part as it is left, and what was found on
the way. -/
structure Visit (α : Type) where
  value : α
  findings : List Diagnostic
  /-- Whether any annotation was met. -/
  annotated : Bool

namespace Visit

/-- Visits made one after another: findings are kept in order, and one annotation met is enough. -/
instance : Monad Visit where
  pure value := ⟨value, [], false⟩
  bind visit next :=
    let after := next visit.value
    ⟨after.value, visit.findings ++ after.findings, visit.annotated || after.annotated⟩

/-- The order of visits counts, and how they are grouped does not. -/
instance : LawfulMonad Visit :=
  LawfulMonad.mk' Visit
    (fun _ => by simp [Functor.map])
    (fun _ _ => by simp [bind, pure])
    (fun _ _ _ => by simp [bind, List.append_assoc, Bool.or_assoc])

/-- Find these problems. -/
def report (findings : List Diagnostic) : Visit Unit :=
  ⟨(), findings, false⟩

/-- Meet an annotation. -/
def meet : Visit Unit :=
  ⟨(), [], true⟩

end Visit

/-! ## One declaration -/

/-- What a class is checked by. -/
structure Surroundings where
  settings : CheckSettings
  scope : Scope
  /-- The class as it was registered. -/
  declaring : ClassDecl

namespace Surroundings

variable (around : Surroundings)

/-- The classes that the checks look names up in. -/
def registry : Registry :=
  around.scope.registry

/-- Complete a use from its type, and report a type that is none or does not allow the target. -/
def complete (target : Target) (use : AnnotationUse) : Visit AnnotationUse :=
  match around.registry.annotationType? use.kind with
  | none => do
    if (around.registry.find? use.kind).isSome then
      Visit.report [{ problem := .notAnnotationType use.kind, span := use.span }]
    return use
  | some type => do
    let exempt := type.known = .target && target = .annotationType
    if around.settings.targets && !exempt && !type.targets.allows target then
      Visit.report [{ problem := .targetMismatch use.kind target, span := use.span }]
    return { use with
      retention := around.scope.retentionOf? use
      targets := use.targets.or (some type.targets) }

/-- Whether a use is of the given well-known type, which has to be an annotation type here. -/
def isUseOf (known : WellKnown) (use : AnnotationUse) : Bool :=
  ((around.registry.annotationType? use.kind).map (·.known)) = some known

/-- Report a method that claims to override but was not found to.  A search that has no end reports
nothing. -/
def checkOverride (mark : AnnotationUse) (method : Method) : List Diagnostic :=
  if around.settings.overrides && !method.defaultVariant &&
      around.registry.searchOverridden around.declaring method = some .exhausted then
    [{ problem := .missingOverride method.name around.declaring.name, span := mark.span }]
  else []

/-- What a visit makes of a declaration. -/
structure Outcome where
  annotations : List AnnotationUse
  deprecated : Bool

/-- Treat the annotations of one declaration. -/
def visit (declaration : Declaration) : Visit Outcome :=
  let uses := declaration.annotations
  if uses.isEmpty then pure ⟨uses, false⟩
  else do
    Visit.meet
    if !around.settings.supportsAnnotations then
      Visit.report [{
        problem := .annotationsUnsupported around.settings.release.toNat
          firstAnnotationRelease.toNat
        span := declaration.span }]
      return ⟨uses, false⟩
    else
      let completed ← uses.mapM (around.complete declaration.target)
      let folded ←
        if around.settings.folding then
          let (folded, findings) := around.scope.fold completed
          Visit.report findings
          pure folded
        else pure completed
      match declaration, uses.reverse.find? (around.isUseOf .overriding) with
      | .method method, some mark => Visit.report (around.checkOverride mark method)
      | _, _ => pure ()
      return ⟨folded, uses.any (around.isUseOf .deprecated)⟩

end Surroundings

end DeclCheck
