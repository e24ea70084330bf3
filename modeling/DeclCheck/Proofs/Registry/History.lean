/-
# DeclCheck.Proofs.Registry.History — everything that can happen to a registry.

A registry changes by calls: names and classes are entered, placeholders are listened to and
redirected, classes are checked, reports are taken.  A call that is refused changes nothing.
Entering a source unit is a sequence of calls, so what every call preserves holds after every
history of operations.  What the calls of a run give off on the way, be it events, listeners or
entries of a log, is collected by one function.
-/
import DeclCheck.Proofs.Verification.Independence

namespace DeclCheck

/-- One change of a registry. -/
inductive Call where
  /-- A source unit without a tree. -/
  | enterUnit (name : String)
  | refer (name : String) (location : Location)
  | declare (decl : ClassDecl) (unit : String)
  | addGenerated (decl : ClassDecl)
  | addExternal (decl : ClassDecl)
  | addOuterNested (enclosing : ClassId) (name : String)
  | listen (placeholder : ClassId) (listener : String)
  | redirect (placeholder target : ClassId)
  | verifyClass (verifier : Verifier) (id : ClassId)
  | takeDiagnostics

/-- What can be asked of a registry: a whole source unit, or one change. -/
inductive Operation where
  | addUnit (unit : SourceUnit)
  | change (call : Call)

/-- The changes that a source unit makes. -/
def SourceUnit.calls (unit : SourceUnit) : List Call :=
  .enterUnit unit.name ::
    match unit.tree with
    | none => []
    | some tree =>
      tree.references.map (fun reference => .refer reference.name ⟨unit.name, reference.span⟩) ++
        tree.classes.map fun decl => .declare decl unit.name

/-- The changes that an operation comes down to. -/
def Operation.calls : Operation → List Call
  | .addUnit unit => unit.calls
  | .change call => [call]

namespace Registry

/-- The registry after a call; the same one if the call is refused. -/
def apply (registry : Registry) : Call → Registry
  | .enterUnit name => (registry.addUnit { name }).1
  | .refer name location => (registry.refer name location).1
  | .declare decl unit => (registry.declare decl unit).1
  | .addGenerated decl => (registry.addGenerated decl).1
  | .addExternal decl => (registry.addExternal decl).1
  | .addOuterNested enclosing name =>
    match registry.addOuterNested enclosing name with
    | .ok (added, _) => added
    | .error _ => registry
  | .listen placeholder listener =>
    match registry.listen placeholder listener with
    | .ok listening => listening
    | .error _ => registry
  | .redirect placeholder target =>
    match registry.redirect placeholder target with
    | .ok (redirected, _) => redirected
    | .error _ => registry
  | .verifyClass verifier id => verifier.checked registry id
  | .takeDiagnostics => registry.takeDiagnostics.2

/-- The registry after an operation. -/
def perform (registry : Registry) : Operation → Registry
  | .addUnit unit => (registry.addUnit unit).1
  | .change call => registry.apply call

/-- The registry after operations that begin with an empty one. -/
def after (operations : List Operation) : Registry :=
  operations.foldl perform ∅

/-- The registry after calls that begin with an empty one. -/
def ran (calls : List Call) : Registry :=
  calls.foldl apply ∅

theorem ran_concat (calls : List Call) (call : Call) :
    ran (calls ++ [call]) = (ran calls).apply call := by
  rw [ran, List.foldl_append]
  rfl

/-- What the calls of a run give off, one after another. -/
def collect {α : Type} (emit : Registry → Call → List α) (registry : Registry) :
    List Call → List α
  | [] => []
  | call :: rest => emit registry call ++ collect emit (registry.apply call) rest

theorem collect_append {α : Type} (emit : Registry → Call → List α) (registry : Registry)
    (calls later : List Call) :
    collect emit registry (calls ++ later) =
      collect emit registry calls ++ collect emit (calls.foldl apply registry) later := by
  induction calls generalizing registry with
  | nil => rfl
  | cons call rest ih =>
      rw [List.cons_append, collect, collect, ih, List.append_assoc, List.foldl_cons]

theorem declareAll_fst (registry : Registry) (decls : List ClassDecl) (unit : String) :
    (registry.declareAll decls unit).1 =
      (decls.map fun decl => Call.declare decl unit).foldl apply registry := by
  induction decls generalizing registry with
  | nil => rfl
  | cons decl rest ih => exact ih (registry.declare decl unit).1

theorem addUnit_fst (registry : Registry) (unit : SourceUnit) :
    (registry.addUnit unit).1 = unit.calls.foldl apply registry := by
  obtain ⟨name, tree⟩ := unit
  cases tree with
  | none => rfl
  | some tree =>
      simp only [addUnit, SourceUnit.calls, List.foldl_cons, List.foldl_append, declareAll_fst,
        List.foldl_map]
      rfl

theorem perform_eq (registry : Registry) (operation : Operation) :
    registry.perform operation = operation.calls.foldl apply registry := by
  cases operation with
  | addUnit unit => exact registry.addUnit_fst unit
  | change call => rfl

theorem foldl_perform (registry : Registry) (operations : List Operation) :
    operations.foldl perform registry =
      (operations.flatMap Operation.calls).foldl apply registry := by
  induction operations generalizing registry with
  | nil => rfl
  | cons operation rest ih =>
      rw [List.foldl_cons, ih, perform_eq, List.flatMap_cons, List.foldl_append]

theorem after_eq_ran (operations : List Operation) :
    after operations = ran (operations.flatMap Operation.calls) := by
  rw [after, foldl_perform, ran]

/-- What holds at first and is kept by every call holds after every history. -/
theorem after_induction {P : Registry → Prop} (hempty : P ∅)
    (hcall : ∀ registry call, P registry → P (registry.apply call))
    (operations : List Operation) : P (after operations) := by
  rw [after, foldl_perform]
  -- From here on only the calls count, and the registry they start from is any that has `P`.
  generalize (∅ : Registry) = registry at hempty
  induction operations.flatMap Operation.calls generalizing registry with
  | nil => exact hempty
  | cons call rest ih => exact ih _ (hcall registry call hempty)

end Registry

end DeclCheck
