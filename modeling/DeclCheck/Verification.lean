/-
# DeclCheck.Verification — checking classes, and whole compilations.

A class is checked as it was registered, and its completed declaration takes its place in the
registry.  A compilation is registered as a whole before any class is checked: compiled classes,
then the source units in order.
-/
import DeclCheck.Check.Walk
import DeclCheck.Platform

namespace DeclCheck

/-- How classes are checked. -/
structure Verifier where
  settings : CheckSettings := {}
  /-- How the constants among member values are evaluated; the values of named ones will do. -/
  constants : Evaluator := (∅ : NameMap String)

namespace Verifier

variable (verifier : Verifier)

/-- What annotation uses are judged by while these classes are the known ones. -/
def scope (registry : Registry) : Scope :=
  ⟨registry, verifier.constants⟩

/-- Walk a declaration among the classes of a registry. -/
def walk (registry : Registry) (decl : ClassDecl) : Visit ClassDecl :=
  Surroundings.walkClass
    { settings := verifier.settings
      scope := verifier.scope registry
      declaring := decl } decl

/-- Check the class with the given number: the registry with its completed declaration, and what
was found. -/
def verifyClass? (registry : Registry) (id : ClassId) : Option (Registry × List Diagnostic) := do
  let decl ← registry.class? id
  let visit := verifier.walk registry decl
  let completed := { visit.value with annotated := visit.value.annotated || visit.annotated }
  let unit := registry.unitOf? id
  return (registry.setDecl id completed, visit.findings.map fun finding => { finding with unit })

/-- Check the classes with the given numbers one after another. -/
def verifyEach (registry : Registry) : List ClassId → Registry × List Diagnostic
  | [] => (registry, [])
  | id :: rest =>
    match verifier.verifyClass? registry id with
    | some (registry, findings) =>
      let (registry, later) := verifyEach registry rest
      (registry, findings ++ later)
    | none => verifyEach registry rest

/-- Check every declared class, in order of declaration. -/
def verifyAll (registry : Registry) : Registry × List Diagnostic :=
  verifier.verifyEach registry registry.declaredIds

end Verifier

/-! ## Compilations -/

/-- The result of checking a compilation. -/
structure Run where
  registry : Registry
  /-- Duplicated classes first, then what the checks found, class by class. -/
  diagnostics : List Diagnostic

namespace Compilation

/-- Enter a whole compilation: the platform, its compiled classes, and its source units in order. -/
def register (compilation : Compilation) : Registry :=
  compilation.units.foldl (fun registry unit => (registry.addUnit unit).1)
    (Registry.withPlatform.addExternals compilation.external)

/-- Register a compilation and check every class that it declares. -/
def verifyWith (compilation : Compilation) (verifier : Verifier) : Run :=
  let (duplicates, registry) := compilation.register.takeDiagnostics
  let (registry, findings) := verifier.verifyAll registry
  ⟨registry, duplicates ++ findings⟩

/-- Check a compilation by the settings alone, without values for named constants. -/
def verify (compilation : Compilation) (settings : CheckSettings) : Run :=
  compilation.verifyWith { settings }

end Compilation

namespace Run

/-- Whether anything reported is an error. -/
def hasErrors (run : Run) : Bool :=
  run.diagnostics.any (·.isError)

/-- The names that were used and never declared. -/
def unresolved (run : Run) : List String :=
  run.registry.pending.keys

/-- The report: a line for each diagnostic, the unresolved names if any, and the totals. -/
def report (run : Run) : String :=
  String.join (run.diagnostics.map (·.text ++ "\n")) ++
  (if run.unresolved.isEmpty then ""
    else "unresolved references: " ++ ", ".intercalate run.unresolved ++ "\n") ++
  "verified " ++ toString run.registry.declaredIds.length ++ " classes: " ++
    toString (run.diagnostics.countP (·.isError)) ++ " error(s)\n"

end Run

end DeclCheck
