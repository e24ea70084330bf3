/-
# DeclCheck.Registry.Register — how classes and names enter the registry.

The last declaration of a name counts; an earlier one keeps its entry and is reported as
duplicated.  A declaration also settles the placeholder of its name, if one is waiting.
-/
import DeclCheck.Registry.Redirect

namespace DeclCheck

namespace Registry

/-- Add an entry; its number is the number of entries before it. -/
def push (registry : Registry) (decl : ClassDecl) (origin : Origin) : Registry × ClassId :=
  ({ registry with entries := registry.entries.push (.new decl origin) }, ⟨registry.size⟩)

/-- The report of a second declaration of a name. -/
def duplicate (registry : Registry) (decl : ClassDecl) (unit : String) (earlier : ClassId) :
    Diagnostic where
  problem :=
    .duplicateClass decl.name unit ((registry.unitOf? earlier).getD "<unknown>")
      (decl.scriptBody || ((registry.class? earlier).map (·.scriptBody)).getD false)
  span := decl.span
  unit := some unit

/-- Enter a name that a source unit uses: its declared class if there is one, or else its
placeholder, made if need be. -/
def refer (registry : Registry) (name : String) (location : Location) : Registry × ClassId :=
  match registry.lookup? name with
  | some id => (registry, id)
  | none =>
    let (added, id) := registry.push { name } (.pending location)
    ({ added with
        pending := added.pending.insert name id
        sightings := added.sightings.insertIfNew name location }, id)

/-- Enter a class declared in a source unit. -/
def declare (registry : Registry) (decl : ClassDecl) (unit : String) :
    Registry × ClassId × List RedirectEvent :=
  let (added, id) := registry.push decl (.declared unit)
  let reported :=
    match added.known.get? decl.name with
    | some earlier => { added with
        diagnostics := added.diagnostics ++ [added.duplicate decl unit earlier] }
    | none => added
  let registered := { reported with known := reported.known.insert decl.name id }
  match registered.pending.get? decl.name with
  | none => (registered, id, [])
  | some placeholder =>
    match registered.redirect placeholder id with
    | .ok (redirected, events) => (redirected, id, events)
    | .error _ => (registered, id, [])

/-- Enter declarations one after another. -/
def declareAll (registry : Registry) (decls : List ClassDecl) (unit : String) :
    Registry × List ClassId × List RedirectEvent :=
  match decls with
  | [] => (registry, [], [])
  | decl :: rest =>
    let (registry, id, events) := registry.declare decl unit
    let (registry, ids, later) := registry.declareAll rest unit
    (registry, id :: ids, events ++ later)

/-- Enter a source unit: its name, the names it uses, then its declarations. -/
def addUnit (registry : Registry) (unit : SourceUnit) :
    Registry × List ClassId × List RedirectEvent :=
  let named := { registry with units := registry.units ++ [unit.name] }
  match unit.tree with
  | none => (named, [], [])
  | some tree =>
    let referred := tree.references.foldl (fun registry reference =>
      (registry.refer reference.name ⟨unit.name, reference.span⟩).1) named
    referred.declareAll tree.classes unit.name

/-- Enter a nested class that the compiler made. -/
def addGenerated (registry : Registry) (decl : ClassDecl) : Registry × ClassId :=
  let (added, id) := registry.push decl .generated
  ({ added with generated := added.generated.insert decl.name id }, id)

/-- Enter a compiled class from outside. -/
def addExternal (registry : Registry) (decl : ClassDecl) : Registry × ClassId :=
  let (added, id) := registry.push decl .external
  ({ added with external := added.external.insert decl.name id }, id)

/-- Enter a nested class that waits for its outer class. -/
def addOuterNested (registry : Registry) (enclosing : ClassId) (name : String) :
    Except RegistryError (Registry × ClassId) :=
  match registry.class? enclosing with
  | none => .error (.unknownClass enclosing)
  | some outer =>
    let (added, id) := registry.push { name, enclosing := some outer.name } (.outerNested enclosing)
    .ok ({ added with toResolve := added.toResolve.insert name id }, id)

/-- The registry's reports so far, which it then forgets. -/
def takeDiagnostics (registry : Registry) : List Diagnostic × Registry :=
  (registry.diagnostics, { registry with diagnostics := [] })

end Registry

end DeclCheck
