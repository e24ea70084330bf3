/-
# DeclCheck.Registry.Basic — the classes of one run, by number and by name.

Every class gets an entry when it is first heard of, and a number that stays its own.  A name that
is used before it is declared gets a *placeholder*, which is later redirected to the declaration;
so is the placeholder of a nested class whose outer class is not yet settled.  Entries are never
removed: a class that another one of the same name replaces keeps its entry.

Names are looked up in five maps, one for each way a name can enter.  `find?` is the look-up that
the checks use: declared classes first, compiled ones from outside next, and never a placeholder.
-/
import DeclCheck.AnnotationType
import DeclCheck.Diagnostic
import DeclCheck.Tree.Compilation

namespace DeclCheck

/-- The number of an entry.  Numbers are natural ones here and not 32-bit words, so they do not wrap
however many entries there are. -/
structure ClassId where
  index : Nat
deriving DecidableEq, Inhabited

/-- How a number is written in messages. -/
def ClassId.text (id : ClassId) : String :=
  "#" ++ toString id.index

/-- A place in a source unit. -/
structure Location where
  unit : String
  span : Span
deriving DecidableEq, Inhabited

/-- How an entry came about. -/
inductive Origin where
  | declared (unit : String)
  /-- A placeholder for a name used before its declaration. -/
  | pending (location : Location)
  /-- A placeholder for a nested class that waits for its outer class. -/
  | outerNested (enclosing : ClassId)
  /-- A nested class that the compiler made, such as a closure. -/
  | generated
  /-- A compiled class from outside. -/
  | external
deriving DecidableEq

namespace Origin

/-- Whether an entry only stands for a class that is to come. -/
def isPlaceholder : Origin → Bool
  | .pending _ | .outerNested _ => true
  | _ => false

/-- Whether the class comes from a source unit. -/
def isDeclared : Origin → Bool
  | .declared _ => true
  | _ => false

end Origin

/-- What is kept about one class or placeholder. -/
structure Entry where
  decl : ClassDecl
  origin : Origin
  /-- Where a placeholder leads, once that is known. -/
  redirect : Option ClassId := none
  /-- Whom to tell when the placeholder is redirected, in order. -/
  listeners : List String := []
  /-- What the declaration said as an annotation definition when it was registered. -/
  annotationType : Option AnnotationType := none

namespace Entry

/-- The name that the entry was made for. -/
def name (entry : Entry) : String :=
  entry.decl.name

/-- Whether the entry only stands for a class that is to come. -/
def isPlaceholder (entry : Entry) : Bool :=
  entry.origin.isPlaceholder

/-- A new entry; its annotation type is read off the declaration unless it stands for another. -/
def new (decl : ClassDecl) (origin : Origin) : Entry where
  decl := decl
  origin := origin
  annotationType :=
    if !origin.isPlaceholder && decl.isAnnotationType then some (.ofDecl decl) else none

end Entry

/-- All classes of a run: the entries by number, and the maps that names are looked up in. -/
structure Registry where
  entries : Array Entry := #[]
  /-- Declared classes. -/
  known : NameMap ClassId := ∅
  /-- Placeholders of names that are not declared yet. -/
  pending : NameMap ClassId := ∅
  /-- Where each pending name was first used; kept after it is declared. -/
  sightings : NameMap Location := ∅
  /-- Nested classes that the compiler made. -/
  generated : NameMap ClassId := ∅
  /-- Placeholders of nested classes that wait for their outer class. -/
  toResolve : NameMap ClassId := ∅
  /-- Compiled classes from outside. -/
  external : NameMap ClassId := ∅
  units : List String := []
  diagnostics : List Diagnostic := []

/-- A request that the registry refuses. -/
inductive RegistryError where
  | unknownClass (id : ClassId)
  | notPlaceholder (name : String)
  | alreadyRedirected (name : String)
  | selfRedirect (name : String)
deriving DecidableEq

/-- The text of a refusal. -/
def RegistryError.message : RegistryError → String
  | .unknownClass id => "unknown class id " ++ id.text
  | .notPlaceholder name => "class `" ++ name ++ "` is not a placeholder"
  | .alreadyRedirected name => "placeholder `" ++ name ++ "` has already been redirected"
  | .selfRedirect name => "placeholder `" ++ name ++ "` cannot be redirected onto itself"

namespace Registry

/-- The registry before anything is entered. -/
def empty : Registry := {}

instance : EmptyCollection Registry := ⟨empty⟩

instance : Inhabited Registry := ⟨empty⟩

/-! ## Entries -/

/-- The number of entries, which is also the next number to be given. -/
def size (registry : Registry) : Nat :=
  registry.entries.size

/-- The entry with the given number. -/
def entry? (registry : Registry) (id : ClassId) : Option Entry :=
  registry.entries[id.index]?

/-- The declaration of the entry with the given number. -/
def class? (registry : Registry) (id : ClassId) : Option ClassDecl :=
  (registry.entry? id).map (·.decl)

/-- Where the entry with the given number leads, if it was redirected. -/
def redirect? (registry : Registry) (id : ClassId) : Option ClassId :=
  (registry.entry? id).bind (·.redirect)

/-- Follow at most `count` redirects. -/
def follow (registry : Registry) : Nat → ClassId → ClassId
  | 0, id => id
  | count + 1, id =>
    match registry.redirect? id with
    | some target => registry.follow count target
    | none => id

/-- The end of the redirects from `id`.  They never form a cycle, so there are no more of them
than entries. -/
def resolve (registry : Registry) (id : ClassId) : ClassId :=
  registry.follow registry.size id

/-- The classes declared in source units, in order, replaced ones included. -/
def declaredIds (registry : Registry) : List ClassId :=
  registry.entries.toList.zipIdx.filterMap fun (entry, index) =>
    if entry.origin.isDeclared then some ⟨index⟩ else none

/-- The source unit of an entry, at most `count` classes outward. -/
def unitFrom (registry : Registry) : Nat → ClassId → Option String
  | 0, _ => none
  | count + 1, id =>
    match (registry.entry? id).map Entry.origin with
    | some (.declared unit) => some unit
    | some (.pending location) => some location.unit
    | some (.outerNested enclosing) => registry.unitFrom count enclosing
    | _ => none

/-- The source unit that an entry belongs to: its own, or that of the class around it, whose
number is always smaller. -/
def unitOf? (registry : Registry) (id : ClassId) : Option String :=
  registry.unitFrom (id.index + 1) id

/-! ## Names -/

/-- The declared class or else the placeholder of a name. -/
def lookup? (registry : Registry) (name : String) : Option ClassId :=
  (registry.known.get? name).or (registry.pending.get? name)

/-- The class of a name: declared, or else compiled. -/
def find? (registry : Registry) (name : String) : Option ClassId :=
  match (registry.lookup? name).map registry.resolve with
  | some id =>
    match registry.entry? id with
    | some entry => if entry.isPlaceholder then registry.external.get? name else some id
    | none => registry.external.get? name
  | none => registry.external.get? name

/-- The declaration of the class of a name. -/
def findClass? (registry : Registry) (name : String) : Option ClassDecl :=
  (registry.find? name).bind registry.class?

/-- The annotation type of a name, if its class is one. -/
def annotationType? (registry : Registry) (name : String) : Option AnnotationType :=
  ((registry.find? name).bind registry.entry?).bind (·.annotationType)

/-! ## Updates -/

/-- Change one entry.  A number that no entry has changes nothing. -/
def modifyEntry (registry : Registry) (id : ClassId) (change : Entry → Entry) : Registry :=
  { registry with entries := registry.entries.modify id.index change }

/-- Put a declaration in the place of an entry's present one. -/
def setDecl (registry : Registry) (id : ClassId) (decl : ClassDecl) : Registry :=
  registry.modifyEntry id fun entry => { entry with decl := decl }

end Registry

end DeclCheck
