/-
# DeclCheck.Proofs.Generics.Levels — going up level by level is the same as going down type by type.

The level of a declaration several references up is made from below: each reference is read at the
level under it.  A type at the top can then be read in one substitution.  The other way is to read
it at one reference after another on the way down, each by itself, until it speaks of the parameters
of the lowest declaration.

The two agree, whatever the parameters are called: a name that occurs again one level down stands
for another parameter there, and both ways keep them apart.  What this needs is that every reference
gives an argument to every parameter and speaks of no variables but the parameters of the
declaration that it stands in.
-/
import DeclCheck.Proofs.Generics.Bindings
import DeclCheck.Proofs.Generics.Variables

namespace DeclCheck

/-! ## One reference -/

/-- The names of the type parameters of a declaration. -/
def ClassDecl.variableNames (decl : ClassDecl) : List String :=
  decl.typeParams.map TypeParam.name

/-- A reference together with the declaration that it leads to. -/
structure Ascent where
  reference : TypeExpr
  decl : ClassDecl

namespace Ascent

/-- The level that the reference makes, seen from the level below. -/
def level (ascent : Ascent) (outer : Substitution) : Substitution :=
  .ofReference ascent.reference ascent.decl outer

/-- The reference has arguments, and every parameter gets one of them. -/
structure Saturated (ascent : Ascent) : Prop where
  nonempty : ascent.reference.arguments ≠ []
  enough : ascent.decl.typeParams.length ≤ ascent.reference.arguments.length

/-- The arguments that the parameters get, as they are written. -/
def given (ascent : Ascent) : List (String × TypeExpr) :=
  ascent.decl.variableNames.zip ascent.reference.arguments

variable {ascent : Ascent}

/-- At a level, a parameter stands for its argument, read at the level below. -/
theorem get?_level (hsaturated : ascent.Saturated) (outer : Substitution) (name : String) :
    (ascent.level outer).get? name =
      ((Substitution.ofList ascent.given).get? name).map (·.substitute outer) := by
  have hlevel : ascent.level outer =
      .ofList (ascent.given.map (Prod.map id (·.substitute outer))) := by
    unfold level Substitution.ofReference
    split
    · next hnone => exact absurd hnone hsaturated.nonempty
    · next first rest harguments =>
      rw [given, harguments, ClassDecl.variableNames, List.zip_map_left, List.map_map]
      rfl
  rw [hlevel]
  exact Substitution.get?_bindAll_map (·.substitute outer) (fun _ => rfl) ascent.given name

theorem exists_given (hsaturated : ascent.Saturated) {name : String}
    (hname : name ∈ ascent.decl.variableNames) :
    ∃ argument ∈ ascent.reference.arguments,
      (Substitution.ofList ascent.given).get? name = some argument := by
  have hlength : ascent.decl.variableNames.length ≤ ascent.reference.arguments.length := by
    rw [ClassDecl.variableNames, List.length_map]
    exact hsaturated.enough
  have hentered : name ∈ ascent.given.map Prod.fst := by
    rw [given, List.map_fst_zip hlength]
    exact hname
  obtain ⟨argument, hget⟩ :=
    Option.isSome_iff_exists.mp (Substitution.isSome_get?_ofList hentered)
  have hgiven : (name, argument) ∈ ascent.given :=
    Substitution.mem_of_mem_ofList (Substitution.mem_of_get? hget)
  exact ⟨argument, (List.of_mem_zip hgiven).2, hget⟩

/-- Reading a type at a level is reading it at the reference by itself, then at the level below. -/
theorem substitute_level (hsaturated : ascent.Saturated) (outer : Substitution) {type : TypeExpr}
    (hscoped : ∀ name ∈ type.typeVars, name ∈ ascent.decl.variableNames) :
    type.substitute (ascent.level outer) =
      (type.substitute (ascent.level ∅)).substitute outer := by
  refine TypeExpr.substitute_eq_of_typeVars type fun name hname => ?_
  obtain ⟨argument, -, hget⟩ := exists_given hsaturated (hscoped name hname)
  simp only [TypeExpr.substitute, get?_level hsaturated, hget, Option.map_some, Option.getD_some,
    TypeExpr.substitute_empty]

/-- A type that is read at a reference speaks of what the reference speaks of. -/
theorem mem_typeVars_of_substitute_level (hsaturated : ascent.Saturated) {type : TypeExpr}
    (hscoped : ∀ name ∈ type.typeVars, name ∈ ascent.decl.variableNames) {name : String}
    (hname : name ∈ (type.substitute (ascent.level ∅)).typeVars) :
    name ∈ ascent.reference.typeVars := by
  obtain ⟨source, hsource, hmem⟩ := TypeExpr.mem_typeVars_substitute type hname
  obtain ⟨argument, hargument, hget⟩ := exists_given hsaturated (hscoped source hsource)
  simp only [TypeExpr.substitute, get?_level hsaturated, hget, Option.map_some, Option.getD_some,
    TypeExpr.substitute_empty] at hmem
  exact TypeExpr.mem_typeVars_of_mem_arguments hargument hmem

/-! ## A chain of references -/

/-- References one above the other: each of them gives every parameter an argument, and the
variables in it are parameters of the declaration below. -/
def Chain (below : ClassDecl) : List Ascent → Prop
  | [] => True
  | ascent :: rest =>
    ascent.Saturated ∧ (∀ name ∈ ascent.reference.typeVars, name ∈ below.variableNames) ∧
      Chain ascent.decl rest

/-- The declaration that a chain ends at. -/
def top (below : ClassDecl) : List Ascent → ClassDecl
  | [] => below
  | ascent :: rest => top ascent.decl rest

/-- The level at the end of a chain, made level by level from the one that it starts at. -/
def levelAbove (start : Substitution) (ascents : List Ascent) : Substitution :=
  ascents.foldl (fun outer ascent => ascent.level outer) start

/-- A type at the end of a chain, read at one reference after another on the way down. -/
def readDown (type : TypeExpr) (ascents : List Ascent) : TypeExpr :=
  ascents.foldr (fun ascent type => type.substitute (ascent.level ∅)) type

theorem mem_variableNames_readDown {below : ClassDecl} {ascents : List Ascent} {type : TypeExpr}
    (hchain : Chain below ascents)
    (hscoped : ∀ name ∈ type.typeVars, name ∈ (top below ascents).variableNames) :
    ∀ name ∈ (readDown type ascents).typeVars, name ∈ below.variableNames := by
  induction ascents generalizing below with
  | nil => exact hscoped
  | cons ascent rest ih =>
      obtain ⟨hsaturated, hvariables, hrest⟩ := hchain
      intro name hname
      exact hvariables name (mem_typeVars_of_substitute_level hsaturated (ih hrest hscoped) hname)

/-- **Levels compose.**  Along a chain of references, reading a type of the last declaration at the
level made from below is reading it at each reference by itself, from the last to the first, and
finally at the level that the chain starts at. -/
theorem substitute_levelAbove (below : ClassDecl) (ascents : List Ascent)
    (hchain : Chain below ascents) (start : Substitution) (type : TypeExpr)
    (hscoped : ∀ name ∈ type.typeVars, name ∈ (top below ascents).variableNames) :
    type.substitute (levelAbove start ascents) = (readDown type ascents).substitute start := by
  induction ascents generalizing below start with
  | nil => rfl
  | cons ascent rest ih =>
      obtain ⟨hsaturated, -, hrest⟩ := hchain
      calc type.substitute (levelAbove start (ascent :: rest))
          = type.substitute (levelAbove (ascent.level start) rest) := rfl
        _ = (readDown type rest).substitute (ascent.level start) :=
            ih ascent.decl hrest (ascent.level start) hscoped
        _ = ((readDown type rest).substitute (ascent.level ∅)).substitute start :=
            substitute_level hsaturated start (mem_variableNames_readDown hrest hscoped)
        _ = (readDown type (ascent :: rest)).substitute start := rfl

end Ascent

/-! ## Crates that change places

`Crate<A, B>` extends `Pallet<B, A>`, and `Pallet<A, B>` extends `Stack<List<B>, A, B>` although
`Stack<A, B>` has two parameters only.  The same two names stand for other things at each level. -/

namespace Freight

/-- `Crate<A, B>`, at the bottom. -/
def crate : ClassDecl where
  name := "Crate"
  typeParams := [⟨"A", []⟩, ⟨"B", []⟩]

/-- `Pallet<A, B>`, one step up. -/
def pallet : ClassDecl where
  name := "Pallet"
  typeParams := [⟨"A", []⟩, ⟨"B", []⟩]

/-- `Stack<A, B>`, at the top. -/
def stack : ClassDecl where
  name := "Stack"
  typeParams := [⟨"A", []⟩, ⟨"B", []⟩]

/-- The two steps from `Crate` to `Stack`, with the arguments as they are written. -/
def ascents : List Ascent := [
  ⟨.named "Pallet" [.variable "B", .variable "A"], pallet⟩,
  ⟨.named "Stack" [.named "List" [.variable "B"], .variable "A", .variable "B"], stack⟩]

/-- The level of `Crate<Fruit, Glass>`. -/
def fruitGlass : Substitution :=
  .ofList [("A", .plain "Fruit"), ("B", .plain "Glass")]

/-- `Map<A, B[]>`, as `Stack` may write it. -/
def content : TypeExpr :=
  .named "Map" [.variable "A", .array (.variable "B")]

/-- Both ways make `Map<List<Fruit>, Glass[]>` of it. -/
theorem substitute_content :
    Ascent.Chain crate ascents ∧
    (∀ name ∈ content.typeVars, name ∈ (Ascent.top crate ascents).variableNames) ∧
    content.substitute (Ascent.levelAbove fruitGlass ascents) =
      (Ascent.readDown content ascents).substitute fruitGlass ∧
    content.substitute (Ascent.levelAbove fruitGlass ascents) =
      .named "Map" [.named "List" [.plain "Fruit"], .array (.plain "Glass")] := by
  have hchain : Ascent.Chain crate ascents := by
    refine ⟨⟨by decide, by decide⟩, by decide, ⟨by decide, by decide⟩, by decide, trivial⟩
  have hscoped : ∀ name ∈ content.typeVars,
      name ∈ (Ascent.top crate ascents).variableNames := by decide
  exact ⟨hchain, hscoped,
    Ascent.substitute_levelAbove crate ascents hchain fruitGlass content hscoped, by decide⟩

end Freight

end DeclCheck
