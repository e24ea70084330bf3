/-
# DeclCheck.Proofs.Generics.Variables — the type variables in a type, and what substitution and
erasure make of them.

What a substitution does to a type is decided by what it does to the variables that occur in it, so
facts about substitutions need to be shown for variables only.

A variable can occur anywhere in a type, but the erasure of a type has at most one: the one that is
left when arrays and upper bounds of wildcards are taken off.  What a substitution binds that one
variable to decides what the erasure of the substituted type ends at; nothing else in the type plays
a part.
-/
import DeclCheck.Generics.Signature

namespace DeclCheck

namespace TypeExpr

/-! ## Variables that occur -/

mutual

/-- The type variables that occur in a type, in order. -/
def typeVars : TypeExpr → List String
  | .variable name => [name]
  | .named _ arguments => typeVarsAll arguments
  | .array element => typeVars element
  | .wildcard _ bound => typeVarsBound bound
  | .primitive _ | .void => []

/-- The type variables of a list of types. -/
def typeVarsAll : List TypeExpr → List String
  | [] => []
  | type :: rest => typeVars type ++ typeVarsAll rest

/-- The type variables of a bound, if there is one. -/
def typeVarsBound : Option TypeExpr → List String
  | none => []
  | some bound => typeVars bound

end

theorem typeVarsAll_eq_flatMap (types : List TypeExpr) :
    typeVarsAll types = types.flatMap typeVars := by
  induction types with
  | nil => rfl
  | cons type rest ih => rw [typeVarsAll, ih, List.flatMap_cons]

theorem mem_typeVars_of_mem_arguments {type argument : TypeExpr} {name : String}
    (hargument : argument ∈ type.arguments) (hname : name ∈ argument.typeVars) :
    name ∈ type.typeVars := by
  cases type with
  | named _ arguments =>
      rw [typeVars, typeVarsAll_eq_flatMap]
      exact List.mem_flatMap.mpr ⟨argument, hargument, hname⟩
  | _ => cases hargument

mutual

/-- A substitution that binds none of the variables of a type leaves it as it is. -/
theorem substitute_eq_self (map : Substitution) : (type : TypeExpr) →
    (∀ name ∈ type.typeVars, map.get? name = none) → type.substitute map = type
  | .variable name, hfree => by rw [substitute, hfree name List.mem_cons_self, Option.getD_none]
  | .named _ arguments, hfree => by rw [substitute, substituteAll_eq_self map arguments hfree]
  | .array element, hfree => by rw [substitute, substitute_eq_self map element hfree]
  | .wildcard _ bound, hfree => by rw [substitute, substituteBound_eq_self map bound hfree]
  | .primitive _, _ | .void, _ => rfl

theorem substituteAll_eq_self (map : Substitution) : (types : List TypeExpr) →
    (∀ name ∈ typeVarsAll types, map.get? name = none) → substituteAll map types = types
  | [], _ => rfl
  | type :: rest, hfree => by
      rw [typeVarsAll, List.forall_mem_append] at hfree
      rw [substituteAll, substitute_eq_self map type hfree.1,
        substituteAll_eq_self map rest hfree.2]

theorem substituteBound_eq_self (map : Substitution) : (bound : Option TypeExpr) →
    (∀ name ∈ typeVarsBound bound, map.get? name = none) → substituteBound map bound = bound
  | none, _ => rfl
  | some bound, hfree => by rw [substituteBound, substitute_eq_self map bound hfree]

end

theorem substitute_empty (type : TypeExpr) : type.substitute ∅ = type :=
  substitute_eq_self ∅ type fun name _ => Substitution.get?_empty name

mutual

/-- What a substitution does is decided by what it does to variables: if it takes every variable of
a type where two others take it in turn, it takes the type there. -/
theorem substitute_eq_of_typeVars {whole first second : Substitution} : (type : TypeExpr) →
    (∀ name ∈ type.typeVars, substitute whole (.variable name) =
      (substitute first (.variable name)).substitute second) →
    type.substitute whole = (type.substitute first).substitute second
  | .variable name, hvars => hvars name List.mem_cons_self
  | .named _ arguments, hvars => by
      rw [substitute, substitute, substitute, substituteAll_eq_of_typeVars arguments hvars]
  | .array element, hvars => by
      rw [substitute, substitute, substitute, substitute_eq_of_typeVars element hvars]
  | .wildcard _ bound, hvars => by
      rw [substitute, substitute, substitute, substituteBound_eq_of_typeVars bound hvars]
  | .primitive _, _ | .void, _ => rfl

theorem substituteAll_eq_of_typeVars {whole first second : Substitution} :
    (types : List TypeExpr) →
    (∀ name ∈ typeVarsAll types, substitute whole (.variable name) =
      (substitute first (.variable name)).substitute second) →
    substituteAll whole types = substituteAll second (substituteAll first types)
  | [], _ => rfl
  | type :: rest, hvars => by
      rw [typeVarsAll, List.forall_mem_append] at hvars
      rw [substituteAll, substituteAll, substituteAll, substitute_eq_of_typeVars type hvars.1,
        substituteAll_eq_of_typeVars rest hvars.2]

theorem substituteBound_eq_of_typeVars {whole first second : Substitution} :
    (bound : Option TypeExpr) →
    (∀ name ∈ typeVarsBound bound, substitute whole (.variable name) =
      (substitute first (.variable name)).substitute second) →
    substituteBound whole bound = substituteBound second (substituteBound first bound)
  | none, _ => rfl
  | some bound, hvars => by
      rw [substituteBound, substituteBound, substituteBound, substitute_eq_of_typeVars bound hvars]

end

mutual

/-- A variable of a substituted type comes from what is substituted for one of the type. -/
theorem mem_typeVars_substitute {map : Substitution} {name : String} : (type : TypeExpr) →
    name ∈ (type.substitute map).typeVars →
    ∃ source ∈ type.typeVars, name ∈ (substitute map (.variable source)).typeVars
  | .variable source, hname => ⟨source, List.mem_cons_self, hname⟩
  | .named _ arguments, hname => mem_typeVarsAll_substitute arguments hname
  | .array element, hname => mem_typeVars_substitute element hname
  | .wildcard _ bound, hname => mem_typeVarsBound_substitute bound hname

theorem mem_typeVarsAll_substitute {map : Substitution} {name : String} :
    (types : List TypeExpr) → name ∈ typeVarsAll (substituteAll map types) →
    ∃ source ∈ typeVarsAll types, name ∈ (substitute map (.variable source)).typeVars
  | type :: rest, hname => by
      rw [substituteAll, typeVarsAll, List.mem_append] at hname
      rcases hname with hname | hname
      · obtain ⟨source, hsource, hmem⟩ := mem_typeVars_substitute type hname
        exact ⟨source, List.mem_append_left _ hsource, hmem⟩
      · obtain ⟨source, hsource, hmem⟩ := mem_typeVarsAll_substitute rest hname
        exact ⟨source, List.mem_append_right _ hsource, hmem⟩

theorem mem_typeVarsBound_substitute {map : Substitution} {name : String} :
    (bound : Option TypeExpr) → name ∈ typeVarsBound (substituteBound map bound) →
    ∃ source ∈ typeVarsBound bound, name ∈ (substitute map (.variable source)).typeVars
  | some bound, hname => mem_typeVars_substitute bound hname

end

/-! ## The variable of an erasure -/

/-- The variable that the erasure of a type ends at, if it does. -/
def erasedVariable? : TypeExpr → Option String
  | .variable name => some name
  | .array element => erasedVariable? element
  | .wildcard .upper (some bound) => erasedVariable? bound
  | _ => none

theorem typeVars_erasure : (type : TypeExpr) →
    type.erasure.typeVars = type.erasedVariable?.toList
  | .array element => typeVars_erasure element
  | .wildcard .upper (some bound) => typeVars_erasure bound
  | .variable _ | .named _ _ | .primitive _ | .void | .wildcard .upper none
  | .wildcard .unbounded _ | .wildcard .lower _ => rfl

theorem erasedVariable?_erasure : (type : TypeExpr) →
    type.erasure.erasedVariable? = type.erasedVariable?
  | .array element => erasedVariable?_erasure element
  | .wildcard .upper (some bound) => erasedVariable?_erasure bound
  | .variable _ | .named _ _ | .primitive _ | .void | .wildcard .upper none
  | .wildcard .unbounded _ | .wildcard .lower _ => rfl

/-- The erasure of a substituted type ends where the erasure of the type ends, or where that of the
type ends that is substituted there. -/
theorem erasedVariable?_substitute (map : Substitution) : (type : TypeExpr) →
    (type.substitute map).erasedVariable? =
      type.erasedVariable?.bind fun name => (substitute map (.variable name)).erasedVariable?
  | .variable _ | .named _ _ | .primitive _ | .void | .wildcard .upper none
  | .wildcard .unbounded _ | .wildcard .lower _ => rfl
  | .array element => erasedVariable?_substitute map element
  | .wildcard .upper (some bound) => erasedVariable?_substitute map bound

theorem erasedVariable?_mem_typeVars : (type : TypeExpr) → ∀ name ∈ type.erasedVariable?,
    name ∈ type.typeVars
  | .variable _, _, hname => by
      cases hname
      exact List.mem_singleton.mpr rfl
  | .array element, name, hname => erasedVariable?_mem_typeVars element name hname
  | .wildcard .upper (some bound), name, hname => erasedVariable?_mem_typeVars bound name hname

theorem erasedVariable?_eq_none {type : TypeExpr} (hclosed : type.typeVars = []) :
    type.erasedVariable? = none := by
  refine Option.eq_none_iff_forall_not_mem.mpr fun name hname => ?_
  have hmem := type.erasedVariable?_mem_typeVars name hname
  rw [hclosed] at hmem
  cases hmem

end TypeExpr

end DeclCheck
