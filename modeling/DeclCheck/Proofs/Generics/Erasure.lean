/-
# DeclCheck.Proofs.Generics.Erasure — signatures are compared by erasures alone.

Erasure drops the arguments of a type and puts a bound in the place of a wildcard; substitution goes
into arguments and bounds alike.  The two can be exchanged all the same: a substituted type is
erased by erasing the type and substituting erased types.  So whether two methods agree, each seen
from a level of its own, is settled by what erasure leaves of them and of the levels
(`Method.outline`, `Substitution.erasure`).  What stands between angle brackets plays no part.
-/
import DeclCheck.Generics.Signature
import DeclCheck.Proofs.Generics.Bindings

namespace DeclCheck

namespace TypeExpr

@[simp]
theorem erasure_erasure : (type : TypeExpr) → type.erasure.erasure = type.erasure
  | .array element => by rw [erasure, erasure, erasure_erasure element]
  | .wildcard .upper (some bound) => erasure_erasure bound
  | .primitive _ | .named _ _ | .variable _ | .void | .wildcard .upper none
  | .wildcard .unbounded _ | .wildcard .lower _ => rfl

end TypeExpr

@[simp]
theorem TypeParam.erasure_erasure (param : TypeParam) : param.erasure.erasure = param.erasure := by
  obtain ⟨name, bounds⟩ := param
  cases bounds with
  | nil => rfl
  | cons first rest => exact first.erasure_erasure

namespace Substitution

/-- The substitution that binds every name to the erasure of its type. -/
def erasure (map : Substitution) : Substitution where
  bindings := map.bindings.map (Prod.map id TypeExpr.erasure)
  sorted := by
    rw [List.map_map]
    exact map.sorted

theorem get?_erasure (map : Substitution) (name : String) :
    map.erasure.get? name = (map.get? name).map TypeExpr.erasure := by
  obtain ⟨bindings, hsorted⟩ := map
  show (bindings.map (Prod.map id TypeExpr.erasure)).lookup name =
    (bindings.lookup name).map TypeExpr.erasure
  clear hsorted
  induction bindings with
  | nil => rfl
  | cons binding rest ih =>
      obtain ⟨key, type⟩ := binding
      rw [List.map_cons, Prod.map_apply, lookup_cons_eq, lookup_cons_eq, ih, id_eq]
      split <;> rfl

/-- Erasures are bound as they are, before or after the level is erased. -/
theorem get?_bindAll_erasure (map : Substitution) (params : List TypeParam) (name : String) :
    (map.erasure.bindAll (erasedBindings params)).get? name =
      ((map.bindAll (erasedBindings params)).get? name).map TypeExpr.erasure := by
  have hbindings : (erasedBindings params).map (Prod.map id TypeExpr.erasure) =
      erasedBindings params := by
    simp [erasedBindings]
  have hlookup := get?_bindAll_map TypeExpr.erasure map.get?_erasure (erasedBindings params) name
  rwa [hbindings] at hlookup

end Substitution

namespace TypeExpr

/-- A substituted type is erased by substituting erasures into its erasure. -/
theorem erasure_substitute {map erased : Substitution}
    (herased : ∀ name, erased.get? name = (map.get? name).map erasure) : (type : TypeExpr) →
    (type.substitute map).erasure = type.erasure.substitute erased
  | .variable name => by
      show ((map.get? name).getD (.variable name)).erasure =
        (erased.get? name).getD (.variable name)
      rw [herased]
      cases map.get? name <;> rfl
  | .array element => by
      rw [substitute, erasure, erasure, substitute, erasure_substitute herased element]
  | .wildcard .upper (some bound) => erasure_substitute herased bound
  | .primitive _ | .named _ _ | .void | .wildcard .upper none
  | .wildcard .unbounded _ | .wildcard .lower _ => rfl

end TypeExpr

/-! ## Outlines -/

/-- What erasure leaves of a method: its name, what its type parameters stand for, and its parameter
types. -/
structure Outline where
  name : String
  typeParams : List (String × TypeExpr)
  params : List TypeExpr
deriving DecidableEq

/-- The outline of a method as it is declared. -/
def Method.outline (method : Method) : Outline where
  name := method.name
  typeParams := Substitution.erasedBindings method.typeParams
  params := method.paramTypes.map TypeExpr.erasure

/-- The parameter types of an outline at a level of the hierarchy. -/
def Outline.paramsAt (outline : Outline) (map : Substitution) : List TypeExpr :=
  outline.params.map (·.substitute (map.bindAll outline.typeParams))

namespace Signature

/-- The erased parameters of a method at a level are those of its outline at the erased level. -/
theorem erasure_params_ofMethodAt (method : Method) (map : Substitution) :
    (ofMethodAt method map).params.map TypeExpr.erasure = method.outline.paramsAt map.erasure := by
  show (method.paramTypes.map _).map _ = (method.paramTypes.map _).map _
  rw [List.map_map, List.map_map]
  refine List.map_congr_left fun type _ => ?_
  exact type.erasure_substitute (map.get?_bindAll_erasure method.typeParams)

theorem agrees_ofMethodAt_iff (left right : Method) (leftMap rightMap : Substitution) :
    (ofMethodAt left leftMap).agrees (ofMethodAt right rightMap) = true ↔
      left.outline.name = right.outline.name ∧
        left.outline.paramsAt leftMap.erasure = right.outline.paramsAt rightMap.erasure := by
  rw [agrees, erasure_params_ofMethodAt, erasure_params_ofMethodAt, Bool.and_eq_true,
    decide_eq_true_iff, decide_eq_true_iff]
  rfl

/-- **Agreement is settled by erasures.**  Erasure can be exchanged with substitution, and erasing
twice is erasing once.  So two methods agree, each at a level, if their outlines have one name and
the same parameter types at the erased levels; and they do so no more and no less than any two
others with these outlines, at any levels with these erasures. -/
theorem agrees_by_erasures :
    (∀ (type : TypeExpr) (map : Substitution),
      (type.substitute map).erasure = type.erasure.substitute map.erasure) ∧
    (∀ type : TypeExpr, type.erasure.erasure = type.erasure) ∧
    (∀ (left right : Method) (leftMap rightMap : Substitution),
      (ofMethodAt left leftMap).agrees (ofMethodAt right rightMap) = true ↔
        left.outline.name = right.outline.name ∧
          left.outline.paramsAt leftMap.erasure = right.outline.paramsAt rightMap.erasure) ∧
    ∀ (left left' right right' : Method) (leftMap leftMap' rightMap rightMap' : Substitution),
      left.outline = left'.outline → leftMap.erasure = leftMap'.erasure →
      right.outline = right'.outline → rightMap.erasure = rightMap'.erasure →
      (ofMethodAt left leftMap).agrees (ofMethodAt right rightMap) =
        (ofMethodAt left' leftMap').agrees (ofMethodAt right' rightMap') := by
  refine ⟨fun type map => type.erasure_substitute map.get?_erasure, TypeExpr.erasure_erasure,
    agrees_ofMethodAt_iff, ?_⟩
  intro left left' right right' leftMap leftMap' rightMap rightMap' hleft hleftMap hright hrightMap
  rw [Bool.eq_iff_iff, agrees_ofMethodAt_iff, agrees_ofMethodAt_iff, hleft, hleftMap, hright,
    hrightMap]

end Signature

/-! ## A catalogue

Items are stored with labels.  One catalogue takes maps from strings and labels them by tags,
another takes maps from numbers and labels them by marks. -/

namespace Catalogue

/-- `<K extends Comparable<K>> store(K key, E item, List<? extends Label>[] labels)` -/
def store (label : String) : Method where
  name := "store"
  typeParams := [⟨"K", [.named "Comparable" [.variable "K"]]⟩]
  params := [{ name := "key", type := .variable "K" }, { name := "item", type := .variable "E" },
    { name := "labels", type := .array (.named "List" [.wildcard .upper (some (.plain label))]) }]

/-- The level where `E` stands for `? extends Map<Key, V[]>`. -/
def mapsFrom (key : String) : Substitution :=
  .ofList [("E", .wildcard .upper (some (.named "Map" [.plain key, .array (.variable "V")])))]

/-- `store(Comparable, Map, List[])`, without any type parameter. -/
def raw : Method where
  name := "store"
  params := [
    { name := "key", type := .plain "Comparable" },
    { name := "item", type := .plain "Map" },
    { name := "labels", type := .array (.plain "List") }]

/-- One agrees with the raw method, so the other does: they differ in type arguments only. -/
theorem agrees_store :
    (store "Tag").outline = (store "Mark").outline ∧
      (mapsFrom "String").erasure = (mapsFrom "Integer").erasure ∧
      (Signature.ofMethodAt (store "Tag") (mapsFrom "String")).agrees (.ofMethodAt raw ∅) = true ∧
      (Signature.ofMethodAt (store "Mark") (mapsFrom "Integer")).agrees (.ofMethodAt raw ∅) =
        true := by
  have houtline : (store "Tag").outline = (store "Mark").outline := by decide
  have hmaps : (mapsFrom "String").erasure = (mapsFrom "Integer").erasure := by decide
  have htag : (Signature.ofMethodAt (store "Tag") (mapsFrom "String")).agrees
      (.ofMethodAt raw ∅) = true := by decide
  obtain ⟨-, -, -, hcongr⟩ := Signature.agrees_by_erasures
  refine ⟨houtline, hmaps, htag, ?_⟩
  rw [← hcongr (store "Tag") (store "Mark") raw raw (mapsFrom "String") (mapsFrom "Integer") ∅ ∅
    houtline hmaps rfl rfl]
  exact htag

end Catalogue

end DeclCheck
