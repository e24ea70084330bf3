/-
# DeclCheck.Proofs.Generics.Bindings — what a substitution binds.

Bindings are entered one after another and the last one of a name counts.  So a substitution binds
the names that were entered, each to something that was entered for it, and nothing else; and if
every type is changed in one way before it is entered, every type looked up is changed in that way.
Since bindings are sorted by name, two substitutions with the same bindings are equal.
-/
import Mathlib.Data.List.Sort
import DeclCheck.Generics.Substitution

namespace DeclCheck

theorem mem_bindSorted {name : String} {type : TypeExpr} {binding : String × TypeExpr}
    {bindings : List (String × TypeExpr)} (hmem : binding ∈ bindSorted name type bindings) :
    binding = (name, type) ∨ binding ∈ bindings := by
  fun_induction bindSorted name type bindings with
  | case1 => exact .inl (List.mem_singleton.mp hmem)
  | case2 => exact List.mem_cons.mp hmem
  | case3 key old rest =>
      rcases List.mem_cons.mp hmem with hmem | hmem
      · exact .inl hmem
      · exact .inr (List.mem_cons_of_mem _ hmem)
  | case4 key old rest _ _ ih =>
      rcases List.mem_cons.mp hmem with rfl | hmem
      · exact .inr List.mem_cons_self
      · exact (ih hmem).imp_right (List.mem_cons_of_mem _)

namespace Substitution

theorem mem_bindAll {binding : String × TypeExpr} {bindings : List (String × TypeExpr)}
    {map : Substitution} (hmem : binding ∈ (map.bindAll bindings).bindings) :
    binding ∈ bindings ∨ binding ∈ map.bindings := by
  induction bindings generalizing map with
  | nil => exact .inr hmem
  | cons first rest ih =>
      change binding ∈ ((map.bind first.1 first.2).bindAll rest).bindings at hmem
      rcases ih hmem with hmem | hmem
      · exact .inl (List.mem_cons_of_mem _ hmem)
      · rcases mem_bindSorted hmem with rfl | hmem
        · exact .inl List.mem_cons_self
        · exact .inr hmem

theorem mem_of_mem_ofList {binding : String × TypeExpr} {bindings : List (String × TypeExpr)}
    (hmem : binding ∈ (ofList bindings).bindings) : binding ∈ bindings := by
  rcases mem_bindAll hmem with hmem | hmem
  · exact hmem
  · cases hmem

theorem mem_of_get? {map : Substitution} {name : String} {type : TypeExpr}
    (hget : map.get? name = some type) : (name, type) ∈ map.bindings := by
  obtain ⟨bindings, hsorted⟩ := map
  change bindings.lookup name = some type at hget
  show (name, type) ∈ bindings
  clear hsorted
  induction bindings with
  | nil => cases hget
  | cons binding rest ih =>
      obtain ⟨key, bound⟩ := binding
      rw [lookup_cons_eq] at hget
      split at hget
      · next hkey =>
        cases hget
        rw [hkey]
        exact List.mem_cons_self
      · exact List.mem_cons_of_mem _ (ih hget)

/-- Bindings that are sorted by name are fixed by their members. -/
theorem eq_of_mem_iff {first second : Substitution}
    (hsame : ∀ binding, binding ∈ first.bindings ↔ binding ∈ second.bindings) :
    first = second := by
  let precedes (a b : String × TypeExpr) : Prop := a.1 < b.1
  have : Std.Irrefl precedes := ⟨fun a => String.lt_irrefl a.1⟩
  have : Std.Antisymm precedes := ⟨fun a b hab hba => absurd hba (String.lt_asymm hab)⟩
  have hbindings : first.bindings = second.bindings :=
    List.Pairwise.eq_of_mem_iff (List.pairwise_map.mp first.sorted)
      (List.pairwise_map.mp second.sorted) hsame
  cases first
  cases second
  cases hbindings
  rfl

/-! ## Looking up -/

/-- The names that were entered are bound. -/
theorem isSome_get?_bindAll {name : String} {bindings : List (String × TypeExpr)}
    {map : Substitution} (hname : name ∈ bindings.map Prod.fst ∨ (map.get? name).isSome) :
    ((map.bindAll bindings).get? name).isSome := by
  induction bindings generalizing map with
  | nil =>
      rcases hname with hname | hname
      · cases hname
      · exact hname
  | cons first rest ih =>
      show (((map.bind first.1 first.2).bindAll rest).get? name).isSome
      refine ih ?_
      rw [get?_bind]
      by_cases hfirst : name = first.1
      · simp [hfirst]
      · simpa [hfirst] using hname

theorem isSome_get?_ofList {name : String} {bindings : List (String × TypeExpr)}
    (hname : name ∈ bindings.map Prod.fst) : ((ofList bindings).get? name).isSome :=
  isSome_get?_bindAll (.inl hname)

/-- Changing types before they are entered changes what is looked up. -/
theorem get?_bindAll_map (change : TypeExpr → TypeExpr) {map changed : Substitution}
    (hchanged : ∀ name, changed.get? name = (map.get? name).map change)
    (bindings : List (String × TypeExpr)) (name : String) :
    (changed.bindAll (bindings.map (Prod.map id change))).get? name =
      ((map.bindAll bindings).get? name).map change := by
  induction bindings generalizing map changed with
  | nil => exact hchanged name
  | cons first rest ih =>
      show ((changed.bind first.1 (change first.2)).bindAll _).get? name =
        (((map.bind first.1 first.2).bindAll rest).get? name).map change
      refine ih fun other => ?_
      rw [get?_bind, get?_bind, hchanged]
      split <;> rfl

end Substitution

end DeclCheck
