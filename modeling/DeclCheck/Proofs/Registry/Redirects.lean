/-
# DeclCheck.Proofs.Registry.Redirects — redirects end, and only ever lead further.

Nothing in the search for the end of a chain guards against going round in a circle.  What keeps it
from doing so is the one check that is made before a redirect is set: the chain from the target must
not end at the placeholder.  A registry is *grounded* if redirects lead to entries and no chain of
them comes back to where it began.  A call leaves redirects alone or adds one that passed the check,
and so every registry is grounded.  No call takes a redirect back or changes who an entry is, so the
end of a chain at one time lies on the same chain at every later time.
-/
import Mathlib.Data.Finset.Card
import Mathlib.Logic.Relation
import DeclCheck.Proofs.Registry.Listeners
import DeclCheck.Proofs.Registry.Names

namespace DeclCheck

namespace Registry

/-! ## Chains -/

/-- A single redirect. -/
def Leads (registry : Registry) (id target : ClassId) : Prop :=
  registry.redirect? id = some target

/-- A chain of redirects, which may be empty. -/
def Reaches (registry : Registry) : ClassId → ClassId → Prop :=
  Relation.ReflTransGen registry.Leads

/-- Redirects lead to entries, and no chain of them comes back to where it began. -/
structure Grounded (registry : Registry) : Prop where
  exists_target : ∀ id target, registry.Leads id target → (registry.entry? target).isSome
  acyclic : ∀ id, ¬ Relation.TransGen registry.Leads id id

variable {registry : Registry}

theorem rightUnique_leads (registry : Registry) : Relator.RightUnique registry.Leads := by
  intro id first second hfirst hsecond
  exact Option.some.inj (hfirst.symm.trans hsecond)

theorem eq_of_reaches_of_end {id other : ClassId} (hend : registry.redirect? id = none)
    (hreaches : registry.Reaches id other) : id = other := by
  rcases hreaches.cases_head with rfl | ⟨target, hleads, -⟩
  · rfl
  · cases hend.symm.trans hleads

/-- Two chains from one entry that go as far as they can end at the same place. -/
theorem end_unique {id first second : ClassId} (hfirst : registry.Reaches id first)
    (hsecond : registry.Reaches id second) (hfirstEnd : registry.redirect? first = none)
    (hsecondEnd : registry.redirect? second = none) : first = second := by
  rcases hfirst.total_of_right_unique registry.rightUnique_leads hsecond with hchain | hchain
  · exact eq_of_reaches_of_end hfirstEnd hchain
  · exact (eq_of_reaches_of_end hsecondEnd hchain).symm

theorem reaches_follow (registry : Registry) (count : Nat) (id : ClassId) :
    registry.Reaches id (registry.follow count id) := by
  induction count generalizing id with
  | zero => exact .refl
  | succ count ih =>
      unfold follow
      cases hredirect : registry.redirect? id with
      | none => exact .refl
      | some target => exact .head hredirect (ih target)

/-! ## The end of a chain -/

open Classical in
/-- The numbers of the entries that lie ahead on the chain from `id`. -/
noncomputable def ahead (registry : Registry) (id : ClassId) : Finset Nat :=
  (Finset.range registry.size).filter fun index => Relation.TransGen registry.Leads id ⟨index⟩

theorem mem_ahead {id : ClassId} {index : Nat} :
    index ∈ registry.ahead id ↔
      index < registry.size ∧ Relation.TransGen registry.Leads id ⟨index⟩ := by
  classical
  unfold ahead
  rw [Finset.mem_filter, Finset.mem_range]

theorem card_ahead_le (registry : Registry) (id : ClassId) :
    (registry.ahead id).card ≤ registry.size := by
  classical
  calc (registry.ahead id).card
      ≤ (Finset.range registry.size).card := Finset.card_filter_le _ _
    _ = registry.size := Finset.card_range _

namespace Grounded

theorem target_mem_ahead (hgrounded : registry.Grounded) {id target : ClassId}
    (hleads : registry.Leads id target) : target.index ∈ registry.ahead id := by
  obtain ⟨entry, hentry⟩ := Option.isSome_iff_exists.mp (hgrounded.exists_target id target hleads)
  exact mem_ahead.mpr ⟨registry.lt_size_of_entry? hentry, .single hleads⟩

/-- Less lies ahead of the target, since the target itself does not. -/
theorem card_ahead_lt (hgrounded : registry.Grounded) {id target : ClassId}
    (hleads : registry.Leads id target) :
    (registry.ahead target).card < (registry.ahead id).card := by
  have hsubset : registry.ahead target ⊆ registry.ahead id := by
    intro index hindex
    obtain ⟨hlt, hchain⟩ := mem_ahead.mp hindex
    exact mem_ahead.mpr ⟨hlt, .head hleads hchain⟩
  have hnot : target.index ∉ registry.ahead target :=
    fun hmem => hgrounded.acyclic target (mem_ahead.mp hmem).2
  refine Finset.card_lt_card (Finset.ssubset_iff_subset_ne.mpr ⟨hsubset, ?_⟩)
  intro hsame
  exact hnot (hsame ▸ hgrounded.target_mem_ahead hleads)

/-- As many steps as there are entries ahead are enough. -/
theorem redirect?_follow (hgrounded : registry.Grounded) {count : Nat} {id : ClassId}
    (henough : (registry.ahead id).card ≤ count) :
    registry.redirect? (registry.follow count id) = none := by
  induction count generalizing id with
  | zero =>
      rw [Option.eq_none_iff_forall_ne_some]
      intro target hleads
      have hmem : target.index ∈ registry.ahead id := hgrounded.target_mem_ahead hleads
      rw [Finset.card_eq_zero.mp (Nat.le_zero.mp henough)] at hmem
      exact absurd hmem (Finset.notMem_empty _)
  | succ count ih =>
      unfold follow
      cases hredirect : registry.redirect? id with
      | none => exact hredirect
      | some target =>
          have hless := hgrounded.card_ahead_lt hredirect
          exact ih (by omega)

theorem redirect?_resolve (hgrounded : registry.Grounded) (id : ClassId) :
    registry.redirect? (registry.resolve id) = none :=
  hgrounded.redirect?_follow (registry.card_ahead_le id)

/-- All entries of a chain have the same end. -/
theorem resolve_eq_of_reaches (hgrounded : registry.Grounded) {id other : ClassId}
    (hreaches : registry.Reaches id other) : registry.resolve id = registry.resolve other := by
  have hthrough : registry.Reaches id (registry.resolve other) :=
    hreaches.trans (registry.reaches_follow _ other)
  exact end_unique (registry.reaches_follow _ id) hthrough (hgrounded.redirect?_resolve id)
    (hgrounded.redirect?_resolve other)

/-- For an entry that leads nowhere, the end of a chain tells whether the chain gets there. -/
theorem resolve_eq_iff_reaches (hgrounded : registry.Grounded) {id other : ClassId}
    (hend : registry.redirect? other = none) :
    registry.resolve id = other ↔ registry.Reaches id other := by
  constructor
  · rintro rfl
    exact registry.reaches_follow _ id
  · intro hreaches
    rw [hgrounded.resolve_eq_of_reaches hreaches, resolve_eq_self hend]

theorem isSome_entry?_resolve (hgrounded : registry.Grounded) {id : ClassId}
    (hid : (registry.entry? id).isSome) : (registry.entry? (registry.resolve id)).isSome := by
  rcases (registry.reaches_follow registry.size id).cases_tail with hsame | ⟨last, -, hleads⟩
  · rw [resolve, hsame]
    exact hid
  · exact hgrounded.exists_target last _ hleads

end Grounded

/-! ## One more redirect -/

/-- What a call can do to redirects: nothing, or let one entry that leads nowhere lead to an entry
whose chain does not end there. -/
inductive Extension (registry later : Registry) : Prop
  | same : (∀ id, later.redirect? id = registry.redirect? id) → Extension registry later
  | linked (placeholder target : ClassId) :
      registry.redirect? placeholder = none →
      registry.resolve target ≠ placeholder →
      (later.entry? target).isSome →
      (∀ id, later.redirect? id =
        if id = placeholder then some target else registry.redirect? id) →
      Extension registry later

/-- A chain that uses the new redirect goes through its placeholder and on from its target. -/
theorem transGen_linked {later : Registry} {placeholder target id other : ClassId}
    (hnot : ¬ registry.Reaches target placeholder)
    (hlater : ∀ id, later.redirect? id =
      if id = placeholder then some target else registry.redirect? id)
    (hchain : Relation.TransGen later.Leads id other) :
    Relation.TransGen registry.Leads id other ∨
      registry.Reaches id placeholder ∧ registry.Reaches target other := by
  have hstep : ∀ a b, later.Leads a b → a = placeholder ∧ b = target ∨ registry.Leads a b := by
    intro a b hleads
    have hleads := (hlater a).symm.trans hleads
    by_cases ha : a = placeholder
    · rw [if_pos ha] at hleads
      exact .inl ⟨ha, (Option.some.inj hleads).symm⟩
    · rw [if_neg ha] at hleads
      exact .inr hleads
  induction hchain with
  | single hleads =>
      rcases hstep _ _ hleads with ⟨rfl, rfl⟩ | hold
      · exact .inr ⟨.refl, .refl⟩
      · exact .inl (.single hold)
  | tail _ hleads ih =>
      rcases hstep _ _ hleads with ⟨rfl, rfl⟩ | hold
      · rcases ih with hbefore | ⟨-, hback⟩
        · exact .inr ⟨hbefore.to_reflTransGen, .refl⟩
        · -- The new redirect a second time: the target would lead back to the placeholder.
          exact absurd hback hnot
      · rcases ih with hbefore | ⟨hbefore, hafter⟩
        · exact .inl (hbefore.tail hold)
        · exact .inr ⟨hbefore, hafter.tail hold⟩

theorem Grounded.extend (hgrounded : registry.Grounded) {later : Registry}
    (hextension : registry.Extension later)
    (hentries : ∀ id, (registry.entry? id).isSome → (later.entry? id).isSome) :
    later.Grounded := by
  cases hextension with
  | same hsame =>
      have hleads : later.Leads = registry.Leads := by
        funext id target
        unfold Leads
        rw [hsame]
      constructor
      · intro id target htarget
        rw [hleads] at htarget
        exact hentries target (hgrounded.exists_target id target htarget)
      · rw [hleads]
        exact hgrounded.acyclic
  | linked placeholder target hopen hself htarget hlater =>
      constructor
      · intro id other hleads
        have hleads := (hlater id).symm.trans hleads
        by_cases hid : id = placeholder
        · rw [if_pos hid] at hleads
          rwa [← Option.some.inj hleads]
        · rw [if_neg hid] at hleads
          exact hentries other (hgrounded.exists_target id other hleads)
      · -- The check that was made is that the target does not lead to the placeholder.
        have hnot : ¬ registry.Reaches target placeholder :=
          fun hreaches => hself ((hgrounded.resolve_eq_iff_reaches hopen).mpr hreaches)
        intro id hcycle
        rcases transGen_linked hnot hlater hcycle with hold | ⟨hbefore, hafter⟩
        · exact hgrounded.acyclic id hold
        · exact hnot (hafter.trans hbefore)

/-! ## One call -/

/-- Redirects stay as they are but for a placeholder that the call settles. -/
theorem redirect?_apply_of_not_settles (hconsistent : registry.Consistent) {id : ClassId}
    {call : Call} (hnot : ∀ target, ¬ registry.Settles id target call) :
    (registry.apply call).redirect? id = registry.redirect? id := by
  rw [redirect?_eq_leads, redirect?_eq_leads]
  cases effect_apply hconsistent id call with
  | aside hsame => rw [hsame]
  | heard listener hopen hafter => rw [hafter, hopen]
  | settled target _ _ hsettles => exact absurd hsettles (hnot target)

theorem redirect?_settle {placeholder : ClassId} {entry : Entry}
    (hentry : registry.entry? placeholder = some entry) (name : String) (target id : ClassId) :
    (registry.settle name placeholder target).redirect? id =
      if id = placeholder then some target else registry.redirect? id := by
  rw [redirect?_eq_leads, redirect?_eq_leads]
  by_cases hid : id = placeholder
  · rw [if_pos hid, hid, outlook_settle hentry]
  · rw [if_neg hid, outlook_settle_of_ne _ _ hid]

theorem isSome_entry?_settle (registry : Registry) (name : String)
    (placeholder target id : ClassId) :
    (Registry.entry? (registry.settle name placeholder target) id).isSome =
      (registry.entry? id).isSome := by
  rw [entry?_settle, Option.isSome_map]

theorem extension_redirect (registry : Registry) (placeholder target : ClassId) :
    registry.Extension (registry.apply (.redirect placeholder target)) := by
  simp only [apply]
  cases hredirect : registry.redirect placeholder target with
  | error refusal => exact .same fun _ => rfl
  | ok result =>
      obtain ⟨htarget, hself, entry, hopen, rfl⟩ := redirect_eq_ok.mp hredirect
      obtain ⟨hentry, -, hleads⟩ := openPlaceholder_eq_ok.mp hopen
      refine .linked placeholder target ?_ hself ?_ (redirect?_settle hentry entry.name target)
      · rw [redirect?, hentry]
        exact hleads
      · rw [isSome_entry?_settle]
        exact htarget

theorem extension_declare (hconsistent : registry.Consistent) (decl : ClassDecl) (unit : String) :
    registry.Extension (registry.apply (.declare decl unit)) := by
  cases hpending : registry.pending.get? decl.name with
  | none =>
      refine .same fun id => redirect?_apply_of_not_settles hconsistent ?_
      rintro target (_ | ⟨hlisted, -⟩)
      cases hpending.symm.trans hlisted
  | some placeholder =>
      obtain ⟨entry, hentry, -, -, hleads⟩ := hconsistent.pending decl.name placeholder hpending
      obtain ⟨events, hok⟩ := hconsistent.redirect_registered hpending unit
      have hsettled : registry.apply (.declare decl unit) =
          (registry.registered decl unit).settle decl.name placeholder ⟨registry.size⟩ := by
        simp only [apply, declare_eq, pending_registered, hpending, hok]
      have hold : entry? (registry.registered decl unit) placeholder = some entry :=
        entry?_push_eq_some.mpr (.inl hentry)
      have hnew : entry? (registry.registered decl unit) ⟨registry.size⟩ =
          some (.new decl (.declared unit)) :=
        entry?_push_eq_some.mpr (.inr ⟨rfl, rfl⟩)
      refine .linked placeholder ⟨registry.size⟩ ?_ ?_ ?_ ?_
      · rw [redirect?, hentry]
        exact hleads
      · -- The number of the declaration is new, so it is not the placeholder's.
        rw [resolve_eq_self (by rw [redirect?, entry?_size]; rfl)]
        rintro rfl
        exact Nat.lt_irrefl _ (registry.lt_size_of_entry? hentry)
      · rw [hsettled, isSome_entry?_settle, hnew]
        rfl
      · intro id
        rw [hsettled, redirect?_settle hold]
        have hregistered :
            (registry.registered decl unit).redirect? id = registry.redirect? id := by
          rw [redirect?_eq_leads, redirect?_eq_leads]
          exact congrArg Outlook.leads (registry.outlook_push decl (.declared unit) id)
        rw [hregistered]

theorem extension_apply (hconsistent : registry.Consistent) (call : Call) :
    registry.Extension (registry.apply call) := by
  cases call with
  | redirect placeholder target => exact registry.extension_redirect placeholder target
  | declare decl unit => exact extension_declare hconsistent decl unit
  | _ =>
      refine .same fun id => redirect?_apply_of_not_settles hconsistent ?_
      intro target hsettles
      cases hsettles

/-! ## What lasts -/

/-- Every entry is still there and is who it was, and every redirect stands. -/
structure Lasts (registry later : Registry) : Prop where
  identity : ∀ id identity, registry.roster.identity? id = some identity →
    later.roster.identity? id = some identity
  redirect : ∀ id target, registry.redirect? id = some target → later.redirect? id = some target

namespace Lasts

theorem refl (registry : Registry) : registry.Lasts registry :=
  ⟨fun _ _ hidentity => hidentity, fun _ _ hredirect => hredirect⟩

theorem trans {second third : Registry} (hfirst : registry.Lasts second)
    (hsecond : second.Lasts third) : registry.Lasts third where
  identity id identity hidentity :=
    hsecond.identity id identity (hfirst.identity id identity hidentity)
  redirect id target hredirect := hsecond.redirect id target (hfirst.redirect id target hredirect)

theorem exists_kept {later : Registry} (hlasts : registry.Lasts later) {id : ClassId}
    {entry : Entry} (hentry : registry.entry? id = some entry) :
    ∃ kept, later.entry? id = some kept ∧ kept.identity = entry.identity := by
  have hidentity := identity?_of_entry? hentry
  exact Option.map_eq_some_iff.mp (hlasts.identity id _ hidentity)

theorem reaches {later : Registry} (hlasts : registry.Lasts later) {id other : ClassId}
    (hreaches : registry.Reaches id other) : later.Reaches id other :=
  Relation.ReflTransGen.mono hlasts.redirect _ _ hreaches

end Lasts

theorem identity?_apply (registry : Registry) (call : Call) {id : ClassId} {identity : Identity}
    (hidentity : registry.roster.identity? id = some identity) :
    (registry.apply call).roster.identity? id = some identity := by
  rw [roster_apply]
  cases call with
  | refer name location =>
      simp only [enrolled]
      cases registry.lookup? name with
      | some found => exact hidentity
      | none => exact identity?_add.mpr (.inl hidentity)
  | addOuterNested enclosing name =>
      simp only [enrolled]
      cases registry.class? enclosing with
      | none => exact hidentity
      | some outer => exact identity?_add.mpr (.inl hidentity)
  | declare decl unit => exact identity?_add.mpr (.inl hidentity)
  | addGenerated decl => exact identity?_add.mpr (.inl hidentity)
  | addExternal decl => exact identity?_add.mpr (.inl hidentity)
  | _ => exact hidentity

theorem lasts_apply (hconsistent : registry.Consistent) (call : Call) :
    registry.Lasts (registry.apply call) where
  identity _ _ hidentity := registry.identity?_apply call hidentity
  redirect id target hredirect := by
    cases extension_apply hconsistent call with
    | same hsame => rw [hsame, hredirect]
    | linked placeholder _ hopen _ _ hlater =>
        have hid : id ≠ placeholder := by
          rintro rfl
          cases hopen.symm.trans hredirect
        rw [hlater, if_neg hid, hredirect]

/-! ## Every history -/

theorem lasts_foldl (hconsistent : registry.Consistent) (calls : List Call) :
    registry.Lasts (calls.foldl apply registry) := by
  induction calls generalizing registry with
  | nil => exact .refl registry
  | cons call rest ih =>
      exact (lasts_apply hconsistent call).trans (ih (hconsistent.apply call))

theorem lasts_after (operations later : List Operation) :
    (after operations).Lasts (after (operations ++ later)) := by
  have happend : after (operations ++ later) =
      (later.flatMap Operation.calls).foldl apply (after operations) := by
    rw [after, List.foldl_append, foldl_perform _ later]
    rfl
  rw [happend]
  exact lasts_foldl (consistent_after operations) _

theorem Grounded.empty : (∅ : Registry).Grounded := by
  have hnone : ∀ id target, ¬ (∅ : Registry).Leads id target := by
    intro id target hleads
    cases hleads
  constructor
  · intro id target hleads
    exact absurd hleads (hnone id target)
  · intro id hcycle
    obtain ⟨target, hleads, -⟩ := Relation.TransGen.head'_iff.mp hcycle
    exact hnone id target hleads

theorem grounded_after (operations : List Operation) : (after operations).Grounded := by
  have hboth : (after operations).Consistent ∧ (after operations).Grounded := by
    refine after_induction (P := fun registry => registry.Consistent ∧ registry.Grounded)
      ⟨.empty, .empty⟩ ?_ operations
    rintro registry call ⟨hconsistent, hgrounded⟩
    refine ⟨hconsistent.apply call, hgrounded.extend (extension_apply hconsistent call) ?_⟩
    intro id hid
    obtain ⟨entry, hentry⟩ := Option.isSome_iff_exists.mp hid
    obtain ⟨kept, hkept, -⟩ := (lasts_apply hconsistent call).exists_kept hentry
    rw [hkept]
    rfl
  exact hboth.2

/-- The end of a chain that is no placeholder leads nowhere, now and ever after. -/
theorem Lasts.resolve_eq {later : Registry} (hlasts : registry.Lasts later)
    (hconsistent : later.Consistent) (hgrounded : later.Grounded) {id : ClassId}
    (hplain : registry.Has (registry.resolve id) fun last => last.isPlaceholder = false) :
    later.resolve id = registry.resolve id := by
  obtain ⟨last, hlast, hplain⟩ := hplain
  obtain ⟨kept, hkept, hsame⟩ := hlasts.exists_kept hlast
  have hkeptPlain : kept.isPlaceholder = false := by
    rw [← hplain]
    exact congrArg (fun identity => identity.origin.isPlaceholder) hsame
  have hend : later.redirect? (registry.resolve id) = none := by
    rw [redirect?, hkept]
    by_contra hsome
    have hplaceholder := (hconsistent.entries _ kept hkept).placeholder_of_redirect hsome
    rw [hkeptPlain] at hplaceholder
    cases hplaceholder
  have hreaches := hlasts.reaches (registry.reaches_follow registry.size id)
  exact (hgrounded.resolve_eq_iff_reaches hend).mpr hreaches

end Registry

/-- An entry at a later time: the same name, kind and origin, and the same redirect once it is
set. -/
structure Entry.Continues (entry later : Entry) : Prop where
  name : later.name = entry.name
  kind : later.decl.kind = entry.decl.kind
  origin : later.origin = entry.origin
  isPlaceholder : later.isPlaceholder = entry.isPlaceholder
  redirect : ∀ target, entry.redirect = some target → later.redirect = some target

namespace Registry

theorem Lasts.continues {registry later : Registry} (hlasts : registry.Lasts later) {id : ClassId}
    {entry : Entry} (hentry : registry.entry? id = some entry) :
    later.Has id entry.Continues := by
  obtain ⟨kept, hkept, hsame⟩ := hlasts.exists_kept hentry
  refine ⟨kept, hkept, congrArg Identity.name hsame, congrArg Identity.kind hsame,
    congrArg Identity.origin hsame,
    congrArg (fun identity => identity.origin.isPlaceholder) hsame, ?_⟩
  intro target hredirect
  have hlater := hlasts.redirect id target (by rw [redirect?, hentry]; exact hredirect)
  rw [redirect?, hkept] at hlater
  exact hlater

/-- **Redirects end, and only ever lead further.**  After every history no chain of redirects comes
back to where it began; so the chain from an entry ends, at an entry that leads nowhere.  Whatever
happens later, the entry is still there and is who it was, a redirect that is set stands, and the
chain goes on from where it ended.  Where it ended at a class it ends for good. -/
theorem redirects_after (operations : List Operation) :
    (∀ id, ¬ Relation.TransGen (after operations).Leads id id) ∧
      ∀ id entry, Registry.entry? (after operations) id = some entry →
        Relation.ReflTransGen (after operations).Leads id ((after operations).resolve id) ∧
        (after operations).Has ((after operations).resolve id) (fun last => last.redirect = none) ∧
        ∀ later,
          (after (operations ++ later)).Has id entry.Continues ∧
          (after (operations ++ later)).resolve id =
            (after (operations ++ later)).resolve ((after operations).resolve id) ∧
          ((after operations).Has ((after operations).resolve id)
              (fun last => last.isPlaceholder = false) →
            (after (operations ++ later)).resolve id = (after operations).resolve id) := by
  have hgrounded := grounded_after operations
  refine ⟨hgrounded.acyclic, ?_⟩
  intro id entry hentry
  have hreaches := (after operations).reaches_follow (after operations).size id
  refine ⟨hreaches, ?_, ?_⟩
  · have hsome : (Registry.entry? (after operations) id).isSome := by rw [hentry]; rfl
    obtain ⟨last, hlast⟩ := Option.isSome_iff_exists.mp (hgrounded.isSome_entry?_resolve hsome)
    have hend := hgrounded.redirect?_resolve id
    rw [redirect?, hlast] at hend
    exact ⟨last, hlast, hend⟩
  · intro later
    have hlasts := lasts_after operations later
    have hlater := grounded_after (operations ++ later)
    refine ⟨hlasts.continues hentry, hlater.resolve_eq_of_reaches (hlasts.reaches hreaches), ?_⟩
    exact hlasts.resolve_eq (consistent_after (operations ++ later)) hlater

end Registry

/-! ## A chain of three -/

namespace Canvas

/-- `Shape` and `Figure` are used, `Shape` is led to `Figure`, and the way back is refused. -/
def linked : List Operation :=
  [.change (.refer "Shape" ⟨"canvas", .nowhere⟩), .change (.refer "Figure" ⟨"canvas", .nowhere⟩),
    .change (.redirect ⟨0⟩ ⟨1⟩), .change (.redirect ⟨1⟩ ⟨0⟩)]

/-- The class at the end of the chain. -/
def figure : ClassDecl where
  name := "Figure"

/-- A unit declares `Figure`. -/
def drawn : List Operation :=
  [.addUnit { name := "figures", tree := some ⟨[figure], []⟩ }]

/-- The chain from `Shape` ends at the placeholder of `Figure`, then at its class, and stays there
when the class is declared again. -/
theorem resolve_linked :
    (Registry.after linked).resolve ⟨0⟩ = ⟨1⟩ ∧
      (Registry.after (linked ++ drawn)).resolve ⟨0⟩ =
        (Registry.after (linked ++ drawn)).resolve ⟨1⟩ ∧
      (Registry.after (linked ++ drawn)).resolve ⟨1⟩ = ⟨2⟩ ∧
      (Registry.after ((linked ++ drawn) ++ drawn)).resolve ⟨0⟩ = ⟨2⟩ := by
  have hfirst : (Registry.after linked).resolve ⟨0⟩ = ⟨1⟩ := by decide
  have hsecond : (Registry.after (linked ++ drawn)).resolve ⟨0⟩ = ⟨2⟩ := by decide
  obtain ⟨-, hentries⟩ := Registry.redirects_after linked
  obtain ⟨-, hentriesDrawn⟩ := Registry.redirects_after (linked ++ drawn)
  obtain ⟨-, -, hlater⟩ := hentries ⟨0⟩ _ rfl
  obtain ⟨-, -, hlaterDrawn⟩ := hentriesDrawn ⟨0⟩ _ rfl
  obtain ⟨-, hstep, -⟩ := hlater drawn
  obtain ⟨-, -, hstays⟩ := hlaterDrawn drawn
  rw [hfirst] at hstep
  rw [hsecond] at hstays
  refine ⟨hfirst, hstep, by decide, hstays ⟨_, rfl, rfl⟩⟩

end Canvas

end DeclCheck
