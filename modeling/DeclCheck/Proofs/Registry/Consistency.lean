/-
# DeclCheck.Proofs.Registry.Consistency — entries and name maps agree, whatever happens.

A registry is *coherent* if every name leads to an entry of the right origin that bears the name,
the open placeholders of pending names are just the ones listed as such, and every entry is sound in
itself.  It is *consistent* if, besides, no name is both declared and pending; this fails for a
moment while a declaration is entered, between its listing and the redirect of its placeholder.
Every call keeps a registry consistent, so every history does.
-/
import DeclCheck.Proofs.Registry.History

namespace DeclCheck

namespace Origin

/-- Whether the entry is a placeholder for a name used before its declaration. -/
def isPending : Origin → Bool
  | .pending _ => true
  | _ => false

/-- Whether the entry is a placeholder for a nested class. -/
def isOuterNested : Origin → Bool
  | .outerNested _ => true
  | _ => false

theorem exists_eq_pending {origin : Origin} (hpending : origin.isPending) :
    ∃ location, origin = .pending location := by
  cases origin with
  | pending location => exact ⟨location, rfl⟩
  | _ => cases hpending

theorem isPlaceholder_of_isPending {origin : Origin} (hpending : origin.isPending) :
    origin.isPlaceholder = true := by
  obtain ⟨location, rfl⟩ := exists_eq_pending hpending
  rfl

theorem isPlaceholder_of_isDeclared {origin : Origin} (hdeclared : origin.isDeclared) :
    origin.isPlaceholder = false := by
  cases origin with
  | declared unit => rfl
  | _ => cases hdeclared

end Origin

/-- An entry that is well-formed at its place. -/
structure Entry.Sound (entry : Entry) (id : ClassId) : Prop where
  /-- Only a placeholder leads elsewhere. -/
  placeholder_of_redirect : entry.redirect ≠ none → entry.isPlaceholder
  /-- Only a placeholder that leads nowhere yet is listened to. -/
  open_of_listeners : entry.listeners ≠ [] → entry.isPlaceholder ∧ entry.redirect = none
  /-- The class around a nested one is older. -/
  enclosing_lt : ∀ enclosing, entry.origin = .outerNested enclosing → enclosing.index < id.index

theorem Entry.Sound.new {decl : ClassDecl} {origin : Origin} {id : ClassId}
    (henclosing : ∀ enclosing, origin = .outerNested enclosing → enclosing.index < id.index) :
    (Entry.new decl origin).Sound id where
  placeholder_of_redirect hredirect := absurd rfl hredirect
  open_of_listeners hlisteners := absurd rfl hlisteners
  enclosing_lt := henclosing

namespace Registry

/-- Each name of the map leads to an entry that bears it and satisfies `P`. -/
def Lists (registry : Registry) (map : NameMap ClassId) (P : Entry → Prop) : Prop :=
  ∀ name id, map.get? name = some id → registry.Has id fun entry => entry.name = name ∧ P entry

/-- Names lead to entries of the right kind, and no open placeholder of a name is unlisted. -/
structure Coherent (registry : Registry) : Prop where
  entries : ∀ id entry, registry.entry? id = some entry → entry.Sound id
  known : registry.Lists registry.known fun entry => entry.origin.isDeclared
  pending : registry.Lists registry.pending fun entry =>
    entry.origin.isPending ∧ entry.redirect = none
  /-- No open placeholder of a pending name is left out. -/
  pending_complete : ∀ id entry, registry.entry? id = some entry → entry.origin.isPending →
    entry.redirect = none → registry.pending.get? entry.name = some id
  generated : registry.Lists registry.generated fun entry => entry.origin = .generated
  toResolve : registry.Lists registry.toResolve fun entry =>
    entry.origin.isOuterNested ∧ entry.redirect = none
  external : registry.Lists registry.external fun entry => entry.origin = .external

/-- Coherent, and no name is both declared and pending. -/
structure Consistent (registry : Registry) : Prop extends registry.Coherent where
  known_or_pending : ∀ name, registry.known.get? name = none ∨ registry.pending.get? name = none

theorem Consistent.empty : (∅ : Registry).Consistent where
  entries _ _ hentry := by cases hentry
  known _ _ hname := by cases hname
  pending _ _ hname := by cases hname
  pending_complete _ _ hentry := by cases hentry
  generated _ _ hname := by cases hname
  toResolve _ _ hname := by cases hname
  external _ _ hname := by cases hname
  known_or_pending _ := .inl rfl

variable {registry : Registry}

/-! ## New entries -/

namespace Lists

variable {map : NameMap ClassId} {P : Entry → Prop}

theorem push (hlists : registry.Lists map P) (decl : ClassDecl) (origin : Origin) :
    (registry.push decl origin).1.Lists map P := by
  intro name id hname
  exact has_push.mpr (.inl (hlists name id hname))

theorem insert (hlists : registry.Lists map P) {name : String} {id : ClassId}
    (hid : registry.Has id fun entry => entry.name = name ∧ P entry) :
    registry.Lists (map.insert name id) P := by
  intro other found hfound
  rw [NameMap.get?_insert] at hfound
  by_cases hname : other = name
  · rw [if_pos hname] at hfound
    cases hfound
    rw [hname]
    exact hid
  · rw [if_neg hname] at hfound
    exact hlists other found hfound

end Lists

theorem has_new (registry : Registry) {decl : ClassDecl} {origin : Origin} {P : Entry → Prop}
    (hnew : P (.new decl origin)) : (registry.push decl origin).1.Has ⟨registry.size⟩ P :=
  has_push.mpr (.inr ⟨rfl, hnew⟩)

theorem sound_push (hsound : ∀ id entry, registry.entry? id = some entry → entry.Sound id)
    {decl : ClassDecl} {origin : Origin}
    (henclosing : ∀ enclosing, origin = .outerNested enclosing → enclosing.index < registry.size)
    (id : ClassId) (entry : Entry)
    (hentry : entry? (registry.push decl origin).1 id = some entry) : entry.Sound id := by
  rcases entry?_push_eq_some.mp hentry with hold | ⟨rfl, rfl⟩
  · exact hsound id entry hold
  · exact .new henclosing

/-- A new entry that is no placeholder of a pending name. -/
theorem Coherent.push (hcoherent : registry.Coherent) (decl : ClassDecl) (origin : Origin)
    (hplain : origin.isPending = false)
    (henclosing : ∀ enclosing, origin = .outerNested enclosing → enclosing.index < registry.size) :
    (registry.push decl origin).1.Coherent where
  entries := sound_push hcoherent.entries henclosing
  known := hcoherent.known.push decl origin
  pending := hcoherent.pending.push decl origin
  pending_complete id entry hentry hpending hredirect := by
    rcases entry?_push_eq_some.mp hentry with hold | ⟨rfl, rfl⟩
    · exact hcoherent.pending_complete id entry hold hpending hredirect
    · exact absurd hpending (by simp [Entry.new, hplain])
  generated := hcoherent.generated.push decl origin
  toResolve := hcoherent.toResolve.push decl origin
  external := hcoherent.external.push decl origin

/-- A new placeholder of a name that is not pending yet. -/
theorem Consistent.refer (hconsistent : registry.Consistent) (name : String) (location : Location) :
    (registry.refer name location).1.Consistent := by
  unfold Registry.refer
  cases hlookup : registry.lookup? name with
  | some id => exact hconsistent
  | none =>
      obtain ⟨hknown, hpending⟩ := Option.or_eq_none_iff.mp hlookup
      exact {
        entries := sound_push hconsistent.entries nofun
        known := hconsistent.known.push _ _
        pending :=
          (hconsistent.pending.push _ _).insert (registry.has_new ⟨rfl, rfl, rfl⟩)
        pending_complete := by
          intro id entry hentry hisPending hredirect
          rw [NameMap.get?_insert]
          rcases entry?_push_eq_some.mp hentry with hold | ⟨rfl, rfl⟩
          · -- An older placeholder of this name would be listed, and none is.
            have hlisted := hconsistent.pending_complete id entry hold hisPending hredirect
            have hname : entry.name ≠ name := by
              intro hname
              rw [hname, hpending] at hlisted
              cases hlisted
            rw [if_neg hname]
            exact hlisted
          · exact if_pos rfl
        generated := hconsistent.generated.push _ _
        toResolve := hconsistent.toResolve.push _ _
        external := hconsistent.external.push _ _
        known_or_pending := by
          intro other
          by_cases hname : other = name
          · rw [hname]
            exact .inl hknown
          · refine (hconsistent.known_or_pending other).imp_right fun hnone => ?_
            exact (NameMap.get?_insert ..).trans ((if_neg hname).trans hnone) }

theorem Consistent.addGenerated (hconsistent : registry.Consistent) (decl : ClassDecl) :
    (registry.addGenerated decl).1.Consistent := by
  have hpush := hconsistent.push decl .generated rfl nofun
  have hgenerated := hpush.generated.insert (registry.has_new ⟨rfl, rfl⟩)
  exact { hpush with
    generated := hgenerated
    known_or_pending := hconsistent.known_or_pending }

theorem Consistent.addExternal (hconsistent : registry.Consistent) (decl : ClassDecl) :
    (registry.addExternal decl).1.Consistent := by
  have hpush := hconsistent.push decl .external rfl nofun
  have hexternal := hpush.external.insert (registry.has_new ⟨rfl, rfl⟩)
  exact { hpush with
    external := hexternal
    known_or_pending := hconsistent.known_or_pending }

theorem Consistent.addOuterNested (hconsistent : registry.Consistent) {enclosing : ClassId}
    {name : String} {result : Registry × ClassId}
    (hok : registry.addOuterNested enclosing name = .ok result) : result.1.Consistent := by
  unfold Registry.addOuterNested at hok
  cases hclass : registry.class? enclosing with
  | none =>
      rw [hclass] at hok
      cases hok
  | some outer =>
      rw [hclass] at hok
      cases hok
      obtain ⟨entry, hentry, -⟩ := Option.map_eq_some_iff.mp hclass
      have henclosing := registry.lt_size_of_entry? hentry
      have hpush := hconsistent.push { name, enclosing := some outer.name }
        (.outerNested enclosing) rfl fun _ horigin => by cases horigin; exact henclosing
      have htoResolve := hpush.toResolve.insert (registry.has_new ⟨rfl, rfl, rfl⟩)
      exact { hpush with
        toResolve := htoResolve
        known_or_pending := hconsistent.known_or_pending }

/-! ## Entries that change -/

theorem Lists.update {changed : Registry} {change : ClassId → Entry → Entry}
    (hentries : ∀ id, changed.entry? id = (registry.entry? id).map (change id))
    {map : NameMap ClassId} {P : Entry → Prop} (hlists : registry.Lists map P)
    (hkeep : ∀ name id entry, map.get? name = some id → registry.entry? id = some entry →
      entry.name = name → P entry → (change id entry).name = name ∧ P (change id entry)) :
    changed.Lists map P := by
  intro name id hname
  obtain ⟨entry, hentry, hbears, hP⟩ := hlists name id hname
  refine ⟨change id entry, ?_, hkeep name id entry hname hentry hbears hP⟩
  rw [hentries, hentry]
  rfl

/-- Entries that keep name, origin and redirect. -/
theorem Coherent.update (hcoherent : registry.Coherent) {change : ClassId → Entry → Entry}
    {entries : Array Entry}
    (hentries : ∀ id, entry? { registry with entries } id =
      (registry.entry? id).map (change id))
    (hkeep : ∀ id entry, registry.entry? id = some entry →
      (change id entry).name = entry.name ∧ (change id entry).origin = entry.origin ∧
        (change id entry).redirect = entry.redirect)
    (hsound : ∀ id entry, registry.entry? id = some entry → (change id entry).Sound id) :
    { registry with entries }.Coherent where
  entries id entry hentry := by
    rw [hentries] at hentry
    obtain ⟨old, hold, rfl⟩ := Option.map_eq_some_iff.mp hentry
    exact hsound id old hold
  known := hcoherent.known.update hentries (by grind)
  pending := hcoherent.pending.update hentries (by grind)
  pending_complete id entry hentry hpending hredirect := by
    rw [hentries] at hentry
    obtain ⟨old, hold, rfl⟩ := Option.map_eq_some_iff.mp hentry
    obtain ⟨hname, horigin, hsame⟩ := hkeep id old hold
    rw [horigin] at hpending
    rw [hsame] at hredirect
    rw [hname]
    exact hcoherent.pending_complete id old hold hpending hredirect
  generated := hcoherent.generated.update hentries (by grind)
  toResolve := hcoherent.toResolve.update hentries (by grind)
  external := hcoherent.external.update hentries (by grind)

theorem Consistent.listen (hconsistent : registry.Consistent) {placeholder : ClassId}
    {listener : String} {listening : Registry}
    (hok : registry.listen placeholder listener = .ok listening) : listening.Consistent := by
  unfold Registry.listen at hok
  cases hopen : registry.openPlaceholder placeholder with
  | error refusal =>
      rw [hopen] at hok
      cases hok
  | ok entry =>
      rw [hopen] at hok
      cases hok
      obtain ⟨hentry, hplaceholder, hredirect⟩ := openPlaceholder_eq_ok.mp hopen
      have hupdate := hconsistent.update (registry.entry?_modifyEntry placeholder · fun entry =>
        { entry with listeners := entry.listeners ++ [listener] }) (by grind [Entry.name]) (by
          intro id old hold
          have hsound := hconsistent.entries id old hold
          by_cases hid : id = placeholder
          · -- The one entry that changes is the placeholder that was found open.
            subst hid
            rw [if_pos rfl]
            cases hentry.symm.trans hold
            exact ⟨hsound.placeholder_of_redirect, fun _ => ⟨hplaceholder, hredirect⟩,
              hsound.enclosing_lt⟩
          · rw [if_neg hid]
            exact hsound)
      exact { hupdate with known_or_pending := hconsistent.known_or_pending }

theorem Consistent.checked (hconsistent : registry.Consistent) (verifier : Verifier)
    (id : ClassId) : (verifier.checked registry id).Consistent := by
  obtain ⟨decl, hchecked, hbare⟩ := verifier.exists_checked_eq_setDecl registry id
  have hname : ∀ entry, registry.entry? id = some entry → decl.name = entry.name := by
    intro entry hentry
    have hclass : registry.class? id = some entry.decl := by rw [class?, hentry]; rfl
    have hsame := congrArg (·.class? id) hbare
    simp only [class?_bare, class?_setDecl, hclass, if_true, Option.map_some,
      Option.some.injEq] at hsame
    show decl.bare.name = entry.decl.bare.name
    rw [hsame]
  rw [hchecked]
  have hupdate := hconsistent.update (registry.entry?_modifyEntry id · fun entry =>
    { entry with decl := decl }) (by grind [Entry.name]) (by
      intro other old hold
      have hsound := hconsistent.entries other old hold
      by_cases hid : other = id
      · rw [if_pos hid]
        exact ⟨hsound.placeholder_of_redirect, hsound.open_of_listeners, hsound.enclosing_lt⟩
      · rw [if_neg hid]
        exact hsound)
  exact { hupdate with known_or_pending := hconsistent.known_or_pending }

/-! ## Redirects -/

/-- A placeholder that is redirected leaves the maps of open placeholders. -/
theorem Lists.settle {map : NameMap ClassId} {P : Entry → Prop} (hlists : registry.Lists map P)
    {placeholder : ClassId} {entry : Entry} (hentry : registry.entry? placeholder = some entry)
    (target : ClassId) :
    (registry.settle entry.name placeholder target).Lists
      (map.eraseIf entry.name placeholder) P := by
  intro name id hname
  obtain ⟨hlisted, hother⟩ := NameMap.get?_eraseIf.mp hname
  obtain ⟨found, hfound, hbears, hP⟩ := hlists name id hlisted
  -- The placeholder can only be listed under its own name, and that listing is gone.
  have hid : id ≠ placeholder := by
    rintro rfl
    cases hentry.symm.trans hfound
    exact hother ⟨hbears.symm, rfl⟩
  refine ⟨found, ?_, hbears, hP⟩
  rw [entry?_settle, hfound, Option.map_some, if_neg hid]

theorem Coherent.settle (hcoherent : registry.Coherent) {placeholder : ClassId} {entry : Entry}
    (hentry : registry.entry? placeholder = some entry) (hplaceholder : entry.isPlaceholder)
    (target : ClassId) : (registry.settle entry.name placeholder target).Coherent where
  entries id found hfound := by
    rw [entry?_settle] at hfound
    obtain ⟨old, hold, rfl⟩ := Option.map_eq_some_iff.mp hfound
    have hsound := hcoherent.entries id old hold
    by_cases hid : id = placeholder
    · subst hid
      cases hentry.symm.trans hold
      rw [if_pos rfl]
      exact ⟨fun _ => hplaceholder, fun hlisteners => absurd rfl hlisteners, hsound.enclosing_lt⟩
    · rw [if_neg hid]
      exact hsound
  known := hcoherent.known.update (registry.entry?_settle _ _ _) (by grind [Entry.name])
  pending := hcoherent.pending.settle hentry target
  pending_complete id found hfound hpending hredirect := by
    rw [entry?_settle] at hfound
    obtain ⟨old, hold, rfl⟩ := Option.map_eq_some_iff.mp hfound
    by_cases hid : id = placeholder
    · rw [if_pos hid] at hredirect
      cases hredirect
    · rw [if_neg hid] at hpending hredirect ⊢
      have hlisted := hcoherent.pending_complete id old hold hpending hredirect
      exact NameMap.get?_eraseIf.mpr ⟨hlisted, fun hboth => hid hboth.2⟩
  generated := hcoherent.generated.update (registry.entry?_settle _ _ _) (by grind [Entry.name])
  toResolve := hcoherent.toResolve.settle hentry target
  external := hcoherent.external.update (registry.entry?_settle _ _ _) (by grind [Entry.name])

theorem pending_settle_eq_none {name other : String} {placeholder target : ClassId}
    (hnone : registry.pending.get? other = none) :
    (registry.settle name placeholder target).pending.get? other = none := by
  rw [Option.eq_none_iff_forall_ne_some] at hnone ⊢
  intro id hid
  exact hnone id (NameMap.get?_eraseIf.mp hid).1

theorem Consistent.redirect (hconsistent : registry.Consistent) {placeholder target : ClassId}
    {result : Registry × List RedirectEvent}
    (hok : registry.redirect placeholder target = .ok result) : result.1.Consistent := by
  obtain ⟨-, -, entry, hopen, rfl⟩ := redirect_eq_ok.mp hok
  obtain ⟨hentry, hplaceholder, -⟩ := openPlaceholder_eq_ok.mp hopen
  have hsettle := hconsistent.settle hentry hplaceholder target
  exact { hsettle with
    known_or_pending := fun name =>
      (hconsistent.known_or_pending name).imp_right pending_settle_eq_none }

/-! ## Declarations -/

/-- The registry with a declaration listed, before the placeholder of its name is redirected. -/
def registered (registry : Registry) (decl : ClassDecl) (unit : String) : Registry :=
  let added := (registry.push decl (.declared unit)).1
  { added with
    known := registry.known.insert decl.name ⟨registry.size⟩
    diagnostics := registry.diagnostics ++
      (registry.known.get? decl.name).toList.map (added.duplicate decl unit) }

theorem pending_registered (registry : Registry) (decl : ClassDecl) (unit : String) :
    (registry.registered decl unit).pending = registry.pending := rfl

theorem registered_eq (registry : Registry) (decl : ClassDecl) (unit : String) :
    registry.registered decl unit =
      let added := (registry.push decl (.declared unit)).1
      let reported :=
        match added.known.get? decl.name with
        | some earlier => { added with
            diagnostics := added.diagnostics ++ [added.duplicate decl unit earlier] }
        | none => added
      { reported with known := reported.known.insert decl.name ⟨registry.size⟩ } := by
  cases hknown : registry.known.get? decl.name with
  | none => simp [registered, push, hknown]
  | some earlier => simp [registered, push, hknown]

theorem declare_eq (registry : Registry) (decl : ClassDecl) (unit : String) :
    registry.declare decl unit =
      match (registry.registered decl unit).pending.get? decl.name with
      | none => (registry.registered decl unit, ⟨registry.size⟩, [])
      | some placeholder =>
        match (registry.registered decl unit).redirect placeholder ⟨registry.size⟩ with
        | .ok (redirected, events) => (redirected, ⟨registry.size⟩, events)
        | .error _ => (registry.registered decl unit, ⟨registry.size⟩, []) := by
  rw [registered_eq]
  rfl

/-- A declared class gets the next number, whatever becomes of the placeholder of its name. -/
theorem declare_id (registry : Registry) (decl : ClassDecl) (unit : String) :
    (registry.declare decl unit).2.1 = ⟨registry.size⟩ := by
  rw [declare_eq]
  split
  · rfl
  · split <;> rfl

theorem Coherent.registered (hcoherent : registry.Coherent) (decl : ClassDecl) (unit : String) :
    (registry.registered decl unit).Coherent := by
  have hpush := hcoherent.push decl (.declared unit) rfl nofun
  have hknown := hpush.known.insert (registry.has_new ⟨rfl, rfl⟩)
  exact { hpush with known := hknown }

/-- The placeholder of a name that is being declared can be redirected. -/
theorem Coherent.redirect_registered (hcoherent : registry.Coherent) {decl : ClassDecl}
    {placeholder : ClassId} (hpending : registry.pending.get? decl.name = some placeholder)
    (unit : String) :
    ∃ events, (registry.registered decl unit).redirect placeholder ⟨registry.size⟩ =
      .ok ((registry.registered decl unit).settle decl.name placeholder ⟨registry.size⟩,
        events) := by
  obtain ⟨entry, hentry, hname, hisPending, hredirect⟩ :=
    hcoherent.pending decl.name placeholder hpending
  have hnew : entry? (registry.registered decl unit) ⟨registry.size⟩ =
      some (.new decl (.declared unit)) :=
    entry?_push_eq_some.mpr (.inr ⟨rfl, rfl⟩)
  have hold : entry? (registry.registered decl unit) placeholder = some entry :=
    entry?_push_eq_some.mpr (.inl hentry)
  have hplaceholder : entry.isPlaceholder := Origin.isPlaceholder_of_isPending hisPending
  have hopen : (registry.registered decl unit).openPlaceholder placeholder = .ok entry :=
    openPlaceholder_eq_ok.mpr ⟨hold, hplaceholder, hredirect⟩
  -- The declaration is new, so it leads nowhere and is not its own placeholder.
  have hself : (registry.registered decl unit).resolve ⟨registry.size⟩ ≠ placeholder := by
    rw [resolve_eq_self (by rw [redirect?, hnew]; rfl)]
    rintro rfl
    exact Nat.lt_irrefl _ (registry.lt_size_of_entry? hentry)
  have hok := redirect_eq_ok.mpr ⟨by rw [hnew]; rfl, hself, entry, hopen, rfl⟩
  rw [hname] at hok
  exact ⟨_, hok⟩

theorem Consistent.declare (hconsistent : registry.Consistent) (decl : ClassDecl) (unit : String) :
    (registry.declare decl unit).1.Consistent := by
  have hregistered := hconsistent.registered decl unit
  have hknown : ∀ name, name ≠ decl.name →
      (registry.registered decl unit).known.get? name = registry.known.get? name :=
    fun name hname => (NameMap.get?_insert ..).trans (if_neg hname)
  rw [declare_eq, pending_registered]
  cases hpending : registry.pending.get? decl.name with
  | none =>
      refine { hregistered with known_or_pending := fun name => ?_ }
      by_cases hname : name = decl.name
      · rw [hname]
        exact .inr hpending
      · exact (hconsistent.known_or_pending name).imp_left (hknown name hname).trans
  | some placeholder =>
      obtain ⟨events, hok⟩ := hconsistent.redirect_registered hpending unit
      obtain ⟨-, -, entry, hopen, hresult⟩ := redirect_eq_ok.mp hok
      obtain ⟨hentry, hplaceholder, -⟩ := openPlaceholder_eq_ok.mp hopen
      have hsettled : (registry.registered decl unit).settle decl.name placeholder ⟨registry.size⟩ =
          (registry.registered decl unit).settle entry.name placeholder ⟨registry.size⟩ :=
        congrArg Prod.fst hresult
      have hsettle := hregistered.settle hentry hplaceholder ⟨registry.size⟩
      rw [← hsettled] at hsettle
      simp only [hok]
      refine { hsettle with known_or_pending := fun name => ?_ }
      by_cases hname : name = decl.name
      · -- The declared name was listed for this placeholder alone.
        refine .inr (Option.eq_none_iff_forall_ne_some.mpr fun id hid => ?_)
        obtain ⟨hlisted, hother⟩ := NameMap.get?_eraseIf.mp hid
        rw [hname] at hlisted
        exact hother ⟨hname, Option.some.inj (hlisted.symm.trans hpending)⟩
      · exact (hconsistent.known_or_pending name).imp (hknown name hname).trans
          pending_settle_eq_none

/-! ## Every history -/

theorem Consistent.apply (hconsistent : registry.Consistent) (call : Call) :
    (registry.apply call).Consistent := by
  cases call with
  | enterUnit name => exact { hconsistent with }
  | refer name location => exact hconsistent.refer name location
  | declare decl unit => exact hconsistent.declare decl unit
  | addGenerated decl => exact hconsistent.addGenerated decl
  | addExternal decl => exact hconsistent.addExternal decl
  | addOuterNested enclosing name =>
      simp only [Registry.apply]
      split
      · next hok => exact hconsistent.addOuterNested hok
      · exact hconsistent
  | listen placeholder listener =>
      simp only [Registry.apply]
      split
      · next hok => exact hconsistent.listen hok
      · exact hconsistent
  | redirect placeholder target =>
      simp only [Registry.apply]
      split
      · next hok => exact hconsistent.redirect hok
      · exact hconsistent
  | verifyClass verifier id => exact hconsistent.checked verifier id
  | takeDiagnostics => exact { hconsistent with }

theorem consistent_after (operations : List Operation) : (after operations).Consistent :=
  after_induction .empty (fun _ call hconsistent => hconsistent.apply call) operations

theorem consistent_ran (calls : List Call) : (ran calls).Consistent := by
  have hafter := consistent_after (calls.map .change)
  have hcalls : (calls.map Operation.change).flatMap Operation.calls = calls := by
    rw [List.flatMap_map]
    exact List.flatMap_singleton' calls
  rwa [after_eq_ran, hcalls] at hafter

/-! ## Source units -/

/-- How many classes are around does not matter, since each of them is older. -/
theorem unitFrom_eq (hconsistent : registry.Consistent) {few many : Nat} {id : ClassId}
    (hfew : id.index < few) (hmany : id.index < many) :
    registry.unitFrom few id = registry.unitFrom many id := by
  induction few generalizing many id with
  | zero => exact absurd hfew (Nat.not_lt_zero _)
  | succ few ih =>
      obtain ⟨many, rfl⟩ := Nat.exists_eq_succ_of_ne_zero (Nat.ne_zero_of_lt hmany)
      unfold unitFrom
      cases hentry : registry.entry? id with
      | none => rfl
      | some entry =>
          simp only [Option.map_some]
          cases horigin : entry.origin with
          | outerNested enclosing =>
              -- The class around is older, so one step fewer is still enough for it.
              have hlt := (hconsistent.entries id entry hentry).enclosing_lt enclosing horigin
              exact ih (by omega) (by omega)
          | _ => rfl

/-- The unit that an origin names, or else that of the class around. -/
def unitVia? (registry : Registry) : Origin → Option String
  | .declared unit => some unit
  | .pending location => some location.unit
  | .outerNested enclosing => registry.unitOf? enclosing
  | .generated | .external => none

theorem unitOf?_eq (hconsistent : registry.Consistent) (id : ClassId) :
    registry.unitOf? id =
      ((registry.entry? id).map Entry.origin).bind registry.unitVia? := by
  rw [unitOf?, unitFrom]
  cases hentry : registry.entry? id with
  | none => rfl
  | some entry =>
      simp only [Option.map_some, Option.bind_some]
      cases horigin : entry.origin with
      | outerNested enclosing =>
          have hlt := (hconsistent.entries id entry hentry).enclosing_lt enclosing horigin
          exact unitFrom_eq hconsistent hlt (Nat.lt_succ_self _)
      | _ => rfl

/-- After every history the registry is consistent: the unit of a nested class is found from class
to class around it, and the placeholder of a name that is being declared is always redirected. -/
theorem invariant_after (operations : List Operation) :
    (after operations).Consistent ∧
      (∀ id, (after operations).unitOf? id =
        ((Registry.entry? (after operations) id).map Entry.origin).bind
          (after operations).unitVia?) ∧
      ∀ decl unit placeholder, (after operations).pending.get? decl.name = some placeholder →
        ∃ redirected events,
          ((after operations).registered decl unit).redirect placeholder
              ⟨(after operations).size⟩ = .ok (redirected, events) ∧
            (after operations).declare decl unit =
              (redirected, ⟨(after operations).size⟩, events) := by
  have hconsistent := consistent_after operations
  refine ⟨hconsistent, unitOf?_eq hconsistent, ?_⟩
  intro decl unit placeholder hpending
  obtain ⟨events, hok⟩ := hconsistent.redirect_registered hpending unit
  refine ⟨_, events, hok, ?_⟩
  simp only [declare_eq, pending_registered, hpending, hok]

end Registry

/-! ## A class that is waited for -/

namespace Canvas

/-- The class that is waited for. -/
def shape : ClassDecl where
  name := "Shape"

/-- `Shape` is used, a class nested in it is entered, and a listener waits for it. -/
def operations : List Operation :=
  [.change (.refer "Shape" ⟨"canvas", .nowhere⟩),
    .change (.addOuterNested ⟨0⟩ "Shape.Side"),
    .change (.listen ⟨0⟩ "painter")]

theorem declare_shape :
    (Registry.after operations).pending.get? "Shape" = some ⟨0⟩ ∧
      ∃ redirected events,
        ((Registry.after operations).registered shape "shapes").redirect ⟨0⟩ ⟨2⟩ =
            .ok (redirected, events) ∧
          (Registry.after operations).declare shape "shapes" = (redirected, ⟨2⟩, events) := by
  have hpending : (Registry.after operations).pending.get? "Shape" = some ⟨0⟩ := by decide
  exact ⟨hpending, (Registry.invariant_after operations).2.2 shape "shapes" ⟨0⟩ hpending⟩

end Canvas

end DeclCheck
