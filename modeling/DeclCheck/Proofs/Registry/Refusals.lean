/-
# DeclCheck.Proofs.Registry.Refusals — a redirect is refused only for a cycle, and a refusal leaves
no trace.

The check before a redirect follows the chain from the target and looks at its end only.  That is
enough: the placeholder leads nowhere yet, so a chain that gets there ends there.  It is also no
more than is needed: the redirect is refused exactly if it would close a cycle, and otherwise it
takes along everything that ended at the placeholder and nothing else.

That a refused request changes nothing has to be shown where it could fail.  An `Update` works on
the registry in place, step by step, and what it did before it is refused stays done.  Each of the
three requests that can be refused makes all of its checks first; so as a whole it does what the
registry's own operation does, or nothing.
-/
import DeclCheck.Proofs.Registry.Redirects

namespace DeclCheck

/-! ## Updates in place -/

/-- A registry that is updated in place, and what listeners have been told so far. -/
structure Ledger where
  registry : Registry
  told : List RedirectEvent := []

/-- A sequence of steps, which may be refused on the way.  The steps before a refusal stay done. -/
abbrev Update := EStateM RegistryError Ledger

namespace Update

/-- Find an entry, and refuse a number that no entry has. -/
def findEntry (id : ClassId) : Update Entry := do
  match (← get).registry.entry? id with
  | some entry => return entry
  | none => throw (.unknownClass id)

/-- Change the registry.  This step is never refused. -/
def change (step : Registry → Registry) : Update Unit :=
  modify fun ledger => { ledger with registry := step ledger.registry }

/-- Tell one listener, who sees the registry of this moment. -/
def tell (placeholder target : ClassId) (listener : String) : Update Unit :=
  modify fun ledger => { ledger with
    told := ledger.told ++ [⟨listener, placeholder, target, ledger.registry⟩] }

/-- Find a placeholder, and refuse one that is redirected already. -/
def findOpen (id : ClassId) : Update Entry := do
  let entry ← findEntry id
  if !entry.isPlaceholder then throw (.notPlaceholder entry.name)
  else if entry.redirect.isSome then throw (.alreadyRedirected entry.name)
  else return entry

/-- Add a listener to a placeholder that is still open. -/
def listen (placeholder : ClassId) (listener : String) : Update Unit := do
  let _ ← findOpen placeholder
  change (·.modifyEntry placeholder fun entry =>
    { entry with listeners := entry.listeners ++ [listener] })

/-- The changes that a redirect makes.  The listeners are taken out before they are told. -/
def settle (entry : Entry) (placeholder target : ClassId) : Update Unit := do
  change (·.modifyEntry placeholder fun entry => { entry with listeners := [] })
  entry.listeners.forM (tell placeholder target)
  change (·.modifyEntry placeholder fun entry => { entry with redirect := some target })
  change fun registry =>
    { registry with pending := registry.pending.eraseIf entry.name placeholder }
  change fun registry =>
    { registry with toResolve := registry.toResolve.eraseIf entry.name placeholder }

/-- Redirect a placeholder.  The target is looked up first, and a redirect that would close a cycle
is refused before anything is changed. -/
def redirect (placeholder target : ClassId) : Update Unit := do
  let _ ← findEntry target
  let entry ← findOpen placeholder
  if (← get).registry.resolve target = placeholder then throw (.selfRedirect entry.name)
  else settle entry placeholder target

/-- Enter the placeholder of a nested class.  Only the lookup of the class around it can be refused.
-/
def addOuterNested (enclosing : ClassId) (name : String) : Update Unit := do
  let outer ← findEntry enclosing
  let id : ClassId := ⟨(← get).registry.size⟩
  change fun registry =>
    (registry.push { name, enclosing := some outer.name } (.outerNested enclosing)).1
  change fun registry => { registry with toResolve := registry.toResolve.insert name id }

end Update

/-- A request that the registry can refuse. -/
inductive Request where
  | listen (placeholder : ClassId) (listener : String)
  | redirect (placeholder target : ClassId)
  | addOuterNested (enclosing : ClassId) (name : String)

namespace Request

/-- The call that makes the request. -/
def call : Request → Call
  | .listen placeholder listener => .listen placeholder listener
  | .redirect placeholder target => .redirect placeholder target
  | .addOuterNested enclosing name => .addOuterNested enclosing name

/-- The request, carried out in place. -/
def update : Request → Update Unit
  | .listen placeholder listener => .listen placeholder listener
  | .redirect placeholder target => .redirect placeholder target
  | .addOuterNested enclosing name => .addOuterNested enclosing name

/-- Why the registry refuses the request, if it does. -/
def refusal? (registry : Registry) : Request → Option RegistryError
  | .listen placeholder listener =>
    match registry.listen placeholder listener with
    | .ok _ => none
    | .error refusal => some refusal
  | .redirect placeholder target =>
    match registry.redirect placeholder target with
    | .ok _ => none
    | .error refusal => some refusal
  | .addOuterNested enclosing name =>
    match registry.addOuterNested enclosing name with
    | .ok _ => none
    | .error refusal => some refusal

end Request

namespace Update

theorem run_findEntry (id : ClassId) (ledger : Ledger) :
    (findEntry id).run ledger =
      match ledger.registry.entry? id with
      | some entry => .ok entry ledger
      | none => .error (.unknownClass id) ledger := by
  unfold findEntry
  rw [EStateM.run_bind, EStateM.run_get]
  show EStateM.run (match ledger.registry.entry? id with | _ => _) ledger = _
  cases ledger.registry.entry? id <;> rfl

theorem run_findOpen (id : ClassId) (ledger : Ledger) :
    (findOpen id).run ledger =
      match ledger.registry.openPlaceholder id with
      | .ok entry => .ok entry ledger
      | .error refusal => .error refusal ledger := by
  unfold findOpen Registry.openPlaceholder
  rw [EStateM.run_bind, run_findEntry]
  cases ledger.registry.entry? id with
  | none => rfl
  | some entry =>
      dsimp only
      split_ifs <;> rfl

theorem run_change (step : Registry → Registry) (ledger : Ledger) :
    (change step).run ledger = .ok () { ledger with registry := step ledger.registry } := rfl

/-- All listeners are told, in order, and all of them see the same registry. -/
theorem run_forM_tell (placeholder target : ClassId) (listeners : List String) (ledger : Ledger) :
    (listeners.forM (tell placeholder target)).run ledger =
      .ok () { ledger with told := ledger.told ++ listeners.map fun listener =>
        ⟨listener, placeholder, target, ledger.registry⟩ } := by
  induction listeners generalizing ledger with
  | nil => simp
  | cons listener rest ih =>
      show ((tell placeholder target listener) >>= fun _ =>
        rest.forM (tell placeholder target)).run ledger = _
      rw [EStateM.run_bind]
      show (rest.forM (tell placeholder target)).run { ledger with told := _ } = _
      rw [ih]
      simp

theorem run_listen (placeholder : ClassId) (listener : String) (ledger : Ledger) :
    (listen placeholder listener).run ledger =
      match ledger.registry.listen placeholder listener with
      | .ok listening => .ok () { ledger with registry := listening }
      | .error refusal => .error refusal ledger := by
  unfold listen Registry.listen
  rw [EStateM.run_bind, run_findOpen]
  cases ledger.registry.openPlaceholder placeholder <;> rfl

/-- The changes of a redirect, one after another, are those of the registry's own operation. -/
theorem run_settle (entry : Entry) (placeholder target : ClassId) (ledger : Ledger) :
    (settle entry placeholder target).run ledger =
      .ok () ⟨ledger.registry.settle entry.name placeholder target,
        ledger.told ++ entry.listeners.map fun listener =>
          ⟨listener, placeholder, target, ledger.registry.quiet placeholder⟩⟩ := by
  unfold settle
  rw [EStateM.run_bind, run_change]
  dsimp only
  rw [EStateM.run_bind, run_forM_tell]
  rfl

theorem run_redirect (placeholder target : ClassId) (ledger : Ledger) :
    (redirect placeholder target).run ledger =
      match ledger.registry.redirect placeholder target with
      | .ok (redirected, events) => .ok () ⟨redirected, ledger.told ++ events⟩
      | .error refusal => .error refusal ledger := by
  unfold redirect Registry.redirect
  rw [EStateM.run_bind, run_findEntry]
  cases ledger.registry.entry? target with
  | none => rfl
  | some _ =>
      dsimp only
      rw [EStateM.run_bind, run_findOpen]
      cases ledger.registry.openPlaceholder placeholder with
      | error refusal => rfl
      | ok entry =>
          show EStateM.run (if ledger.registry.resolve target = placeholder then _ else _) ledger
            = _
          by_cases hself : ledger.registry.resolve target = placeholder
          · simp only [bind, Except.bind, if_pos hself]
            rfl
          · rw [if_neg hself, run_settle]
            simp only [bind, Except.bind, if_neg hself]
            rfl

theorem run_addOuterNested (enclosing : ClassId) (name : String) (ledger : Ledger) :
    (addOuterNested enclosing name).run ledger =
      match ledger.registry.addOuterNested enclosing name with
      | .ok (added, _) => .ok () { ledger with registry := added }
      | .error refusal => .error refusal ledger := by
  unfold addOuterNested Registry.addOuterNested Registry.class?
  rw [EStateM.run_bind, run_findEntry]
  cases ledger.registry.entry? enclosing <;> rfl

end Update

/-- In place, a request does what the registry's own operation does, or it is refused and does
nothing. -/
theorem Request.run_update (request : Request) (ledger : Ledger) :
    request.update.run ledger =
      match request.refusal? ledger.registry with
      | none => .ok () ⟨ledger.registry.apply request.call,
          ledger.told ++ ledger.registry.told request.call⟩
      | some refusal => .error refusal ledger := by
  cases request with
  | listen placeholder listener =>
      refine (Update.run_listen placeholder listener ledger).trans ?_
      simp only [refusal?, call, Registry.apply, Registry.told, List.append_nil]
      cases ledger.registry.listen placeholder listener <;> rfl
  | redirect placeholder target =>
      refine (Update.run_redirect placeholder target ledger).trans ?_
      simp only [refusal?, call, Registry.apply, Registry.told]
      cases ledger.registry.redirect placeholder target <;> rfl
  | addOuterNested enclosing name =>
      refine (Update.run_addOuterNested enclosing name ledger).trans ?_
      simp only [refusal?, call, Registry.apply, Registry.told, List.append_nil]
      cases ledger.registry.addOuterNested enclosing name <;> rfl

namespace Registry

variable {registry later : Registry} {placeholder target : ClassId} {entry : Entry}

/-! ## Cycles -/

/-- The registry with a placeholder's redirect set, whether or not that is allowed. -/
def pointed (registry : Registry) (placeholder target : ClassId) : Registry :=
  registry.modifyEntry placeholder fun entry => { entry with redirect := some target }

/-- Setting the redirect would make some chain come back to where it began. -/
def ClosesCycle (registry : Registry) (placeholder target : ClassId) : Prop :=
  ∃ id, Relation.TransGen (registry.pointed placeholder target).Leads id id

theorem redirect?_pointed (hentry : registry.entry? placeholder = some entry)
    (target id : ClassId) :
    (registry.pointed placeholder target).redirect? id =
      if id = placeholder then some target else registry.redirect? id := by
  rw [redirect?, pointed, entry?_modifyEntry]
  by_cases hid : id = placeholder
  · rw [if_pos hid, hid, hentry]
    simp
  · simp [hid, redirect?]

theorem isSome_entry?_pointed (registry : Registry) (placeholder target id : ClassId) :
    (Registry.entry? (registry.pointed placeholder target) id).isSome =
      (registry.entry? id).isSome := by
  rw [pointed, entry?_modifyEntry, Option.isSome_map]

/-- A redirect that is added takes nothing away from chains. -/
theorem reaches_extended (hopen : registry.redirect? placeholder = none)
    (hlater : ∀ id, later.redirect? id =
      if id = placeholder then some target else registry.redirect? id) {id other : ClassId}
    (hreaches : registry.Reaches id other) : later.Reaches id other := by
  refine Relation.ReflTransGen.mono ?_ _ _ hreaches
  intro first second hleads
  have hfirst : first ≠ placeholder := by
    rintro rfl
    cases hopen.symm.trans hleads
  show later.redirect? first = some second
  rw [hlater, if_neg hfirst]
  exact hleads

theorem Grounded.linked (hgrounded : registry.Grounded)
    (hopen : registry.redirect? placeholder = none) (hself : registry.resolve target ≠ placeholder)
    (htarget : (registry.entry? target).isSome)
    (hentries : ∀ id, (later.entry? id).isSome = (registry.entry? id).isSome)
    (hlater : ∀ id, later.redirect? id =
      if id = placeholder then some target else registry.redirect? id) : later.Grounded := by
  refine hgrounded.extend (.linked placeholder target hopen hself ?_ hlater) ?_
  · rw [hentries]
    exact htarget
  · intro id hid
    rw [hentries]
    exact hid

/-- The end of the target's chain tells whether the redirect would close a cycle. -/
theorem Grounded.closesCycle_iff (hgrounded : registry.Grounded)
    (hentry : registry.entry? placeholder = some entry) (hleads : entry.redirect = none)
    (htarget : (registry.entry? target).isSome) :
    registry.ClosesCycle placeholder target ↔ registry.resolve target = placeholder := by
  have hopen : registry.redirect? placeholder = none := by
    rw [redirect?, hentry]
    exact hleads
  have hpointed := redirect?_pointed hentry target
  constructor
  · rintro ⟨id, hcycle⟩
    by_contra hself
    have hacyclic := (hgrounded.linked hopen hself htarget
      (registry.isSome_entry?_pointed placeholder target) hpointed).acyclic
    exact hacyclic id hcycle
  · intro hself
    have hback : (registry.pointed placeholder target).Reaches target placeholder :=
      reaches_extended hopen hpointed ((hgrounded.resolve_eq_iff_reaches hopen).mp hself)
    have hforth : (registry.pointed placeholder target).Leads placeholder target := by
      show (registry.pointed placeholder target).redirect? placeholder = some target
      rw [hpointed, if_pos rfl]
    exact ⟨placeholder, Relation.TransGen.head' hforth hback⟩

/-! ## Where chains end -/

/-- A new redirect takes along what ended at the placeholder, to where the target's chain ends. -/
theorem Grounded.resolve_extended (hgrounded : registry.Grounded) (hlaterGrounded : later.Grounded)
    (hopen : registry.redirect? placeholder = none) (hself : registry.resolve target ≠ placeholder)
    (hlater : ∀ id, later.redirect? id =
      if id = placeholder then some target else registry.redirect? id) (id : ClassId) :
    later.resolve id =
      if registry.resolve id = placeholder then registry.resolve target
      else registry.resolve id := by
  have hreaches : ∀ other, later.Reaches other (registry.resolve other) :=
    fun other => reaches_extended hopen hlater (registry.reaches_follow _ other)
  have hend : ∀ other, registry.resolve other ≠ placeholder →
      later.redirect? (registry.resolve other) = none := by
    intro other hother
    rw [hlater, if_neg hother]
    exact hgrounded.redirect?_resolve other
  by_cases hid : registry.resolve id = placeholder
  · rw [if_pos hid]
    have hleads : later.Leads placeholder target := by
      show later.redirect? placeholder = some target
      rw [hlater, if_pos rfl]
    have hthrough : later.Reaches id (registry.resolve target) := by
      have hfirst := hreaches id
      rw [hid] at hfirst
      exact hfirst.trans (.head hleads (hreaches target))
    exact (hlaterGrounded.resolve_eq_iff_reaches (hend target hself)).mpr hthrough
  · rw [if_neg hid]
    exact (hlaterGrounded.resolve_eq_iff_reaches (hend id hid)).mpr (hreaches id)

/-! ## Redirects of open placeholders -/

/-- Of a placeholder that leads nowhere, only the end of the target's chain is checked. -/
theorem redirect_of_open (hentry : registry.entry? placeholder = some entry)
    (hplaceholder : entry.isPlaceholder) (hleads : entry.redirect = none)
    (htarget : (registry.entry? target).isSome) :
    registry.redirect placeholder target =
      if registry.resolve target = placeholder then .error (.selfRedirect entry.name)
      else .ok (registry.settle entry.name placeholder target,
        entry.listeners.map fun listener =>
          ⟨listener, placeholder, target, registry.quiet placeholder⟩) := by
  obtain ⟨found, hfound⟩ := Option.isSome_iff_exists.mp htarget
  have hopen := openPlaceholder_eq_ok.mpr ⟨hentry, hplaceholder, hleads⟩
  by_cases hself : registry.resolve target = placeholder
  · simp only [redirect, hfound, hopen, bind, Except.bind, if_pos hself]
  · rw [if_neg hself]
    exact redirect_eq_ok.mpr ⟨htarget, hself, entry, hopen, rfl⟩

theorem resolve_settle (hgrounded : registry.Grounded)
    (hentry : registry.entry? placeholder = some entry) (hleads : entry.redirect = none)
    (htarget : (registry.entry? target).isSome) (hself : registry.resolve target ≠ placeholder)
    (name : String) (id : ClassId) :
    (registry.settle name placeholder target).resolve id =
      if registry.resolve id = placeholder then registry.resolve target
      else registry.resolve id := by
  have hopen : registry.redirect? placeholder = none := by
    rw [redirect?, hentry]
    exact hleads
  have hsettle := redirect?_settle hentry name target
  have hsettled := hgrounded.linked hopen hself htarget
    (registry.isSome_entry?_settle name placeholder target) hsettle
  exact hgrounded.resolve_extended hsettled hopen hself hsettle id

/-- **A redirect is refused for a cycle and for nothing else, and a refusal leaves no trace.**
After every history, let a placeholder lead nowhere yet.  To lead it to an entry is refused exactly
if that would close a cycle.  Otherwise it is done: whatever ended at the placeholder ends where the
target ends, and everything else ends where it did.  Any request, in any registry and for any
numbers, is refused in place exactly if the registry's own operation refuses it, and then the
registry is as it was and nobody has been told anything; if it is not refused, what is done is that
operation. -/
theorem redirect_refuses_cycles_only (operations : List Operation) :
    (∀ placeholder target entry,
      Registry.entry? (after operations) placeholder = some entry → entry.isPlaceholder →
      entry.redirect = none → (Registry.entry? (after operations) target).isSome →
      (∀ refusal, (after operations).redirect placeholder target = .error refusal ↔
        refusal = .selfRedirect entry.name ∧
          (after operations).ClosesCycle placeholder target) ∧
      (¬ (after operations).ClosesCycle placeholder target →
        ∃ redirected events,
          (after operations).redirect placeholder target = .ok (redirected, events) ∧
          redirected.resolve placeholder = (after operations).resolve target ∧
          ∀ id, redirected.resolve id =
            if (after operations).resolve id = placeholder then (after operations).resolve target
            else (after operations).resolve id)) ∧
    ∀ (request : Request) (ledger : Ledger),
      (∀ refusal later, request.update.run ledger = .error refusal later ↔
        request.refusal? ledger.registry = some refusal ∧ later = ledger) ∧
      (request.refusal? ledger.registry = none → request.update.run ledger =
        .ok () ⟨ledger.registry.apply request.call,
          ledger.told ++ ledger.registry.told request.call⟩) := by
  constructor
  · intro placeholder target entry hentry hplaceholder hleads htarget
    have hgrounded := grounded_after operations
    have hredirect := redirect_of_open hentry hplaceholder hleads htarget
    rw [hgrounded.closesCycle_iff hentry hleads htarget, hredirect]
    constructor
    · intro refusal
      split_ifs with hself
      · simp [hself, eq_comm]
      · simp [hself]
    · intro hself
      have hresolve := resolve_settle hgrounded hentry hleads htarget hself entry.name
      refine ⟨_, _, if_neg hself, ?_, hresolve⟩
      have hopen : (after operations).redirect? placeholder = none := by
        rw [redirect?, hentry]
        exact hleads
      rw [hresolve, if_pos (resolve_eq_self hopen)]
  · intro request ledger
    rw [request.run_update]
    cases request.refusal? ledger.registry with
    | none => simp
    | some found => simp [eq_comm]

end Registry

/-! ## A chain of placeholders -/

namespace Canvas

/-- Four names are used; `Shape` is led to `Figure` and `Figure` to `Form`, which is listened to. -/
def chained : List Operation :=
  [.change (.refer "Shape" ⟨"canvas", .nowhere⟩), .change (.refer "Figure" ⟨"canvas", .nowhere⟩),
    .change (.refer "Form" ⟨"canvas", .nowhere⟩), .change (.refer "Outline" ⟨"canvas", .nowhere⟩),
    .change (.redirect ⟨0⟩ ⟨1⟩), .change (.redirect ⟨1⟩ ⟨2⟩), .change (.listen ⟨2⟩ "painter")]

/-- `Form` cannot be led to `Shape`, two steps before it, and the attempt leaves its listener where
it is.  It can be led to `Outline` and takes `Shape` along. -/
theorem redirect_chained :
    (Registry.after chained).redirect ⟨2⟩ ⟨0⟩ = .error (.selfRedirect "Form") ∧
      (Request.redirect ⟨2⟩ ⟨0⟩).update.run ⟨Registry.after chained, []⟩ =
        .error (.selfRedirect "Form") ⟨Registry.after chained, []⟩ ∧
      (∃ entry, Registry.entry? (Registry.after chained) ⟨2⟩ = some entry ∧
        entry.listeners = ["painter"]) ∧
      ∃ redirected events, (Registry.after chained).redirect ⟨2⟩ ⟨3⟩ = .ok (redirected, events) ∧
        redirected.resolve ⟨0⟩ = ⟨3⟩ ∧ redirected.resolve ⟨2⟩ = ⟨3⟩ := by
  have hends : (Registry.after chained).resolve ⟨0⟩ = ⟨2⟩ := by decide
  have houtline : (Registry.after chained).resolve ⟨3⟩ = ⟨3⟩ := by decide
  obtain ⟨entry, hentry⟩ : ∃ entry, Registry.entry? (Registry.after chained) ⟨2⟩ = some entry :=
    ⟨_, rfl⟩
  have hname : entry.name = "Form" := by cases hentry; rfl
  have hlisteners : entry.listeners = ["painter"] := by cases hentry; rfl
  have hplaceholder : entry.isPlaceholder := by cases hentry; rfl
  have hleads : entry.redirect = none := by cases hentry; rfl
  obtain ⟨hredirect, hrequests⟩ := Registry.redirect_refuses_cycles_only chained
  obtain ⟨hrefused, -⟩ := hrequests (.redirect ⟨2⟩ ⟨0⟩) ⟨Registry.after chained, []⟩
  obtain ⟨hshape, -⟩ := hredirect ⟨2⟩ ⟨0⟩ entry hentry hplaceholder hleads rfl
  obtain ⟨-, hform⟩ := hredirect ⟨2⟩ ⟨3⟩ entry hentry hplaceholder hleads rfl
  have hgrounded := Registry.grounded_after chained
  have hcycle : (Registry.after chained).ClosesCycle ⟨2⟩ ⟨0⟩ :=
    (hgrounded.closesCycle_iff hentry hleads rfl).mpr hends
  have hnone : ¬ (Registry.after chained).ClosesCycle ⟨2⟩ ⟨3⟩ := by
    rw [hgrounded.closesCycle_iff hentry hleads rfl, houtline]
    decide
  refine ⟨?_, ?_, ⟨entry, hentry, hlisteners⟩, ?_⟩
  · rw [hshape, hname]
    exact ⟨rfl, hcycle⟩
  · have hrefusal : (Request.redirect ⟨2⟩ ⟨0⟩).refusal? (Registry.after chained) =
        some (.selfRedirect "Form") := rfl
    exact (hrefused _ _).mpr ⟨hrefusal, rfl⟩
  · obtain ⟨redirected, events, hok, hplaceholderEnd, hothers⟩ := hform hnone
    refine ⟨redirected, events, hok, ?_, hplaceholderEnd.trans houtline⟩
    rw [hothers, if_pos hends, houtline]

end Canvas

end DeclCheck
