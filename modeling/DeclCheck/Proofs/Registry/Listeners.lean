/-
# DeclCheck.Proofs.Registry.Listeners — who is told of a redirect, when, and what they see.

A placeholder has an *outlook*: where it leads, and who waits to hear of it.  One lemma per update
says what becomes of the outlook, and one inversion says what a call can do to it: nothing, add a
listener, or redirect the placeholder and tell everybody who waits.  Over a run of calls it follows
that the listeners a placeholder accepted are told by one call, each once and in order, and that
they are told if and only if the placeholder leads somewhere.
-/
import Mathlib.Data.List.Induction
import DeclCheck.Proofs.Registry.Consistency

namespace DeclCheck

namespace Registry

/-! ## What calls tell listeners -/

/-- What a call tells listeners. -/
def told (registry : Registry) : Call → List RedirectEvent
  | .declare decl unit => (registry.declare decl unit).2.2
  | .redirect placeholder target =>
    match registry.redirect placeholder target with
    | .ok (_, events) => events
    | .error _ => []
  | _ => []

/-- The listener that a call adds to a placeholder, unless the call is refused. -/
def accepted (placeholder : ClassId) (registry : Registry) : Call → List String
  | .listen heard listener =>
    match registry.listen heard listener with
    | .ok _ => if heard = placeholder then [listener] else []
    | .error _ => []
  | _ => []

/-- What an operation tells listeners. -/
def toldBy (registry : Registry) : Operation → List RedirectEvent
  | .addUnit unit => (registry.addUnit unit).2.2
  | .change call => registry.told call

/-- What operations tell listeners, one after another. -/
def announced (registry : Registry) : List Operation → List RedirectEvent
  | [] => []
  | operation :: rest => registry.toldBy operation ++ (registry.perform operation).announced rest

theorem declareAll_events (registry : Registry) (decls : List ClassDecl) (unit : String) :
    (registry.declareAll decls unit).2.2 =
      collect told registry (decls.map fun decl => .declare decl unit) := by
  induction decls generalizing registry with
  | nil => rfl
  | cons decl rest ih =>
      show (registry.declare decl unit).2.2 ++
        ((registry.declare decl unit).1.declareAll rest unit).2.2 = _
      rw [ih]
      rfl

/-- The names that a unit uses tell nobody anything. -/
theorem collect_told_refer (registry : Registry) (unit : String) (references : List Reference) :
    collect told registry
      (references.map fun reference => .refer reference.name ⟨unit, reference.span⟩) = [] := by
  induction references generalizing registry with
  | nil => rfl
  | cons reference rest ih => exact ih _

theorem toldBy_eq (registry : Registry) (operation : Operation) :
    registry.toldBy operation = collect told registry operation.calls := by
  cases operation with
  | change call => exact (List.append_nil _).symm
  | addUnit unit =>
      obtain ⟨name, tree⟩ := unit
      cases tree with
      | none => rfl
      | some tree =>
          let named := registry.apply (.enterUnit name)
          show (addUnit registry ⟨name, some tree⟩).2.2 = collect told named _
          rw [collect_append, collect_told_refer, List.nil_append, List.foldl_map]
          exact declareAll_events _ tree.classes name

theorem announced_eq (registry : Registry) (operations : List Operation) :
    registry.announced operations =
      collect told registry (operations.flatMap Operation.calls) := by
  induction operations generalizing registry with
  | nil => rfl
  | cons operation rest ih =>
      rw [announced, toldBy_eq, ih, perform_eq, List.flatMap_cons, collect_append]

end Registry

/-! ## Outlooks -/

/-- Where an entry leads, and who is told when it is made to lead somewhere. -/
structure Outlook where
  leads : Option ClassId := none
  listeners : List String := []

/-- The outlook of an entry. -/
def Entry.outlook (entry : Entry) : Outlook where
  leads := entry.redirect
  listeners := entry.listeners

namespace Registry

/-- The outlook of an entry; a number without an entry has nothing ahead. -/
def outlook (registry : Registry) (id : ClassId) : Outlook :=
  ((registry.entry? id).map Entry.outlook).getD {}

variable {registry : Registry}

/-- An entry that leads nowhere shows who waits for it. -/
theorem outlook_of_open {id : ClassId} {entry : Entry} (hentry : registry.entry? id = some entry)
    (hopen : entry.redirect = none) : registry.outlook id = ⟨none, entry.listeners⟩ := by
  rw [outlook, hentry]
  show entry.outlook = ⟨none, entry.listeners⟩
  rw [Entry.outlook, hopen]

theorem redirect?_eq_leads (registry : Registry) (id : ClassId) :
    registry.redirect? id = (registry.outlook id).leads := by
  cases hentry : registry.entry? id with
  | none => simp [redirect?, outlook, hentry]
  | some entry => simp [redirect?, outlook, hentry, Entry.outlook]

theorem outlook_push (registry : Registry) (decl : ClassDecl) (origin : Origin) (id : ClassId) :
    (registry.push decl origin).1.outlook id = registry.outlook id := by
  rw [outlook, entry?_push]
  by_cases hid : id = ⟨registry.size⟩
  · -- The new entry has nothing ahead, as its number had before.
    rw [if_pos hid, hid, outlook, entry?_size]
    rfl
  · rw [if_neg hid]
    rfl

theorem outlook_modifyEntry (registry : Registry) (id other : ClassId) {change : Entry → Entry}
    (hkeep : ∀ entry, (change entry).outlook = entry.outlook) :
    (registry.modifyEntry id change).outlook other = registry.outlook other := by
  rw [outlook, entry?_modifyEntry, Option.map_map]
  have hsame : (Entry.outlook ∘ fun entry => if other = id then change entry else entry) =
      Entry.outlook := by
    funext entry
    by_cases hother : other = id
    · simp [hother, hkeep]
    · simp [hother]
  rw [hsame]
  rfl

theorem outlook_modifyEntry_of_ne (registry : Registry) {id other : ClassId} (hne : other ≠ id)
    (change : Entry → Entry) :
    (registry.modifyEntry id change).outlook other = registry.outlook other := by
  rw [outlook, entry?_modifyEntry]
  simp [hne, outlook]

theorem outlook_settle_of_ne (registry : Registry) (name : String) {placeholder id : ClassId}
    (hne : id ≠ placeholder) (target : ClassId) :
    (registry.settle name placeholder target).outlook id = registry.outlook id := by
  rw [outlook, entry?_settle]
  simp [hne, outlook]

theorem outlook_settle {placeholder : ClassId} {entry : Entry}
    (hentry : registry.entry? placeholder = some entry) (name : String) (target : ClassId) :
    (registry.settle name placeholder target).outlook placeholder = ⟨some target, []⟩ := by
  rw [outlook, entry?_settle, hentry, Option.map_some, if_pos rfl]
  rfl

theorem outlook_checked (registry : Registry) (verifier : Verifier) (id other : ClassId) :
    (verifier.checked registry id).outlook other = registry.outlook other := by
  obtain ⟨decl, hchecked, -⟩ := verifier.exists_checked_eq_setDecl registry id
  rw [hchecked]
  exact registry.outlook_modifyEntry id other fun _ => rfl

/-! ## One call -/

/-- The registry in the moment when a call redirects: a declaration is listed already. -/
def onset (registry : Registry) : Call → Registry
  | .declare decl unit => registry.registered decl unit
  | _ => registry

/-- The registry with nobody waiting for the placeholder any more. -/
def quiet (registry : Registry) (placeholder : ClassId) : Registry :=
  registry.modifyEntry placeholder fun entry => { entry with listeners := [] }

/-- A call that redirects a placeholder: because it is asked to, or because the class that was
waited for comes in. -/
inductive Settles (registry : Registry) (placeholder target : ClassId) : Call → Prop
  | asked : Settles registry placeholder target (.redirect placeholder target)
  | declared {decl : ClassDecl} {unit : String} :
      registry.pending.get? decl.name = some placeholder → target = ⟨registry.size⟩ →
      Settles registry placeholder target (.declare decl unit)

/-- What a call can do to the outlook of an entry, and what is told of it then. -/
inductive Effect (registry : Registry) (id : ClassId) (call : Call) : Prop
  | aside :
      (registry.apply call).outlook id = registry.outlook id →
      (∀ event ∈ registry.told call, event.placeholder ≠ id) →
      accepted id registry call = [] → Effect registry id call
  | heard (listener : String) :
      (registry.outlook id).leads = none →
      (registry.apply call).outlook id = ⟨none, (registry.outlook id).listeners ++ [listener]⟩ →
      registry.told call = [] →
      accepted id registry call = [listener] → Effect registry id call
  | settled (target : ClassId) :
      (registry.outlook id).leads = none →
      (registry.apply call).outlook id = ⟨some target, []⟩ →
      registry.Settles id target call →
      registry.told call = (registry.outlook id).listeners.map (fun listener =>
        ⟨listener, id, target, (registry.onset call).quiet id⟩) →
      accepted id registry call = [] → Effect registry id call

theorem effect_listen (registry : Registry) (id placeholder : ClassId) (listener : String) :
    registry.Effect id (.listen placeholder listener) := by
  cases hopen : registry.openPlaceholder placeholder with
  | error refusal =>
      have hrefused : registry.listen placeholder listener = .error refusal := by
        simp only [listen, hopen, bind, Except.bind]
      refine .aside ?_ (List.forall_mem_nil _) ?_
      · simp only [apply, hrefused]
      · simp only [accepted, hrefused]
  | ok entry =>
      obtain ⟨hentry, -, hredirect⟩ := openPlaceholder_eq_ok.mp hopen
      have hlisten : registry.listen placeholder listener =
          .ok (registry.modifyEntry placeholder fun entry =>
            { entry with listeners := entry.listeners ++ [listener] }) := by
        simp only [listen, hopen, bind, Except.bind, pure, Except.pure]
      by_cases hid : id = placeholder
      · subst hid
        have hbefore : registry.outlook id = ⟨none, entry.listeners⟩ :=
          outlook_of_open hentry hredirect
        refine .heard listener (by rw [hbefore]) ?_ rfl ?_
        · have hafter : Registry.entry? (registry.modifyEntry id fun entry =>
              { entry with listeners := entry.listeners ++ [listener] }) id =
                some { entry with listeners := entry.listeners ++ [listener] } := by
            rw [entry?_modifyEntry, hentry, Option.map_some, if_pos rfl]
          simp only [apply, hlisten]
          rw [hbefore]
          exact outlook_of_open hafter hredirect
        · simp only [accepted, hlisten, if_true]
      · refine .aside ?_ (List.forall_mem_nil _) ?_
        · simp only [apply, hlisten]
          exact registry.outlook_modifyEntry_of_ne hid _
        · have hother : ¬ placeholder = id := fun hsame => hid hsame.symm
          simp only [accepted, hlisten, if_neg hother]

theorem effect_redirect (registry : Registry) (id placeholder target : ClassId) :
    registry.Effect id (.redirect placeholder target) := by
  cases hredirect : registry.redirect placeholder target with
  | error refusal =>
      refine .aside ?_ ?_ rfl
      · simp only [apply, hredirect]
      · simp only [told, hredirect]
        exact List.forall_mem_nil _
  | ok result =>
      obtain ⟨-, -, entry, hopen, rfl⟩ := redirect_eq_ok.mp hredirect
      obtain ⟨hentry, -, hleads⟩ := openPlaceholder_eq_ok.mp hopen
      by_cases hid : id = placeholder
      · subst hid
        have hbefore : registry.outlook id = ⟨none, entry.listeners⟩ :=
          outlook_of_open hentry hleads
        refine .settled target (by rw [hbefore]) ?_ .asked ?_ rfl
        · simp only [apply, hredirect]
          exact outlook_settle hentry _ _
        · simp only [told, hredirect, hbefore]
          rfl
      · refine .aside ?_ ?_ rfl
        · simp only [apply, hredirect]
          exact registry.outlook_settle_of_ne _ hid target
        · simp only [told, hredirect]
          intro event hevent
          obtain ⟨listener, -, rfl⟩ := List.mem_map.mp hevent
          exact fun hsame => hid hsame.symm

theorem effect_declare (hconsistent : registry.Consistent) (id : ClassId) (decl : ClassDecl)
    (unit : String) : registry.Effect id (.declare decl unit) := by
  have hregistered : (registry.registered decl unit).outlook id = registry.outlook id :=
    registry.outlook_push decl (.declared unit) id
  cases hpending : registry.pending.get? decl.name with
  | none =>
      have hdeclare : registry.declare decl unit =
          (registry.registered decl unit, ⟨registry.size⟩, []) := by
        simp only [declare_eq, pending_registered, hpending]
      refine .aside ?_ ?_ rfl
      · simp only [apply, hdeclare, hregistered]
      · simp only [told, hdeclare]
        exact List.forall_mem_nil _
  | some placeholder =>
      obtain ⟨events, hok⟩ := hconsistent.redirect_registered hpending unit
      obtain ⟨-, -, entry, hopen, hresult⟩ := redirect_eq_ok.mp hok
      obtain ⟨hentry, -, hleads⟩ := openPlaceholder_eq_ok.mp hopen
      obtain rfl := congrArg Prod.snd hresult
      have hdeclare : registry.declare decl unit =
          ((registry.registered decl unit).settle decl.name placeholder ⟨registry.size⟩,
            ⟨registry.size⟩, entry.listeners.map fun listener => ⟨listener, placeholder,
              ⟨registry.size⟩, (registry.registered decl unit).quiet placeholder⟩) := by
        simp only [declare_eq, pending_registered, hpending, hok]
        rfl
      by_cases hid : id = placeholder
      · subst hid
        have hbefore : registry.outlook id = ⟨none, entry.listeners⟩ := by
          rw [← hregistered, outlook_of_open hentry hleads]
        refine .settled ⟨registry.size⟩ (by rw [hbefore]) ?_ (.declared hpending rfl) ?_ rfl
        · simp only [apply, hdeclare]
          exact outlook_settle hentry _ _
        · simp only [told, hdeclare, hbefore]
          rfl
      · refine .aside ?_ ?_ rfl
        · simp only [apply, hdeclare]
          rw [outlook_settle_of_ne _ _ hid, hregistered]
        · simp only [told, hdeclare]
          intro event hevent
          obtain ⟨listener, -, rfl⟩ := List.mem_map.mp hevent
          exact fun hsame => hid hsame.symm

theorem effect_apply (hconsistent : registry.Consistent) (id : ClassId) (call : Call) :
    registry.Effect id call := by
  cases call with
  | enterUnit name => exact .aside rfl (List.forall_mem_nil _) rfl
  | refer name location =>
      refine .aside ?_ (List.forall_mem_nil _) rfl
      simp only [apply, refer]
      cases registry.lookup? name with
      | some found => rfl
      | none => exact registry.outlook_push _ _ id
  | declare decl unit => exact effect_declare hconsistent id decl unit
  | addGenerated decl => exact .aside (registry.outlook_push _ _ id) (List.forall_mem_nil _) rfl
  | addExternal decl => exact .aside (registry.outlook_push _ _ id) (List.forall_mem_nil _) rfl
  | addOuterNested enclosing name =>
      refine .aside ?_ (List.forall_mem_nil _) rfl
      simp only [apply, addOuterNested]
      cases registry.class? enclosing with
      | none => rfl
      | some outer => exact registry.outlook_push _ _ id
  | listen placeholder listener => exact registry.effect_listen id placeholder listener
  | redirect placeholder target => exact registry.effect_redirect id placeholder target
  | verifyClass verifier checked =>
      exact .aside (registry.outlook_checked verifier checked id) (List.forall_mem_nil _) rfl
  | takeDiagnostics => exact .aside rfl (List.forall_mem_nil _) rfl

/-! ## Every run -/

/-- The listeners that a placeholder accepts in the course of calls, in order. -/
def audience (calls : List Call) (placeholder : ClassId) : List String :=
  collect (accepted placeholder) ∅ calls

/-- What calls that begin with an empty registry tell, in order. -/
def tidings (calls : List Call) : List RedirectEvent :=
  collect told ∅ calls

theorem audience_concat (calls : List Call) (call : Call) (placeholder : ClassId) :
    audience (calls ++ [call]) placeholder =
      audience calls placeholder ++ accepted placeholder (ran calls) call := by
  rw [audience, collect_append, collect, collect, List.append_nil]
  rfl

theorem tidings_concat (calls : List Call) (call : Call) :
    tidings (calls ++ [call]) = tidings calls ++ (ran calls).told call := by
  rw [tidings, collect_append, collect, collect, List.append_nil]
  rfl

/-- In a run, `call` redirected the placeholder to `target` and told everybody whom the placeholder
accepted; nothing is told of it before or after. -/
structure Settled (calls : List Call) (placeholder target : ClassId) (earlier : List Call)
    (call : Call) (later : List Call) : Prop where
  split : calls = earlier ++ call :: later
  open_before : (ran earlier).redirect? placeholder = none
  settles : (ran earlier).Settles placeholder target call
  leads_after : ((ran earlier).apply call).redirect? placeholder = some target
  told_here : (ran earlier).told call = (audience calls placeholder).map fun listener =>
    ⟨listener, placeholder, target, ((ran earlier).onset call).quiet placeholder⟩
  silent_before : ∀ event ∈ tidings earlier, event.placeholder ≠ placeholder
  silent_after : ∀ event ∈ collect told ((ran earlier).apply call) later,
    event.placeholder ≠ placeholder

/-- A further call that tells nothing of the placeholder comes under what is later. -/
theorem Settled.concat {calls earlier later : List Call} {placeholder target : ClassId}
    {settling : Call} (hsettled : Settled calls placeholder target earlier settling later)
    {call : Call} (hsilent : ∀ event ∈ (ran calls).told call, event.placeholder ≠ placeholder)
    (hnone : accepted placeholder (ran calls) call = []) :
    Settled (calls ++ [call]) placeholder target earlier settling (later ++ [call]) where
  split := by rw [hsettled.split, List.append_assoc, List.cons_append]
  open_before := hsettled.open_before
  settles := hsettled.settles
  leads_after := hsettled.leads_after
  told_here := by
    rw [hsettled.told_here, audience_concat, hnone, List.append_nil]
  silent_before := hsettled.silent_before
  silent_after := by
    have hran : later.foldl apply ((ran earlier).apply settling) = ran calls := by
      rw [hsettled.split, ran, ran, List.foldl_append]
      rfl
    rw [collect_append, hran, collect, collect, List.append_nil]
    intro event hevent
    rcases List.mem_append.mp hevent with hevent | hevent
    · exact hsettled.silent_after event hevent
    · exact hsilent event hevent

/-- How a run stands with a placeholder. -/
inductive Account (calls : List Call) (id : ClassId) : Prop
  | waiting :
      (ran calls).outlook id = ⟨none, audience calls id⟩ →
      (∀ event ∈ tidings calls, event.placeholder ≠ id) → Account calls id
  | settled (target : ClassId) (earlier : List Call) (call : Call) (later : List Call) :
      (ran calls).redirect? id = some target →
      Settled calls id target earlier call later → Account calls id

theorem Account.concat {calls : List Call} {id : ClassId} (haccount : Account calls id)
    (call : Call) : Account (calls ++ [call]) id := by
  have heffect := effect_apply (consistent_ran calls) id call
  cases haccount with
  | waiting houtlook htidings =>
      cases heffect with
      | aside hsame hsilent hnone =>
          refine .waiting ?_ ?_
          · rw [ran_concat, hsame, houtlook, audience_concat, hnone, List.append_nil]
          · rw [tidings_concat]
            exact List.forall_mem_append.mpr ⟨htidings, hsilent⟩
      | heard listener _ hafter htold haccepted =>
          refine .waiting ?_ ?_
          · rw [ran_concat, hafter, houtlook, audience_concat, haccepted]
          · rw [tidings_concat, htold, List.append_nil]
            exact htidings
      | settled target hleads hafter hsettles htold hnone =>
          have hredirect : ((ran calls).apply call).redirect? id = some target := by
            rw [redirect?_eq_leads, hafter]
          refine .settled target calls call [] (by rw [ran_concat, hredirect]) ?_
          exact {
            split := rfl
            open_before := by rw [redirect?_eq_leads, hleads]
            settles := hsettles
            leads_after := hredirect
            told_here := by
              rw [htold, houtlook, audience_concat, hnone, List.append_nil]
            silent_before := htidings
            silent_after := List.forall_mem_nil _ }
  | settled target earlier settling later hredirect hsettled =>
      -- The placeholder leads somewhere, so it is neither listened to nor redirected again.
      have hleads : ((ran calls).outlook id).leads = some target := by
        rw [← redirect?_eq_leads, hredirect]
      cases heffect with
      | aside hsame hsilent hnone =>
          refine .settled target earlier settling (later ++ [call]) ?_
            (hsettled.concat hsilent hnone)
          rw [ran_concat, redirect?_eq_leads, hsame, hleads]
      | heard _ hopen => cases hleads.symm.trans hopen
      | settled _ hopen => cases hleads.symm.trans hopen

theorem account_ran (calls : List Call) (id : ClassId) : Account calls id := by
  -- The last call comes on top of a run that is accounted for.
  induction calls using List.reverseRecOn with
  | nil => exact .waiting rfl (List.forall_mem_nil _)
  | append_singleton calls call ih => exact ih.concat call

/-- What a listener sees is the registry of that moment: the placeholder leads nowhere yet, every
name that waits still waits, and a declaration that brought the redirect about is known. -/
theorem Settles.seen {placeholder target : ClassId} {call : Call}
    (hsettles : registry.Settles placeholder target call)
    (hopen : registry.redirect? placeholder = none) :
    let seen := (registry.onset call).quiet placeholder
    seen.redirect? placeholder = none ∧ seen.pending = registry.pending ∧
      seen.toResolve = registry.toResolve ∧
      ∀ decl unit, call = .declare decl unit →
        seen.known.get? decl.name = some target ∧ seen.class? target = some decl := by
  have hquiet : ∀ before : Registry, before.redirect? placeholder = none →
      (before.quiet placeholder).redirect? placeholder = none := by
    intro before hbefore
    rw [redirect?, quiet, entry?_modifyEntry]
    cases hentry : before.entry? placeholder with
    | none => rfl
    | some entry => simpa [redirect?, hentry] using hbefore
  cases hsettles with
  | asked =>
      refine ⟨hquiet registry hopen, rfl, rfl, ?_⟩
      intro decl unit hcall
      cases hcall
  | @declared decl unit hpending htarget =>
      subst htarget
      have hregistered : (registry.registered decl unit).redirect? placeholder = none := by
        rw [redirect?_eq_leads] at hopen ⊢
        rw [← hopen]
        exact congrArg Outlook.leads (registry.outlook_push decl (.declared unit) placeholder)
      refine ⟨hquiet _ hregistered, rfl, rfl, ?_⟩
      rintro other unit' hcall
      cases hcall
      have hnew : entry? (registry.registered decl unit) ⟨registry.size⟩ =
          some (.new decl (.declared unit)) :=
        entry?_push_eq_some.mpr (.inr ⟨rfl, rfl⟩)
      refine ⟨(NameMap.get?_insert ..).trans (if_pos rfl), ?_⟩
      show (Registry.entry? ((registry.registered decl unit).quiet placeholder) _).map _ = _
      rw [quiet, entry?_modifyEntry, hnew, Option.map_some, Option.map_some]
      split <;> rfl

/-- **Listeners are told once, in order, before the redirect.**  Of a placeholder that leads nowhere
nothing is told.  If it leads to `target`, then one call redirected it there, and that call tells
all listeners the placeholder ever accepted, one after another in the order of their acceptance;
nothing is told of it before or after.  Each of them sees the registry of that moment, with nobody
waiting for the placeholder any more. -/
theorem listeners_told_once (operations : List Operation) (placeholder : ClassId) :
    ((after operations).redirect? placeholder = none →
      ∀ event ∈ (∅ : Registry).announced operations, event.placeholder ≠ placeholder) ∧
    ∀ target, (after operations).redirect? placeholder = some target →
      ∃ earlier call later,
        Settled (operations.flatMap Operation.calls) placeholder target earlier call later ∧
        (∅ : Registry).announced operations =
          tidings earlier ++ (ran earlier).told call ++
            collect told ((ran earlier).apply call) later ∧
        let seen := ((ran earlier).onset call).quiet placeholder
        seen.redirect? placeholder = none ∧ seen.pending = (ran earlier).pending ∧
          seen.toResolve = (ran earlier).toResolve ∧
          ∀ decl unit, call = .declare decl unit →
            seen.known.get? decl.name = some target ∧ seen.class? target = some decl := by
  have hafter : after operations = ran (operations.flatMap Operation.calls) := by
    rw [after, foldl_perform]
    rfl
  rw [hafter, announced_eq]
  cases account_ran (operations.flatMap Operation.calls) placeholder with
  | waiting houtlook htidings =>
      refine ⟨fun _ => htidings, fun target hredirect => ?_⟩
      rw [redirect?_eq_leads, houtlook] at hredirect
      cases hredirect
  | settled target earlier call later hredirect hsettled =>
      constructor
      · intro hnone
        cases hredirect.symm.trans hnone
      · intro found hfound
        cases hredirect.symm.trans hfound
        refine ⟨earlier, call, later, hsettled, ?_,
          hsettled.settles.seen hsettled.open_before⟩
        rw [hsettled.split, collect_append, collect, List.append_assoc]
        rfl

end Registry

/-! ## Two names that are waited for -/

namespace Canvas

/-- `Shape` and `Brush` are used and listened to, and a unit brings in `Shape`. -/
def awaited : List Operation :=
  [.change (.refer "Shape" ⟨"canvas", .nowhere⟩), .change (.refer "Brush" ⟨"canvas", .nowhere⟩),
    .change (.listen ⟨0⟩ "painter"), .change (.listen ⟨1⟩ "painter"),
    .change (.listen ⟨0⟩ "printer"),
    .addUnit { name := "shapes", tree := some ⟨[shape], []⟩ }]

/-- The two listeners of `Shape` are told, and the one of `Brush` is not. -/
theorem announced_awaited :
    (Registry.after awaited).redirect? ⟨0⟩ = some ⟨2⟩ ∧
      (Registry.after awaited).redirect? ⟨1⟩ = none ∧
      ((∅ : Registry).announced awaited).map (·.listener) = ["painter", "printer"] ∧
      (∃ earlier call later,
        Registry.Settled (awaited.flatMap Operation.calls) ⟨0⟩ ⟨2⟩ earlier call later) ∧
      ∀ event ∈ (∅ : Registry).announced awaited, event.placeholder ≠ ⟨1⟩ := by
  have hshape : (Registry.after awaited).redirect? ⟨0⟩ = some ⟨2⟩ := by decide
  have hbrush : (Registry.after awaited).redirect? ⟨1⟩ = none := by decide
  obtain ⟨-, htold⟩ := Registry.listeners_told_once awaited ⟨0⟩
  obtain ⟨hsilent, -⟩ := Registry.listeners_told_once awaited ⟨1⟩
  obtain ⟨earlier, call, later, hsettled, -⟩ := htold ⟨2⟩ hshape
  exact ⟨hshape, hbrush, by decide, ⟨earlier, call, later, hsettled⟩, hsilent hbrush⟩

end Canvas

end DeclCheck
