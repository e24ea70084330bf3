/-
# DeclCheck.Proofs.Registry.Names — what a name stands for is a matter of history.

The *roster* of a registry is what it never takes back: who every entry is, which class each name
was last declared or provided as, and where a name was first used.  One equation says what a call
does to it.  Beside a history runs its *log*, with an event for every declaration, every compiled
class and every use of a name, inside source units too.  The roster is at all times what the log
says it is, and so are the answers to questions about names.
-/
import DeclCheck.Proofs.NameMap
import DeclCheck.Proofs.Registry.Consistency

namespace DeclCheck

/-! ## The roster -/

/-- Who an entry is: what stays when it is redirected, listened to or checked. -/
structure Identity where
  name : String
  kind : ClassKind
  origin : Origin
  annotationType : Option AnnotationType

/-- The identity of an entry, which no check can change. -/
def Entry.identity (entry : Entry) : Identity where
  name := entry.name
  kind := entry.decl.kind
  origin := entry.origin
  annotationType := entry.annotationType

/-- What questions about names are answered from: the identities by number, and the maps of declared
names, compiled names and first uses. -/
@[ext]
structure Roster where
  size : Nat
  identity? : ClassId → Option Identity
  known : NameMap ClassId
  external : NameMap ClassId
  sightings : NameMap Location

/-- The roster with a new entry. -/
def Roster.add (roster : Roster) (decl : ClassDecl) (origin : Origin) : Roster :=
  { roster with
    size := roster.size + 1
    identity? := fun id =>
      if id = ⟨roster.size⟩ then some (Entry.new decl origin).identity else roster.identity? id }

namespace Registry

/-- The roster of a registry. -/
def roster (registry : Registry) : Roster where
  size := registry.size
  identity? id := (registry.entry? id).map Entry.identity
  known := registry.known
  external := registry.external
  sightings := registry.sightings

/-- The roster after a call. -/
def enrolled (registry : Registry) : Call → Roster
  | .refer name location =>
    match registry.lookup? name with
    | some _ => registry.roster
    | none => { registry.roster.add { name } (.pending location) with
        sightings := registry.sightings.insertIfNew name location }
  | .declare decl unit => { registry.roster.add decl (.declared unit) with
      known := registry.known.insert decl.name ⟨registry.size⟩ }
  | .addGenerated decl => registry.roster.add decl .generated
  | .addExternal decl => { registry.roster.add decl .external with
      external := registry.external.insert decl.name ⟨registry.size⟩ }
  | .addOuterNested enclosing name =>
    match registry.class? enclosing with
    | some outer =>
      registry.roster.add { name, enclosing := some outer.name } (.outerNested enclosing)
    | none => registry.roster
  | _ => registry.roster

theorem roster_push (registry : Registry) (decl : ClassDecl) (origin : Origin) :
    (registry.push decl origin).1.roster = registry.roster.add decl origin := by
  have hsize : (registry.push decl origin).1.size = registry.size + 1 := by simp [push, size]
  have hidentity : (registry.push decl origin).1.roster.identity? =
      (registry.roster.add decl origin).identity? := by
    funext id
    by_cases hid : id = ⟨registry.size⟩
    · simp [Roster.add, roster, entry?_push, hid]
    · simp [Roster.add, roster, entry?_push, hid]
  exact Roster.ext hsize hidentity rfl rfl rfl

theorem roster_modifyEntry (registry : Registry) (id : ClassId) {change : Entry → Entry}
    (hkeep : ∀ entry, (change entry).identity = entry.identity) :
    (registry.modifyEntry id change).roster = registry.roster := by
  have hsize : (registry.modifyEntry id change).size = registry.size := by simp [modifyEntry, size]
  have hidentity : (fun other => (Registry.entry? (registry.modifyEntry id change) other).map
      Entry.identity) = registry.roster.identity? := by
    funext other
    rw [entry?_modifyEntry, Option.map_map]
    refine congrArg (Option.map · (registry.entry? other)) (funext fun entry => ?_)
    by_cases hother : other = id
    · simp [hother, hkeep]
    · simp [hother]
  exact Roster.ext hsize hidentity rfl rfl rfl

theorem roster_settle (registry : Registry) (name : String) (placeholder target : ClassId) :
    (registry.settle name placeholder target).roster = registry.roster := by
  let quiet := registry.modifyEntry placeholder fun entry => { entry with listeners := [] }
  calc (registry.settle name placeholder target).roster
      = (quiet.modifyEntry placeholder fun entry =>
          { entry with redirect := some target }).roster := rfl
    _ = quiet.roster := quiet.roster_modifyEntry placeholder fun _ => rfl
    _ = registry.roster := registry.roster_modifyEntry placeholder fun _ => rfl

theorem roster_bare (registry : Registry) : registry.bare.roster = registry.roster := by
  have hsize : registry.bare.size = registry.size := by simp [bare, size]
  have hidentity : (fun id => (registry.bare.entry? id).map Entry.identity) =
      registry.roster.identity? := by
    funext id
    rw [entry?_bare, Option.map_map]
    rfl
  exact Roster.ext hsize hidentity rfl rfl rfl

theorem roster_checked (registry : Registry) (verifier : Verifier) (id : ClassId) :
    (verifier.checked registry id).roster = registry.roster := by
  obtain ⟨decl, hchecked, hbare⟩ := verifier.exists_checked_eq_setDecl registry id
  rw [hchecked, ← roster_bare, hbare, roster_bare]

theorem roster_declare (registry : Registry) (decl : ClassDecl) (unit : String) :
    (registry.declare decl unit).1.roster = registry.enrolled (.declare decl unit) := by
  have hregistered : (registry.registered decl unit).roster =
      registry.enrolled (.declare decl unit) := by
    rw [enrolled, ← roster_push]
    rfl
  rw [declare_eq]
  cases (registry.registered decl unit).pending.get? decl.name with
  | none => exact hregistered
  | some placeholder =>
      cases hredirect : (registry.registered decl unit).redirect placeholder ⟨registry.size⟩ with
      | error refusal => simpa only [hredirect] using hregistered
      | ok result =>
          obtain ⟨-, -, entry, -, rfl⟩ := redirect_eq_ok.mp hredirect
          simpa only [hredirect, roster_settle] using hregistered

/-- What a call does to the roster. -/
theorem roster_apply (registry : Registry) (call : Call) :
    (registry.apply call).roster = registry.enrolled call := by
  cases call with
  | enterUnit name => rfl
  | refer name location =>
      simp only [apply, refer, enrolled]
      cases registry.lookup? name with
      | some id => rfl
      | none =>
          rw [← roster_push]
          rfl
  | declare decl unit => exact registry.roster_declare decl unit
  | addGenerated decl => exact registry.roster_push decl .generated
  | addExternal decl =>
      rw [enrolled, ← roster_push]
      rfl
  | addOuterNested enclosing name =>
      simp only [apply, addOuterNested, enrolled]
      cases registry.class? enclosing with
      | none => rfl
      | some outer => exact registry.roster_push _ _
  | listen placeholder listener =>
      simp only [apply, listen, enrolled]
      cases registry.openPlaceholder placeholder with
      | error refusal => rfl
      | ok entry => exact registry.roster_modifyEntry placeholder fun _ => rfl
  | redirect placeholder target =>
      simp only [apply, enrolled]
      cases hredirect : registry.redirect placeholder target with
      | error refusal => rfl
      | ok result =>
          obtain ⟨-, -, entry, -, rfl⟩ := redirect_eq_ok.mp hredirect
          exact registry.roster_settle _ _ _
  | verifyClass verifier id => exact registry.roster_checked verifier id
  | takeDiagnostics => rfl

end Registry

/-! ## The log -/

/-- How a class comes in under its name. -/
inductive Provenance where
  | declared
  | external
deriving DecidableEq

/-- What is told of a name, and the number that was given for it. -/
inductive Event where
  | entered (provenance : Provenance) (decl : ClassDecl) (id : ClassId)
  /-- A use of a name; `made` if a placeholder was made for it. -/
  | referred (name : String) (location : Location) (id : ClassId) (made : Bool)

namespace Event

/-- The class that comes in, with its number. -/
def entered? (provenance : Provenance) : Event → Option (ClassId × ClassDecl)
  | .entered other decl id => if other = provenance then some (id, decl) else none
  | .referred _ _ _ _ => none

/-- Whether the name is used or declared. -/
def mentions (name : String) : Event → Bool
  | .entered provenance decl _ => provenance = .declared && decl.name = name
  | .referred used _ _ _ => used = name

/-- Where a name is used. -/
def location? : Event → Option Location
  | .entered _ _ _ => none
  | .referred _ location _ _ => some location

end Event

namespace Registry

/-- What a call tells. -/
def events (registry : Registry) : Call → List Event
  | .refer name location =>
    let id := (registry.refer name location).2
    [.referred name location id (registry.entry? id).isNone]
  | .declare decl unit => [.entered .declared decl (registry.declare decl unit).2.1]
  | .addExternal decl => [.entered .external decl (registry.addExternal decl).2]
  | _ => []

/-- What calls tell, one after another. -/
def log (registry : Registry) (calls : List Call) : List Event :=
  registry.collect events calls

theorem log_cons (registry : Registry) (call : Call) (rest : List Call) :
    registry.log (call :: rest) = registry.events call ++ (registry.apply call).log rest := rfl

end Registry

/-- What is told by operations that begin with an empty registry. -/
def history (operations : List Operation) : List Event :=
  (∅ : Registry).log (operations.flatMap Operation.calls)

/-- The last class that came in under a name. -/
def lastEntered? (provenance : Provenance) (log : List Event) (name : String) :
    Option (ClassId × ClassDecl) :=
  lastNamed? (·.2.name) (log.filterMap (Event.entered? provenance)) name

/-- The class that a name stands for: the last one declared, or else the last one compiled. -/
def selected? (log : List Event) (name : String) : Option (ClassId × ClassDecl) :=
  (lastEntered? .declared log name).or (lastEntered? .external log name)

/-- Where a name was first mentioned, unless that was its declaration. -/
def firstUse? (log : List Event) (name : String) : Option Location :=
  (log.find? (Event.mentions name)).bind Event.location?

theorem lastEntered?_concat (provenance : Provenance) (log : List Event) (decl : ClassDecl)
    (id : ClassId) (name : String) :
    lastEntered? provenance (log ++ [.entered provenance decl id]) name =
      if decl.name = name then some (id, decl) else lastEntered? provenance log name := by
  rw [lastEntered?, List.filterMap_append]
  simp only [Event.entered?, List.filterMap_cons, List.filterMap_nil, if_true]
  exact lastNamed?_concat (id, decl)

/-- What brings in no class this way leaves the last one as it was. -/
theorem lastEntered?_concat_of_none {provenance : Provenance} (log : List Event) {event : Event}
    (hnone : event.entered? provenance = none) (name : String) :
    lastEntered? provenance (log ++ [event]) name = lastEntered? provenance log name := by
  rw [lastEntered?, List.filterMap_append, List.filterMap_cons, hnone, List.filterMap_nil,
    List.append_nil, lastEntered?]

/-- Listing the class that comes in keeps a map of the last ones. -/
theorem get?_insert_eq_lastEntered? {provenance : Provenance} {log : List Event}
    {map : NameMap ClassId}
    (hmap : ∀ name, map.get? name = (lastEntered? provenance log name).map Prod.fst)
    (decl : ClassDecl) (id : ClassId) (name : String) :
    (map.insert decl.name id).get? name =
      (lastEntered? provenance (log ++ [.entered provenance decl id]) name).map Prod.fst := by
  rw [NameMap.get?_insert, lastEntered?_concat, hmap]
  by_cases hname : decl.name = name
  · simp [hname]
  · have hother : ¬ name = decl.name := fun hsame => hname hsame.symm
    simp [hname, hother]

theorem of_lastEntered?_eq_some {provenance : Provenance} {log : List Event} {name : String}
    {chosen : ClassId × ClassDecl} (hlast : lastEntered? provenance log name = some chosen) :
    chosen.2.name = name ∧ .entered provenance chosen.2 chosen.1 ∈ log := by
  obtain ⟨hchosen, hname⟩ := of_lastNamed?_eq_some hlast
  obtain ⟨event, hmem, hevent⟩ := List.mem_filterMap.mp hchosen
  cases event with
  | entered other decl id =>
      rw [Event.entered?, Option.ite_none_right_eq_some] at hevent
      obtain ⟨rfl, hsame⟩ := hevent
      cases hsame
      exact ⟨hname, hmem⟩
  | referred used location id made => cases hevent

theorem exists_entered_of_selected? {log : List Event} {name : String}
    {chosen : ClassId × ClassDecl} (hselected : selected? log name = some chosen) :
    ∃ provenance, .entered provenance chosen.2 chosen.1 ∈ log := by
  rcases Option.or_eq_some_iff.mp hselected with hlast | ⟨-, hlast⟩
  · exact ⟨_, (of_lastEntered?_eq_some hlast).2⟩
  · exact ⟨_, (of_lastEntered?_eq_some hlast).2⟩

/-- An event that is no use of a name leaves its first use as it was. -/
theorem firstUse?_concat (log : List Event) {event : Event} {name : String}
    (hnone : event.mentions name → event.location? = none) :
    firstUse? (log ++ [event]) name = firstUse? log name := by
  rw [firstUse?, List.find?_append, firstUse?]
  cases log.find? (Event.mentions name) with
  | some first => rfl
  | none =>
      by_cases hmentions : event.mentions name
      · simp [hmentions, hnone hmentions]
      · simp [hmentions]

/-- Once a name is mentioned, its first use is settled. -/
theorem firstUse?_append_of_mem (log later : List Event) {event : Event} {name : String}
    (hmem : event ∈ log) (hmentions : event.mentions name) :
    firstUse? (log ++ later) name = firstUse? log name := by
  have hfound : (log.find? (Event.mentions name)).isSome :=
    List.find?_isSome.mpr ⟨event, hmem, hmentions⟩
  rw [firstUse?, List.find?_append, firstUse?, Option.or_of_isSome hfound]

/-- A name without a declaration in the log is mentioned by its uses only. -/
theorem exists_eq_referred {log : List Event} {event : Event} {name : String}
    (hnone : lastEntered? .declared log name = none) (hmem : event ∈ log)
    (hmentions : event.mentions name) :
    ∃ location id made, event = .referred name location id made := by
  cases event with
  | entered provenance decl id =>
      simp only [Event.mentions, Bool.and_eq_true, decide_eq_true_eq] at hmentions
      have hentered : (id, decl) ∈ log.filterMap (Event.entered? .declared) :=
        List.mem_filterMap.mpr ⟨_, hmem, if_pos hmentions.1⟩
      exact absurd (List.mem_map.mpr ⟨_, hentered, hmentions.2⟩) (lastNamed?_eq_none.mp hnone)
  | referred used location id made =>
      rw [← of_decide_eq_true hmentions]
      exact ⟨location, id, made, rfl⟩

/-! ## The roster is what the log says -/

/-- What is kept of a class as an annotation type when it is registered. -/
def AnnotationType.ofDecl? (decl : ClassDecl) : Option AnnotationType :=
  if decl.isAnnotationType then some (.ofDecl decl) else none

/-- The roster says what the log says: which class came in last under each name, for which uses
placeholders were made, what was kept of annotation definitions, and where names were first used. -/
structure Roster.Records (roster : Roster) (log : List Event) : Prop where
  known : ∀ name, roster.known.get? name = (lastEntered? .declared log name).map Prod.fst
  external : ∀ name, roster.external.get? name = (lastEntered? .external log name).map Prod.fst
  made : ∀ name location id, .referred name location id true ∈ log ↔
    ∃ identity, roster.identity? id = some identity ∧
      identity.name = name ∧ identity.origin = .pending location
  annotationType : ∀ provenance decl id, .entered provenance decl id ∈ log →
    ∃ identity, roster.identity? id = some identity ∧
      identity.annotationType = AnnotationType.ofDecl? decl
  sightings : ∀ name, roster.sightings.get? name = firstUse? log name

theorem NameMap.get?_insertIfNew {α : Type u} (map : NameMap α) (name other : String) (value : α) :
    (map.insertIfNew name value).get? other =
      if other = name then (map.get? name).or (some value) else map.get? other := by
  unfold insertIfNew
  cases hget : map.get? name with
  | none => simp [get?_insert]
  | some old =>
      by_cases hname : other = name
      · simp [hname, hget]
      · simp [hname]

namespace Registry

variable {registry : Registry} {log : List Event}

theorem identity?_add {decl : ClassDecl} {origin : Origin} {id : ClassId} {identity : Identity} :
    (registry.roster.add decl origin).identity? id = some identity ↔
      registry.roster.identity? id = some identity ∨
        id = ⟨registry.size⟩ ∧ identity = (Entry.new decl origin).identity := by
  by_cases hid : id = ⟨registry.size⟩
  · simp [Roster.add, roster, hid, entry?_size, eq_comm]
  · simp [Roster.add, roster, hid]

/-- A new entry that no event tells of is no placeholder of a pending name. -/
theorem records_add (hrecords : registry.roster.Records log) (decl : ClassDecl) {origin : Origin}
    (hplain : ∀ location, origin ≠ .pending location) :
    (registry.roster.add decl origin).Records log where
  known := hrecords.known
  external := hrecords.external
  made name location id := by
    rw [hrecords.made]
    constructor
    · rintro ⟨identity, hidentity, hname, horigin⟩
      exact ⟨identity, identity?_add.mpr (.inl hidentity), hname, horigin⟩
    · rintro ⟨identity, hidentity, hname, horigin⟩
      rcases identity?_add.mp hidentity with hold | ⟨-, rfl⟩
      · exact ⟨identity, hold, hname, horigin⟩
      · exact absurd horigin (hplain location)
  annotationType provenance other id hevent := by
    obtain ⟨identity, hidentity, htype⟩ := hrecords.annotationType provenance other id hevent
    exact ⟨identity, identity?_add.mpr (.inl hidentity), htype⟩
  sightings := hrecords.sightings

/-- A class that comes in, with its name listed in either map as the log will say. -/
theorem records_entered (hrecords : registry.roster.Records log) (provenance : Provenance)
    (decl : ClassDecl) (origin : Origin) (hplain : origin.isPlaceholder = false)
    {known external : NameMap ClassId}
    (hknown : ∀ name, known.get? name = (lastEntered? .declared
      (log ++ [.entered provenance decl ⟨registry.size⟩]) name).map Prod.fst)
    (hexternal : ∀ name, external.get? name = (lastEntered? .external
      (log ++ [.entered provenance decl ⟨registry.size⟩]) name).map Prod.fst) :
    Roster.Records { registry.roster.add decl origin with known, external }
      (log ++ [.entered provenance decl ⟨registry.size⟩]) := by
  have hadd : (registry.roster.add decl origin).Records log :=
    records_add hrecords decl (by rintro location rfl; cases hplain)
  exact {
    known := hknown
    external := hexternal
    made := by
      intro name location id
      simpa using hadd.made name location id
    annotationType := by
      intro other declOther id hmem
      rcases List.mem_append.mp hmem with hold | hnew
      · exact hadd.annotationType other declOther id hold
      · cases List.mem_singleton.mp hnew
        refine ⟨_, identity?_add.mpr (.inr ⟨rfl, rfl⟩), ?_⟩
        simp [Entry.new, Entry.identity, AnnotationType.ofDecl?, hplain]
    sightings := by
      intro name
      rw [firstUse?_concat log fun _ => rfl]
      exact hrecords.sightings name }

theorem records_declare (hrecords : registry.roster.Records log) (decl : ClassDecl)
    (unit : String) :
    (registry.enrolled (.declare decl unit)).Records
      (log ++ [.entered .declared decl ⟨registry.size⟩]) := by
  refine records_entered hrecords .declared decl (.declared unit) rfl ?_ ?_
  · exact get?_insert_eq_lastEntered? hrecords.known decl ⟨registry.size⟩
  · intro name
    rw [lastEntered?_concat_of_none log rfl]
    exact hrecords.external name

theorem records_addExternal (hrecords : registry.roster.Records log) (decl : ClassDecl) :
    (registry.enrolled (.addExternal decl)).Records
      (log ++ [.entered .external decl ⟨registry.size⟩]) := by
  refine records_entered hrecords .external decl .external rfl ?_ ?_
  · intro name
    rw [lastEntered?_concat_of_none log rfl]
    exact hrecords.known name
  · exact get?_insert_eq_lastEntered? hrecords.external decl ⟨registry.size⟩

theorem identity?_of_entry? {id : ClassId} {entry : Entry}
    (hentry : registry.entry? id = some entry) :
    registry.roster.identity? id = some entry.identity := by
  show (registry.entry? id).map Entry.identity = some entry.identity
  rw [hentry]
  rfl

theorem exists_referred_of_pending (hrecords : registry.roster.Records log)
    (hconsistent : registry.Consistent) {name : String} {id : ClassId}
    (hpending : registry.pending.get? name = some id) :
    ∃ location, .referred name location id true ∈ log := by
  obtain ⟨entry, hentry, hname, hisPending, -⟩ := hconsistent.pending name id hpending
  obtain ⟨location, horigin⟩ := Origin.exists_eq_pending hisPending
  refine ⟨location, (hrecords.made name location id).mpr ?_⟩
  exact ⟨entry.identity, identity?_of_entry? hentry, hname, horigin⟩

/-- A name that can be looked up has an entry, and was declared or used before. -/
theorem exists_of_lookup? (hrecords : registry.roster.Records log)
    (hconsistent : registry.Consistent) {name : String} {id : ClassId}
    (hlookup : registry.lookup? name = some id) :
    (∃ entry, registry.entry? id = some entry) ∧ ∃ event ∈ log, event.mentions name := by
  rcases Option.or_eq_some_iff.mp hlookup with hknown | ⟨-, hpending⟩
  · obtain ⟨entry, hentry, -⟩ := hconsistent.known name id hknown
    obtain ⟨chosen, hlast, -⟩ := Option.map_eq_some_iff.mp ((hrecords.known name).symm.trans hknown)
    obtain ⟨hname, hmem⟩ := of_lastEntered?_eq_some hlast
    exact ⟨⟨entry, hentry⟩, _, hmem, by simp [Event.mentions, hname]⟩
  · obtain ⟨entry, hentry, -⟩ := hconsistent.pending name id hpending
    obtain ⟨location, hmem⟩ := exists_referred_of_pending hrecords hconsistent hpending
    exact ⟨⟨entry, hentry⟩, _, hmem, by simp [Event.mentions]⟩

/-- A use of a name that can be looked up. -/
theorem records_refer_known (hrecords : registry.roster.Records log)
    (hconsistent : registry.Consistent) {name : String} {id : ClassId}
    (hlookup : registry.lookup? name = some id) (location : Location) :
    registry.roster.Records (log ++ [.referred name location id false]) where
  known other := by
    rw [lastEntered?_concat_of_none log rfl]
    exact hrecords.known other
  external other := by
    rw [lastEntered?_concat_of_none log rfl]
    exact hrecords.external other
  made other place answer := by
    simpa using hrecords.made other place answer
  annotationType provenance decl answer hmem :=
    hrecords.annotationType provenance decl answer (by simpa using hmem)
  sightings other := by
    rw [hrecords.sightings]
    by_cases hname : other = name
    · obtain ⟨-, event, hmem, hmentions⟩ := exists_of_lookup? hrecords hconsistent hlookup
      rw [hname, firstUse?_append_of_mem log _ hmem hmentions]
    · refine (firstUse?_concat log fun hmentions => ?_).symm
      exact absurd (of_decide_eq_true hmentions) (Ne.symm hname)

/-- A use of a name that a placeholder is made for. -/
theorem records_refer_new (hrecords : registry.roster.Records log) {name : String}
    (hlookup : registry.lookup? name = none) (location : Location) :
    Roster.Records { registry.roster.add { name } (.pending location) with
        sightings := registry.sightings.insertIfNew name location }
      (log ++ [.referred name location ⟨registry.size⟩ true]) where
  known other := by
    rw [lastEntered?_concat_of_none log rfl]
    exact hrecords.known other
  external other := by
    rw [lastEntered?_concat_of_none log rfl]
    exact hrecords.external other
  made other place answer := by
    rw [List.mem_append, hrecords.made, List.mem_singleton, Event.referred.injEq]
    constructor
    · rintro (⟨identity, hidentity, hbears⟩ | ⟨rfl, rfl, rfl, -⟩)
      · exact ⟨identity, identity?_add.mpr (.inl hidentity), hbears⟩
      · exact ⟨_, identity?_add.mpr (.inr ⟨rfl, rfl⟩), rfl, rfl⟩
    · rintro ⟨identity, hidentity, hname, horigin⟩
      rcases identity?_add.mp hidentity with hold | ⟨rfl, rfl⟩
      · exact .inl ⟨identity, hold, hname, horigin⟩
      · cases horigin
        exact .inr ⟨hname.symm, rfl, rfl, rfl⟩
  annotationType provenance decl answer hmem := by
    obtain ⟨identity, hidentity, htype⟩ :=
      hrecords.annotationType provenance decl answer (by simpa using hmem)
    exact ⟨identity, identity?_add.mpr (.inl hidentity), htype⟩
  sightings other := by
    show (registry.sightings.insertIfNew name location).get? other = _
    have hsighting : registry.sightings.get? other = firstUse? log other :=
      hrecords.sightings other
    rw [NameMap.get?_insertIfNew]
    by_cases hname : other = name
    · subst hname
      rw [if_pos rfl, hsighting]
      cases hfind : log.find? (Event.mentions other) with
      | none => simp [firstUse?, hfind, Event.mentions, Event.location?]
      | some event =>
          -- The name is not declared, so the first event that mentions it is a use.
          have hknown : registry.known.get? other = none := (Option.or_eq_none_iff.mp hlookup).1
          have hlast : lastEntered? .declared log other = none :=
            Option.map_eq_none_iff.mp ((hrecords.known other).symm.trans hknown)
          obtain ⟨place, id, made, rfl⟩ := exists_eq_referred hlast
            (List.mem_of_find?_eq_some hfind) (List.find?_some hfind)
          simp [firstUse?, hfind, Event.location?]
    · rw [if_neg hname, hsighting]
      refine (firstUse?_concat log fun hmentions => ?_).symm
      exact absurd (of_decide_eq_true hmentions) (Ne.symm hname)

/-! ## Every history -/

theorem records_apply (hrecords : registry.roster.Records log) (hconsistent : registry.Consistent)
    (call : Call) : (registry.apply call).roster.Records (log ++ registry.events call) := by
  rw [roster_apply]
  cases call with
  | refer name location =>
      simp only [enrolled, events, refer]
      cases hlookup : registry.lookup? name with
      | some id =>
          obtain ⟨⟨entry, hentry⟩, -⟩ := exists_of_lookup? hrecords hconsistent hlookup
          simpa [hentry] using records_refer_known hrecords hconsistent hlookup location
      | none =>
          have hnew := records_refer_new hrecords hlookup location
          simpa [push, entry?_size] using hnew
  | declare decl unit =>
      rw [events, declare_id]
      exact records_declare hrecords decl unit
  | addExternal decl => exact records_addExternal hrecords decl
  | addGenerated decl =>
      simp only [events, List.append_nil, enrolled]
      exact records_add hrecords decl nofun
  | addOuterNested enclosing name =>
      simp only [events, List.append_nil, enrolled]
      cases registry.class? enclosing with
      | none => exact hrecords
      | some outer => exact records_add hrecords _ nofun
  | _ => simpa only [events, List.append_nil, enrolled] using hrecords

theorem records_log (hrecords : registry.roster.Records log) (hconsistent : registry.Consistent)
    (calls : List Call) :
    (calls.foldl apply registry).roster.Records (log ++ registry.log calls) := by
  induction calls generalizing registry log with
  | nil => simpa only [Registry.log, collect, List.append_nil, List.foldl_nil] using hrecords
  | cons call rest ih =>
      have hstep := records_apply hrecords hconsistent call
      rw [List.foldl_cons, log_cons, ← List.append_assoc]
      exact ih hstep (hconsistent.apply call)

theorem records_empty : (∅ : Registry).roster.Records [] where
  known name := NameMap.get?_empty name
  external name := NameMap.get?_empty name
  made name location id := by
    constructor
    · exact fun hmem => nomatch hmem
    · rintro ⟨identity, hidentity, -⟩
      cases hidentity
  annotationType _ _ _ hmem := nomatch hmem
  sightings name := NameMap.get?_empty name

theorem records_history (operations : List Operation) :
    (after operations).roster.Records (history operations) := by
  have hlog := records_log records_empty .empty (operations.flatMap Operation.calls)
  rw [← foldl_perform] at hlog
  exact hlog

/-! ## Answers -/

/-- A declared name stands for its class, and a pending one for nothing yet. -/
theorem find?_eq_or (hconsistent : registry.Consistent) (name : String) :
    registry.find? name = (registry.known.get? name).or (registry.external.get? name) := by
  unfold find? lookup?
  cases hknown : registry.known.get? name with
  | some id =>
      obtain ⟨entry, hentry, -, hdeclared⟩ := hconsistent.known name id hknown
      have hplain : entry.isPlaceholder = false := Origin.isPlaceholder_of_isDeclared hdeclared
      have hredirect : registry.redirect? id = none := by
        rw [redirect?, hentry]
        by_contra hsome
        have hplaceholder := (hconsistent.entries id entry hentry).placeholder_of_redirect hsome
        rw [hplain] at hplaceholder
        cases hplaceholder
      simp [resolve_eq_self hredirect, hentry, hplain]
  | none =>
      cases hpending : registry.pending.get? name with
      | none => rfl
      | some id =>
          obtain ⟨entry, hentry, -, hisPending, hopen⟩ := hconsistent.pending name id hpending
          have hredirect : registry.redirect? id = none := by
            rw [redirect?, hentry]
            exact hopen
          have hplaceholder : entry.isPlaceholder = true :=
            Origin.isPlaceholder_of_isPending hisPending
          simp [resolve_eq_self hredirect, hentry, hplaceholder]

theorem find?_eq_selected? (hrecords : registry.roster.Records log)
    (hconsistent : registry.Consistent) (name : String) :
    registry.find? name = (selected? log name).map Prod.fst := by
  have hknown : registry.known.get? name = _ := hrecords.known name
  have hexternal : registry.external.get? name = _ := hrecords.external name
  rw [find?_eq_or hconsistent, hknown, hexternal, selected?]
  cases lastEntered? .declared log name <;> rfl

theorem annotationType?_eq_selected? (hrecords : registry.roster.Records log)
    (hconsistent : registry.Consistent) (name : String) :
    registry.annotationType? name =
      (selected? log name).bind fun chosen => AnnotationType.ofDecl? chosen.2 := by
  rw [annotationType?, find?_eq_selected? hrecords hconsistent]
  cases hselected : selected? log name with
  | none => rfl
  | some chosen =>
      obtain ⟨provenance, hmem⟩ := exists_entered_of_selected? hselected
      obtain ⟨identity, hidentity, htype⟩ := hrecords.annotationType _ _ _ hmem
      obtain ⟨entry, hentry, rfl⟩ := Option.map_eq_some_iff.mp hidentity
      simp only [Option.map_some, Option.bind_some, hentry]
      exact htype

/-- A name that is not declared stands for the open placeholder that was made for it. -/
theorem lookup?_eq_some_iff (hrecords : registry.roster.Records log)
    (hconsistent : registry.Consistent) (name : String) (id : ClassId) :
    registry.lookup? name = some id ↔
      (lastEntered? .declared log name).map Prod.fst = some id ∨
        lastEntered? .declared log name = none ∧
          (∃ location, .referred name location id true ∈ log) ∧ registry.redirect? id = none := by
  have hknown : registry.known.get? name = _ := hrecords.known name
  rw [lookup?, Option.or_eq_some_iff, hknown, Option.map_eq_none_iff]
  refine or_congr_right (and_congr_right fun _ => ?_)
  constructor
  · intro hpending
    obtain ⟨entry, hentry, -, -, hopen⟩ := hconsistent.pending name id hpending
    refine ⟨exists_referred_of_pending hrecords hconsistent hpending, ?_⟩
    rw [redirect?, hentry]
    exact hopen
  · rintro ⟨⟨location, hmem⟩, hredirect⟩
    obtain ⟨identity, hidentity, rfl, horigin⟩ := (hrecords.made name location id).mp hmem
    obtain ⟨entry, hentry, rfl⟩ := Option.map_eq_some_iff.mp hidentity
    rw [redirect?, hentry] at hredirect
    have hisPending : entry.origin.isPending := by
      rw [show entry.origin = .pending location from horigin]
      rfl
    exact hconsistent.pending_complete id entry hentry hisPending hredirect

/-- What every question about a name answers after a history: the last declaration of the name, or
else the last compiled class; for a look-up, or else the open placeholder made for it; the
annotation type of the class as it came in; and the place where the name was first used before any
declaration, which stays for good. -/
theorem answers_after (operations : List Operation) (name : String) :
    (after operations).find? name = (selected? (history operations) name).map Prod.fst ∧
      (∀ id, (after operations).lookup? name = some id ↔
        (lastEntered? .declared (history operations) name).map Prod.fst = some id ∨
          lastEntered? .declared (history operations) name = none ∧
            (∃ location, .referred name location id true ∈ history operations) ∧
            (after operations).redirect? id = none) ∧
      (after operations).annotationType? name =
        (selected? (history operations) name).bind (fun chosen =>
          AnnotationType.ofDecl? chosen.2) ∧
      (after operations).sightings.get? name = firstUse? (history operations) name ∧
      ∀ later location, (after operations).sightings.get? name = some location →
        (after (operations ++ later)).sightings.get? name = some location := by
  have hrecords := records_history operations
  have hconsistent := consistent_after operations
  have hsightings : (after operations).sightings.get? name = _ := hrecords.sightings name
  refine ⟨find?_eq_selected? hrecords hconsistent name,
    lookup?_eq_some_iff hrecords hconsistent name,
    annotationType?_eq_selected? hrecords hconsistent name, hsightings, ?_⟩
  intro later location hset
  rw [hsightings] at hset
  have hlater : (after (operations ++ later)).sightings.get? name = _ :=
    (records_history (operations ++ later)).sightings name
  obtain ⟨event, hfind, -⟩ := Option.bind_eq_some_iff.mp hset
  rw [hlater, ← hset, history, List.flatMap_append, log, collect_append]
  exact firstUse?_append_of_mem _ _ (List.mem_of_find?_eq_some hfind) (List.find?_some hfind)

end Registry

/-! ## A class that is used, provided and declared -/

namespace Canvas

/-- The place where `Shape` is first used. -/
def firstUse : Location := ⟨"canvas", .nowhere⟩

/-- `Shape` is used and comes in compiled. -/
def provided : List Operation :=
  [.change (.refer "Shape" firstUse), .change (.addExternal shape)]

/-- A unit uses `Shape` and declares it twice. -/
def declaredTwice : List Operation :=
  [.addUnit { name := "shapes", tree := some ⟨[shape, shape], [{ name := "Shape" }]⟩ }]

/-- The declarations take over from the compiled class, and the first use stays what it was. -/
theorem answers_shape :
    (Registry.after provided).sightings.get? "Shape" = some firstUse ∧
      (Registry.after (provided ++ declaredTwice)).sightings.get? "Shape" = some firstUse ∧
      (Registry.after provided).find? "Shape" = some ⟨1⟩ ∧
      (Registry.after (provided ++ declaredTwice)).find? "Shape" = some ⟨3⟩ := by
  obtain ⟨hfind, -, -, -, hkept⟩ := Registry.answers_after provided "Shape"
  have hfindLater := (Registry.answers_after (provided ++ declaredTwice) "Shape").1
  have hset : (Registry.after provided).sightings.get? "Shape" = some firstUse := by decide
  refine ⟨hset, hkept declaredTwice firstUse hset, ?_, ?_⟩
  · rw [hfind]
    decide
  · rw [hfindLater]
    decide

end Canvas

end DeclCheck
