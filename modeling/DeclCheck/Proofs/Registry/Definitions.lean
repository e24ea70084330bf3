/-
# DeclCheck.Proofs.Registry.Definitions — the names that stand for annotation definitions.

A registry keeps beside each entry what its declaration said as an annotation definition when it was
registered.  After every history this is there exactly for entries that are annotation definitions
and no placeholders, whatever checks have made of their declarations since, and it bears the name it
is found by.  So asking for the annotation type of a name comes to finding its class and looking at
the kind of the class, and a use is of a well-known type if it has the name of one that is defined.
-/
import DeclCheck.Proofs.Check.Circular
import DeclCheck.Proofs.Registry.Names

namespace DeclCheck

/-! ## Well-known names -/

namespace WellKnown

/-- The name of a well-known annotation type. -/
def name? : WellKnown → Option String
  | .overriding => some overrideName
  | .deprecated => some deprecatedName
  | .target => some targetName
  | .retention => some retentionName
  | .repeatable => some repeatableName
  | .other => none

theorem ofName_eq_iff {known : WellKnown} {written : String} (hwritten : known.name? = some written)
    (name : String) : ofName name = known ↔ name = written := by
  constructor
  · intro hknown
    subst hknown
    unfold ofName at hwritten
    split_ifs at hwritten with h₁ h₂ h₃ h₄ h₅
    all_goals cases hwritten
    all_goals assumption
  · rintro rfl
    cases known <;> cases hwritten <;> decide

end WellKnown

/-! ## Annotation definitions -/

/-- What is kept as an annotation type is kept of the annotation definitions. -/
def Identity.Typed (identity : Identity) : Prop :=
  identity.annotationType.isSome =
    (!identity.origin.isPlaceholder && decide (identity.kind = .annotationType))

theorem Identity.typed_new (decl : ClassDecl) (origin : Origin) :
    (Entry.new decl origin).identity.Typed := by
  unfold Typed Entry.identity Entry.new ClassDecl.isAnnotationType
  dsimp only
  split <;> simp_all

namespace Registry

variable {registry : Registry}

/-- Every entry is typed. -/
def Typed (registry : Registry) : Prop :=
  ∀ id identity, registry.roster.identity? id = some identity → identity.Typed

theorem typed_add (htyped : registry.Typed) (decl : ClassDecl) (origin : Origin) (id : ClassId)
    (identity : Identity)
    (hidentity : (registry.roster.add decl origin).identity? id = some identity) :
    identity.Typed := by
  rcases identity?_add.mp hidentity with hold | ⟨-, rfl⟩
  · exact htyped id identity hold
  · exact Identity.typed_new decl origin

theorem typed_apply (htyped : registry.Typed) (call : Call) : (registry.apply call).Typed := by
  unfold Typed
  rw [roster_apply]
  -- Calls that enter no class leave the roster as it is.
  cases call with
  | refer name location =>
      simp only [enrolled]
      cases registry.lookup? name with
      | some _ => exact htyped
      | none => exact typed_add htyped { name } (.pending location)
  | declare decl unit => exact typed_add htyped decl (.declared unit)
  | addGenerated decl => exact typed_add htyped decl .generated
  | addExternal decl => exact typed_add htyped decl .external
  | addOuterNested enclosing name =>
      simp only [enrolled]
      cases registry.class? enclosing with
      | none => exact htyped
      | some outer => exact typed_add htyped _ (.outerNested enclosing)
  | _ => exact htyped

theorem typed_after (operations : List Operation) : (after operations).Typed := by
  refine after_induction (P := Typed) ?_ (fun _ call htyped => typed_apply htyped call) operations
  intro id identity hidentity
  cases hidentity

/-- A name that is found leads to no placeholder. -/
theorem isPlaceholder_of_find? (hconsistent : registry.Consistent) {name : String} {id : ClassId}
    {entry : Entry} (hfind : registry.find? name = some id)
    (hentry : registry.entry? id = some entry) : entry.origin.isPlaceholder = false := by
  rw [find?_eq_or hconsistent] at hfind
  rcases Option.or_eq_some_iff.mp hfind with hknown | ⟨-, hexternal⟩
  · obtain ⟨same, hsame, -, hdeclared⟩ := hconsistent.known name id hknown
    cases hentry.symm.trans hsame
    exact Origin.isPlaceholder_of_isDeclared hdeclared
  · obtain ⟨same, hsame, -, horigin⟩ := hconsistent.external name id hexternal
    cases hentry.symm.trans hsame
    rw [horigin]
    rfl

/-- A name stands for an annotation type of that name. -/
def NamesTypes (registry : Registry) : Prop :=
  ∀ name type, registry.annotationType? name = some type → type.name = name

theorem namesTypes_after (operations : List Operation) : (after operations).NamesTypes := by
  intro name type htype
  rw [annotationType?_eq_selected? (records_history operations) (consistent_after operations),
    Option.bind_eq_some_iff] at htype
  obtain ⟨chosen, hchosen, htype⟩ := htype
  have hname : chosen.2.name = name := by
    rcases Option.or_eq_some_iff.mp hchosen with hlast | ⟨-, hlast⟩
    · exact (of_lastEntered?_eq_some hlast).1
    · exact (of_lastEntered?_eq_some hlast).1
  rw [AnnotationType.ofDecl?, Option.ite_none_right_eq_some] at htype
  obtain ⟨-, htype⟩ := htype
  cases htype
  exact hname

theorem NamesTypes.known_eq_iff (hnames : registry.NamesTypes) {name : String}
    {type : AnnotationType} (htype : registry.annotationType? name = some type)
    {known : WellKnown} {written : String} (hwritten : known.name? = some written) :
    type.known = known ↔ name = written := by
  rw [AnnotationType.known, hnames name type htype, WellKnown.ofName_eq_iff hwritten]

/-- Annotation types are those of the definitions that names stand for. -/
structure Definite (registry : Registry) : Prop extends registry.Consistent where
  typed : registry.Typed
  names : registry.NamesTypes

theorem definite_after (operations : List Operation) : (after operations).Definite where
  toConsistent := consistent_after operations
  typed := typed_after operations
  names := namesTypes_after operations

/-- Whether a name stands for an annotation definition. -/
def defines (registry : Registry) (name : String) : Bool :=
  (registry.findClass? name).any (·.isAnnotationType)

theorem isSome_annotationType? (hdefinite : registry.Definite) (name : String) :
    (registry.annotationType? name).isSome = registry.defines name := by
  unfold annotationType? defines findClass? class?
  cases hfind : registry.find? name with
  | none => rfl
  | some id =>
      obtain ⟨entry, hentry, -⟩ := exists_entry?_of_find? hdefinite.toConsistent hfind
      have hplain := isPlaceholder_of_find? hdefinite.toConsistent hfind hentry
      -- The name is found at an entry that is no placeholder, so the kind alone decides.
      have hidentity := identity?_of_entry? hentry
      have hkept := hdefinite.typed id entry.identity hidentity
      unfold Identity.Typed Entry.identity at hkept
      dsimp only at hkept
      rw [hplain] at hkept
      simpa [hentry, ClassDecl.isAnnotationType] using hkept

/-- Whether a use is of the annotation definition with the given name. -/
def isUse (registry : Registry) (name : String) (use : AnnotationUse) : Bool :=
  use.kind = name && registry.defines name

end Registry

/-- A use is of a well-known type if it is one of the definition that has the name of the type. -/
theorem Surroundings.isUseOf_eq {around : Surroundings} (hdefinite : around.registry.Definite)
    {known : WellKnown} {written : String} (hwritten : known.name? = some written) :
    around.isUseOf known = around.registry.isUse written := by
  funext use
  have hdefines := Registry.isSome_annotationType? hdefinite use.kind
  unfold isUseOf Registry.isUse
  cases htype : around.registry.annotationType? use.kind with
  | none =>
      rw [htype] at hdefines
      by_cases hkind : use.kind = written
      · simp [← hkind, ← hdefines]
      · simp [hkind]
  | some type =>
      rw [htype] at hdefines
      have hknown : type.known = known ↔ use.kind = written :=
        hdefinite.names.known_eq_iff htype hwritten
      by_cases hkind : use.kind = written
      · simp [hknown, ← hkind, ← hdefines]
      · simp [hknown, hkind]

end DeclCheck
