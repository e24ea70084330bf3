/-
# DeclCheck.Proofs.Json.Grammar — the texts of a JSON value, and that the reader takes all of them.

A value has many texts: blanks may stand around every part, a character of a string may be escaped
or not, and a number may be spelled in many ways.  `HasText` gives them by the rules of the format.
The reader is run on a text followed by whatever comes next, which must not be able to continue a
number (`Ends`); it gives the value and stops before what comes next, up to blanks.
-/
import Mathlib.Data.List.DropRight
import DeclCheck.Json.Reader

namespace DeclCheck.Json

/-! ## Strings -/

/-- The text of one unit of a string literal: a character as it is, a short escape, or an escape by
code. -/
inductive UnitText : StringUnit → List Char → Prop
  | plain {c : Char} (hquote : c ≠ '"') (hescape : c ≠ '\\') (hcontrol : ¬ c.toNat < 32) :
      UnitText (.char c) [c]
  | short {mark c : Char} (hmark : shortEscape? mark = some c) : UnitText (.char c) ['\\', mark]
  | code {a b c d : Char} {code : Nat} (hcode : hexDigitsValue? [a, b, c, d] = some code) :
      UnitText (.ofCode code) ['\\', 'u', a, b, c, d]

/-- The texts of units, one after another. -/
inductive UnitsText : List StringUnit → List Char → Prop
  | nil : UnitsText [] []
  | cons {unit : StringUnit} {units : List StringUnit} {text more : List Char} :
      UnitText unit text → UnitsText units more → UnitsText (unit :: units) (text ++ more)

/-- A string literal, perhaps among blanks.  It has no content if surrogates do not pair. -/
inductive LiteralText : Option String → List Char → Prop
  | quoted {units : List StringUnit} {text : List Char} : UnitsText units text →
      LiteralText ((pairUnits units).map String.ofList) ('"' :: (text ++ ['"']))
  | before {content : Option String} {text : List Char} {c : Char} : isBlank c = true →
      LiteralText content text → LiteralText content (c :: text)
  | after {content : Option String} {text : List Char} {c : Char} : LiteralText content text →
      isBlank c = true → LiteralText content (text ++ [c])

/-! ## Numbers -/

/-- One or more digits. -/
def IsDigits (text : List Char) : Prop :=
  text ≠ [] ∧ ∀ c ∈ text, c.isDigit = true

/-- A zero, or digits that do not begin with one. -/
inductive WholeText : List Char → Prop
  | zero : WholeText ['0']
  | digits {c : Char} {rest : List Char} : IsDigits (c :: rest) → c ≠ '0' → WholeText (c :: rest)

/-- Nothing, or a point and digits. -/
inductive FractionText : List Char → Prop
  | none : FractionText []
  | digits {digits : List Char} : IsDigits digits → FractionText ('.' :: digits)

/-- Nothing, or a mark and digits, perhaps with a sign between them. -/
inductive ExponentText : List Char → Prop
  | none : ExponentText []
  | digits {mark : Char} {sign digits : List Char} : mark = 'e' ∨ mark = 'E' →
      sign = [] ∨ sign = ['+'] ∨ sign = ['-'] → IsDigits digits →
      ExponentText (mark :: (sign ++ digits))

/-- A number as it is spelled. -/
structure Numeral where
  negative : Bool
  whole : List Char
  fraction : List Char
  exponent : List Char
  whole_text : WholeText whole
  fraction_text : FractionText fraction
  exponent_text : ExponentText exponent

namespace Numeral

/-- The sign as it is spelled; only a minus can be. -/
def sign (numeral : Numeral) : List Char :=
  if numeral.negative then ['-'] else []

/-- The number as it is spelled. -/
def text (numeral : Numeral) : List Char :=
  numeral.sign ++ (numeral.whole ++ (numeral.fraction ++ numeral.exponent))

/-- Only plain digits have a value; any other number is kept as it is spelled. -/
def value (numeral : Numeral) : Json :=
  if numeral.sign.isEmpty && numeral.fraction.isEmpty && numeral.exponent.isEmpty then
    .natural (digitsValue numeral.whole)
  else .decimal (String.ofList numeral.text)

end Numeral

/-! ## Values -/

mutual

/-- The text is one of the value's texts. -/
inductive HasText : Json → List Char → Prop
  | null : HasText .null ['n', 'u', 'l', 'l']
  | true : HasText (.bool true) ['t', 'r', 'u', 'e']
  | false : HasText (.bool false) ['f', 'a', 'l', 's', 'e']
  | number (numeral : Numeral) : HasText numeral.value numeral.text
  | string {content : Option String} {text : List Char} : LiteralText content text →
      HasText (content.elim .unreadable .string) text
  | emptyArray {blanks : List Char} : (∀ c ∈ blanks, isBlank c = true) →
      HasText (.array []) ('[' :: (blanks ++ [']']))
  | array {elements : List Json} {text : List Char} : ElementsText elements text →
      HasText (.array elements) ('[' :: (text ++ [']']))
  | emptyObject {blanks : List Char} : (∀ c ∈ blanks, isBlank c = true) →
      HasText (.object []) ('\x7b' :: (blanks ++ ['\x7d']))
  | object {members : List (Option String × Json)} {text : List Char} : MembersText members text →
      HasText (ofMembers members) ('\x7b' :: (text ++ ['\x7d']))
  | before {value : Json} {text : List Char} {c : Char} : isBlank c = true →
      HasText value text → HasText value (c :: text)
  | after {value : Json} {text : List Char} {c : Char} : HasText value text →
      isBlank c = true → HasText value (text ++ [c])

/-- Elements between commas. -/
inductive ElementsText : List Json → List Char → Prop
  | last {value : Json} {text : List Char} : HasText value text → ElementsText [value] text
  | cons {value : Json} {text : List Char} {rest : List Json} {more : List Char} :
      HasText value text → ElementsText rest more →
      ElementsText (value :: rest) (text ++ ',' :: more)

/-- Members between commas. -/
inductive MembersText : List (Option String × Json) → List Char → Prop
  | last {name : Option String} {head : List Char} {value : Json} {text : List Char} :
      LiteralText name head → HasText value text → MembersText [(name, value)] (head ++ ':' :: text)
  | cons {name : Option String} {head : List Char} {value : Json} {text : List Char}
      {rest : List (Option String × Json)} {more : List Char} :
      LiteralText name head → HasText value text → MembersText rest more →
      MembersText ((name, value) :: rest) (head ++ ':' :: (text ++ ',' :: more))

end

/-! ## Blanks -/

theorem skipBlanks_cons {c : Char} (hblank : isBlank c = false) (text : List Char) :
    skipBlanks (c :: text) = c :: text :=
  List.dropWhile_cons_of_neg (by simp [hblank])

theorem skipBlanks_blank {c : Char} (hblank : isBlank c = true) (text : List Char) :
    skipBlanks (c :: text) = skipBlanks text :=
  List.dropWhile_cons_of_pos hblank

theorem skipBlanks_append {blanks : List Char} (hblanks : ∀ c ∈ blanks, isBlank c = true)
    (text : List Char) : skipBlanks (blanks ++ text) = skipBlanks text :=
  List.dropWhile_append_of_pos hblanks

theorem skipBlanks_skipBlanks (text : List Char) : skipBlanks (skipBlanks text) = skipBlanks text :=
  List.dropWhile_idempotent _ text

/-- The readers begin by skipping blanks. -/
theorem readValue_congr {text other : List Char} (hsame : skipBlanks text = skipBlanks other)
    (count : Nat) : readValue count text = readValue count other := by
  cases count with
  | zero => rw [readValue, readValue]
  | succ count => rw [readValue, readValue, hsame]

theorem readElements_congr {text other : List Char} (hsame : skipBlanks text = skipBlanks other)
    (count : Nat) : readElements count text = readElements count other := by
  cases count with
  | zero => rw [readElements, readElements]
  | succ count => rw [readElements, readElements, readValue_congr hsame]

theorem readMembers_congr {text other : List Char} (hsame : skipBlanks text = skipBlanks other)
    (count : Nat) : readMembers count text = readMembers count other := by
  cases count with
  | zero => rw [readMembers, readMembers]
  | succ count => rw [readMembers, readMembers, hsame]

/-! ## What comes next -/

/-- The text cannot continue a value that stands before it. -/
def Ends : List Char → Prop
  | [] => True
  | c :: _ => isBlank c = true ∨ c = ',' ∨ c = ']' ∨ c = '\x7d'

theorem ends_blank {c : Char} (hblank : isBlank c = true) (text : List Char) : Ends (c :: text) :=
  .inl hblank

theorem ends_comma (text : List Char) : Ends (',' :: text) := .inr (.inl rfl)

theorem ends_bracket (text : List Char) : Ends (']' :: text) := .inr (.inr (.inl rfl))

theorem ends_brace (text : List Char) : Ends ('\x7d' :: text) := .inr (.inr (.inr rfl))

/-- What comes next begins neither with a digit nor with a mark inside a number. -/
theorem Ends.head {rest : List Char} (hends : Ends rest) :
    ∀ c ∈ rest.head?, c.isDigit = false ∧ c ≠ '.' ∧ c ≠ 'e' ∧ c ≠ 'E' := by
  intro c hc
  obtain ⟨tail, rfl⟩ : ∃ tail, rest = c :: tail := ⟨rest.tail, by cases rest <;> simp_all⟩
  rcases hends with hblank | rfl | rfl | rfl
  · simp only [isBlank, Bool.or_eq_true, decide_eq_true_eq] at hblank
    rcases hblank with ((rfl | rfl) | rfl) | rfl <;> decide
  all_goals decide

/-! ## Strings are read -/

theorem readUnits_of_unitText {unit : StringUnit} {text : List Char} (htext : UnitText unit text)
    (rest : List Char) :
    readUnits (text ++ rest) = (readUnits rest).map fun read => (unit :: read.1, read.2) := by
  cases htext with
  | @plain c hquote hescape hcontrol =>
      show readUnits (c :: rest) = _
      rw [readUnits, if_neg hcontrol]
      · cases readUnits rest <;> rfl
      all_goals simp_all
  | @short mark c hmark =>
      show readUnits ('\\' :: mark :: rest) = _
      rw [readUnits]
      · simp only [hmark]
        cases readUnits rest <;> rfl
      · -- the mark of an escape by code is no short escape
        rintro _ _ _ _ _ hcode -
        cases hcode
        cases hmark
  | @code a b c d code hcode =>
      show readUnits ('\\' :: 'u' :: a :: b :: c :: d :: rest) = _
      rw [readUnits, hcode]
      cases readUnits rest <;> rfl

theorem readUnits_of_unitsText {units : List StringUnit} {text : List Char}
    (htext : UnitsText units text) (rest : List Char) :
    readUnits (text ++ '"' :: rest) = some (units, rest) := by
  induction htext with
  | nil => rfl
  | cons hunit _ ih => rw [List.append_assoc, readUnits_of_unitText hunit, ih, Option.map_some]

/-- A string literal is read up to its closing quote. -/
theorem LiteralText.reads {content : Option String} {text : List Char}
    (htext : LiteralText content text) (rest : List Char) :
    ∃ body left, skipBlanks (text ++ rest) = '"' :: body ∧
      readString body = some (content, left) ∧ skipBlanks left = skipBlanks rest := by
  induction htext generalizing rest with
  | @quoted units text hunits =>
      refine ⟨text ++ '"' :: rest, rest, ?_, ?_, rfl⟩
      · rw [List.cons_append, List.append_assoc, skipBlanks_cons (by decide)]
        rfl
      · rw [readString, readUnits_of_unitsText hunits]
        rfl
  | before hblank _ ih =>
      obtain ⟨body, left, hquote, hread, hleft⟩ := ih rest
      refine ⟨body, left, ?_, hread, hleft⟩
      rw [List.cons_append, skipBlanks_blank hblank, hquote]
  | @after content text c _ hblank ih =>
      obtain ⟨body, left, hquote, hread, hleft⟩ := ih (c :: rest)
      refine ⟨body, left, ?_, hread, ?_⟩
      · rw [List.append_assoc]
        exact hquote
      · rw [hleft, skipBlanks_blank hblank]

theorem LiteralText.ne_nil {content : Option String} {text : List Char}
    (htext : LiteralText content text) : text ≠ [] := by
  cases htext <;> simp

/-! ## Numbers are read -/

/-- Digits end where something else begins. -/
theorem readDigits_append {digits rest : List Char} (hdigits : ∀ c ∈ digits, c.isDigit = true)
    (hrest : ∀ c ∈ rest.head?, c.isDigit = false) :
    readDigits (digits ++ rest) = (digits, rest) := by
  have hnone : rest.takeWhile Char.isDigit = [] ∧ rest.dropWhile Char.isDigit = rest := by
    cases rest with
    | nil => exact ⟨rfl, rfl⟩
    | cons c tail =>
        have hc : ¬ c.isDigit = true := by simp [hrest c rfl]
        exact ⟨List.takeWhile_cons_of_neg hc, List.dropWhile_cons_of_neg hc⟩
  rw [readDigits, List.takeWhile_append_of_pos hdigits, List.dropWhile_append_of_pos hdigits,
    hnone.1, hnone.2, List.append_nil]

theorem WholeText.reads {whole rest : List Char} (htext : WholeText whole)
    (hrest : ∀ c ∈ rest.head?, c.isDigit = false) :
    readWhole (whole ++ rest) = some (whole, rest) := by
  cases htext with
  | zero => rfl
  | @digits c tail hdigits hzero =>
      have hread := readDigits_append hdigits.2 hrest
      rw [List.cons_append] at hread ⊢
      rw [readWhole, hread]
      rintro other hother
      exact hzero (List.cons.inj hother).1

theorem FractionText.reads {fraction rest : List Char} (htext : FractionText fraction)
    (hrest : ∀ c ∈ rest.head?, c.isDigit = false ∧ c ≠ '.') :
    readFraction (fraction ++ rest) = some (fraction, rest) := by
  cases htext with
  | none =>
      show readFraction rest = some ([], rest)
      rw [readFraction]
      rintro other rfl
      exact (hrest '.' rfl).2 rfl
  | @digits digits hdigits =>
      have hread := readDigits_append hdigits.2 fun c hc => (hrest c hc).1
      obtain ⟨c, tail, rfl⟩ := List.exists_cons_of_ne_nil hdigits.1
      rw [List.cons_append, readFraction, hread]

/-- The sign of an exponent is told from its digits. -/
theorem readSign_append {sign digits rest : List Char}
    (hsign : sign = [] ∨ sign = ['+'] ∨ sign = ['-']) (hdigits : IsDigits digits) :
    readSign (sign ++ (digits ++ rest)) = (sign, digits ++ rest) := by
  rcases hsign with rfl | rfl | rfl
  · obtain ⟨c, tail, rfl⟩ := List.exists_cons_of_ne_nil hdigits.1
    have hdigit : c.isDigit = true := hdigits.2 c List.mem_cons_self
    show readSign (c :: (tail ++ rest)) = ([], c :: (tail ++ rest))
    rw [readSign]
    all_goals
      rintro other hother
      rw [(List.cons.inj hother).1] at hdigit
      exact absurd hdigit (by decide)
  · rfl
  · rfl

theorem ExponentText.reads {exponent rest : List Char} (htext : ExponentText exponent)
    (hrest : ∀ c ∈ rest.head?, c.isDigit = false ∧ c ≠ 'e' ∧ c ≠ 'E') :
    readExponent (exponent ++ rest) = some (exponent, rest) := by
  cases htext with
  | none =>
      cases rest with
      | nil => rfl
      | cons c tail =>
          obtain ⟨-, hlower, hupper⟩ := hrest c rfl
          show readExponent (c :: tail) = _
          rw [readExponent, if_neg (by simp [hlower, hupper])]
  | @digits mark sign digits hmark hsign hdigits =>
      have hread := readDigits_append hdigits.2 fun c hc => (hrest c hc).1
      rw [List.cons_append, List.append_assoc, readExponent, if_pos (by simpa using hmark),
        readSign_append hsign hdigits]
      obtain ⟨c, tail, rfl⟩ := List.exists_cons_of_ne_nil hdigits.1
      dsimp only
      rw [hread]

theorem WholeText.exists_cons {whole : List Char} (htext : WholeText whole) :
    ∃ c tail, whole = c :: tail ∧ c.isDigit = true := by
  cases htext with
  | zero => exact ⟨_, _, rfl, by decide⟩
  | digits hdigits _ => exact ⟨_, _, rfl, hdigits.2 _ List.mem_cons_self⟩

theorem FractionText.head {fraction rest : List Char} (htext : FractionText fraction)
    (hrest : ∀ c ∈ rest.head?, c.isDigit = false) :
    ∀ c ∈ (fraction ++ rest).head?, c.isDigit = false := by
  intro c hc
  cases htext with
  | none => exact hrest c hc
  | digits _ =>
      cases hc
      decide

theorem ExponentText.head {exponent rest : List Char} (htext : ExponentText exponent)
    (hrest : ∀ c ∈ rest.head?, c.isDigit = false ∧ c ≠ '.') :
    ∀ c ∈ (exponent ++ rest).head?, c.isDigit = false ∧ c ≠ '.' := by
  intro c hc
  cases htext with
  | none => exact hrest c hc
  | digits hmark _ _ =>
      cases hc
      rcases hmark with rfl | rfl <;> decide

namespace Numeral

variable (numeral : Numeral) {rest : List Char}

/-- The sign of a number is told from its digits. -/
theorem split_sign :
    (match numeral.text ++ rest with
      | '-' :: rest => (['-'], rest)
      | _ => ([], numeral.text ++ rest)) =
        (numeral.sign, numeral.whole ++ (numeral.fraction ++ (numeral.exponent ++ rest))) := by
  simp only [text, List.append_assoc]
  rcases Bool.eq_false_or_eq_true numeral.negative with hnegative | hpositive
  · rw [sign, if_pos hnegative]
    rfl
  · obtain ⟨c, tail, hcons, hdigit⟩ := numeral.whole_text.exists_cons
    rw [sign, if_neg (by simp [hpositive]), hcons, List.nil_append, List.cons_append]
    split
    next heq =>
      rw [(List.cons.inj heq).1] at hdigit
      exact absurd hdigit (by decide)
    next => rfl

/-- A number is read up to what cannot continue it. -/
theorem reads (hends : Ends rest) :
    readNumber (numeral.text ++ rest) = some (numeral.value, rest) := by
  have hends := hends.head
  have hexponent := numeral.exponent_text.reads fun c hc => ⟨(hends c hc).1, (hends c hc).2.2⟩
  have hhead := numeral.exponent_text.head fun c hc => ⟨(hends c hc).1, (hends c hc).2.1⟩
  have hfraction := numeral.fraction_text.reads hhead
  have hwhole := numeral.whole_text.reads
    (numeral.fraction_text.head fun c hc => (hhead c hc).1)
  unfold readNumber
  split
  next sign unsigned hsplit =>
    obtain ⟨rfl, rfl⟩ : sign = numeral.sign ∧
        unsigned = numeral.whole ++ (numeral.fraction ++ (numeral.exponent ++ rest)) :=
      Prod.mk.inj (hsplit.symm.trans numeral.split_sign)
    simp only [hwhole, hfraction, hexponent, Option.bind_eq_bind, Option.bind_some, value, text,
      List.append_assoc]
    split <;> rfl

/-- A number begins with a digit or a sign. -/
theorem exists_cons :
    ∃ c tail, numeral.text = c :: tail ∧ (c.isDigit = true ∨ c = '-') := by
  rcases Bool.eq_false_or_eq_true numeral.negative with hnegative | hpositive
  · exact ⟨'-', _, by rw [text, sign, if_pos hnegative]; rfl, .inr rfl⟩
  · obtain ⟨c, tail, hcons, hdigit⟩ := numeral.whole_text.exists_cons
    refine ⟨c, tail ++ (numeral.fraction ++ numeral.exponent), ?_, .inl hdigit⟩
    rw [text, sign, if_neg (by simp [hpositive]), hcons]
    rfl

end Numeral

theorem isBlank_of_number {c : Char} (hfirst : c.isDigit = true ∨ c = '-') : isBlank c = false := by
  simp only [isBlank, Bool.or_eq_false_iff, decide_eq_false_iff_not]
  refine ⟨⟨⟨?_, ?_⟩, ?_⟩, ?_⟩ <;> rintro rfl <;> exact absurd hfirst (by decide)

/-- What begins with a digit or a sign is read as a number. -/
theorem readValue_number {c : Char} (hfirst : c.isDigit = true ∨ c = '-') (count : Nat)
    (text : List Char) : readValue (count + 1) (c :: text) = readNumber (c :: text) := by
  rw [readValue, skipBlanks_cons (isBlank_of_number hfirst)]
  split
  case h_7 => rfl
  all_goals
    next heq =>
      cases heq
      exact absurd hfirst (by decide)

/-! ## Values are read -/

/-- A value's text begins, after blanks, with something that does not close an array. -/
theorem HasText.exists_skipBlanks : ∀ {value : Json} {text : List Char}, HasText value text →
    ∀ rest : List Char, ∃ c tail, skipBlanks (text ++ rest) = c :: tail ∧ c ≠ ']'
  | _, _, .null, _ => ⟨_, _, rfl, by decide⟩
  | _, _, .true, _ => ⟨_, _, rfl, by decide⟩
  | _, _, .false, _ => ⟨_, _, rfl, by decide⟩
  | _, _, .number numeral, rest => by
      obtain ⟨c, tail, htext, hfirst⟩ := numeral.exists_cons
      refine ⟨c, tail ++ rest, ?_, ?_⟩
      · rw [htext, List.cons_append, skipBlanks_cons (isBlank_of_number hfirst)]
      · rintro rfl
        exact absurd hfirst (by decide)
  | _, _, .string hliteral, rest => by
      obtain ⟨body, _, hquote, _⟩ := hliteral.reads rest
      exact ⟨_, _, hquote, by decide⟩
  | _, _, .emptyArray _, _ => ⟨_, _, rfl, by decide⟩
  | _, _, .array _, _ => ⟨_, _, rfl, by decide⟩
  | _, _, .emptyObject _, _ => ⟨_, _, rfl, by decide⟩
  | _, _, .object _, _ => ⟨_, _, rfl, by decide⟩
  | _, _, .before hblank htext, rest => by
      rw [List.cons_append, skipBlanks_blank hblank]
      exact htext.exists_skipBlanks rest
  | _, _, .after htext _, rest => by
      rw [List.append_assoc]
      exact htext.exists_skipBlanks _

theorem ElementsText.exists_skipBlanks {elements : List Json} {text : List Char}
    (htext : ElementsText elements text) (rest : List Char) :
    ∃ c tail, skipBlanks (text ++ rest) = c :: tail ∧ c ≠ ']' := by
  cases htext with
  | last hvalue => exact hvalue.exists_skipBlanks rest
  | cons hvalue _ =>
      rw [List.append_assoc]
      exact hvalue.exists_skipBlanks _

theorem MembersText.exists_skipBlanks {members : List (Option String × Json)} {text : List Char}
    (htext : MembersText members text) (rest : List Char) :
    ∃ body, skipBlanks (text ++ rest) = '"' :: body := by
  cases htext with
  | last hname _ | cons hname _ _ =>
      rw [List.append_assoc]
      obtain ⟨body, _, hquote, _⟩ := hname.reads _
      exact ⟨body, hquote⟩

theorem readValue_string {content : Option String} {text : List Char}
    (hliteral : LiteralText content text) (rest : List Char) (count : Nat) :
    ∃ left, readValue (count + 1) (text ++ rest) = some (content.elim .unreadable .string, left) ∧
      skipBlanks left = skipBlanks rest := by
  obtain ⟨body, left, hquote, hread, hleft⟩ := hliteral.reads rest
  refine ⟨left, ?_, hleft⟩
  rw [readValue, hquote]
  simp only [hread]
  rfl

theorem readValue_array {text rest : List Char} {elements : List Json} {count : Nat}
    (hfirst : ∃ c tail, skipBlanks text = c :: tail ∧ c ≠ ']')
    (hread : readElements count text = some (elements, rest)) :
    readValue (count + 1) ('[' :: text) = some (.array elements, rest) := by
  obtain ⟨c, tail, hskip, hbracket⟩ := hfirst
  rw [← readElements_congr (skipBlanks_skipBlanks text), hskip] at hread
  rw [readValue, skipBlanks_cons (by decide)]
  simp only [hskip]
  split
  next heq => exact absurd (List.cons.inj heq).1 hbracket
  next =>
    rw [hread]
    rfl

theorem readValue_object {text body rest : List Char} {members : List (Option String × Json)}
    {count : Nat} (hquote : skipBlanks text = '"' :: body)
    (hread : readMembers count text = some (members, rest)) :
    readValue (count + 1) ('\x7b' :: text) = some (ofMembers members, rest) := by
  rw [← readMembers_congr (skipBlanks_skipBlanks text), hquote] at hread
  rw [readValue, skipBlanks_cons (by decide)]
  simp only [hquote]
  show (readMembers count ('"' :: body)).bind _ = _
  rw [hread]
  rfl

-- Every call takes one off the count.  A call for elements or members takes no character before it
-- calls the reader of values, so the count goes down twice for a character, and once more at a
-- start.
mutual

/-- A value is read from each of its texts, up to the blanks before what comes next. -/
theorem HasText.reads : ∀ {value : Json} {text : List Char}, HasText value text →
    ∀ {rest : List Char}, Ends rest → ∀ count, 2 * text.length ≤ count →
      ∃ left, readValue count (text ++ rest) = some (value, left) ∧
        skipBlanks left = skipBlanks rest
  | _, _, .null, rest, _, count + 1, _ => ⟨rest, rfl, rfl⟩
  | _, _, .true, rest, _, count + 1, _ => ⟨rest, rfl, rfl⟩
  | _, _, .false, rest, _, count + 1, _ => ⟨rest, rfl, rfl⟩
  | _, _, .number numeral, rest, hends, count, hcount => by
      obtain ⟨c, tail, htext, hfirst⟩ := numeral.exists_cons
      have hread := numeral.reads hends
      rw [htext] at hcount hread ⊢
      obtain ⟨count, rfl⟩ : ∃ fewer, count = fewer + 1 := ⟨count - 1, by grind⟩
      exact ⟨rest, (readValue_number hfirst count (tail ++ rest)).trans hread, rfl⟩
  | _, _, .string hliteral, rest, hends, count, hcount => by
      have hlength := List.length_pos_of_ne_nil hliteral.ne_nil
      obtain ⟨count, rfl⟩ : ∃ fewer, count = fewer + 1 := ⟨count - 1, by omega⟩
      exact readValue_string hliteral rest count
  | _, _, .emptyArray hblanks, rest, hends, count + 1, hcount => by
      refine ⟨rest, ?_, rfl⟩
      rw [List.cons_append, List.append_assoc, readValue, skipBlanks_cons (by decide)]
      simp only [skipBlanks_append hblanks]
      rfl
  | _, _, .array helements, rest, hends, count + 1, hcount => by
      rw [List.length_cons, List.length_append] at hcount
      rw [List.cons_append, List.append_assoc]
      have hread := helements.reads rest count (by omega)
      exact ⟨rest, readValue_array (helements.exists_skipBlanks _) hread, rfl⟩
  | _, _, .emptyObject hblanks, rest, hends, count + 1, hcount => by
      refine ⟨rest, ?_, rfl⟩
      rw [List.cons_append, List.append_assoc, readValue, skipBlanks_cons (by decide)]
      simp only [skipBlanks_append hblanks]
      rfl
  | _, _, .object hmembers, rest, hends, count + 1, hcount => by
      rw [List.length_cons, List.length_append] at hcount
      obtain ⟨body, hquote⟩ := hmembers.exists_skipBlanks (['\x7d'] ++ rest)
      rw [List.cons_append, List.append_assoc]
      exact ⟨rest, readValue_object hquote (hmembers.reads rest count (by omega)), rfl⟩
  | _, _, .before hblank htext, rest, hends, count, hcount => by
      rw [List.length_cons] at hcount
      rw [List.cons_append, readValue_congr (skipBlanks_blank hblank _)]
      exact htext.reads hends count (by omega)
  | _, _, .after htext hblank, rest, hends, count, hcount => by
      rw [List.length_append] at hcount
      obtain ⟨left, hread, hleft⟩ := htext.reads (ends_blank hblank rest) count (by omega)
      rw [skipBlanks_blank hblank] at hleft
      exact ⟨left, by rw [List.append_assoc]; exact hread, hleft⟩

/-- Elements are read up to the bracket that closes them. -/
theorem ElementsText.reads : ∀ {elements : List Json} {text : List Char},
    ElementsText elements text → ∀ (rest : List Char) (count : Nat), 2 * text.length + 1 ≤ count →
      readElements count (text ++ ']' :: rest) = some (elements, rest)
  | _, _, .last htext, rest, count + 1, hcount => by
      obtain ⟨left, hread, hleft⟩ := htext.reads (ends_bracket rest) count (by omega)
      rw [skipBlanks_cons (by decide)] at hleft
      rw [readElements, hread]
      simp only [Option.bind_eq_bind, Option.bind_some, hleft]
      rfl
  | _, _, @ElementsText.cons _ text _ more htext hmore, rest, count + 1, hcount => by
      rw [List.length_append, List.length_cons] at hcount
      obtain ⟨left, hread, hleft⟩ := htext.reads (ends_comma (more ++ ']' :: rest)) count (by omega)
      rw [skipBlanks_cons (by decide)] at hleft
      rw [List.append_assoc, List.cons_append, readElements, hread]
      simp only [Option.bind_eq_bind, Option.bind_some, hleft, hmore.reads rest count (by omega)]
      rfl

/-- Members are read up to the brace that closes them. -/
theorem MembersText.reads : ∀ {members : List (Option String × Json)} {text : List Char},
    MembersText members text → ∀ (rest : List Char) (count : Nat), 2 * text.length + 1 ≤ count →
      readMembers count (text ++ '\x7d' :: rest) = some (members, rest)
  | _, _, @MembersText.last _ _ _ text hname htext, rest, count + 1, hcount => by
      rw [List.length_append, List.length_cons] at hcount
      obtain ⟨body, _, hquote, hstring, hcolon⟩ := hname.reads (':' :: (text ++ '\x7d' :: rest))
      obtain ⟨left, hread, hleft⟩ := htext.reads (ends_brace rest) count (by omega)
      rw [skipBlanks_cons (by decide)] at hcolon hleft
      rw [List.append_assoc, List.cons_append, readMembers, hquote]
      simp only [hstring, Option.bind_eq_bind, Option.bind_some, hcolon, hread, hleft]
      rfl
  | _, _, @MembersText.cons _ _ _ text _ more hname htext hmore, rest, count + 1, hcount => by
      simp only [List.length_append, List.length_cons] at hcount
      obtain ⟨body, _, hquote, hstring, hcolon⟩ :=
        hname.reads (':' :: (text ++ ',' :: (more ++ '\x7d' :: rest)))
      obtain ⟨left, hread, hleft⟩ :=
        htext.reads (ends_comma (more ++ '\x7d' :: rest)) count (by omega)
      rw [skipBlanks_cons (by decide)] at hcolon hleft
      rw [List.append_assoc, List.cons_append, List.append_assoc, List.cons_append, readMembers,
        hquote]
      simp only [hstring, Option.bind_eq_bind, Option.bind_some, hcolon, hread, hleft,
        hmore.reads rest count (by omega)]
      rfl

end

/-- Every text of a value is read as the value. -/
theorem HasText.parse? {value : Json} {text : String} (htext : HasText value text.toList) :
    parse? text = some value := by
  have hends : Ends [] := trivial
  obtain ⟨left, hread, hleft⟩ := htext.reads hends (2 * text.toList.length + 2) (by omega)
  rw [List.append_nil] at hread
  simp only [Json.parse?, hread, hleft, Option.bind_eq_bind, Option.bind_some]
  exact if_pos rfl

end DeclCheck.Json
