/-
# DeclCheck.Proofs.Json.Text — the compact text of a value is one of its texts.

Strings are written by units of a literal, numbers by their digits, and what is inside an array or
an object stands between commas.  So compact text is read as the value it was written for, as every
text of the value is (`HasText.parse?`).
-/
import DeclCheck.Proofs.Json.Grammar

namespace DeclCheck.Json

/-! ## What has a text that is read back -/

mutual

/-- A value without numbers other than plain digits and without unreadable parts. -/
def Plain : Json → Prop
  | .decimal _ | .unreadable => False
  | .array elements => PlainElements elements
  | .object members => PlainMembers members
  | _ => True

/-- Every element is plain. -/
def PlainElements : List Json → Prop
  | [] => True
  | value :: rest => value.Plain ∧ PlainElements rest

/-- The value of every member is plain. -/
def PlainMembers : List (String × Json) → Prop
  | [] => True
  | (_, value) :: rest => value.Plain ∧ PlainMembers rest

end

/-! ## Strings -/

/-- The hexadecimal digits written for a control character are read as its code. -/
theorem hexDigitsValue?_control :
    ∀ code < 32, hexDigitsValue? ['0', '0', Nat.digitChar (code / 16), Nat.digitChar (code % 16)]
      = some code := by
  decide

theorem ofCode_control {c : Char} (hcontrol : c.toNat < 32) :
    StringUnit.ofCode c.toNat = .char c := by
  have hlow : ¬ 0xD800 ≤ c.toNat := by omega
  have hhigh : ¬ 0xDC00 ≤ c.toNat := by omega
  simp [StringUnit.ofCode, hlow, hhigh]

/-- A character is written as one unit. -/
theorem unitText_escape (c : Char) : UnitText (.char c) (escape c) := by
  unfold escape
  split_ifs with hquote hback hb hf hn hr ht hcontrol
  · exact .short (by simp [shortEscape?, hquote])
  · exact .short (by simp [shortEscape?, hback])
  · exact .short (by rw [← c.ofNat_toNat, hb]; rfl)
  · exact .short (by rw [← c.ofNat_toNat, hf]; rfl)
  · exact .short (by simp [shortEscape?, hn])
  · exact .short (by simp [shortEscape?, hr])
  · exact .short (by simp [shortEscape?, ht])
  · -- any other control character is written by its code
    rw [← ofCode_control hcontrol]
    exact .code (hexDigitsValue?_control c.toNat hcontrol)
  · exact .plain hquote hback hcontrol

theorem unitsText_escape (chars : List Char) :
    UnitsText (chars.map .char) (chars.flatMap escape) := by
  induction chars with
  | nil => exact .nil
  | cons c rest ih => exact .cons (unitText_escape c) ih

theorem pairUnits_char (chars : List Char) : pairUnits (chars.map .char) = some chars := by
  induction chars with
  | nil => rfl
  | cons c rest ih => simp [pairUnits, ih]

/-- What is written for a string is a literal with that content. -/
theorem literalText_renderString (text : String) :
    LiteralText (some text) (renderString text) := by
  have hliteral := LiteralText.quoted (unitsText_escape text.toList)
  rwa [pairUnits_char, Option.map_some, String.ofList_toList] at hliteral

/-! ## Numbers -/

theorem digitsValue_toDigits (value : Nat) : digitsValue (Nat.toDigits 10 value) = value := by
  have hfold (digits : List Char) : digitsValue digits = Nat.ofDigitChars 10 digits 0 := by
    simp only [digitsValue, Nat.ofDigitChars, Nat.mul_comm]
  rw [hfold, Nat.ofDigitChars_ten_toDigits]

theorem isDigits_toDigits (value : Nat) : IsDigits (Nat.toDigits 10 value) :=
  ⟨Nat.toDigits_ne_nil, fun _ hc => Nat.isDigit_of_mem_toDigits (by decide) (by decide) hc⟩

/-- Only zero begins with a zero. -/
theorem exists_toDigits_eq_cons {value : Nat} (hvalue : value ≠ 0) :
    ∃ c tail, Nat.toDigits 10 value = c :: tail ∧ c ≠ '0' := by
  induction value using Nat.strongRecOn with
  | ind value ih =>
      by_cases hsmall : value < 10
      · refine ⟨Nat.digitChar value, [], Nat.toDigits_of_lt_base hsmall, ?_⟩
        exact fun hzero => hvalue (Nat.digitChar_eq_zero.mp hzero)
      · -- the leading digit is the leading digit of the tenth part
        obtain ⟨c, tail, hfront, hzero⟩ := ih (value / 10) (by omega) (by omega)
        refine ⟨c, tail ++ [Nat.digitChar (value % 10)], ?_, hzero⟩
        rw [Nat.toDigits_of_base_le (by decide) (by omega), hfront, List.cons_append]

theorem wholeText_toDigits (value : Nat) : WholeText (Nat.toDigits 10 value) := by
  by_cases hvalue : value = 0
  · rw [hvalue]
    exact .zero
  · obtain ⟨c, tail, hdigits, hzero⟩ := exists_toDigits_eq_cons hvalue
    have hall := isDigits_toDigits value
    rw [hdigits] at hall ⊢
    exact .digits hall hzero

/-- A natural number spelled by its digits. -/
def Numeral.ofNat (value : Nat) : Numeral where
  negative := false
  whole := Nat.toDigits 10 value
  fraction := []
  exponent := []
  whole_text := wholeText_toDigits value
  fraction_text := .none
  exponent_text := .none

theorem Numeral.text_ofNat (value : Nat) : (ofNat value).text = Nat.toDigits 10 value :=
  List.append_nil _

theorem Numeral.value_ofNat (value : Nat) : (ofNat value).value = .natural value :=
  congrArg natural (digitsValue_toDigits value)

/-! ## Values -/

/-- Names that all have content make an object. -/
theorem ofMembers_some (members : List (String × Json)) :
    ofMembers (members.map fun member => (some member.1, member.2)) = .object members := by
  have hnames : (members.map fun member => (some member.1, member.2)).mapM
      (fun (member : Option String × Json) => member.1.map fun text => (text, member.2))
        = some members := by
    induction members with
    | nil => rfl
    | cons member rest ih => simp [ih]
  simp only [ofMembers, hnames]

mutual

/-- The compact text of a plain value is one of its texts. -/
theorem Plain.hasText : ∀ {value : Json}, value.Plain → HasText value value.render
  | .null, _ => .null
  | .bool true, _ => .true
  | .bool false, _ => .false
  | .natural value, _ => by
      have hnumber := HasText.number (.ofNat value)
      rwa [Numeral.value_ofNat, Numeral.text_ofNat] at hnumber
  | .string text, _ => .string (literalText_renderString text)
  | .array elements, hplain => by
      by_cases hne : elements = []
      · rw [hne]
        exact @HasText.emptyArray [] (List.forall_mem_nil _)
      · exact .array (PlainElements.elementsText hplain hne)
  | .object members, hplain => by
      by_cases hne : members = []
      · rw [hne]
        exact @HasText.emptyObject [] (List.forall_mem_nil _)
      · have hobject := HasText.object (PlainMembers.membersText hplain hne)
        rwa [ofMembers_some] at hobject

theorem PlainElements.elementsText : ∀ {elements : List Json}, PlainElements elements →
    elements ≠ [] → ElementsText elements (renderElements elements)
  | [_], hplain, _ => .last hplain.1.hasText
  | _ :: next :: others, hplain, _ =>
      .cons hplain.1.hasText (PlainElements.elementsText hplain.2 (List.cons_ne_nil next others))

theorem PlainMembers.membersText : ∀ {members : List (String × Json)}, PlainMembers members →
    members ≠ [] → MembersText (members.map fun member => (some member.1, member.2))
      (renderMembers members)
  | [(name, _)], hplain, _ => .last (literalText_renderString name) hplain.1.hasText
  | (name, _) :: next :: others, hplain, _ =>
      .cons (literalText_renderString name) hplain.1.hasText
        (PlainMembers.membersText hplain.2 (List.cons_ne_nil next others))

end

theorem Plain.hasText_toText {value : Json} (hplain : value.Plain) :
    HasText value value.toText.toList := by
  rw [toText, String.toList_ofList]
  exact hplain.hasText

end DeclCheck.Json
