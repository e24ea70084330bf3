/-
# DeclCheck.Json.Reader — reading JSON text.

The grammar is the strict one: no trailing comma, no control character inside a string, nothing
but blanks around the value.  Nesting is not limited here; how deep a value may nest depends on
what it is read as (`DeclCheck.Json.Record`).

The recursive readers carry a count that bounds the calls; every second call takes a character, so
twice the length of the text is always enough and `parse?` shows none of it.
-/
import DeclCheck.Json.Basic

namespace DeclCheck.Json

/-! ## Blanks and numbers -/

/-- The four characters that may stand around values. -/
def isBlank (c : Char) : Bool :=
  c = ' ' || c = '\n' || c = '\r' || c = '\t'

/-- The text after its leading blanks. -/
def skipBlanks (text : List Char) : List Char :=
  text.dropWhile isBlank

/-- The number that a list of decimal digits denotes. -/
def digitsValue (digits : List Char) : Nat :=
  digits.foldl (fun value c => value * 10 + (c.toNat - '0'.toNat)) 0

/-- The leading digits and the rest. -/
def readDigits (text : List Char) : List Char × List Char :=
  (text.takeWhile Char.isDigit, text.dropWhile Char.isDigit)

/-- The whole part of a number: digits without a leading zero, or a single zero. -/
def readWhole : List Char → Option (List Char × List Char)
  | '0' :: rest => some (['0'], rest)
  | text =>
    match readDigits text with
    | ([], _) => none
    | (digits, rest) => some (digits, rest)

/-- The part after the point, if there is a point. -/
def readFraction : List Char → Option (List Char × List Char)
  | '.' :: rest =>
    match readDigits rest with
    | ([], _) => none
    | (digits, rest) => some ('.' :: digits, rest)
  | text => some ([], text)

/-- The sign of an exponent, which may be missing. -/
def readSign : List Char → List Char × List Char
  | '+' :: rest => (['+'], rest)
  | '-' :: rest => (['-'], rest)
  | text => ([], text)

/-- The exponent, if there is one. -/
def readExponent : List Char → Option (List Char × List Char)
  | [] => some ([], [])
  | mark :: rest =>
    if mark = 'e' || mark = 'E' then
      let (sign, rest) := readSign rest
      match readDigits rest with
      | ([], _) => none
      | (digits, rest) => some (mark :: (sign ++ digits), rest)
    else some ([], mark :: rest)

/-- A number.  Only one spelled with digits alone has a value here. -/
def readNumber (text : List Char) : Option (Json × List Char) := do
  let (sign, rest) :=
    match text with
    | '-' :: rest => (['-'], rest)
    | _ => ([], text)
  let (whole, rest) ← readWhole rest
  let (fraction, rest) ← readFraction rest
  let (exponent, rest) ← readExponent rest
  if sign.isEmpty && fraction.isEmpty && exponent.isEmpty then
    return (.natural (digitsValue whole), rest)
  else
    return (.decimal (String.ofList (sign ++ whole ++ fraction ++ exponent)), rest)

/-! ## Strings -/

/-- What one character or escape of a string literal contributes. -/
inductive StringUnit where
  | char (c : Char)
  /-- The leading half of a surrogate pair, by its offset from the first one. -/
  | leading (offset : Nat)
  /-- The trailing half of a surrogate pair, by its offset from the first one. -/
  | trailing (offset : Nat)

/-- What a code unit contributes: a surrogate is half of a character, and any other is a whole one.
-/
def StringUnit.ofCode (code : Nat) : StringUnit :=
  if 0xD800 ≤ code && code < 0xDC00 then .leading (code - 0xD800)
  else if 0xDC00 ≤ code && code < 0xE000 then .trailing (code - 0xDC00)
  else .char (Char.ofNat code)

/-- The value of a hexadecimal digit, of either case. -/
def hexValue? (c : Char) : Option Nat :=
  if '0' ≤ c && c ≤ '9' then some (c.toNat - '0'.toNat)
  else if 'a' ≤ c && c ≤ 'f' then some (c.toNat - 'a'.toNat + 10)
  else if 'A' ≤ c && c ≤ 'F' then some (c.toNat - 'A'.toNat + 10)
  else none

/-- The number that a list of hexadecimal digits denotes. -/
def hexDigitsValue? (digits : List Char) : Option Nat :=
  digits.foldlM (fun value c => (hexValue? c).map (value * 16 + ·)) 0

/-- The character that a backslash before `c` stands for, apart from escapes by code. -/
def shortEscape? (c : Char) : Option Char :=
  if c = '"' || c = '\\' || c = '/' then some c
  else if c = 'b' then some (Char.ofNat 8)
  else if c = 'f' then some (Char.ofNat 12)
  else if c = 'n' then some '\n'
  else if c = 'r' then some '\r'
  else if c = 't' then some '\t'
  else none

/-- The units of a string literal whose opening quote has been taken, up to its closing quote. -/
def readUnits : List Char → Option (List StringUnit × List Char)
  | [] => none
  | '"' :: rest => some ([], rest)
  | '\\' :: 'u' :: a :: b :: c :: d :: rest => do
    let code ← hexDigitsValue? [a, b, c, d]
    let (units, rest) ← readUnits rest
    return (.ofCode code :: units, rest)
  | '\\' :: c :: rest => do
    let plain ← shortEscape? c
    let (units, rest) ← readUnits rest
    return (.char plain :: units, rest)
  | c :: rest =>
    if c.toNat < 32 then none
    else do
      let (units, rest) ← readUnits rest
      return (.char c :: units, rest)

/-- The characters of a string: surrogate halves must come in pairs, the leading one first. -/
def pairUnits : List StringUnit → Option (List Char)
  | [] => some []
  | .char c :: rest => (pairUnits rest).map (c :: ·)
  | .leading high :: .trailing low :: rest =>
    (pairUnits rest).map (Char.ofNat (0x10000 + high * 0x400 + low) :: ·)
  | _ => none

/-- A string literal after its opening quote; its content is missing if surrogates do not pair. -/
def readString (text : List Char) : Option (Option String × List Char) := do
  let (units, rest) ← readUnits text
  return ((pairUnits units).map String.ofList, rest)

/-! ## Values -/

/-- An object, unless one of its names has no content. -/
def ofMembers (members : List (Option String × Json)) : Json :=
  match members.mapM fun (name, value) => name.map fun text => (text, value) with
  | some named => .object named
  | none => .unreadable

mutual

/-- One value and the text after it; blanks before the value are passed over. -/
def readValue : Nat → List Char → Option (Json × List Char)
  | 0, _ => none
  | count + 1, text =>
    match skipBlanks text with
    | '\x7b' :: rest =>
      match skipBlanks rest with
      | '\x7d' :: rest => some (.object [], rest)
      | rest => do
        let (members, rest) ← readMembers count rest
        return (ofMembers members, rest)
    | '[' :: rest =>
      match skipBlanks rest with
      | ']' :: rest => some (.array [], rest)
      | rest => do
        let (elements, rest) ← readElements count rest
        return (.array elements, rest)
    | '"' :: rest => do
      let (content, rest) ← readString rest
      return (content.elim .unreadable .string, rest)
    | 'n' :: 'u' :: 'l' :: 'l' :: rest => some (.null, rest)
    | 't' :: 'r' :: 'u' :: 'e' :: rest => some (.bool true, rest)
    | 'f' :: 'a' :: 'l' :: 's' :: 'e' :: rest => some (.bool false, rest)
    | rest => readNumber rest

/-- One or more elements, and the bracket that closes them. -/
def readElements : Nat → List Char → Option (List Json × List Char)
  | 0, _ => none
  | count + 1, text => do
    let (value, rest) ← readValue count text
    match skipBlanks rest with
    | ',' :: rest =>
      let (elements, rest) ← readElements count rest
      return (value :: elements, rest)
    | ']' :: rest => return ([value], rest)
    | _ => none

/-- One or more members, and the brace that closes them. -/
def readMembers : Nat → List Char → Option (List (Option String × Json) × List Char)
  | 0, _ => none
  | count + 1, text =>
    match skipBlanks text with
    | '"' :: rest => do
      let (name, rest) ← readString rest
      match skipBlanks rest with
      | ':' :: rest =>
        let (value, rest) ← readValue count rest
        match skipBlanks rest with
        | ',' :: rest =>
          let (members, rest) ← readMembers count rest
          return ((name, value) :: members, rest)
        | '\x7d' :: rest => return ([(name, value)], rest)
        | _ => none
      | _ => none
    | _ => none

end

/-- The value that a whole text spells. -/
def parse? (text : String) : Option Json := do
  let characters := text.toList
  let (value, rest) ← readValue (2 * characters.length + 2) characters
  if (skipBlanks rest).isEmpty then return value else none

end DeclCheck.Json
