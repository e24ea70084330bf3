/-
# DeclCheck.Toml.Scalar — TOML strings, numbers and dates.

Each reader takes the characters ahead and gives what it read with the rest, or nothing if the text
does not start with such a thing.
-/
import DeclCheck.Json.Reader
import DeclCheck.Toml.Value

namespace DeclCheck.Toml

/-- A reader of the characters ahead. -/
abbrev Scan (α : Type) := StateT (List Char) Option α

namespace Scan

/-- The character ahead, which is left there. -/
def peek? : Scan (Option Char) := do
  return (← get).head?

/-- The character ahead, which has to satisfy `accept`. -/
def char (accept : Char → Bool) : Scan Char := do
  match ← get with
  | c :: rest => if accept c then set rest; return c else failure
  | [] => failure

/-- Just the given characters. -/
def exactly (text : List Char) : Scan Unit := do
  match text.isPrefixOf (← get) with
  | true => modify (·.drop text.length)
  | false => failure

/-- The characters ahead that satisfy `accept`, as many as there are. -/
def takeWhile (accept : Char → Bool) : Scan (List Char) := do
  let ahead ← get
  set (ahead.dropWhile accept)
  return ahead.takeWhile accept

/-- Exactly `count` characters that satisfy `accept`. -/
def exactlyMany (accept : Char → Bool) (count : Nat) : Scan (List Char) := do
  let ahead ← get
  let taken := ahead.take count
  if taken.length = count && taken.all accept then
    set (ahead.drop count)
    return taken
  else failure

/-- What `scan` reads, or nothing if it fails. -/
def maybe (scan : Scan α) : Scan (Option α) := fun ahead =>
  match scan ahead with
  | some (value, rest) => some (some value, rest)
  | none => some (none, ahead)

end Scan

/-! ## Characters -/

/-- The two characters that may stand between the words of a line. -/
def isBlank (c : Char) : Bool :=
  c = ' ' || c = '\t'

/-- A character that may stand in a comment: any but a control character, and the tab. -/
def isPrintable (c : Char) : Bool :=
  c = '\t' || (0x20 ≤ c.toNat && c.toNat ≠ 0x7F)

/-- A hexadecimal digit, of either case. -/
def isHexDigit (c : Char) : Bool :=
  (Json.hexValue? c).isSome

/-- A character of a key without quotes. -/
def isBareKeyChar (c : Char) : Bool :=
  c.isAlphanum || c = '_' || c = '-'

/-! ## Strings -/

/-- The character of a code point, if it is one. -/
def charOfCode? (code : Nat) : Option Char :=
  if h : code.isValidChar then some (Char.ofNatAux code h) else none

/-- The character with the code that hexadecimal digits denote. -/
def hexChar? (digits : List Char) : Option Char :=
  (Json.hexDigitsValue? digits).bind charOfCode?

/-- The character that a backslash before `c` stands for, apart from escapes by code. -/
def shortEscape? (c : Char) : Option Char :=
  if c = '"' || c = '\\' then some c
  else if c = 'b' then some (Char.ofNat 8)
  else if c = 'f' then some (Char.ofNat 12)
  else if c = 'n' then some '\n'
  else if c = 'r' then some '\r'
  else if c = 't' then some '\t'
  else none

/-- An escape after its backslash. -/
def readEscape : List Char → Option (Char × List Char)
  | 'u' :: a :: b :: c :: d :: rest => (hexChar? [a, b, c, d]).map (·, rest)
  | 'U' :: a :: b :: c :: d :: e :: f :: g :: h :: rest =>
    (hexChar? [a, b, c, d, e, f, g, h]).map (·, rest)
  | c :: rest => (shortEscape? c).map (·, rest)
  | [] => none

/-- The rest after blanks, a line end, and all blanks and line ends that follow: what a backslash
at the end of a line stands for. -/
def skipLineBreak? (text : List Char) : Option (List Char) :=
  let isSpace c := isBlank c || c = '\n'
  match text.dropWhile isBlank with
  | '\n' :: rest => some (rest.dropWhile isSpace)
  | _ => none

/-- A string between double quotes, after the first; `count` bounds the characters. -/
def readBasic : Nat → List Char → Option (List Char × List Char)
  | 0, _ => none
  | _, [] => none
  | _, '"' :: rest => some ([], rest)
  | count + 1, '\\' :: rest => do
    let (c, rest) ← readEscape rest
    let (text, rest) ← readBasic count rest
    return (c :: text, rest)
  | count + 1, c :: rest =>
    if isPrintable c then do
      let (text, rest) ← readBasic count rest
      return (c :: text, rest)
    else none

/-- A string between tripled double quotes, after the first three.  Up to two quotes may stand
before the closing ones. -/
def readLongBasic : Nat → List Char → Option (List Char × List Char)
  | 0, _ => none
  | _, [] => none
  | _, '"' :: '"' :: '"' :: '"' :: '"' :: rest => some (['"', '"'], rest)
  | _, '"' :: '"' :: '"' :: '"' :: rest => some (['"'], rest)
  | _, '"' :: '"' :: '"' :: rest => some ([], rest)
  | count + 1, '\\' :: rest =>
    match skipLineBreak? rest with
    | some rest => readLongBasic count rest
    | none => do
      let (c, rest) ← readEscape rest
      let (text, rest) ← readLongBasic count rest
      return (c :: text, rest)
  | count + 1, c :: rest =>
    if isPrintable c || c = '\n' then do
      let (text, rest) ← readLongBasic count rest
      return (c :: text, rest)
    else none

/-- A string between single quotes, after the first. -/
def readLiteral : List Char → Option (List Char × List Char)
  | [] => none
  | '\'' :: rest => some ([], rest)
  | c :: rest =>
    if isPrintable c then do
      let (text, rest) ← readLiteral rest
      return (c :: text, rest)
    else none

/-- A string between tripled single quotes, after the first three. -/
def readLongLiteral : List Char → Option (List Char × List Char)
  | [] => none
  | '\'' :: '\'' :: '\'' :: '\'' :: '\'' :: rest => some (['\'', '\''], rest)
  | '\'' :: '\'' :: '\'' :: '\'' :: rest => some (['\''], rest)
  | '\'' :: '\'' :: '\'' :: rest => some ([], rest)
  | c :: rest =>
    if isPrintable c || c = '\n' then do
      let (text, rest) ← readLongLiteral rest
      return (c :: text, rest)
    else none

/-- A line end right after the opening quotes does not count. -/
def dropFirstLineEnd : List Char → List Char
  | '\n' :: rest => rest
  | text => text

/-- A string of one line. -/
def scanShortString : Scan String := fun
  | '"' :: rest => (readBasic (rest.length + 1) rest).map fun (text, rest) =>
    (String.ofList text, rest)
  | '\'' :: rest => (readLiteral rest).map fun (text, rest) => (String.ofList text, rest)
  | _ => none

/-- A string of any of the four kinds: basic or literal, on one line or several. -/
def scanString : Scan String := fun
  | '"' :: '"' :: '"' :: rest =>
    (readLongBasic (rest.length + 1) (dropFirstLineEnd rest)).map fun (text, rest) =>
      (String.ofList text, rest)
  | '\'' :: '\'' :: '\'' :: rest =>
    (readLongLiteral (dropFirstLineEnd rest)).map fun (text, rest) => (String.ofList text, rest)
  | text => scanShortString text

/-! ## Numbers -/

/-- Digits in groups that single underscores divide. -/
def scanDigits (accept : Char → Bool) : Scan (List Char) := do
  let all ← Scan.takeWhile fun c => accept c || c = '_'
  let groups := all.splitOn '_'
  if groups.all (!·.isEmpty) then return groups.flatten else failure

/-- Digits without a leading zero, or a single zero. -/
def scanWhole : Scan (List Char) := do
  match ← Scan.peek? with
  | some '0' =>
    let _ ← Scan.char (· = '0')
    return ['0']
  | _ => scanDigits Char.isDigit

/-- A sign, which may be missing. -/
def scanSign : Scan (Option Char) :=
  Scan.maybe (Scan.char fun c => c = '+' || c = '-')

/-- The number that digits of a base up to sixteen denote. -/
def digitsValue (base : Nat) (digits : List Char) : Nat :=
  digits.foldl (fun value c => value * base + (Json.hexValue? c).getD 0) 0

/-- An integer that fits a signed 64-bit word. -/
def wordValue? (value : Int) : Option Value :=
  if Int64.minValue.toInt ≤ value && value ≤ Int64.maxValue.toInt then some (.integer value)
  else none

/-- An integer in the base that a mark after the zero announces.  It takes no sign. -/
def scanBased (mark : Char) (base : Nat) (accept : Char → Bool) : Scan Value := do
  Scan.exactly ['0', mark]
  let digits ← scanDigits accept
  wordValue? (digitsValue base digits)

/-- An integer in any of the four bases. -/
def scanInteger : Scan Value :=
  scanBased 'x' 16 isHexDigit <|>
  scanBased 'o' 8 (fun c => '0' ≤ c && c ≤ '7') <|>
  scanBased 'b' 2 (fun c => c = '0' || c = '1') <|> do
    let sign ← scanSign
    let value := digitsValue 10 (← scanWhole)
    wordValue? (if sign = some '-' then -value else value)

/-- Whether `digits · 10 ^ exponent` is too large for a double: it would round past the largest
finite one, to 2^1024. -/
def overflowsDouble (digits : Nat) (exponent : Int) : Bool :=
  let size := (Nat.toDigits 10 digits).length
  let bound := Nat.pow 2 1024 - Nat.pow 2 970
  if digits = 0 || size + exponent ≤ 300 then false
  else if size + exponent > 400 then true
  else if 0 ≤ exponent then decide (bound ≤ digits * Nat.pow 10 exponent.toNat)
  else decide (bound * Nat.pow 10 (-exponent).toNat ≤ digits)

/-- The exponent of a number. -/
def scanExponent : Scan Int := do
  let _ ← Scan.char fun c => c = 'e' || c = 'E'
  let sign ← scanSign
  let value := digitsValue 10 (← scanDigits Char.isDigit)
  return if sign = some '-' then -value else value

/-- A number with a fraction, an exponent or both; it may not be too large for a double. -/
def scanDecimal : Scan Unit := do
  let sign ← scanSign
  let whole ← scanWhole
  let fraction ← Scan.maybe do
    let _ ← Scan.char (· = '.')
    scanDigits Char.isDigit
  let exponent ← Scan.maybe scanExponent
  if fraction.isNone && exponent.isNone then failure
  let digits := whole ++ fraction.getD []
  let scale := exponent.getD 0 - ((fraction.getD []).length : Int)
  if sign ≠ some '-' && overflowsDouble (digitsValue 10 digits) scale then failure

/-- The two numbers that have names, infinity and not-a-number. -/
def scanSpecialFloat : Scan Unit := do
  let _ ← scanSign
  Scan.exactly "inf".toList <|> Scan.exactly "nan".toList

/-- The text that a scan takes. -/
def Scan.taken (scan : Scan Unit) : Scan String := do
  let before ← get
  scan
  return String.ofList (before.take (before.length - (← get).length))

/-- A number that is no integer, kept as it is written. -/
def scanFloat : Scan Value := do
  return .float (← (scanDecimal <|> scanSpecialFloat).taken)

/-! ## Dates and times -/

/-- A number of exactly `count` digits within bounds. -/
def scanFixed (count low high : Nat) : Scan Nat := do
  let value := digitsValue 10 (← Scan.exactlyMany Char.isDigit count)
  if low ≤ value && value ≤ high then return value else failure

/-- The length of a month in the given year. -/
def daysInMonth (year month : Nat) : Nat :=
  if month = 2 then
    if (year % 4 = 0 && year % 100 ≠ 0) || year % 400 = 0 then 29 else 28
  else if month = 4 || month = 6 || month = 9 || month = 11 then 30
  else 31

/-- A date that the calendar has. -/
def scanDate : Scan Unit := do
  let year ← scanFixed 4 0 9999
  Scan.exactly ['-']
  let month ← scanFixed 2 1 12
  Scan.exactly ['-']
  let _ ← scanFixed 2 1 (daysInMonth year month)

/-- A time of day.  A leap second is let through, and a point needs digits after it. -/
def scanTime : Scan Unit := do
  let _ ← scanFixed 2 0 23
  Scan.exactly [':']
  let _ ← scanFixed 2 0 59
  Scan.exactly [':']
  let _ ← scanFixed 2 0 60
  let _ ← Scan.maybe do
    Scan.exactly ['.']
    let digits ← Scan.takeWhile Char.isDigit
    if digits.isEmpty then failure

/-- The distance from universal time. -/
def scanOffset : Scan Unit := do
  match ← Scan.maybe (Scan.char fun c => c = 'Z' || c = 'z') with
  | some _ => pure ()
  | none =>
    let _ ← Scan.char fun c => c = '+' || c = '-'
    let _ ← scanFixed 2 0 23
    Scan.exactly [':']
    let _ ← scanFixed 2 0 59

/-- A date, a time of day, or a date with a time and perhaps an offset, kept as it is written. -/
def scanDateTime : Scan Value := do
  let withDate : Scan Unit := do
    scanDate
    let _ ← Scan.maybe do
      let _ ← Scan.char fun c => c = 'T' || c = 't' || c = ' '
      scanTime
      let _ ← Scan.maybe scanOffset
  return .dateTime (← (withDate <|> scanTime).taken)

end DeclCheck.Toml
