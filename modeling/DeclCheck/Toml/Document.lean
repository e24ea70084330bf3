/-
# DeclCheck.Toml.Document — reading TOML documents.

A document is a list of lines: blank ones, headers of tables and of arrays of tables, and keys with
values.  Line ends are a line feed or a carriage return with one; the text is brought to the first
form before it is read, and a carriage return on its own is refused like other control characters.

Arrays and inline tables may nest 79 deep, and a dotted key may have 79 parts.
-/
import DeclCheck.Toml.Scalar

namespace DeclCheck.Toml

/-- How deep values nest, and how many parts a key has, at most. -/
def maxNesting : Nat := 79

/-! ## Blanks and keys -/

/-- Pass over blanks on the line. -/
def skipBlanks : Scan Unit := do
  let _ ← Scan.takeWhile isBlank

/-- A comment, up to the end of its line. -/
def scanComment : Scan Unit := do
  let _ ← Scan.char (· = '#')
  let _ ← Scan.takeWhile isPrintable

/-- Blanks, comments and line ends; `count` bounds the lines. -/
def skipLines : Nat → Scan Unit
  | 0 => pure ()
  | count + 1 => do
    skipBlanks
    let _ ← Scan.maybe scanComment
    match ← Scan.peek? with
    | some '\n' =>
      let _ ← Scan.char (· = '\n')
      skipLines count
    | _ => pure ()

/-- Blanks, comments and line ends inside an array. -/
def skipAllBlanks : Scan Unit := do
  skipLines ((← get).length + 1)

/-- One part of a key: a quoted one, or bare characters, of which there has to be one. -/
def scanKeyPart : Scan String := do
  match ← Scan.peek? with
  | some '"' | some '\'' => scanShortString
  | _ =>
    let bare ← Scan.takeWhile isBareKeyChar
    if bare.isEmpty then failure else return String.ofList bare

/-- The parts of a dotted key; `count` bounds them. -/
def scanKeyParts : Nat → Scan (List String)
  | 0 => failure
  | count + 1 => do
    skipBlanks
    let part ← scanKeyPart
    skipBlanks
    match ← Scan.peek? with
    | some '.' =>
      let _ ← Scan.char (· = '.')
      return part :: (← scanKeyParts count)
    | _ => return [part]

/-- A key, dotted or not. -/
def scanKey : Scan (List String) :=
  scanKeyParts maxNesting

/-! ## Values -/

/-- Elements of an array after its opening bracket, up to the closing one.  The last element may
have a comma. -/
def scanElements (element : Scan Value) : Nat → Scan (List Value)
  | 0 => failure
  | count + 1 => do
    skipAllBlanks
    match ← Scan.peek? with
    | some ']' =>
      let _ ← Scan.char (· = ']')
      return []
    | _ =>
      let value ← element
      skipAllBlanks
      match ← Scan.char fun c => c = ',' || c = ']' with
      | ',' => return value :: (← scanElements element count)
      | _ => return [value]

/-- Keys and values of an inline table, up to the closing brace. -/
def scanPairs (value : Scan Value) : Nat → Table → Scan Table
  | 0, _ => failure
  | count + 1, table => do
    let key ← scanKey
    Scan.exactly ['=']
    skipBlanks
    let given ← value
    skipBlanks
    let table ← (table.setKey key given : Option Table)
    match ← Scan.char fun c => c = ',' || c = '\x7d' with
    | ',' => scanPairs value count table
    | _ => return table

/-- An inline table after its opening brace. -/
def scanInlineTable (value : Scan Value) : Scan Value := do
  skipBlanks
  match ← Scan.peek? with
  | some '\x7d' =>
    let _ ← Scan.char (· = '\x7d')
    return .table []
  | _ => return (← scanPairs value ((← get).length + 1) .root).complete

/-- A value that nests at most `levels` arrays and inline tables. -/
def scanValue : Nat → Scan Value
  | 0 => scanFlat
  | levels + 1 => do
    match ← Scan.peek? with
    | some '[' =>
      let _ ← Scan.char (· = '[')
      return .array (← scanElements (scanValue levels) ((← get).length + 1))
    | some '\x7b' =>
      let _ ← Scan.char (· = '\x7b')
      scanInlineTable (scanValue levels)
    | _ => scanFlat
where
  /-- A value that nests nothing. -/
  scanFlat : Scan Value := do
    match ← Scan.peek? with
    | some '"' | some '\'' => return .string (← scanString)
    | some 't' =>
      Scan.exactly "true".toList
      return .boolean true
    | some 'f' =>
      Scan.exactly "false".toList
      return .boolean false
    | _ => scanDateTime <|> scanFloat <|> scanInteger

/-! ## Documents -/

/-- The rest of a line after its content. -/
def endLine : Scan Unit := do
  skipBlanks
  let _ ← Scan.maybe scanComment
  match ← Scan.peek? with
  | none => pure ()
  | some _ =>
    let _ ← Scan.char (· = '\n')

/-- A document read so far: what it holds, and the header that keys now belong to. -/
structure Draft where
  table : Table := .root
  header : List String := []

/-- One line that is not blank. -/
def scanLine (draft : Draft) : Scan Draft := do
  match ← get with
  | '[' :: '[' :: rest =>
    set rest
    let header ← scanKey
    Scan.exactly [']', ']']
    endLine
    return ⟨← (draft.table.openArrayTable header : Option Table), header⟩
  | '[' :: rest =>
    set rest
    let header ← scanKey
    Scan.exactly [']']
    endLine
    return ⟨← (draft.table.openTable header : Option Table), header⟩
  | _ =>
    let key ← scanKey
    Scan.exactly ['=']
    skipBlanks
    let value ← scanValue maxNesting
    endLine
    return { draft with
      table := ← (draft.table.setKeyUnder draft.header key value : Option Table) }

/-- Lines up to the end of the text. -/
def scanDocument : Nat → Draft → Scan Table
  | 0, _ => failure
  | count + 1, draft => do
    skipAllBlanks
    match ← Scan.peek? with
    | none => return draft.table
    | some _ => scanDocument count (← scanLine draft)

/-- Line ends in their one-character form. -/
def joinLineEnds : List Char → List Char
  | '\r' :: '\n' :: rest => '\n' :: joinLineEnds rest
  | c :: rest => c :: joinLineEnds rest
  | [] => []

/-- A byte order mark at the very start does not count. -/
def dropByteOrderMark : List Char → List Char
  | [] => []
  | c :: rest => if c.toNat = 0xFEFF then rest else c :: rest

/-- The entries of a document. -/
def parse? (text : String) : Option (List (String × Value)) := do
  let characters := joinLineEnds (dropByteOrderMark text.toList)
  let (table, _) ← scanDocument (characters.length + 1) {} characters
  match table.complete with
  | .table entries => some entries
  | _ => none

end DeclCheck.Toml
