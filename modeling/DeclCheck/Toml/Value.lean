/-
# DeclCheck.Toml.Value — TOML values and the tables that a document builds up.

A document sets keys one after another.  What may still be added to a table depends on how it came
about: one with a header of its own takes no second header and no dotted keys from elsewhere, one
that dotted keys made takes no header, and one that only stands on the way to a deeper header may
still get both.  An inline table or an array is complete where it stands.
-/
import DeclCheck.NameMap

namespace DeclCheck.Toml

/-- A TOML value. -/
inductive Value where
  | string (text : String)
  | integer (value : Int)
  /-- A number with a fraction or an exponent, as written. -/
  | float (text : String)
  | boolean (value : Bool)
  /-- A date, a time of day or both, as written. -/
  | dateTime (text : String)
  | array (elements : List Value)
  | table (entries : List (String × Value))
deriving Inhabited

/-- How a table came about. -/
inductive TableKind where
  /-- By a header, or as the document itself. -/
  | explicit
  /-- On the way to a header. -/
  | implicit
  /-- By dotted keys. -/
  | dotted
deriving DecidableEq, Inhabited

mutual

/-- What a key stands for in a table that is still being built. -/
inductive Node where
  | value (value : Value)
  | table (table : Table)
  /-- An array of tables; only the last one can grow. -/
  | tables (before : List Table) (last : Table)

/-- A table that is still being built, and how it came about. -/
structure Table where
  kind : TableKind
  entries : List (String × Node)

end

instance : Inhabited Table := ⟨⟨.explicit, []⟩⟩

namespace Table

/-- The document before its first line. -/
def root : Table := ⟨.explicit, []⟩

/-- What a key stands for so far. -/
def get? (table : Table) (key : String) : Option Node :=
  table.entries.lookup key

/-- Give a key its node.  A key that is there keeps its place, and a new one comes last. -/
def set (table : Table) (key : String) (node : Node) : Table :=
  { table with entries := put key node table.entries }

/-- Change the table at the end of a path.  Missing tables on the way are made as `made`; present
ones are entered if `enter` allows it. -/
def modifyAt (made : TableKind) (enter : TableKind → Bool) (change : Table → Option Table) :
    List String → Table → Option Table
  | [], table => change table
  | key :: path, table =>
    match table.get? key with
    | none => do
      let child ← modifyAt made enter change path ⟨made, []⟩
      return table.set key (.table child)
    | some (.table child) =>
      if enter child.kind then do
        let child ← modifyAt made enter change path child
        return table.set key (.table child)
      else none
    | some (.tables before last) => do
      let last ← modifyAt made enter change path last
      return table.set key (.tables before last)
    | some (.value _) => none

/-- Split a key's parts into the path and the last one. -/
def splitLast : List String → Option (List String × String)
  | [] => none
  | [last] => some ([], last)
  | key :: rest => (splitLast rest).map fun (path, last) => (key :: path, last)

/-- Give a key its value.  A dotted key must end in a table that dotted keys made. -/
def setKey (key : List String) (value : Value) (table : Table) : Option Table := do
  let (path, last) ← splitLast key
  let insert (target : Table) : Option Table :=
    if !path.isEmpty && target.kind ≠ .dotted then none
    else if (target.get? last).isSome then none
    else some (target.set last (.value value))
  modifyAt .dotted (· ≠ .explicit) insert path table

/-- Open the table of a header. -/
def openTable (header : List String) (table : Table) : Option Table := do
  let (path, last) ← splitLast header
  let insert (target : Table) : Option Table :=
    match target.get? last with
    | none => some (target.set last (.table root))
    | some (.table child) =>
      if child.kind = .implicit then
        some (target.set last (.table { child with kind := .explicit }))
      else none
    | some _ => none
  modifyAt .implicit (fun _ => true) insert path table

/-- Open one more table of an array of tables. -/
def openArrayTable (header : List String) (table : Table) : Option Table := do
  let (path, last) ← splitLast header
  let insert (target : Table) : Option Table :=
    match target.get? last with
    | none => some (target.set last (.tables [] root))
    | some (.tables before current) => some (target.set last (.tables (before ++ [current]) root))
    | some _ => none
  modifyAt .implicit (fun _ => true) insert path table

/-- Give a key its value in the table of a header. -/
def setKeyUnder (header key : List String) (value : Value) (table : Table) : Option Table :=
  modifyAt .implicit (fun _ => true) (setKey key value) header table

end Table

mutual

/-- The value of a node once nothing more is added. -/
def Node.complete : Node → Value
  | .value value => value
  | .table table => table.complete
  | .tables before last => .array (completeAll before ++ [last.complete])

/-- The value of a table once nothing more is added. -/
def Table.complete : Table → Value
  | ⟨_, entries⟩ => .table (completeEntries entries)

/-- The values of an array of tables. -/
def completeAll : List Table → List Value
  | [] => []
  | table :: rest => table.complete :: completeAll rest

/-- The entries of a table with their values. -/
def completeEntries : List (String × Node) → List (String × Value)
  | [] => []
  | (key, node) :: rest => (key, node.complete) :: completeEntries rest

end

end DeclCheck.Toml
