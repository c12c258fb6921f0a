import SlideDeck.Scope.Table
import SlideDeck.Toml.Reader

/-!
# The tables of a TOML 1.0 document

A key with dots reaches into tables inside of tables, and makes those that are missing. So does a
header. Each table is defined once: by its header, by the dotted keys that reach it, or as an inline
table.
-/

namespace SlideDeck.Toml

/-- How a table came to be. -/
inductive Origin where
  /-- By a header of its own. -/
  | header
  /-- On the way to another table with a header; a header of its own may follow. -/
  | implied
  /-- By dotted keys. -/
  | dotted
deriving DecidableEq, Repr

/-- What stands under a key. -/
inductive Node where
  | value (v : Value)
  | table (origin : Origin) (entries : Table Node)
  /-- An array of tables: all but the last, and the last. -/
  | tables (earlier : List (Table Node)) (last : Table Node)

abbrev Entries := Table Node

namespace Entries

/-- Changes the table that the path leads to, and makes the tables that are missing on the way, each
of the origin `made`. In an array of tables the path leads into the last one. A table with a header
is closed to dotted keys. -/
def alter (made : Origin) (change : Origin → Entries → Option Entries) :
    (path : List String) → Origin → Entries → Option Entries
  | [], origin, entries => change origin entries
  | k :: path, _, entries =>
    match entries.get? k with
    | none => do return entries.insert k (.table made (← alter made change path made {}))
    | some (.value _) => none
    | some (.tables earlier last) => do
      return entries.insert k (.tables earlier (← alter made change path .header last))
    | some (.table origin inner) =>
      if made = .dotted ∧ origin = .header then none
      else do return entries.insert k (.table origin (← alter made change path origin inner))

/-- A path as the way to a table, and the key in it. -/
def splitPath (path : List String) : Option (List String × String) :=
  path.getLast?.map (path.dropLast, ·)

/-- Changes what stands under the last key of a path, in the table that the others lead to. -/
def atKey (made : Origin) (put : (way : List String) → String → Origin → Entries → Option Entries)
    (path : List String) (entries : Entries) : Option Entries := do
  let (way, k) ← splitPath path
  alter made (put way k) way .header entries

/-- Gives a key its value. Dotted keys define only tables that no header defines. -/
def define (path : List String) (v : Value) : Entries → Option Entries :=
  atKey .dotted (fun way k origin inner =>
    if way ≠ [] ∧ origin ≠ .dotted ∨ inner.has k then none
    else some (inner.insert k (.value v))) path

/-- Defines a table by its header. -/
def openTable : List String → Entries → Option Entries :=
  atKey .implied fun _ k _ inner =>
    match inner.get? k with
    | none => some (inner.insert k (.table .header {}))
    | some (.table .implied innermost) => some (inner.insert k (.table .header innermost))
    | _ => none

/-- Adds a table to an array of tables. -/
def openArrayTable : List String → Entries → Option Entries :=
  atKey .implied fun _ k _ inner =>
    match inner.get? k with
    | none => some (inner.insert k (.tables [] {}))
    | some (.tables earlier last) => some (inner.insert k (.tables (earlier ++ [last]) {}))
    | _ => none

/-- The entries of lines, the first of which belong to the table that `current` leads to. -/
def addLines (current : List String) : List Line → Entries → Option Entries
  | [], entries => some entries
  | .table path :: rest, entries => do addLines path rest (← openTable path entries)
  | .arrayTable path :: rest, entries => do addLines path rest (← openArrayTable path entries)
  | .entry path v :: rest, entries => do
    addLines current rest (← alter .implied (fun _ => define path v) current .header entries)

/-- The entries of an inline table, if each key is given once. -/
def ofInline (pairs : List (List String × Value)) : Option Entries :=
  pairs.foldlM (fun entries (path, v) => define path v entries) {}

end Entries

namespace Reader

/-- An inline table behind its opening brace. -/
def inlineTable (value : Reader Value) : Reader Value := do
  blanks
  if ← accept '\x7d' then return .other
  let pairs ← inlineEntries value ((← get).length + 1)
  match Entries.ofInline pairs with
  | some _ => return .other
  | none => failure

/-- A value with at most `room` brackets around one another. -/
def value : (room : Nat) → Reader Value
  | 0 => scalar
  | room + 1 => do
    if ← accept '[' then
      arrayItems (value room) ((← get).length + 1)
      return .other
    else if ← accept '\x7b' then inlineTable (value room)
    else scalar

/-- A line with what is on it, if anything. -/
def line : Reader (Option Line) := do
  blanks
  match ← get with
  | [] => return none
  | '#' :: _ | '\n' :: _ | '\r' :: _ =>
    lineEnd
    return none
  | '[' :: '[' :: rest =>
    set rest
    let path ← key
    char ']'
    char ']'
    lineEnd
    return some (.arrayTable path)
  | '[' :: rest =>
    set rest
    let path ← key
    char ']'
    lineEnd
    return some (.table path)
  | _ =>
    let (path, v) ← keyValue (value maxNesting)
    lineEnd
    return some (.entry path v)

/-- All lines; `fuel` bounds their number. -/
def lines : (fuel : Nat) → List Char → Option (List Line)
  | 0, _ => none
  | _ + 1, [] => some []
  | fuel + 1, text => do
    let (l, rest) ← line text
    return l.toList ++ (← lines fuel rest)

end Reader

/-- The text without a byte order mark at its start. -/
def dropMark : List Char → List Char
  | '\ufeff' :: rest => rest
  | text => text

/-- The entries of a document. -/
def document? (text : List Char) : Option Entries := do
  let lines ← Reader.lines (text.length + 1) (dropMark text)
  Entries.addLines [] lines {}

end SlideDeck.Toml
