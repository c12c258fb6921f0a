import SlideDeck.Toml.Quoted
import SlideDeck.Toml.Time

/-!
# The lines of a TOML 1.0 document

A document is a sequence of lines: headers of tables, headers of arrays of tables, and entries. An
entry gives a value to a key. Of a value only integers are kept; of all others the reader knows that
they are well formed.

Arrays and inline tables may be nested in one another up to `maxNesting` deep, and a key has no more
parts than that.
-/

namespace SlideDeck.Toml

/-- What an entry is set to. -/
inductive Value where
  | integer (n : Int)
  /-- A string, a float, a truth value, a date or time, an array or an inline table. -/
  | other
deriving DecidableEq, Repr

/-- One line with something on it. -/
inductive Line where
  | table (path : List String)
  | arrayTable (path : List String)
  | entry (path : List String) (value : Value)
deriving DecidableEq, Repr

/-- How deep arrays and inline tables may be nested, and how many parts a key may have. -/
def maxNesting : Nat := 79

/-- Takes characters off the front of a text. -/
abbrev Reader := StateT (List Char) Option

namespace Reader

/-! ## Blanks and line ends -/

def isBlank (c : Char) : Bool := c == ' ' || c == '\t'

def blanks : Reader Unit := modify (·.dropWhile isBlank)

/-- Takes the character if it is the next one, and tells whether it is. -/
def accept (c : Char) : Reader Bool
  | [] => some (false, [])
  | d :: rest => if d = c then some (true, rest) else some (false, d :: rest)

/-- The given character. -/
def char (c : Char) : Reader Unit := do
  if ← accept c then return () else failure

/-- Blanks, comments and line breaks; a comment goes up to a line break. -/
def skipGap (inComment : Bool) : List Char → Option (List Char)
  | [] => if inComment then none else some []
  | '\n' :: rest => skipGap false rest
  | '\r' :: '\n' :: rest => skipGap false rest
  | c :: rest =>
    if inComment then if isPlain c then skipGap true rest else none
    else if isBlank c then skipGap false rest
    else if c = '#' then skipGap true rest
    else if c = '\r' then none
    else some (c :: rest)

def gap : Reader Unit := fun text => (skipGap false text).map ((), ·)

/-- The rest of a line that holds nothing more, a comment apart. The last line may end without a
break. -/
def lineEnd : Reader Unit := do
  blanks
  if ← accept '#' then modify (·.dropWhile isPlain)
  match ← get with
  | [] => return ()
  | '\n' :: rest => set rest
  | '\r' :: '\n' :: rest => set rest
  | _ => failure

/-! ## Keys -/

def isBare (c : Char) : Bool := c.isAlphanum || c == '_' || c == '-'

/-- One part of a key: bare, or a string on one line. -/
def keyPart : Reader String := fun text =>
  match text with
  | '"' :: rest => (basicRest? rest).map fun (said, rest) => (String.ofList said, rest)
  | '\'' :: rest => (literalRest? rest).map fun (said, rest) => (String.ofList said, rest)
  | _ =>
    let bare := text.takeWhile isBare
    if bare.isEmpty then none else some (String.ofList bare, text.dropWhile isBare)

/-- At most `room` parts with dots between them. -/
def keyParts : (room : Nat) → Reader (List String)
  | 0 => failure
  | room + 1 => do
    blanks
    let part ← keyPart
    blanks
    if ← accept '.' then return part :: (← keyParts room) else return [part]

def key : Reader (List String) := keyParts maxNesting

/-! ## Values -/

/-- The characters of a value that is neither in quotes nor in brackets. -/
def isWordChar (c : Char) : Bool :=
  c.isAlphanum || c == '+' || c == '-' || c == '_' || c == '.' || c == ':'

/-- What a word is read as. -/
def wordValue? (word : List Char) : Option Value :=
  match integer? word with
  | some n => some (.integer n)
  | none =>
    if word == ['t', 'r', 'u', 'e'] || word == ['f', 'a', 'l', 's', 'e'] || isFloat word ||
      isDateTime word
    then some .other else none

/-- The time after a date, where a blank stands between them. -/
def timeAfter (text : List Char) : Option (List Char) :=
  match text with
  | ' ' :: rest =>
    let time := rest.takeWhile isWordChar
    if time.isEmpty then some text
    else if isTimeWithOffset time then some (rest.dropWhile isWordChar) else none
  | _ => some text

/-- A value without brackets. -/
def scalar : Reader Value := fun text =>
  match text with
  | '"' :: _ | '\'' :: _ => (quoted? text).map fun (_, rest) => (.other, rest)
  | _ => do
    let word := text.takeWhile isWordChar
    let rest := text.dropWhile isWordChar
    let value ← wordValue? word
    if isDate word then return (value, ← timeAfter rest) else return (value, rest)

/-- The items of an array through its closing bracket; `fuel` bounds their number. -/
def arrayItems (item : Reader Value) : (fuel : Nat) → Reader Unit
  | 0 => failure
  | fuel + 1 => do
    gap
    if ← accept ']' then return ()
    let _ ← item
    gap
    if ← accept ',' then arrayItems item fuel else char ']'

/-- An entry of a table: a key and its value. -/
def keyValue (value : Reader Value) : Reader (List String × Value) := do
  let path ← key
  char '='
  blanks
  return (path, ← value)

/-- The entries of an inline table through its closing brace; `fuel` bounds their number. -/
def inlineEntries (value : Reader Value) : (fuel : Nat) → Reader (List (List String × Value))
  | 0 => failure
  | fuel + 1 => do
    let entry ← keyValue value
    blanks
    if ← accept ',' then return entry :: (← inlineEntries value fuel)
    char '\x7d'
    return [entry]

end Reader

end SlideDeck.Toml
