import SlideDeck.Toml.Number

/-!
# Strings in TOML 1.0

Basic strings have escapes, literal strings have none. Both also come with three quotes on each
side, and then may go over several lines: a line break right after the opening quotes is left out,
and one or two more quotes may stand before the closing ones. Each reader here starts behind the
opening quotes; it hands out what the string says and what follows the closing quotes.
-/

namespace SlideDeck.Toml

/-- The characters that texts and comments may hold: no control character but the tab. -/
def isPlain (c : Char) : Bool := c == '\t' || (0x20 ≤ c.toNat && c.toNat != 0x7F)

/-- The character of an escape with one letter. -/
def escape? : Char → Option Char
  | 'b' => some '\x08'
  | 't' => some '\t'
  | 'n' => some '\n'
  | 'f' => some '\x0c'
  | 'r' => some '\r'
  | '"' => some '"'
  | '\\' => some '\\'
  | _ => none

/-- The character with the hexadecimal code. -/
def coded? (digits : List Char) : Option Char := do
  let n ← digitsValue? 16 digits
  if n.isValidChar then some (Char.ofNat n) else none

/-- A character in front of what a string says. -/
def consText (c : Char) (said : List Char × List Char) : List Char × List Char :=
  (c :: said.1, said.2)

/-- A basic string on one line. -/
def basicRest? : List Char → Option (List Char × List Char)
  | [] => none
  | '"' :: rest => some ([], rest)
  | '\\' :: 'u' :: a :: b :: c :: d :: rest => do
    return consText (← coded? [a, b, c, d]) (← basicRest? rest)
  | '\\' :: 'U' :: a :: b :: c :: d :: e :: f :: g :: h :: rest => do
    return consText (← coded? [a, b, c, d, e, f, g, h]) (← basicRest? rest)
  | '\\' :: c :: rest => do return consText (← escape? c) (← basicRest? rest)
  | c :: rest => if isPlain c then (basicRest? rest).map (consText c) else none

/-- A literal string on one line. -/
def literalRest? : List Char → Option (List Char × List Char)
  | [] => none
  | '\'' :: rest => some ([], rest)
  | c :: rest => if isPlain c then (literalRest? rest).map (consText c) else none

/-- The text without a line break at its start. -/
def dropBreak : List Char → List Char
  | '\n' :: rest => rest
  | '\r' :: '\n' :: rest => rest
  | text => text

/-- Whether only blanks stand before the next line break. -/
def isLineEnd : List Char → Bool
  | ' ' :: rest | '\t' :: rest => isLineEnd rest
  | '\n' :: _ | '\r' :: '\n' :: _ => true
  | _ => false

/-- One or two quotes that belong to a text, though its closing quotes came before them. -/
def moreQuotes (quote : Char) : List Char → List Char × List Char
  | a :: b :: rest =>
    if a = quote then if b = quote then ([a, b], rest) else ([a], b :: rest)
    else ([], a :: b :: rest)
  | [a] => if a = quote then ([a], []) else ([], [a])
  | [] => ([], [])

/-- A basic string on several lines. After a backslash at the end of a line, blanks and line breaks
are left out up to the next other character; `trim` tells that this is going on. -/
def longBasic? (trim : Bool) : List Char → Option (List Char × List Char)
  | [] => none
  | '"' :: '"' :: '"' :: rest => some (moreQuotes '"' rest)
  | '\n' :: rest =>
    if trim then longBasic? true rest else (longBasic? false rest).map (consText '\n')
  | '\r' :: '\n' :: rest =>
    if trim then longBasic? true rest else (longBasic? false rest).map (consText '\n')
  | '\\' :: 'u' :: a :: b :: c :: d :: rest => do
    return consText (← coded? [a, b, c, d]) (← longBasic? false rest)
  | '\\' :: 'U' :: a :: b :: c :: d :: e :: f :: g :: h :: rest => do
    return consText (← coded? [a, b, c, d, e, f, g, h]) (← longBasic? false rest)
  | '\\' :: c :: rest =>
    if isLineEnd (c :: rest) then longBasic? true (c :: rest)
    else do return consText (← escape? c) (← longBasic? false rest)
  | c :: rest =>
    if trim && (c == ' ' || c == '\t') then longBasic? true rest
    else if isPlain c then (longBasic? false rest).map (consText c)
    else none

/-- A literal string on several lines. -/
def longLiteral? : List Char → Option (List Char × List Char)
  | [] => none
  | '\'' :: '\'' :: '\'' :: rest => some (moreQuotes '\'' rest)
  | '\n' :: rest => (longLiteral? rest).map (consText '\n')
  | '\r' :: '\n' :: rest => (longLiteral? rest).map (consText '\n')
  | c :: rest => if isPlain c then (longLiteral? rest).map (consText c) else none

/-- A string of any kind, from its opening quotes on. -/
def quoted? : List Char → Option (List Char × List Char)
  | '"' :: '"' :: '"' :: rest => longBasic? false (dropBreak rest)
  | '"' :: rest => basicRest? rest
  | '\'' :: '\'' :: '\'' :: rest => longLiteral? (dropBreak rest)
  | '\'' :: rest => literalRest? rest
  | _ => none

end SlideDeck.Toml
