import SlideDeck.Source.Position

/-!
# Tokens

A token is a symbol with the place where it starts. Symbols are punctuation, keywords, and words,
numbers and texts with what they say. The end of the input has a symbol too, though no text is ever
read as one.

Results:
* `Punct.ofChar?_eq_some_iff`, `Keyword.ofLetters?_eq_some_iff`: marks and keywords are known by
  their spelling.
-/

namespace SlideDeck

/-- The punctuation marks (`TokenType`, its single characters). -/
inductive Punct where
  | leftParen
  | rightParen
  | leftBrace
  | rightBrace
  | semicolon
  | colon
  | dot
  | atSign
  | dollarSign
  | equalSign
  | comma
deriving DecidableEq, Repr

namespace Punct

/-- The character that spells the mark. -/
def char : Punct → Char
  | leftParen => '('
  | rightParen => ')'
  | leftBrace => '\x7b'
  | rightBrace => '\x7d'
  | semicolon => ';'
  | colon => ':'
  | dot => '.'
  | atSign => '@'
  | dollarSign => '$'
  | equalSign => '='
  | comma => ','

/-- The mark that the character spells (`Scanner::scan_token`). -/
def ofChar? : Char → Option Punct
  | '(' => some leftParen
  | ')' => some rightParen
  | '\x7b' => some leftBrace
  | '\x7d' => some rightBrace
  | ';' => some semicolon
  | ':' => some colon
  | '.' => some dot
  | '@' => some atSign
  | '$' => some dollarSign
  | '=' => some equalSign
  | ',' => some comma
  | _ => none

/-- The name that messages use. -/
def name : Punct → String
  | leftParen => "LeftParen"
  | rightParen => "RightParen"
  | leftBrace => "LeftBrace"
  | rightBrace => "RightBrace"
  | semicolon => "Semicolon"
  | colon => "Colon"
  | dot => "Dot"
  | atSign => "AtSign"
  | dollarSign => "DollarSign"
  | equalSign => "EqualSign"
  | comma => "Comma"

theorem ofChar?_eq_some_iff {c : Char} {p : Punct} : ofChar? c = some p ↔ c = p.char := by
  constructor
  · unfold ofChar?
    split <;> simp_all <;> (rintro rfl; rfl)
  · rintro rfl
    cases p <;> rfl

end Punct

/-- The words with a meaning of their own (`TokenType`, its keywords). -/
inductive Keyword where
  | letKw
  | mutKw
  | macroKw
  | slideKw
  | blockKw
  | selfKw
deriving DecidableEq, Repr

namespace Keyword

/-- The letters that spell the keyword. -/
def letters : Keyword → List Char
  | letKw => ['l', 'e', 't']
  | mutKw => ['m', 'u', 't']
  | macroKw => ['m', 'a', 'c', 'r', 'o']
  | slideKw => ['s', 'l', 'i', 'd', 'e']
  | blockKw => ['b', 'l', 'o', 'c', 'k']
  | selfKw => ['s', 'e', 'l', 'f']

/-- The keyword that a whole word spells (`Scanner::keyword`). -/
def ofLetters? (word : List Char) : Option Keyword :=
  [letKw, mutKw, macroKw, slideKw, blockKw, selfKw].find? fun k => k.letters == word

/-- The name that messages use. -/
def name : Keyword → String
  | letKw => "Let"
  | mutKw => "Mut"
  | macroKw => "Macro"
  | slideKw => "Slide"
  | blockKw => "Block"
  | selfKw => "Self"

theorem ofLetters?_eq_some_iff {word : List Char} {k : Keyword} :
    ofLetters? word = some k ↔ word = k.letters := by
  constructor
  · intro h
    have := List.find?_some h
    simp_all
  · rintro rfl
    cases k <;> rfl

end Keyword

/-- What a token stands for (`TokenType`). -/
inductive Symbol where
  | punct (p : Punct)
  | keyword (k : Keyword)
  | identifier (name : String)
  /-- A text block, without the dashes around it. -/
  | text (content : String)
  /-- A quoted string, without the quotes around it. -/
  | string (content : String)
  | integer (value : UInt8)
  | endOfInput
deriving DecidableEq, Repr

/-- A symbol without what it says (`TokenKind`). -/
inductive SymbolKind where
  | punct (p : Punct)
  | keyword (k : Keyword)
  | identifier
  | text
  | string
  | integer
  | endOfInput
deriving DecidableEq, Repr

/-- The name that messages use (`TokenKind::fmt`). -/
def SymbolKind.name : SymbolKind → String
  | punct p => p.name
  | keyword k => k.name
  | identifier => "Identifier"
  | text => "Text"
  | string => "String"
  | integer => "Integer"
  | endOfInput => "EOF"

/-- What the symbol is, without what it says (`TokenType::kind`). -/
def Symbol.kind : Symbol → SymbolKind
  | punct p => .punct p
  | keyword k => .keyword k
  | identifier _ => .identifier
  | text _ => .text
  | string _ => .string
  | integer _ => .integer
  | endOfInput => .endOfInput

/-- A symbol at its place in the source (`Token`). -/
structure Token where
  symbol : Symbol
  mark : Mark
deriving DecidableEq, Repr

def Token.kind (t : Token) : SymbolKind := t.symbol.kind

end SlideDeck
