import SlideDeck.Unicode.Alphanumeric
import SlideDeck.Diagnostic.Report
import SlideDeck.Token.Basic

/-!
# Cutting a text into pieces

A text is a sequence of pieces, each read as a symbol, as a fault or as trivia: a blank or a
comment. The first character tells what kind of piece it starts, and the piece takes as many
characters as belong to it. A text block or string that is never closed takes the whole rest of the
text.

Results:
* `cut_append`: the piece cut off the front and the rest make up the text.
* `flatMap_pieces`: the pieces of a text, joined, are the text.
* `cut_rest_eq_nil`: nothing follows a fault that gives up.
-/

namespace SlideDeck

open Unicode

/-- Why a piece is no symbol. -/
inductive LexError where
  | unexpectedCharacter
  /-- A dash that starts neither a text block nor anything else. -/
  | malformedText
  /-- The input ends among the dashes that open a text block. -/
  | unexpectedEnd
  | unterminatedText
  | unterminatedString
  | integerOutOfRange
deriving DecidableEq, Repr

namespace LexError

def message : LexError → String
  | unexpectedCharacter => "Unexpected character"
  | malformedText => "Malformed text block"
  | unexpectedEnd => "Unexpected end of input"
  | unterminatedText => "Unterminated text block"
  | unterminatedString => "Unterminated string"
  | integerOutOfRange => "Integer literal out of range (0-255)"

/-- Whether the input ended inside the piece, so that nothing after it can be read
(`Fault::Fatal`). -/
def givesUp : LexError → Bool
  | unexpectedEnd | unterminatedText | unterminatedString => true
  | _ => false

instance : Cause LexError := ⟨.lexing, message⟩

end LexError

/-- What a piece of text is read as. -/
inductive Reading where
  | trivia
  | symbol (s : Symbol)
  | fault (e : LexError)
deriving DecidableEq, Repr

/-- A piece of text, which is never empty. -/
structure Piece where
  head : Char
  tail : List Char
  reading : Reading
deriving DecidableEq, Repr

def Piece.text (p : Piece) : List Char := p.head :: p.tail

/-- The piece at the front of a text, and the rest of the text. -/
structure Cut where
  piece : Piece
  rest : List Char
deriving DecidableEq, Repr

namespace Cut

/-- A piece of one character. -/
def single (c : Char) (rest : List Char) (reading : Reading) : Cut := ⟨⟨c, [], reading⟩, rest⟩

/-- A comment: all up to the next line break (`Scanner::scan_token`). -/
def comment (rest : List Char) : Cut where
  piece := ⟨'#', rest.takeWhile (· != '\n'), .trivia⟩
  rest := rest.dropWhile (· != '\n')

/-- What a whole word is read as (`Scanner::keyword`, `Scanner::identifier`). -/
def wordSymbol (word : List Char) : Symbol :=
  match Keyword.ofLetters? word with
  | some k => .keyword k
  | none => .identifier (String.ofList word)

/-- A word: all letters and numbers up to the next other character (`Scanner::identifier`). -/
def word (c : Char) (rest : List Char) : Cut where
  piece := ⟨c, rest.takeWhile isAlphanumeric,
    .symbol (wordSymbol (c :: rest.takeWhile isAlphanumeric))⟩
  rest := rest.dropWhile isAlphanumeric

/-- What a run of digits is read as (`Scanner::integer`). -/
def numberReading (digits : List Char) : Reading :=
  let value := Nat.ofDigitChars 10 digits 0
  if value ≤ 255 then .symbol (.integer (UInt8.ofNat value)) else .fault .integerOutOfRange

/-- A number: all digits up to the next other character (`Scanner::integer`). -/
def number (c : Char) (rest : List Char) : Cut where
  piece := ⟨c, rest.takeWhile Char.isDigit, numberReading (c :: rest.takeWhile Char.isDigit)⟩
  rest := rest.dropWhile Char.isDigit

/-- A string: all up to the next quote (`Scanner::string`). -/
def quoted (rest : List Char) : Cut :=
  match rest.dropWhile (· != '"') with
  | [] => ⟨⟨'"', rest, .fault .unterminatedString⟩, []⟩
  | quote :: after =>
    let content := rest.takeWhile (· != '"')
    ⟨⟨'"', content ++ [quote], .symbol (.string (String.ofList content))⟩, after⟩

/-- The text before the first three dashes in a row, and the text after them (the loop of
`Scanner::text_block`). -/
def splitAtDashes : List Char → Option (List Char × List Char)
  | '-' :: '-' :: '-' :: after => some ([], after)
  | c :: rest => (splitAtDashes rest).map fun (content, after) => (c :: content, after)
  | [] => none

/-- A text block: all up to the next three dashes. What follows its first dash decides
(`Scanner::text_block`). -/
def dashed : List Char → Cut
  | '-' :: '-' :: body =>
    match splitAtDashes body with
    | some (content, after) =>
      ⟨⟨'-', '-' :: '-' :: content ++ ['-', '-', '-'], .symbol (.text (String.ofList content))⟩,
        after⟩
    | none => ⟨⟨'-', '-' :: '-' :: body, .fault .unterminatedText⟩, []⟩
  | ['-'] => ⟨⟨'-', ['-'], .fault .unexpectedEnd⟩, []⟩
  | [] => ⟨⟨'-', [], .fault .unexpectedEnd⟩, []⟩
  | rest => single '-' rest (.fault .malformedText)

theorem splitAtDashes_eq_some {body content after : List Char}
    (h : splitAtDashes body = some (content, after)) :
    body = content ++ ['-', '-', '-'] ++ after := by
  fun_induction splitAtDashes body generalizing content with
  | case1 => simp_all
  | case2 c rest _ ih =>
    obtain ⟨⟨content', after'⟩, h', heq⟩ := Option.map_eq_some_iff.1 h
    obtain ⟨rfl, rfl⟩ := Prod.mk.inj heq
    simp [ih h']
  | case3 => simp at h

end Cut

/-- The characters between tokens, comments apart. -/
def isBlank (c : Char) : Bool := c == ' ' || c == '\t' || c == '\r' || c == '\n'

/-- The first piece of a text that starts with `c` (`Scanner::scan_token`). -/
def cut (c : Char) (rest : List Char) : Cut :=
  if isBlank c then .single c rest .trivia
  else if c = '#' then .comment rest
  else if c = '-' then .dashed rest
  else if c = '"' then .quoted rest
  else if c.isDigit then .number c rest
  else if isAlphabetic c then .word c rest
  else match Punct.ofChar? c with
    | some p => .single c rest (.symbol (.punct p))
    | none => .single c rest (.fault .unexpectedCharacter)

namespace Cut

/-- The text that was cut. -/
def source (k : Cut) : List Char := k.piece.text ++ k.rest

theorem source_comment (rest : List Char) : (comment rest).source = '#' :: rest := by
  simp [source, comment, Piece.text]

theorem source_word (c : Char) (rest : List Char) : (word c rest).source = c :: rest := by
  simp [source, word, Piece.text]

theorem source_number (c : Char) (rest : List Char) : (number c rest).source = c :: rest := by
  simp [source, number, Piece.text]

theorem source_quoted (rest : List Char) : (quoted rest).source = '"' :: rest := by
  have happ : rest.takeWhile (· != '"') ++ rest.dropWhile (· != '"') = rest :=
    List.takeWhile_append_dropWhile
  unfold quoted
  split
  · simp [source, Piece.text]
  · rename_i quote after h
    rw [h] at happ
    simp [source, Piece.text, happ]

theorem source_dashed (rest : List Char) : (dashed rest).source = '-' :: rest := by
  unfold dashed
  split
  · split
    · rename_i content after h
      simp [source, Piece.text, splitAtDashes_eq_some h]
    · simp [source, Piece.text]
  · simp [source, Piece.text]
  · simp [source, Piece.text]
  · rfl

end Cut

theorem source_cut (c : Char) (rest : List Char) : (cut c rest).source = c :: rest := by
  unfold cut
  split
  · rfl
  split
  · simp_all [Cut.source_comment]
  split
  · simp_all [Cut.source_dashed]
  split
  · simp_all [Cut.source_quoted]
  split
  · exact Cut.source_number c rest
  split
  · exact Cut.source_word c rest
  split <;> rfl

theorem cut_append (c : Char) (rest : List Char) :
    (cut c rest).piece.text ++ (cut c rest).rest = c :: rest :=
  source_cut c rest

theorem length_cut_rest_lt (c : Char) (rest : List Char) :
    (cut c rest).rest.length < (c :: rest).length := by
  have h := congrArg List.length (cut_append c rest)
  simp only [List.length_append, Piece.text, List.length_cons] at h ⊢
  omega

/-- All the pieces of a text, in order (the loop of `Lexer::lex`). -/
def pieces : List Char → List Piece
  | [] => []
  | c :: rest => (cut c rest).piece :: pieces (cut c rest).rest
termination_by text => text.length
decreasing_by exact length_cut_rest_lt c rest

theorem flatMap_pieces (text : List Char) : (pieces text).flatMap Piece.text = text := by
  fun_induction pieces text with
  | case1 => rfl
  | case2 c rest ih => rw [List.flatMap_cons, ih, cut_append]

theorem cut_rest_eq_nil {c : Char} {rest : List Char} {e : LexError}
    (h : (cut c rest).piece.reading = .fault e) (he : e.givesUp = true) :
    (cut c rest).rest = [] := by
  unfold cut at h ⊢
  split at h
  · simp [Cut.single] at h
  split at h
  · simp [Cut.comment] at h
  split at h
  · simp only [*, if_true] at h ⊢
    unfold Cut.dashed at h ⊢
    split at h
    · split at h <;> simp_all
    · simp_all
    · simp_all
    · simp [Cut.single] at h
      simp [← h, LexError.givesUp] at he
  split at h
  · simp_all [Cut.quoted]
    split at h <;> simp_all
  split at h
  · simp [Cut.number, Cut.numberReading] at h
    split at h <;> simp at h
    simp [← h, LexError.givesUp] at he
  split at h
  · simp [Cut.word] at h
  split at h
  · simp [Cut.single] at h
  · simp [Cut.single] at h
    simp [← h, LexError.givesUp] at he

end SlideDeck
