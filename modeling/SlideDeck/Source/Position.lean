/-!
# Positions in a source text

Offsets count the bytes of the UTF-8 encoding from 0, lines count from 1. A position advances over
text: over each character by its encoded size, and to the next line over each newline.

Here and in the modules built on this one, a name in parentheses behind what is said of a definition
is that of the function or type of the program that it models.

Results:
* `byteSize_append`, `newlines_append`: sizes and line breaks add up over concatenation.
* `byteSize_toList`: the size of the characters of a text is the size of its encoding.
* `Position.advance_append`: advancing over a concatenation is advancing over its parts in turn.
-/

namespace SlideDeck

/-- The number of bytes that encode the text in UTF-8. -/
def byteSize : List Char → Nat
  | [] => 0
  | c :: rest => c.utf8Size + byteSize rest

/-- The number of line breaks in the text. -/
def newlines (text : List Char) : Nat := text.count '\n'

@[simp] theorem byteSize_nil : byteSize [] = 0 := rfl

@[simp] theorem byteSize_cons (c : Char) (rest : List Char) :
    byteSize (c :: rest) = c.utf8Size + byteSize rest := rfl

@[simp] theorem byteSize_append (a b : List Char) :
    byteSize (a ++ b) = byteSize a + byteSize b := by
  induction a with
  | nil => simp
  | cons c a ih => simp [ih, Nat.add_assoc]

theorem byteSize_ofList (text : List Char) : (String.ofList text).utf8ByteSize = byteSize text := by
  induction text with
  | nil => rfl
  | cons c rest ih =>
    rw [String.ofList_cons, String.utf8ByteSize_append, String.utf8ByteSize_singleton, ih,
      byteSize_cons]

theorem byteSize_toList (text : String) : byteSize text.toList = text.utf8ByteSize := by
  rw [← byteSize_ofList, String.ofList_toList]

@[simp] theorem newlines_append (a b : List Char) : newlines (a ++ b) = newlines a + newlines b :=
  List.count_append

/-- A range of byte offsets, from `start` up to but excluding `stop`. -/
structure Span where
  start : Nat
  stop : Nat
deriving DecidableEq, Repr

/-- The empty range at an offset. -/
def Span.emptyAt (offset : Nat) : Span := ⟨offset, offset⟩

/-- A place between two characters of a source (`Scanner::pos` and `Scanner::line`). -/
structure Position where
  offset : Nat
  line : Nat
deriving DecidableEq, Repr

namespace Position

/-- The place before the first character (`Scanner::new`). -/
def start : Position := ⟨0, 1⟩

/-- The place reached by reading the text from here (`Scanner::advance`). -/
def advance (p : Position) (text : List Char) : Position :=
  ⟨p.offset + byteSize text, p.line + newlines text⟩

/-- The range of the text that starts here (`Scanner::span_from`). -/
def spanOf (p : Position) (text : List Char) : Span := ⟨p.offset, (p.advance text).offset⟩

@[simp] theorem advance_nil (p : Position) : p.advance [] = p := rfl

theorem advance_append (p : Position) (a b : List Char) :
    p.advance (a ++ b) = (p.advance a).advance b := by
  simp [advance, Nat.add_assoc]

end Position

/-- Where a token or a fault starts: the line and the character there, with the range of its text
(the `line`, `lexeme` and `span` of `Token` and `ErrorInfo`). -/
structure Mark where
  line : Nat
  char : Char
  span : Span
deriving DecidableEq, Repr

end SlideDeck
