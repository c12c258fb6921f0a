import SlideDeck.Token.Piece

/-!
# The tokens of a source

The pieces of a source are placed one behind the other. Pieces read as symbols are its tokens, and
pieces that are faults are reported; both know the line and the byte range of their text.

Results:
* `place_append`: placing is done piece by piece, each where the text before it ends.
* `map_piece_place`: every piece has its place.
-/

namespace SlideDeck

/-- A piece where it starts. -/
structure Placed where
  piece : Piece
  position : Position
deriving DecidableEq, Repr

namespace Placed

/-- The mark of the piece (`Scanner::span_from`, with the line at its start). -/
def mark (p : Placed) : Mark := ⟨p.position.line, p.piece.head, p.position.spanOf p.piece.text⟩

/-- The token that the piece is (`Scanner::token`). -/
def token? (p : Placed) : Option Token :=
  match p.piece.reading with
  | .symbol s => some ⟨s, p.mark⟩
  | _ => none

/-- The report of the fault that the piece is (`Scanner::error`). -/
def report? (p : Placed) : Option (Report LexError) :=
  match p.piece.reading with
  | .fault e => some (p.mark.report e)
  | _ => none

end Placed

/-- The pieces one behind the other, the first of them at `p` (the loop of `Lexer::lex`, with
`Scanner::pos` and `Scanner::line`). -/
def place (p : Position) : List Piece → List Placed
  | [] => []
  | piece :: rest => ⟨piece, p⟩ :: place (p.advance piece.text) rest

theorem place_append (p : Position) (a b : List Piece) :
    place p (a ++ b) = place p a ++ place (p.advance (a.flatMap Piece.text)) b := by
  induction a generalizing p with
  | nil => simp [place]
  | cons piece a ih => simp [place, ih, Position.advance_append]

theorem map_piece_place (p : Position) (ps : List Piece) : (place p ps).map Placed.piece = ps := by
  induction ps generalizing p with
  | nil => rfl
  | cons piece ps ih => simp [place, ih]

/-- The tokens of a text that starts at `p`. -/
def lexFrom (p : Position) (text : List Char) : Outcome LexError (List Token) where
  value := (place p (pieces text)).filterMap Placed.token?
  reports := (place p (pieces text)).filterMap Placed.report?

/-- The tokens of a source (`Lexer::lex`). -/
def lex (source : String) : Outcome LexError (List Token) := lexFrom .start source.toList

end SlideDeck
