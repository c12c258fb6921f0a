import SlideDeck.Proofs.Token.Account

/-!
# Texts that start further down

Where a text starts makes no difference to its pieces and to what they are read as. Only the lines
and the ranges of its tokens and reports change: they are shifted by as many lines and bytes.

Results:
* `place_shift`: pieces that start further down are placed further down.
* `lexFrom_shift`: so are the tokens and reports of a text.
* `lexFrom_append`: where the pieces of two texts are those of the two together, the tokens and
  reports of the second are placed where the first ends.
* `lexFrom_start_cons`: a text is read as its first piece and, further down, as the rest alone.
-/

namespace SlideDeck

variable (bytes lines : Nat)

/-! ## Shifting -/

def Position.shift (p : Position) : Position := ⟨p.offset + bytes, p.line + lines⟩

def Span.shift (s : Span) : Span := ⟨s.start + bytes, s.stop + bytes⟩

def Mark.shift (m : Mark) : Mark := ⟨m.line + lines, m.char, m.span.shift bytes⟩

def Token.shift (t : Token) : Token := { t with mark := t.mark.shift bytes lines }

def Placed.shift (p : Placed) : Placed := { p with position := p.position.shift bytes lines }

def Report.shift {ε : Type} (r : Report ε) : Report ε :=
  { r with line := r.line + lines, span := r.span.shift bytes }

def Diagnostic.shift (d : Diagnostic) : Diagnostic :=
  { d with line := d.line + lines, span := d.span.map (Span.shift bytes) }

/-- Reading a text shifts a position by its size and its line breaks. -/
theorem Position.advance_eq_shift (p : Position) (text : List Char) :
    p.advance text = p.shift (byteSize text) (newlines text) := rfl

theorem Position.advance_shift (p : Position) (text : List Char) :
    (p.shift bytes lines).advance text = (p.advance text).shift bytes lines := by
  simp only [advance, shift, Position.mk.injEq]
  omega

theorem Position.spanOf_shift (p : Position) (text : List Char) :
    (p.shift bytes lines).spanOf text = (p.spanOf text).shift bytes := by
  rw [spanOf, advance_shift]
  rfl

/-- The diagnostics of reports that are further down are further down. -/
theorem map_diagnostic_shift {ε : Type} [Cause ε] (reports : List (Report ε)) :
    (reports.map (Report.shift bytes lines)).map Report.diagnostic =
      (reports.map Report.diagnostic).map (Diagnostic.shift bytes lines) := by
  rw [List.map_map, List.map_map]
  rfl

/-! ## Pieces -/

theorem Placed.piece_shift (p : Placed) : (p.shift bytes lines).piece = p.piece := rfl

theorem Placed.mark_shift (p : Placed) :
    (p.shift bytes lines).mark = p.mark.shift bytes lines := by
  rw [mark, shift, Position.spanOf_shift]
  rfl

theorem Placed.token?_shift (p : Placed) :
    (p.shift bytes lines).token? = p.token?.map (Token.shift bytes lines) := by
  unfold token?
  rw [mark_shift, piece_shift]
  cases p.piece.reading <;> rfl

theorem Placed.report?_shift (p : Placed) :
    (p.shift bytes lines).report? = p.report?.map (Report.shift bytes lines) := by
  unfold report?
  rw [mark_shift, piece_shift]
  cases p.piece.reading <;> rfl

/-- Pieces that start further down are placed further down. -/
theorem place_shift (p : Position) (ps : List Piece) :
    place (p.shift bytes lines) ps = (place p ps).map (Placed.shift bytes lines) := by
  induction ps generalizing p with
  | nil => rfl
  | cons piece ps ih =>
    rw [place, Position.advance_shift, ih]
    rfl

/-! ## Tokens and reports -/

/-- The tokens and reports of a text that starts further down are further down. -/
theorem lexFrom_shift (p : Position) (text : List Char) :
    lexFrom (p.shift bytes lines) text =
      ⟨(lexFrom p text).value.map (Token.shift bytes lines),
        (lexFrom p text).reports.map (Report.shift bytes lines)⟩ := by
  have htoken : Placed.token? ∘ Placed.shift bytes lines =
      fun placed => placed.token?.map (Token.shift bytes lines) :=
    funext (Placed.token?_shift bytes lines)
  have hreport : Placed.report? ∘ Placed.shift bytes lines =
      fun placed => placed.report?.map (Report.shift bytes lines) :=
    funext (Placed.report?_shift bytes lines)
  rw [lexFrom, place_shift, List.filterMap_map, List.filterMap_map, htoken, hreport,
    ← List.map_filterMap, ← List.map_filterMap]
  rfl

/-- The tokens and reports of two texts that fall into pieces apart from each other. -/
theorem lexFrom_append (p : Position) {a b : List Char}
    (h : pieces (a ++ b) = pieces a ++ pieces b) :
    lexFrom p (a ++ b) = ⟨(lexFrom p a).value ++ (lexFrom (p.advance a) b).value,
      (lexFrom p a).reports ++ (lexFrom (p.advance a) b).reports⟩ := by
  rw [lexFrom, h, place_append, flatMap_pieces, List.filterMap_append, List.filterMap_append]
  rfl

/-- The mark of the first piece of a source. -/
theorem Placed.mark_start (piece : Piece) :
    Placed.mark ⟨piece, .start⟩ = ⟨1, piece.head, ⟨0, byteSize piece.text⟩⟩ := by
  simp [mark, Position.spanOf, Position.advance, Position.start]

/-- A text is read as its first piece and, further down, as the rest alone. -/
theorem lexFrom_start_cons (c : Char) (rest : List Char) :
    let first : Placed := ⟨(cut c rest).piece, .start⟩
    let behind := lexFrom .start (cut c rest).rest
    let bytes := byteSize first.piece.text
    let lines := newlines first.piece.text
    lexFrom .start (c :: rest) =
      ⟨first.token?.toList ++ behind.value.map (Token.shift bytes lines),
        first.report?.toList ++ behind.reports.map (Report.shift bytes lines)⟩ := by
  intro first behind bytes lines
  obtain ⟨hvalue, hreports⟩ := lexFrom_cons .start c rest
  rw [Position.advance_eq_shift, lexFrom_shift] at hvalue hreports
  exact (congrArg (Outcome.mk · _) hvalue).trans (congrArg (Outcome.mk _) hreports)

end SlideDeck
