import SlideDeck.Proofs.Token.Account
import SlideDeck.Proofs.Token.Rendering

/-!
# Lines of a source

An offset into a source is on the line that the line breaks before it tell. The tokens and reports
of a source are on the line on which their text starts. Their text ends on the same line, unless
there is a line break in it, as there may be in a string or a text block.

Results:
* `textBefore_byteSize`: the text before an offset is what is left out from there on.
* `Mark.Marks.line_eq`, `Mark.Marks.lineAt_stop`: where the text of a mark starts and where it ends.
* `Accounts.exists_of_mem_tokens`, `Accounts.exists_of_mem_reports`: tokens and reports have a text.
* `Symbol.IsSpelledBy.newlines_eq_zero_iff`: the spelling of a symbol tells of line breaks.
* `line_of_mem_lex`, `line_eq_lineAt_stop_iff`: the lines where a token of a source starts and ends.
* `char_ne_newline_of_mem_lex`, `char_ne_newline_of_mem_reports`: no token and no report starts with
  a line break.
* `newline_notMem_of_identifier`: there is no line break in a name.
-/

namespace SlideDeck

/-- The characters of a text that start before the offset. -/
def textBefore (offset : Nat) : List Char → List Char
  | [] => []
  | c :: rest => if offset = 0 then [] else c :: textBefore (offset - c.utf8Size) rest

/-- The line of an offset into the source: one more than there are line breaks before it. -/
def lineAt (source : String) (offset : Nat) : Nat := 1 + newlines (textBefore offset source.toList)

theorem textBefore_byteSize (before after : List Char) :
    textBefore (byteSize before) (before ++ after) = before := by
  induction before with
  | nil => cases after <;> rfl
  | cons c before ih =>
    have hpos : c.utf8Size + byteSize before ≠ 0 := by
      have := c.utf8Size_pos
      omega
    rw [byteSize_cons, List.cons_append, textBefore, if_neg hpos, Nat.add_sub_cancel_left, ih]

theorem lineAt_byteSize {source : String} {before after : List Char}
    (h : source.toList = before ++ after) :
    lineAt source (byteSize before) = 1 + newlines before := by
  rw [lineAt, h, textBefore_byteSize]

/-! ## Where the text of a mark starts and ends -/

namespace Mark.Marks

variable {source : String} {mark : Mark} {before piece after : List Char}

/-- A mark is on the line of the start of its span. -/
theorem line_eq (h : mark.Marks before piece)
    (hsource : source.toList = before ++ (piece ++ after)) :
    mark.line = lineAt source mark.span.start := by
  rw [h.line, h.span, lineAt_byteSize hsource]

/-- The end of its span is as many lines below as there are line breaks in the text. -/
theorem lineAt_stop (h : mark.Marks before piece)
    (hsource : source.toList = before ++ (piece ++ after)) :
    lineAt source mark.span.stop = mark.line + newlines piece := by
  rw [← List.append_assoc] at hsource
  have hstop : mark.span.stop = byteSize (before ++ piece) := by rw [h.span, byteSize_append]
  rw [hstop, lineAt_byteSize hsource, newlines_append, h.line]
  omega

end Mark.Marks

/-! ## The text of a token or report -/

namespace Accounts

variable {before text : List Char} {tokens : List Token} {reports : List (Report LexError)}

/-- Every token marks and spells a part of the text. -/
theorem exists_of_mem_tokens (h : Accounts before text tokens reports) {t : Token}
    (ht : t ∈ tokens) : ∃ front piece behind, before ++ text = front ++ (piece ++ behind) ∧
      t.mark.Marks front piece ∧ t.symbol.IsSpelledBy piece := by
  induction h with
  | done => cases ht
  | trivia _ _ ih | report _ _ _ ih => simpa only [List.append_assoc] using ih ht
  | @token before piece rest _ _ _ _ hspelled hmark _ ih =>
    cases ht with
    | head => exact ⟨before, piece, rest, rfl, hmark, hspelled⟩
    | tail _ ht => simpa only [List.append_assoc] using ih ht

/-- Every report stands at the mark of a part of the text. -/
theorem exists_of_mem_reports (h : Accounts before text tokens reports) {r : Report LexError}
    (hr : r ∈ reports) : ∃ front piece behind, before ++ text = front ++ (piece ++ behind) ∧
      ∃ (mark : Mark) (e : LexError), mark.Marks front piece ∧ r = mark.report e := by
  induction h with
  | done => cases hr
  | trivia _ _ ih | token _ _ _ ih => simpa only [List.append_assoc] using ih hr
  | @report before piece rest _ _ e mark _ hmark _ ih =>
    cases hr with
    | head => exact ⟨before, piece, rest, rfl, mark, e, hmark, rfl⟩
    | tail _ hr => simpa only [List.append_assoc] using ih hr

end Accounts

/-! ## Line breaks in a symbol -/

theorem newlines_eq_zero_iff {text : List Char} : newlines text = 0 ↔ '\n' ∉ text :=
  List.count_eq_zero

theorem newline_notMem_of_isDigit {text : List Char} (h : ∀ c ∈ text, c.isDigit = true) :
    '\n' ∉ text := by
  intro hmem
  exact absurd (h _ hmem) (by decide)

/-- A text has line breaks where the spelling of the symbol that it says has; numbers have none. -/
theorem Symbol.IsSpelledBy.newlines_eq_zero_iff {s : Symbol} {piece : List Char}
    (h : s.IsSpelledBy piece) : newlines piece = 0 ↔ '\n' ∉ s.spelling := by
  rw [SlideDeck.newlines_eq_zero_iff]
  cases s with
  | integer value =>
    refine iff_of_true (newline_notMem_of_isDigit h.2.1) (newline_notMem_of_isDigit ?_)
    exact fun c hc => Nat.isDigit_of_mem_toDigits (by decide) (by decide) hc
  | endOfInput => exact h.elim
  | punct p | keyword k | identifier name | text content | string content => rw [h]

/-! ## Tokens of a source -/

section

variable {source : String} {t : Token}

/-- A token is on the line on which its text starts. -/
theorem line_of_mem_lex (ht : t ∈ (lex source).value) :
    t.mark.line = lineAt source t.mark.span.start := by
  obtain ⟨front, piece, behind, hsource, hmark, -⟩ :=
    (accounts_lexFrom [] source.toList).exists_of_mem_tokens ht
  exact hmark.line_eq hsource

/-- It is on the line on which its text ends if there is no line break in it. -/
theorem line_eq_lineAt_stop_iff (ht : t ∈ (lex source).value) :
    t.mark.line = lineAt source t.mark.span.stop ↔ '\n' ∉ t.symbol.spelling := by
  obtain ⟨front, piece, behind, hsource, hmark, hspelled⟩ :=
    (accounts_lexFrom [] source.toList).exists_of_mem_tokens ht
  rw [hmark.lineAt_stop hsource, ← hspelled.newlines_eq_zero_iff]
  omega

theorem symbol_ne_of_mem_lex (ht : t ∈ (lex source).value) :
    t.symbol ≠ .endOfInput := by
  obtain ⟨front, piece, behind, -, -, hspelled⟩ :=
    (accounts_lexFrom [] source.toList).exists_of_mem_tokens ht
  intro hsymbol
  rw [hsymbol] at hspelled
  exact hspelled

end

/-! ## Line breaks in tokens -/

theorem head_cut (c : Char) (rest : List Char) : (cut c rest).piece.head = c :=
  (List.cons.inj (cut_append c rest)).1

/-- A piece that starts with a line break is trivia. -/
theorem head_ne_newline {text : List Char} {p : Piece} (hp : p ∈ pieces text)
    (hreading : p.reading ≠ .trivia) : p.head ≠ '\n' := by
  fun_induction pieces text with
  | case1 => cases hp
  | case2 c rest ih =>
    cases hp with
    | head =>
      rw [head_cut]
      rintro rfl
      exact hreading rfl
    | tail _ hp => exact ih hp

theorem piece_mem_of_mem_place {p : Position} {text : List Char} {placed : Placed}
    (h : placed ∈ place p (pieces text)) : placed.piece ∈ pieces text := by
  rw [← map_piece_place p (pieces text)]
  exact List.mem_map_of_mem h

section

variable {source : String}

/-- A token of a source is a piece of it. -/
theorem exists_piece_of_mem_lex {t : Token} (ht : t ∈ (lex source).value) :
    ∃ p ∈ pieces source.toList, p.reading = .symbol t.symbol ∧ t.mark.char = p.head := by
  obtain ⟨placed, hplaced, htoken⟩ := List.mem_filterMap.1 ht
  refine ⟨placed.piece, piece_mem_of_mem_place hplaced, ?_⟩
  unfold Placed.token? at htoken
  split at htoken
  · rename_i hreading
    cases htoken
    exact ⟨hreading, rfl⟩
  · cases htoken

/-- No token starts with a line break. -/
theorem char_ne_newline_of_mem_lex {t : Token} (ht : t ∈ (lex source).value) :
    t.mark.char ≠ '\n' := by
  obtain ⟨p, hp, hreading, hchar⟩ := exists_piece_of_mem_lex ht
  exact hchar ▸ head_ne_newline hp (by simp [hreading])

/-- No report starts with a line break. -/
theorem char_ne_newline_of_mem_reports {r : Report LexError} (hr : r ∈ (lex source).reports) :
    r.char ≠ some '\n' := by
  obtain ⟨placed, hplaced, hreport⟩ := List.mem_filterMap.1 hr
  have hhead := head_ne_newline (piece_mem_of_mem_place hplaced)
  unfold Placed.report? at hreport
  split at hreport
  · rename_i hreading
    cases hreport
    have hne : placed.piece.head ≠ '\n' := hhead (by simp [hreading])
    simpa [Mark.report, Placed.mark] using hne
  · cases hreport

/-- There is no line break in a name. -/
theorem newline_notMem_of_identifier {name : String}
    (h : .identifier name ∈ (lex source).value.map Token.symbol) : '\n' ∉ name.toList := by
  obtain ⟨t, ht, hsymbol⟩ := List.mem_map.1 h
  obtain ⟨p, hp, hreading, -⟩ := exists_piece_of_mem_lex ht
  have hwell : (Symbol.identifier name).WellFormed :=
    wellFormed_of_mem_pieces hp (by simp [Piece.symbol?, hreading, hsymbol])
  intro hmem
  have hletter := hwell.2.1 _ hmem
  exact absurd hletter (by decide +kernel)

end

end SlideDeck
