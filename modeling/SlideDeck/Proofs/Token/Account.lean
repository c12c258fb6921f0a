import SlideDeck.Proofs.Token.Spelling
import SlideDeck.Token.Lex

/-!
# Accounting for a source

Every character of a source belongs to one piece, and every piece is a token, a report or trivia. A
token or report says where its piece is: the line, the first character and the byte range.

Results:
* `isSpelledBy_of_cut`, `isTrivia_of_cut`: what the text of a piece is, by what it is read as.
* `lexFrom_cons`: the tokens and reports of a text are those of its first piece and of the rest.
* `accounts_lexFrom`: the tokens and reports of a text account for it.
* `Accounts.givesUp_eq_false`, `Accounts.stop_of_givesUp`: only the last report can give up, at the
  end of the text.
-/

namespace SlideDeck

/-! ## Pieces and where they are -/

/-- The text says the symbol. A number may have zeros in front; all else is spelled in one way. -/
def Symbol.IsSpelledBy : Symbol → List Char → Prop
  | .integer value, piece => piece ≠ [] ∧ (∀ c ∈ piece, c.isDigit = true) ∧
      Nat.ofDigitChars 10 piece 0 = value.toNat
  | .endOfInput, _ => False
  | s, piece => piece = s.spelling

/-- The text is a blank, or a comment up to the end of its line or of the source. -/
def IsTrivia (text rest : List Char) : Prop :=
  (∃ c ∈ [' ', '\t', '\r', '\n'], text = [c]) ∨
    ∃ comment, text = '#' :: comment ∧ '\n' ∉ comment ∧ ∀ c ∈ rest.head?, c = '\n'

/-- The mark is that of a piece which comes after so much text. -/
structure Mark.Marks (mark : Mark) (before piece : List Char) : Prop where
  char : piece.head? = some mark.char
  line : mark.line = 1 + newlines before
  span : mark.span = ⟨byteSize before, byteSize before + byteSize piece⟩

/-- The tokens and reports account for a text, where `before` is all that comes before it: it falls
into pieces, each of which is the next token, the next report or trivia, and no token or report is
left over. Nothing comes after a piece whose fault gives up. -/
inductive Accounts : (before text : List Char) → List Token → List (Report LexError) → Prop
  | done {before : List Char} : Accounts before [] [] []
  | trivia {before piece rest : List Char} {tokens : List Token}
      {reports : List (Report LexError)} : IsTrivia piece rest →
      Accounts (before ++ piece) rest tokens reports →
      Accounts before (piece ++ rest) tokens reports
  | token {before piece rest : List Char} {tokens : List Token}
      {reports : List (Report LexError)} {s : Symbol} {mark : Mark} : s.IsSpelledBy piece →
      mark.Marks before piece → Accounts (before ++ piece) rest tokens reports →
      Accounts before (piece ++ rest) (⟨s, mark⟩ :: tokens) reports
  | report {before piece rest : List Char} {tokens : List Token}
      {reports : List (Report LexError)} {e : LexError} {mark : Mark} :
      (e.givesUp = true → rest = []) → mark.Marks before piece →
      Accounts (before ++ piece) rest tokens reports →
      Accounts before (piece ++ rest) tokens (mark.report e :: reports)

/-! ## What the text of a piece is -/

theorem eq_false_of_head?_dropWhile {p : Char → Bool} {text : List Char} {c : Char}
    (h : c ∈ (text.dropWhile p).head?) : p c = false := by
  have hnot := List.head?_dropWhile_not p text
  rw [Option.mem_def.1 h] at hnot
  exact hnot

theorem isSpelledBy_wordSymbol (word : List Char) : (Cut.wordSymbol word).IsSpelledBy word := by
  unfold Cut.wordSymbol
  split
  · rename_i k hk
    exact Keyword.ofLetters?_eq_some_iff.1 hk
  · exact String.toList_ofList.symm

theorem isSpelledBy_of_number {c : Char} {rest : List Char} {s : Symbol} (hc : c.isDigit = true)
    (h : (Cut.number c rest).piece.reading = .symbol s) :
    s.IsSpelledBy (Cut.number c rest).piece.text := by
  simp only [Cut.number, Cut.numberReading] at h
  split at h
  · rename_i hle
    cases h
    refine ⟨by simp [Cut.number, Piece.text], ?_, ?_⟩
    · exact List.forall_mem_cons.2 ⟨hc, fun c' hc' => of_mem_takeWhile hc'⟩
    · exact (UInt8.toNat_ofNat_of_lt' (Nat.lt_succ_of_le hle)).symm
  · cases h

theorem isSpelledBy_of_quoted {rest : List Char} {s : Symbol}
    (h : (Cut.quoted rest).piece.reading = .symbol s) :
    s.IsSpelledBy (Cut.quoted rest).piece.text := by
  unfold Cut.quoted at h ⊢
  split at h
  · cases h
  · rename_i quote after hrest
    cases h
    have hhead : quote ∈ (rest.dropWhile (· != '"')).head? := by
      rw [hrest]
      rfl
    obtain rfl : quote = '"' := by simpa using eq_false_of_head?_dropWhile hhead
    exact congrArg (fun content => '"' :: (content ++ ['"'])) String.toList_ofList.symm

theorem isSpelledBy_of_dashed {rest : List Char} {s : Symbol}
    (h : (Cut.dashed rest).piece.reading = .symbol s) :
    s.IsSpelledBy (Cut.dashed rest).piece.text := by
  unfold Cut.dashed at h ⊢
  split at h
  · split at h
    · rename_i hsplit
      cases h
      exact congrArg (fun content => fence ++ content ++ fence) String.toList_ofList.symm
    · cases h
  all_goals cases h

/-- The first character of a text tells which piece it starts, whatever follows. -/
theorem cut_cases (c : Char) :
    (isBlank c = true ∧ ∀ rest, cut c rest = .single c rest .trivia) ∨
    (c = '#' ∧ ∀ rest, cut c rest = .comment rest) ∨
    (c = '-' ∧ ∀ rest, cut c rest = .dashed rest) ∨
    (c = '"' ∧ ∀ rest, cut c rest = .quoted rest) ∨
    (c.isDigit = true ∧ ∀ rest, cut c rest = .number c rest) ∨
    (Unicode.isAlphabetic c = true ∧ ∀ rest, cut c rest = .word c rest) ∨
    (∃ p : Punct, c = p.char ∧ ∀ rest, cut c rest = .single c rest (.symbol (.punct p))) ∨
    ∀ rest, cut c rest = .single c rest (.fault .unexpectedCharacter) := by
  by_cases hblank : isBlank c = true
  · exact .inl ⟨hblank, fun _ => if_pos hblank⟩
  refine .inr ?_
  by_cases hcomment : c = '#'
  · subst hcomment
    exact .inl ⟨rfl, fun _ => rfl⟩
  refine .inr ?_
  by_cases hdash : c = '-'
  · subst hdash
    exact .inl ⟨rfl, fun _ => rfl⟩
  refine .inr ?_
  by_cases hquote : c = '"'
  · subst hquote
    exact .inl ⟨rfl, fun _ => rfl⟩
  unfold cut
  simp only [hblank, hcomment, hdash, hquote, ← Punct.ofChar?_eq_some_iff]
  cases hdigit : c.isDigit <;> cases halpha : Unicode.isAlphabetic c <;>
    cases hpunct : Punct.ofChar? c <;> simp

/-- The text of a piece spells the symbol that the piece is read as. -/
theorem isSpelledBy_of_cut {c : Char} {rest : List Char} {s : Symbol}
    (h : (cut c rest).piece.reading = .symbol s) : s.IsSpelledBy (cut c rest).piece.text := by
  obtain ⟨-, hcut⟩ | ⟨-, hcut⟩ | ⟨-, hcut⟩ | ⟨-, hcut⟩ | ⟨hc, hcut⟩ | ⟨-, hcut⟩ | ⟨p, rfl, hcut⟩ |
    hcut := cut_cases c
  all_goals rw [hcut] at h ⊢
  · cases h
  · cases h
  · exact isSpelledBy_of_dashed h
  · exact isSpelledBy_of_quoted h
  · exact isSpelledBy_of_number hc h
  · cases h
    exact isSpelledBy_wordSymbol _
  · cases h
    rfl
  · cases h

/-- The text of a piece that is read as trivia is a blank or a whole comment. -/
theorem isTrivia_of_cut {c : Char} {rest : List Char}
    (h : (cut c rest).piece.reading = .trivia) :
    IsTrivia (cut c rest).piece.text (cut c rest).rest := by
  obtain ⟨hc, hcut⟩ | ⟨rfl, hcut⟩ | ⟨-, hcut⟩ | ⟨-, hcut⟩ | ⟨-, hcut⟩ | ⟨-, hcut⟩ | ⟨p, -, hcut⟩ |
    hcut := cut_cases c
  all_goals rw [hcut] at h ⊢
  · refine .inl ⟨c, ?_, rfl⟩
    simpa [isBlank, or_assoc] using hc
  · refine .inr ⟨_, rfl, ?_, ?_⟩
    · intro hnewline
      simpa using of_mem_takeWhile hnewline
    · intro c hc
      simpa using eq_false_of_head?_dropWhile hc
  · unfold Cut.dashed at h
    repeat' split at h
    all_goals cases h
  · unfold Cut.quoted at h
    split at h <;> cases h
  · simp only [Cut.number, Cut.numberReading] at h
    split at h <;> cases h
  all_goals cases h

/-! ## Tokens and reports -/

theorem lexFrom_nil (p : Position) : lexFrom p [] = ⟨[], []⟩ := by
  rw [lexFrom, pieces]
  rfl

/-- The tokens and reports of a text are those of its first piece and of the rest. -/
theorem lexFrom_cons (p : Position) (c : Char) (rest : List Char) :
    let first : Placed := ⟨(cut c rest).piece, p⟩
    let next := lexFrom (p.advance first.piece.text) (cut c rest).rest
    (lexFrom p (c :: rest)).value = first.token?.toList ++ next.value ∧
      (lexFrom p (c :: rest)).reports = first.report?.toList ++ next.reports := by
  simp only [lexFrom, pieces, place, List.filterMap_cons]
  constructor
  · cases Placed.token? _ <;> rfl
  · cases Placed.report? _ <;> rfl

theorem marks_mark (before : List Char) (piece : Piece) :
    (Placed.mark ⟨piece, Position.start.advance before⟩).Marks before piece.text where
  char := rfl
  line := rfl
  span := by simp [Placed.mark, Position.spanOf, Position.advance, Position.start]

/-- The tokens and reports of a text account for it. -/
theorem accounts_lexFrom (before text : List Char) :
    Accounts before text (lexFrom (Position.start.advance before) text).value
      (lexFrom (Position.start.advance before) text).reports := by
  fun_induction pieces text generalizing before with
  | case1 =>
    rw [lexFrom_nil]
    exact .done
  | case2 c rest ih =>
    obtain ⟨hvalue, hreports⟩ := lexFrom_cons (Position.start.advance before) c rest
    have hrest := ih (before ++ (cut c rest).piece.text)
    rw [Position.advance_append] at hrest
    have hmark := marks_mark before (cut c rest).piece
    rw [hvalue, hreports, ← cut_append c rest]
    cases hreading : (cut c rest).piece.reading with
    | trivia =>
      simp only [Placed.token?, Placed.report?, hreading]
      exact .trivia (isTrivia_of_cut hreading) hrest
    | symbol s =>
      simp only [Placed.token?, Placed.report?, hreading]
      exact .token (isSpelledBy_of_cut hreading) hmark hrest
    | fault e =>
      simp only [Placed.token?, Placed.report?, hreading]
      exact .report (cut_rest_eq_nil hreading) hmark hrest

/-! ## Giving up -/

section

variable {before text : List Char} {tokens : List Token} {reports : List (Report LexError)}

/-- Where no text is left there is nothing to report. -/
theorem Accounts.reports_eq_nil (h : Accounts before [] tokens reports) : reports = [] := by
  generalize htext : [] = text at h
  cases h with
  | done => rfl
  | trivia hpiece =>
    obtain ⟨rfl, -⟩ := List.append_eq_nil_iff.1 htext.symm
    simp [IsTrivia] at hpiece
  | token _ hmark | report _ hmark =>
    obtain ⟨rfl, -⟩ := List.append_eq_nil_iff.1 htext.symm
    cases hmark.char

/-- Only the last report can give up. -/
theorem Accounts.givesUp_eq_false (h : Accounts before text tokens reports) :
    ∀ r ∈ reports.dropLast, r.cause.givesUp = false := by
  induction h with
  | done => simp
  | trivia _ _ ih => exact ih
  | token _ _ _ ih => exact ih
  | @report before piece rest tokens reports e mark hlast _ hrest ih =>
    cases reports with
    | nil => simp
    | cons next reports =>
      refine List.forall_mem_cons.2 ⟨?_, ih⟩
      rw [← Bool.not_eq_true]
      intro he
      have hnil := hlast he
      subst hnil
      cases hrest.reports_eq_nil

/-- The piece of a report that gives up reaches to the end of the text. -/
theorem Accounts.stop_of_givesUp (h : Accounts before text tokens reports) :
    ∀ r ∈ reports, r.cause.givesUp = true → r.span.stop = byteSize (before ++ text) := by
  induction h with
  | done => simp
  | trivia _ _ ih => simpa using ih
  | token _ _ _ ih => simpa using ih
  | @report before piece rest tokens reports e mark hlast hmark _ ih =>
    refine List.forall_mem_cons.2 ⟨fun he => ?_, by simpa using ih⟩
    have hnil := hlast he
    subst hnil
    simp [Mark.report, hmark.span]

end

end SlideDeck
