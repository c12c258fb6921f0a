import Mathlib.Data.List.TakeWhile
import SlideDeck.Proofs.Token.Account
import SlideDeck.Proofs.Token.Shift

/-!
# Texts joined by a line break

A line break ends what may go on in a text before it: a comment, a word, a number. Unless a text
block or a string is still open there, the two texts that it joins are read as they are alone.

Results:
* `cut_append_newline`: a piece that is not given up ends in front of the line break or before.
* `pieces_append_newline`: so the pieces of the joined text are those of its parts.
* `lex_append_newline`: and so are its tokens and diagnostics, those of the second part further
  down.
-/

namespace SlideDeck

open Unicode

/-! ## One piece -/

section

variable {p : Char → Bool} {c : Char}

theorem takeWhile_append_cons (hc : p c = false) (text tail : List Char) :
    (text ++ c :: tail).takeWhile p = text.takeWhile p := by
  induction text with
  | nil => simp [hc]
  | cons d text ih => cases hd : p d <;> simp [hd, ih]

theorem dropWhile_append_cons (hc : p c = false) (text tail : List Char) :
    (text ++ c :: tail).dropWhile p = text.dropWhile p ++ c :: tail := by
  induction text with
  | nil => simp [hc]
  | cons d text ih => cases hd : p d <;> simp [hd, ih]

end

namespace Cut

/-- The cut of a longer text: more follows the same piece. -/
def followedBy (k : Cut) (tail : List Char) : Cut := { k with rest := k.rest ++ tail }

/-- The piece takes the whole text because its end is missing. -/
def GivesUp (k : Cut) : Prop := ∃ e : LexError, k.piece.reading = .fault e ∧ e.givesUp = true

theorem comment_append_newline (rest tail : List Char) :
    comment (rest ++ '\n' :: tail) = (comment rest).followedBy ('\n' :: tail) := by
  rw [comment, takeWhile_append_cons (by decide), dropWhile_append_cons (by decide)]
  rfl

theorem word_append_newline (c : Char) (rest tail : List Char) :
    word c (rest ++ '\n' :: tail) = (word c rest).followedBy ('\n' :: tail) := by
  have hnewline : isAlphanumeric '\n' = false := isAlphanumeric_eq_false (.inl rfl)
  rw [word, takeWhile_append_cons hnewline, dropWhile_append_cons hnewline]
  rfl

theorem number_append_newline (c : Char) (rest tail : List Char) :
    number c (rest ++ '\n' :: tail) = (number c rest).followedBy ('\n' :: tail) := by
  rw [number, takeWhile_append_cons (by decide), dropWhile_append_cons (by decide)]
  rfl

/-- A string that is closed stays as it is whatever follows. -/
theorem quoted_append_tail {rest : List Char} (h : ¬ (quoted rest).GivesUp) (tail : List Char) :
    quoted (rest ++ tail) = (quoted rest).followedBy tail := by
  by_cases hquote : '"' ∈ rest
  · obtain ⟨text, after, rfl, htext⟩ := List.eq_append_cons_of_mem hquote
    rw [List.append_assoc, List.cons_append, quoted_append htext, quoted_append htext]
    rfl
  · have hopen : rest.dropWhile (· != '"') = [] := by
      rw [List.dropWhile_eq_nil_iff]
      intro c hc
      rw [bne_iff_ne]
      rintro rfl
      exact hquote hc
    refine absurd ⟨.unterminatedString, ?_, rfl⟩ h
    simp only [quoted, hopen]

/-- A dash that is followed by anything but two dashes is a piece of its own. -/
theorem dashed_of_ne {rest : List Char} (hone : rest ≠ []) (htwo : rest ≠ ['-'])
    (hbody : ∀ body, rest ≠ '-' :: '-' :: body) :
    dashed rest = single '-' rest (.fault .malformedText) := by
  rw [dashed]
  · exact hbody
  · exact htwo
  · exact hone

/-- A text block that is closed stays as it is whatever follows, and so does a stray dash. -/
theorem dashed_append_tail {rest : List Char} (h : ¬ (dashed rest).GivesUp) (tail : List Char) :
    dashed (rest ++ tail) = (dashed rest).followedBy tail := by
  have hone : rest ≠ [] := by
    rintro rfl
    exact h ⟨.unexpectedEnd, rfl, rfl⟩
  have htwo : rest ≠ ['-'] := by
    rintro rfl
    exact h ⟨.unexpectedEnd, rfl, rfl⟩
  by_cases hbody : ∃ body, rest = '-' :: '-' :: body
  · obtain ⟨body, rfl⟩ := hbody
    cases hsplit : splitAtDashes body with
    | none =>
      refine absurd ⟨.unterminatedText, ?_, rfl⟩ h
      simp only [dashed, hsplit]
    | some split =>
      obtain ⟨content, after⟩ := split
      obtain ⟨hfence, hlast⟩ := wellFormed_of_splitAtDashes hsplit
      obtain rfl := splitAtDashes_eq_some hsplit
      have hmore := dashed_append hfence hlast (after ++ tail)
      rw [← List.append_assoc] at hmore
      exact hmore.trans (congrArg (followedBy · tail) (dashed_append hfence hlast after).symm)
  · have hstray : ∀ body, rest ≠ '-' :: '-' :: body := fun body heq => hbody ⟨body, heq⟩
    -- What follows a character does not make it two dashes, or a dash at the end.
    have honeMore : rest ++ tail ≠ [] := fun heq => hone (List.append_eq_nil_iff.1 heq).1
    have htwoMore : rest ++ tail ≠ ['-'] := by
      intro heq
      obtain ⟨rfl, -⟩ | ⟨rest, rfl, hnil⟩ := List.append_eq_cons_iff.1 heq
      · exact hone rfl
      · obtain ⟨rfl, -⟩ := List.append_eq_nil_iff.1 hnil.symm
        exact htwo rfl
    have hstrayMore : ∀ body, rest ++ tail ≠ '-' :: '-' :: body := by
      intro body heq
      obtain ⟨rfl, -⟩ | ⟨rest, rfl, hrest⟩ := List.append_eq_cons_iff.1 heq
      · exact hone rfl
      · obtain ⟨rfl, -⟩ | ⟨body', rfl, -⟩ := List.append_eq_cons_iff.1 hrest.symm
        · exact htwo rfl
        · exact hstray body' rfl
    rw [dashed_of_ne hone htwo hstray, dashed_of_ne honeMore htwoMore hstrayMore]
    rfl

end Cut

/-- A piece that is not given up ends in front of the line break or before. -/
theorem cut_append_newline {c : Char} {rest : List Char} (h : ¬ (cut c rest).GivesUp)
    (tail : List Char) :
    cut c (rest ++ '\n' :: tail) = (cut c rest).followedBy ('\n' :: tail) := by
  obtain ⟨-, hcut⟩ | ⟨-, hcut⟩ | ⟨-, hcut⟩ | ⟨-, hcut⟩ | ⟨-, hcut⟩ | ⟨-, hcut⟩ | ⟨p, -, hcut⟩ |
    hcut := cut_cases c
  all_goals rw [hcut] at h
  all_goals rw [hcut, hcut]
  · rfl
  · exact Cut.comment_append_newline rest tail
  · exact Cut.dashed_append_tail h _
  · exact Cut.quoted_append_tail h _
  · exact Cut.number_append_newline c rest tail
  · exact Cut.word_append_newline c rest tail
  · rfl
  · rfl

/-! ## All pieces -/

/-- The pieces of two texts joined by a line break are those of the two, with the line break in
between. -/
theorem pieces_append_newline {a : List Char}
    (h : ∀ p ∈ pieces a, ∀ e, p.reading = .fault e → e.givesUp = false) (b : List Char) :
    pieces (a ++ '\n' :: b) = pieces a ++ pieces ('\n' :: b) := by
  fun_induction pieces a with
  | case1 => rfl
  | case2 c rest ih =>
    obtain ⟨hfirst, hrest⟩ := List.forall_mem_cons.1 h
    have hcut : ¬ (cut c rest).GivesUp := by
      rintro ⟨e, he, hgivesUp⟩
      rw [hfirst e he] at hgivesUp
      cases hgivesUp
    rw [List.cons_append, pieces, cut_append_newline hcut]
    exact congrArg (_ :: ·) (ih hrest)

/-- If no report of a text gives up, none of its pieces does. -/
theorem givesUp_eq_false_of_mem_pieces {p : Position} {text : List Char}
    (h : ∀ r ∈ (lexFrom p text).reports, r.cause.givesUp = false) :
    ∀ piece ∈ pieces text, ∀ e, piece.reading = .fault e → e.givesUp = false := by
  intro piece hpiece e he
  rw [← map_piece_place p (pieces text)] at hpiece
  obtain ⟨placed, hplaced, rfl⟩ := List.mem_map.1 hpiece
  have hreport : placed.report? = some (placed.mark.report e) := by
    rw [Placed.report?, he]
  exact h _ (List.mem_filterMap.2 ⟨placed, hplaced, hreport⟩)

/-! ## Tokens and diagnostics -/

/-- A line break is no token and no report. -/
theorem lexFrom_newline (p : Position) (text : List Char) :
    lexFrom p ('\n' :: text) = lexFrom (p.advance ['\n']) text := by
  rw [lexFrom, pieces]
  rfl

/-- The start of a text behind another one and a line break. -/
theorem start_advance_newline (a : String) :
    (Position.start.advance a.toList).advance ['\n'] =
      Position.start.shift (a.utf8ByteSize + 1) (newlines a.toList + 1) := by
  rw [← Position.advance_append, Position.advance_eq_shift, byteSize_append, newlines_append,
    byteSize_toList]
  rfl

/-- The tokens and reports of two texts joined by a line break, if the first text does not end
inside a text block or a string. -/
theorem lex_newline_eq {a : String} (h : ∀ r ∈ (lex a).reports, r.cause.givesUp = false)
    (b : String) : lex (a ++ "\n" ++ b) =
      ⟨(lex a).value ++
          (lex b).value.map (Token.shift (a.utf8ByteSize + 1) (newlines a.toList + 1)),
        (lex a).reports ++
          (lex b).reports.map (Report.shift (a.utf8ByteSize + 1) (newlines a.toList + 1))⟩ := by
  have htext : (a ++ "\n" ++ b).toList = a.toList ++ '\n' :: b.toList := by simp
  have hpieces := pieces_append_newline (givesUp_eq_false_of_mem_pieces h) b.toList
  rw [lex, htext, lexFrom_append .start hpieces, lexFrom_newline, start_advance_newline,
    lexFrom_shift]
  rfl

/-- Unless a text ends inside a text block or a string, what follows it on a new line is read as if
it stood alone, only further down. The whole is read without a fault exactly if both are. -/
theorem lex_append_newline (a b : String)
    (h : ∀ r ∈ (lex a).reports, r.cause.givesUp = false) :
    let joined := lex (a ++ "\n" ++ b)
    let bytes := a.utf8ByteSize + 1
    let lines := newlines a.toList + 1
    joined.value = (lex a).value ++ (lex b).value.map (Token.shift bytes lines) ∧
      joined.diagnostics =
        (lex a).diagnostics ++ (lex b).diagnostics.map (Diagnostic.shift bytes lines) ∧
      ((∃ tokens, joined.result = .ok tokens) ↔
        (∃ tokens, (lex a).result = .ok tokens) ∧ ∃ tokens, (lex b).result = .ok tokens) := by
  intro joined bytes lines
  have hjoined : joined = _ := lex_newline_eq h b
  rw [hjoined]
  refine ⟨rfl, ?_, ?_⟩
  · rw [Outcome.diagnostics, List.map_append, map_diagnostic_shift]
    rfl
  · simp only [Outcome.result_eq_ok_iff, Outcome.isOk_iff, List.append_eq_nil_iff,
      List.map_eq_nil_iff, exists_and_left, exists_eq', and_true]

/-- A comment ends with the line. A stray dash and a word that starts like a keyword stand before
it, and a dash that ends the input after it. -/
theorem lex_append_newline_comment :
    let joined := lex ("é- let#x" ++ "\n" ++ "ter \n-")
    (lex "é- let#x").reports = [⟨.malformedText, 1, some '-', ⟨2, 3⟩⟩] ∧
      joined.value = [⟨.identifier "é", ⟨1, 'é', ⟨0, 2⟩⟩⟩, ⟨.keyword .letKw, ⟨1, 'l', ⟨4, 7⟩⟩⟩] ++
        [⟨.identifier "ter", ⟨2, 't', ⟨10, 13⟩⟩⟩] ∧
      joined.diagnostics = (lex "é- let#x").diagnostics ++
        (lex "ter \n-").diagnostics.map (Diagnostic.shift 10 1) := by
  intro joined
  have hreports : (lex "é- let#x").reports = [⟨.malformedText, 1, some '-', ⟨2, 3⟩⟩] := by
    decide +kernel
  have hclosed : ∀ r ∈ (lex "é- let#x").reports, r.cause.givesUp = false := by
    rw [hreports]
    decide
  obtain ⟨hvalue, hdiagnostics, -⟩ := lex_append_newline "é- let#x" "ter \n-" hclosed
  refine ⟨hreports, ?_, ?_⟩
  · refine hvalue.trans ?_
    decide +kernel
  · refine hdiagnostics.trans ?_
    decide +kernel

end SlideDeck
