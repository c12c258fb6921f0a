import Mathlib.Order.Bounds.Basic
import SlideDeck.Proofs.Token.Account
import SlideDeck.Proofs.Token.Shift

/-!
# The end of a text block

A text block ends at the first three dashes in a row after those that open it. All before them is
its text, with the dashes that are fewer; all behind them is read as if it stood alone.

Results:
* `splitAtDashes_of_isLeast`, `splitAtDashes_eq_none`: the text is split where three dashes occur
  first, and not at all if they do not occur.
* `countDashes_eq_splitAtDashes`: a reader that counts the dashes which may yet belong to the text
  finds the same end.
* `lex_fence`: what is read of three dashes with any text behind them, and that a reader that counts
  dashes comes to the same.
-/

namespace SlideDeck

/-! ## The first three dashes -/

/-- A text is split where three dashes occur first. -/
theorem splitAtDashes_of_isLeast {text : List Char} {i : Nat}
    (h : IsLeast {i | fence <+: text.drop i} i) :
    Cut.splitAtDashes text = some (text.take i, text.drop (i + 3)) := by
  obtain ⟨hfence, hleast⟩ := h
  fun_induction Cut.splitAtDashes text generalizing i with
  | case1 after =>
    have hi : i ≤ 0 := hleast ⟨after, rfl⟩
    obtain rfl := Nat.le_zero.1 hi
    rfl
  | case2 c rest hne ih =>
    cases i with
    | zero =>
      obtain ⟨after, hafter⟩ := hfence
      obtain ⟨rfl, rfl⟩ := List.cons.inj hafter
      exact absurd rfl (hne after rfl)
    | succ i =>
      rw [ih hfence fun j hj => Nat.le_of_succ_le_succ (hleast hj)]
      rfl
  | case3 =>
    obtain ⟨after, hafter⟩ := hfence
    simp [fence] at hafter

/-- A text without three dashes in a row is not split. -/
theorem splitAtDashes_eq_none {text : List Char} (h : ¬ fence <:+: text) :
    Cut.splitAtDashes text = none := by
  cases hsplit : Cut.splitAtDashes text with
  | none => rfl
  | some split => exact absurd ⟨_, _, (Cut.splitAtDashes_eq_some hsplit).symm⟩ h

/-! ## Counting dashes -/

/-- The text up to the third dash in a row, read one character after the other, and what is behind.
So many dashes were read just before; they belong to the text once another character follows. -/
def countDashes (dashes : Nat) : List Char → Option (List Char × List Char)
  | [] => none
  | c :: rest =>
    if c = '-' then
      if dashes = 2 then some ([], rest) else countDashes (dashes + 1) rest
    else (countDashes 0 rest).map fun (content, after) =>
      (List.replicate dashes '-' ++ c :: content, after)

/-- Up to two dashes before another character belong to the text. -/
theorem splitAtDashes_replicate {dashes : Nat} (h : dashes ≤ 2) {c : Char} (hc : c ≠ '-')
    (rest : List Char) :
    Cut.splitAtDashes (List.replicate dashes '-' ++ c :: rest) =
      (Cut.splitAtDashes rest).map fun (content, after) =>
        (List.replicate dashes '-' ++ c :: content, after) := by
  induction dashes with
  | zero =>
    show Cut.splitAtDashes (c :: rest) = _
    rw [Cut.splitAtDashes]
    · rfl
    · intro after hdash
      exact absurd hdash hc
  | succ dashes ih =>
    have hne : ∀ after, '-' = '-' →
        List.replicate dashes '-' ++ c :: rest ≠ '-' :: '-' :: after := by
      intro after _ heq
      obtain rfl | rfl : dashes = 0 ∨ dashes = 1 := by omega
      · exact hc (List.cons.inj heq).1
      · exact hc (List.cons.inj (List.cons.inj heq).2).1
    rw [List.replicate_succ, List.cons_append, Cut.splitAtDashes]
    · rw [ih (Nat.le_of_succ_le h), Option.map_map]
      rfl
    · exact hne

/-- Counting dashes finds the first three in a row, those that were just read included. -/
theorem countDashes_eq {dashes : Nat} (h : dashes ≤ 2) (text : List Char) :
    countDashes dashes text = Cut.splitAtDashes (List.replicate dashes '-' ++ text) := by
  induction text generalizing dashes with
  | nil =>
    obtain rfl | rfl | rfl : dashes = 0 ∨ dashes = 1 ∨ dashes = 2 := by omega
    all_goals rfl
  | cons c rest ih =>
    by_cases hc : c = '-'
    · subst hc
      by_cases htwo : dashes = 2
      · subst htwo
        rfl
      · have hmore : dashes + 1 ≤ 2 := by omega
        rw [countDashes, if_pos rfl, if_neg htwo, ih hmore, List.replicate_succ',
          List.append_assoc]
        rfl
    · rw [countDashes, if_neg hc, ih (Nat.zero_le 2), splitAtDashes_replicate h hc]
      rfl

/-- A reader that counts dashes finds the end of a text block. -/
theorem countDashes_eq_splitAtDashes (text : List Char) :
    countDashes 0 text = Cut.splitAtDashes text :=
  countDashes_eq (Nat.zero_le 2) text

/-! ## Text blocks -/

section

variable {w content after : List Char}

/-- The piece of a text block that is closed. -/
def textBlock (content : List Char) : Piece :=
  ⟨'-', '-' :: '-' :: content ++ fence, .symbol (.text (String.ofList content))⟩

theorem byteSize_textBlock (content : List Char) :
    byteSize (textBlock content).text = byteSize content + 6 := by
  have htext : (textBlock content).text = fence ++ content ++ fence := rfl
  rw [htext, byteSize_append, byteSize_append, show byteSize fence = 3 from rfl]
  omega

theorem newlines_textBlock (content : List Char) :
    newlines (textBlock content).text = newlines content := by
  have htext : (textBlock content).text = fence ++ content ++ fence := rfl
  rw [htext, newlines_append, newlines_append, show newlines fence = 0 from rfl]
  omega

theorem cut_dash (rest : List Char) : cut '-' rest = .dashed rest := rfl

/-- Three dashes open a text block that ends where the text behind them is split. -/
theorem lexFrom_of_split (h : Cut.splitAtDashes w = some (content, after)) :
    lexFrom .start (fence ++ w) =
      ⟨⟨.text (String.ofList content), ⟨1, '-', ⟨0, byteSize content + 6⟩⟩⟩ ::
          (lexFrom .start after).value.map (Token.shift (byteSize content + 6) (newlines content)),
        (lexFrom .start after).reports.map
          (Report.shift (byteSize content + 6) (newlines content))⟩ := by
  have hcut : cut '-' ('-' :: '-' :: w) = ⟨textBlock content, after⟩ := by
    rw [cut_dash, Cut.dashed, h]
    rfl
  have hlex := lexFrom_start_cons '-' ('-' :: '-' :: w)
  simp only [hcut, Placed.token?, Placed.report?, textBlock, Placed.mark_start] at hlex
  rw [← textBlock, byteSize_textBlock, newlines_textBlock] at hlex
  exact hlex

/-- If it is not split, the text block is never closed and takes everything. -/
theorem lexFrom_of_split_eq_none (h : Cut.splitAtDashes w = none) :
    lexFrom .start (fence ++ w) =
      ⟨[], [⟨.unterminatedText, 1, some '-', ⟨0, byteSize (fence ++ w)⟩⟩]⟩ := by
  have hcut : cut '-' ('-' :: '-' :: w) =
      ⟨⟨'-', '-' :: '-' :: w, .fault .unterminatedText⟩, []⟩ := by
    rw [cut_dash, Cut.dashed, h]
  have hlex := lexFrom_start_cons '-' ('-' :: '-' :: w)
  simp only [hcut, Placed.token?, Placed.report?, Placed.mark_start, lexFrom_nil] at hlex
  exact hlex

end

/-- What is read of three dashes and a text behind them. If three dashes in a row occur in the text,
all before the first of them is the text of a block, and all behind them is read as if it stood
alone, only further down. If they do not occur, the block is never closed, and nothing else is
read. A reader that counts dashes finds the first three of them, or none, alike. -/
theorem lex_fence (w : String) :
    (∀ i, IsLeast {i | fence <+: w.toList.drop i} i →
      let content := w.toList.take i
      let behind := lex (String.ofList (w.toList.drop (i + 3)))
      let bytes := byteSize content + 6
      (lex ("---" ++ w)).value = ⟨.text (String.ofList content), ⟨1, '-', ⟨0, bytes⟩⟩⟩ ::
          behind.value.map (Token.shift bytes (newlines content)) ∧
        (lex ("---" ++ w)).diagnostics =
          behind.diagnostics.map (Diagnostic.shift bytes (newlines content)) ∧
        countDashes 0 w.toList = some (content, w.toList.drop (i + 3))) ∧
    (¬ fence <:+: w.toList → (lex ("---" ++ w)).value = [] ∧
      (lex ("---" ++ w)).diagnostics = [{
        line := 1
        char := some '-'
        stage := some .lexing
        message := "Unterminated text block"
        span := some ⟨0, ("---" ++ w).utf8ByteSize⟩ }] ∧
      countDashes 0 w.toList = none) := by
  have htext : ("---" ++ w).toList = fence ++ w.toList := String.toList_append
  constructor
  · intro i hi content behind bytes
    have hsplit := splitAtDashes_of_isLeast hi
    have hlex := lexFrom_of_split hsplit
    have hbehind : behind = lexFrom .start (w.toList.drop (i + 3)) := by
      rw [← String.toList_ofList (l := w.toList.drop (i + 3))]
      rfl
    rw [lex, htext, hlex, hbehind]
    exact ⟨rfl, map_diagnostic_shift bytes (newlines content) _,
      (countDashes_eq_splitAtDashes w.toList).trans hsplit⟩
  · intro hnone
    have hsplit := splitAtDashes_eq_none hnone
    rw [lex, htext, lexFrom_of_split_eq_none hsplit, ← htext, byteSize_toList]
    exact ⟨rfl, rfl, (countDashes_eq_splitAtDashes w.toList).trans hsplit⟩

/-- Two dashes in the text, a line break and a fourth dash behind the three; and a block in which no
more than two dashes come in a row. -/
theorem lex_fence_dashes :
    let closed := lex ("---" ++ "-a\n--b----c")
    closed.value = [⟨.text "-a\n--b", ⟨1, '-', ⟨0, 12⟩⟩⟩, ⟨.identifier "c", ⟨2, 'c', ⟨13, 14⟩⟩⟩] ∧
      closed.diagnostics.map (·.span) = [some ⟨12, 13⟩] ∧
      (lex ("---" ++ "é--b--")).diagnostics.map (·.span) = [some ⟨0, 10⟩] := by
  intro closed
  have hleast : IsLeast {i | fence <+: "-a\n--b----c".toList.drop i} 6 := by
    refine ⟨by decide, fun i hi => Nat.le_of_not_lt fun hlt => ?_⟩
    have hall : ∀ j < 6, ¬ fence <+: "-a\n--b----c".toList.drop j := by decide +kernel
    exact hall i hlt hi
  have hnone : ¬ fence <:+: "é--b--".toList := by decide +kernel
  obtain ⟨hvalue, hdiagnostics, -⟩ := (lex_fence "-a\n--b----c").1 6 hleast
  obtain ⟨-, hopen, -⟩ := (lex_fence "é--b--").2 hnone
  refine ⟨?_, ?_, ?_⟩
  · refine hvalue.trans ?_
    decide +kernel
  · rw [hdiagnostics]
    decide +kernel
  · rw [hopen]
    decide +kernel

end SlideDeck
