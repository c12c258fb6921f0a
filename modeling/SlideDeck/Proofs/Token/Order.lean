import SlideDeck.Proofs.Token.Account

/-!
# The order of tokens

Tokens stand in a source one after the other: the range of each is not empty, and starts where that
of the one before it ends, or later.

Results:
* `Accounts.pairwise_before`: tokens that account for a text are in order.
* `pairwise_before_lex`: so are those of a source.
-/

namespace SlideDeck

/-- The second range starts later than the first one, and not before that ends. -/
structure Span.Before (a b : Span) : Prop where
  start_lt : a.start < b.start
  stop_le : a.stop ≤ b.start

theorem byteSize_pos {text : List Char} (h : text ≠ []) : 0 < byteSize text := by
  cases text with
  | nil => exact absurd rfl h
  | cons c rest => exact Nat.add_pos_left c.utf8Size_pos _

variable {before text : List Char} {tokens : List Token} {reports : List (Report LexError)}

/-- No token starts before the text. -/
theorem Accounts.start_ge (h : Accounts before text tokens reports) :
    ∀ t ∈ tokens, byteSize before ≤ t.mark.span.start := by
  induction h with
  | done => simp
  | trivia _ _ ih | report _ _ _ ih =>
    intro t ht
    have := ih t ht
    rw [byteSize_append] at this
    omega
  | token _ hmark _ ih =>
    refine List.forall_mem_cons.2 ⟨by simp [hmark.span], fun t ht => ?_⟩
    have := ih t ht
    rw [byteSize_append] at this
    omega

/-- Tokens that account for a text are in order. -/
theorem Accounts.pairwise_before (h : Accounts before text tokens reports) :
    tokens.Pairwise fun t u => t.mark.span.Before u.mark.span := by
  induction h with
  | done => exact .nil
  | trivia _ _ ih | report _ _ _ ih => exact ih
  | @token before piece rest tokens reports s mark _ hmark hrest ih =>
    refine .cons (fun u hu => ?_) ih
    have hstart := hrest.start_ge u hu
    have hpiece : 0 < byteSize piece := byteSize_pos fun hnil => by cases hnil ▸ hmark.char
    rw [byteSize_append] at hstart
    rw [hmark.span]
    exact ⟨show byteSize before < u.mark.span.start by omega, hstart⟩

/-- The tokens of a source are in order. -/
theorem pairwise_before_lex (source : String) :
    (lex source).value.Pairwise fun t u => t.mark.span.Before u.mark.span :=
  (accounts_lexFrom [] source.toList).pairwise_before

end SlideDeck
