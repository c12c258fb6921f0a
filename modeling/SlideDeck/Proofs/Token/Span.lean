import SlideDeck.Proofs.Token.Line

/-!
# Ranges of a source

A range can be shown beside a source only if it lies in it and parts no character. Such ranges are
those of the parts of the source, and those of its tokens and of what is reported about its pieces
are among them.

Results:
* `isValid_byteSize`: there is a boundary between characters where a part of the source ends.
* `Span.within_iff`: the ranges that can be shown are those of the parts of the source.
* `within_of_mem_lex`, `within_of_mem_lex_reports`: tokens and reports of a source cover such
  ranges.
-/

namespace SlideDeck

/-- The range lies in the source, and starts and ends between two characters. -/
structure Span.Within (span : Span) (source : String) : Prop where
  start_le : span.start ≤ span.stop
  stop_le : span.stop ≤ source.utf8ByteSize
  start_valid : String.Pos.Raw.IsValid source ⟨span.start⟩
  stop_valid : String.Pos.Raw.IsValid source ⟨span.stop⟩

variable {source : String}

/-! ## Boundaries of characters -/

theorem isValid_byteSize {before after : List Char} (h : source.toList = before ++ after) :
    String.Pos.Raw.IsValid source ⟨byteSize before⟩ := by
  rw [String.Pos.Raw.isValid_iff_exists_append]
  refine ⟨String.ofList before, String.ofList after, ?_, ?_⟩
  · rw [← String.ofList_append, ← h, String.ofList_toList]
  · exact congrArg String.Pos.Raw.mk (byteSize_ofList before).symm

/-- Every boundary of characters is where a part of the source ends. -/
theorem exists_of_isValid {offset : Nat} (h : String.Pos.Raw.IsValid source ⟨offset⟩) :
    ∃ before after, source.toList = before ++ after ∧ offset = byteSize before := by
  obtain ⟨front, rest, rfl, hoffset⟩ := String.Pos.Raw.isValid_iff_exists_append.1 h
  refine ⟨front.toList, rest.toList, String.toList_append, ?_⟩
  rw [byteSize_toList]
  exact congrArg String.Pos.Raw.byteIdx hoffset

/-! ## Parts of the source -/

/-- Of two beginnings of a text, the one of fewer bytes is the beginning of the other. -/
theorem prefix_of_byteSize_le {a b text : List Char} (ha : a <+: text) (hb : b <+: text)
    (h : byteSize a ≤ byteSize b) : a <+: b := by
  rcases List.prefix_or_prefix_of_prefix ha hb with hab | ⟨more, rfl⟩
  · exact hab
  · cases more with
    | nil => exact ⟨[], by rw [List.append_nil, List.append_nil]⟩
    | cons c more =>
      have := c.utf8Size_pos
      rw [byteSize_append, byteSize_cons] at h
      omega

namespace Span

/-- The ranges that can be shown are those of the parts of the source. -/
theorem within_iff {span : Span} : span.Within source ↔ ∃ before piece after,
    source.toList = before ++ (piece ++ after) ∧
      span = ⟨byteSize before, byteSize before + byteSize piece⟩ := by
  obtain ⟨start, stop⟩ := span
  constructor
  · rintro ⟨hle, -, hstart, hstop⟩
    obtain ⟨before, rest, hbefore, rfl⟩ := exists_of_isValid hstart
    obtain ⟨front, after, hfront, rfl⟩ := exists_of_isValid hstop
    have hprefix : before <+: source.toList := ⟨rest, hbefore.symm⟩
    obtain ⟨piece, rfl⟩ := prefix_of_byteSize_le hprefix ⟨after, hfront.symm⟩ hle
    exact ⟨before, piece, after, by rw [hfront, List.append_assoc], by rw [byteSize_append]⟩
  · rintro ⟨before, piece, after, hsource, heq⟩
    obtain ⟨rfl, rfl⟩ := Span.mk.inj heq
    have hstart := isValid_byteSize hsource
    rw [← List.append_assoc] at hsource
    have hstop := isValid_byteSize hsource
    rw [byteSize_append] at hstop
    exact ⟨Nat.le_add_right _ _, hstop.le_rawEndPos, hstart, hstop⟩

/-- Where a range ends, there is an empty one. -/
theorem Within.emptyAt_stop {span : Span} (h : span.Within source) :
    (emptyAt span.stop).Within source :=
  ⟨Nat.le_refl _, h.stop_le, h.stop_valid, h.stop_valid⟩

theorem within_emptyAt_zero (source : String) : (emptyAt 0).Within source :=
  within_iff.2 ⟨[], [], source.toList, rfl, rfl⟩

end Span

/-! ## Tokens and reports -/

theorem Mark.Marks.within {mark : Mark} {before piece after : List Char}
    (h : mark.Marks before piece) (hsource : source.toList = before ++ (piece ++ after)) :
    mark.span.Within source :=
  Span.within_iff.2 ⟨before, piece, after, hsource, h.span⟩

theorem within_of_mem_lex {t : Token} (ht : t ∈ (lex source).value) :
    t.mark.span.Within source := by
  obtain ⟨before, piece, after, hsource, hmark, -⟩ :=
    (accounts_lexFrom [] source.toList).exists_of_mem_tokens ht
  exact hmark.within hsource

theorem within_of_mem_lex_reports {r : Report LexError} (hr : r ∈ (lex source).reports) :
    r.span.Within source := by
  obtain ⟨before, piece, after, hsource, mark, e, hmark, rfl⟩ :=
    (accounts_lexFrom [] source.toList).exists_of_mem_reports hr
  exact hmark.within hsource

end SlideDeck
