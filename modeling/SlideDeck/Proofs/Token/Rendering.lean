import SlideDeck.Proofs.Token.Spelling
import SlideDeck.Token.Lex

/-!
# Rendering tokens

Symbols are rendered one after the other, with blanks or comments between any two. Reading a
rendering gives the symbols back, and reading any text at all gives symbols that can be rendered.

Results:
* `Reads.spelling`, `Reads.trivia`: what is read of a text with a spelling or trivia in front.
* `Renders.reads`: a rendering is read as its symbols.
* `lex_rendering`: reading undoes rendering, and all that is read can be rendered.
-/

namespace SlideDeck

/-- What may stand between two tokens: blanks, and comments with the ends of their lines. -/
inductive Trivia : List Char → Prop
  | nil : Trivia []
  | blank {c : Char} {rest : List Char} : isBlank c = true → Trivia rest → Trivia (c :: rest)
  | comment {text rest : List Char} : '\n' ∉ text → Trivia rest →
      Trivia ('#' :: (text ++ '\n' :: rest))

/-- The text spells the symbols in order, with trivia between any two. -/
inductive Renders : List Symbol → List Char → Prop
  | nil : Renders [] []
  | single (s : Symbol) : Renders [s] s.spelling
  | cons {s next : Symbol} {symbols : List Symbol} {separator text : List Char} :
      separator ≠ [] → Trivia separator → Renders (next :: symbols) text →
      Renders (s :: next :: symbols) (s.spelling ++ (separator ++ text))

theorem Trivia.boundary {text : List Char} (h : Trivia text) : Boundary text := by
  cases h with
  | nil => simp [Boundary]
  | blank hc => simp [Boundary, hc]
  | comment => simp [Boundary]

theorem Boundary.append {text : List Char} (h : Boundary text) (hne : text ≠ [])
    (rest : List Char) : Boundary (text ++ rest) := by
  cases text with
  | nil => exact absurd rfl hne
  | cons c text => exact h

/-! ## What is read of a text -/

/-- The symbol that the piece is read as. -/
def Piece.symbol? (p : Piece) : Option Symbol :=
  match p.reading with
  | .symbol s => some s
  | _ => none

/-- The text is read as the symbols, without a fault. -/
def Reads (text : List Char) (symbols : List Symbol) : Prop :=
  (pieces text).filterMap Piece.symbol? = symbols ∧
    ∀ p ∈ pieces text, ∀ e, p.reading ≠ .fault e

section

variable {text tail : List Char} {symbols : List Symbol}

theorem pieces_cons (c : Char) (rest : List Char) :
    pieces (c :: rest) = (cut c rest).piece :: pieces (cut c rest).rest := by
  rw [pieces]

theorem reads_nil : Reads [] [] := by
  simp [Reads, pieces]

/-- A piece of trivia in front of a text is passed over. -/
theorem Reads.of_cut {c head : Char} {rest : List Char} (h : Reads tail symbols)
    (hcut : cut c rest = ⟨⟨head, text, .trivia⟩, tail⟩) : Reads (c :: rest) symbols := by
  rw [Reads, pieces_cons, hcut, List.forall_mem_cons, List.filterMap_cons]
  exact ⟨h.1, by simp, h.2⟩

/-- A spelling in front of a text is read as its symbol, unless a word could go on. -/
theorem Reads.spelling {s : Symbol} (h : Reads tail symbols) (hs : s.WellFormed)
    (htail : Boundary tail) : Reads (s.spelling ++ tail) (s :: symbols) := by
  obtain ⟨c, text, hspelling, hcut⟩ := cut_spelling hs htail
  rw [Reads, hspelling, List.cons_append, pieces_cons, hcut, List.forall_mem_cons]
  exact ⟨by simp [Piece.symbol?, h.1], by simp, h.2⟩

theorem Reads.blank {c : Char} (h : Reads tail symbols) (hc : isBlank c = true) :
    Reads (c :: tail) symbols :=
  h.of_cut (show cut c tail = .single c tail .trivia by simp [cut, hc])

theorem cut_comment (htext : '\n' ∉ text) (tail : List Char) :
    cut '#' (text ++ '\n' :: tail) = ⟨⟨'#', text, .trivia⟩, '\n' :: tail⟩ := by
  have hinside : ∀ c ∈ text, (c != '\n') = true := by
    intro c hc
    rw [bne_iff_ne]
    rintro rfl
    exact htext hc
  have hstop : ∀ c ∈ ('\n' :: tail).head?, (c != '\n') = false := by simp
  show Cut.comment _ = _
  rw [Cut.comment, takeWhile_append_of_head? hinside hstop,
    dropWhile_append_of_head? hinside hstop]

/-- Trivia in front of a text is passed over. -/
theorem Reads.trivia (h : Reads tail symbols) (htext : Trivia text) :
    Reads (text ++ tail) symbols := by
  induction htext with
  | nil => exact h
  | blank hc _ ih => exact ih.blank hc
  | @comment text rest htext _ ih =>
    have hline := (ih.blank (c := '\n') rfl).of_cut (cut_comment htext _)
    simpa using hline

/-- A rendering is read as its symbols. -/
theorem Renders.reads (h : Renders symbols text) (hs : ∀ s ∈ symbols, s.WellFormed)
    (htail : Reads tail []) (hboundary : Boundary tail) : Reads (text ++ tail) symbols := by
  induction h with
  | nil => exact htail
  | single s => exact htail.spelling (hs s (List.mem_singleton_self s)) hboundary
  | @cons s next symbols separator text hne hseparator _ ih =>
    obtain ⟨hfirst, hrest⟩ := List.forall_mem_cons.1 hs
    rw [List.append_assoc, List.append_assoc]
    exact ((ih hrest).trivia hseparator).spelling hfirst (hseparator.boundary.append hne _)

/-! ## The tokens of what is read -/

theorem map_symbol_lexFrom (p : Position) (text : List Char) :
    (lexFrom p text).value.map Token.symbol = (pieces text).filterMap Piece.symbol? := by
  have hsymbol (placed : Placed) : placed.token?.map Token.symbol = placed.piece.symbol? := by
    unfold Placed.token? Piece.symbol?
    cases placed.piece.reading <;> rfl
  simp only [lexFrom, List.map_filterMap, hsymbol]
  rw [← map_piece_place p (pieces text), List.filterMap_map, map_piece_place]
  rfl

/-- A text that is read without a fault has the symbols for its tokens. -/
theorem Reads.result_lexFrom (h : Reads text symbols) (p : Position) :
    ∃ tokens, (lexFrom p text).result = .ok tokens ∧ tokens.map Token.symbol = symbols := by
  have hreports : (lexFrom p text).reports = [] := by
    simp only [lexFrom, List.filterMap_eq_nil_iff]
    intro placed hplaced
    have hpiece : placed.piece ∈ pieces text := by
      rw [← map_piece_place p (pieces text)]
      exact List.mem_map_of_mem hplaced
    unfold Placed.report?
    split
    · rename_i e he
      exact absurd he (h.2 _ hpiece e)
    · rfl
  refine ⟨_, Outcome.result_eq_ok_iff.2 ⟨Outcome.isOk_iff.2 hreports, rfl⟩, ?_⟩
  rw [map_symbol_lexFrom, h.1]

theorem wellFormed_of_mem_pieces {p : Piece} (hp : p ∈ pieces text) {s : Symbol}
    (hs : p.symbol? = some s) : s.WellFormed := by
  fun_induction pieces text with
  | case1 => cases hp
  | case2 c rest ih =>
    rcases List.mem_cons.1 hp with rfl | hp
    · unfold Piece.symbol? at hs
      split at hs
      · rename_i hreading
        cases hs
        exact wellFormed_of_cut hreading
      · cases hs
    · exact ih hp

end

/-- Reading undoes rendering, with trivia before and after it as well; and all that is read of any
text, faults or not, can be rendered. -/
theorem lex_rendering :
    (∀ symbols text before after, (∀ s ∈ symbols, s.WellFormed) → Renders symbols text →
      Trivia before → Trivia after → ∃ tokens,
        (lex (String.ofList (before ++ text ++ after))).result = .ok tokens ∧
          tokens.map Token.symbol = symbols) ∧
    ∀ source, ∀ t ∈ (lex source).value, t.symbol.WellFormed := by
  constructor
  · intro symbols text before after hsymbols htext hbefore hafter
    have hend : Reads after [] := by simpa using reads_nil.trivia hafter
    have hreads := (htext.reads hsymbols hend hafter.boundary).trivia hbefore
    rw [lex, String.toList_ofList, List.append_assoc]
    exact hreads.result_lexFrom .start
  · intro source t ht
    have hsymbol : t.symbol ∈ (lex source).value.map Token.symbol := List.mem_map_of_mem ht
    rw [lex, map_symbol_lexFrom] at hsymbol
    obtain ⟨p, hp, hs⟩ := List.mem_filterMap.1 hsymbol
    exact wellFormed_of_mem_pieces hp hs

/-- A comment may stand right between a word and a text block that starts with dashes of its own. -/
theorem lex_rendering_comment :
    let text := Symbol.spelling (.keyword .letKw) ++ ([' '] ++
      (Symbol.spelling (.identifier "letter") ++ ('#' :: (['o', 'k'] ++ ['\n']) ++
      (Symbol.spelling (.text "--a--b") ++ (['\t'] ++ Symbol.spelling (.integer 255))))))
    text = "let letter#ok\n-----a--b---\t255".toList ∧ ∃ tokens,
      (lex (String.ofList text)).result = .ok tokens ∧ tokens.map Token.symbol =
        [.keyword .letKw, .identifier "letter", .text "--a--b", .integer 255] := by
  have hword : (Symbol.identifier "letter").WellFormed := by
    have hletters : "letter".toList.all Unicode.isAlphanumeric = true := by decide +kernel
    refine ⟨⟨'l', rfl, by decide +kernel⟩, List.all_eq_true.1 hletters, ?_⟩
    rintro ⟨⟩ <;> decide
  have htext : (Symbol.text "--a--b").WellFormed := ⟨by decide, by decide⟩
  have hsymbols : ∀ s ∈ [.keyword .letKw, .identifier "letter", .text "--a--b", .integer 255],
      Symbol.WellFormed s :=
    List.forall_mem_cons.2 ⟨trivial, List.forall_mem_cons.2 ⟨hword, List.forall_mem_cons.2 ⟨htext,
      List.forall_mem_singleton.2 trivial⟩⟩⟩
  have hspace : Trivia [' '] := .blank rfl .nil
  have hcomment : Trivia ('#' :: (['o', 'k'] ++ ['\n'])) := .comment (by decide) .nil
  have htab : Trivia ['\t'] := .blank rfl .nil
  refine ⟨by decide, ?_⟩
  have htokens := lex_rendering.1
    [.keyword .letKw, .identifier "letter", .text "--a--b", .integer 255] _ [] [] hsymbols
    (.cons (by simp) hspace (.cons (by simp) hcomment (.cons (by simp) htab (.single _))))
    .nil .nil
  rwa [List.append_nil, List.nil_append] at htokens

end SlideDeck
