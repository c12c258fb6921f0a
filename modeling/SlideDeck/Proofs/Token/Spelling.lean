import SlideDeck.Token.Piece

/-!
# Spelling symbols

Every symbol that some text is read as has a spelling. The texts of identifiers, strings and text
blocks are restricted: an identifier is a word and no keyword, a string holds no quote, and a text
block holds no three dashes in a row and ends in none.

Results:
* `cut_spelling`: where no word could go on, the spelling of a well-formed symbol is read as it.
* `wellFormed_of_cut`: whatever a text is read as is well formed.
-/

namespace SlideDeck

open Unicode

/-! ## Well-formed symbols and their spelling -/

/-- The dashes around a text block. -/
def fence : List Char := ['-', '-', '-']

/-- The symbol can be spelled. -/
def Symbol.WellFormed : Symbol → Prop
  | .punct _ | .keyword _ | .integer _ => True
  | .identifier name =>
    (∃ c ∈ name.toList.head?, isAlphabetic c = true) ∧
      (∀ c ∈ name.toList, isAlphanumeric c = true) ∧ ∀ k : Keyword, name.toList ≠ k.letters
  | .text content => ¬ fence <:+: content.toList ∧ content.toList.getLast? ≠ some '-'
  | .string content => '"' ∉ content.toList
  | .endOfInput => False

/-- The text of the symbol. -/
def Symbol.spelling : Symbol → List Char
  | .punct p => [p.char]
  | .keyword k => k.letters
  | .identifier name => name.toList
  | .text content => fence ++ content.toList ++ fence
  | .string content => '"' :: content.toList ++ ['"']
  | .integer value => Nat.toDigits 10 value.toNat
  | .endOfInput => []

/-- The text is empty or starts between two tokens, with a blank or a comment. -/
def Boundary (text : List Char) : Prop := ∀ c ∈ text.head?, isBlank c = true ∨ c = '#'

/-! ## Characters -/

theorem mem_of_isBlank_or_hash {c : Char} (h : isBlank c = true ∨ c = '#') :
    c ∈ [' ', '\t', '\r', '\n', '#'] := by
  simpa [isBlank, or_assoc] using h

/-- Neither blanks nor the mark of a comment belong to a word. -/
theorem isAlphanumeric_eq_false {c : Char} (h : isBlank c = true ∨ c = '#') :
    isAlphanumeric c = false := by
  have hall : [' ', '\t', '\r', '\n', '#'].all (fun c => !isAlphanumeric c) = true := by
    decide +kernel
  simpa using List.all_eq_true.1 hall c (mem_of_isBlank_or_hash h)

theorem isDigit_eq_false {c : Char} (h : isBlank c = true ∨ c = '#') : c.isDigit = false := by
  have hall : [' ', '\t', '\r', '\n', '#'].all (fun c => !c.isDigit) = true := by decide
  simpa using List.all_eq_true.1 hall c (mem_of_isBlank_or_hash h)

/-- No character before the first letter is alphabetic. -/
theorem le_toNat_of_isAlphabetic {c : Char} (h : isAlphabetic c = true) : 'A'.toNat ≤ c.toNat := by
  have hfirst : ∀ range ∈ alphabetic, 'A'.toNat ≤ range.1 := by decide +kernel
  rw [isAlphabetic, Ranges.contains_eq_any alphabetic_isSorted, List.any_eq_true] at h
  obtain ⟨range, hrange, hle⟩ := h
  simp only [Bool.and_eq_true, decide_eq_true_eq] at hle
  exact Nat.le_trans (hfirst range hrange) hle.1

/-! ## Which piece a character starts -/

theorem cut_of_isDigit {c : Char} (h : c.isDigit = true) (rest : List Char) :
    cut c rest = .number c rest := by
  have hall : [' ', '\t', '\r', '\n', '#', '-', '"'].all (fun c => !c.isDigit) = true := by decide
  have hne : ∀ c' ∈ [' ', '\t', '\r', '\n', '#', '-', '"'], c ≠ c' := by
    rintro c' hc' rfl
    have hdigit := List.all_eq_true.1 hall c hc'
    simp [h] at hdigit
  simp_all [cut, isBlank]

theorem cut_of_isAlphabetic {c : Char} (h : isAlphabetic c = true) (rest : List Char) :
    cut c rest = .word c rest := by
  have hle := le_toNat_of_isAlphabetic h
  have hall : [' ', '\t', '\r', '\n', '#', '-', '"'].all (·.toNat < 'A'.toNat) = true := by decide
  have hne : ∀ c' ∈ [' ', '\t', '\r', '\n', '#', '-', '"'], c ≠ c' := by
    rintro c' hc' rfl
    have hlt : c.toNat < 'A'.toNat := of_decide_eq_true (List.all_eq_true.1 hall c hc')
    exact absurd hlt (Nat.not_lt.2 hle)
  have hdigit : c.isDigit = false := by
    rw [← Bool.not_eq_true, Char.isDigit_iff_toNat]
    rintro ⟨-, hdigit⟩
    have hlt : '9'.toNat < 'A'.toNat := by decide
    omega
  simp_all [cut, isBlank]

theorem cut_punct (p : Punct) (rest : List Char) :
    cut p.char rest = .single p.char rest (.symbol (.punct p)) := by
  have halpha : isAlphabetic p.char = false := by cases p <;> decide +kernel
  simp only [cut, halpha]
  cases p <;> rfl

/-! ## Where a piece ends -/

section

variable {p : Char → Bool} {text tail : List Char}

theorem takeWhile_append_of_head? (htext : ∀ c ∈ text, p c = true)
    (htail : ∀ c ∈ tail.head?, p c = false) : (text ++ tail).takeWhile p = text := by
  rw [List.takeWhile_append_of_pos htext]
  cases tail with
  | nil => simp
  | cons c tail => simp [htail c rfl]

theorem dropWhile_append_of_head? (htext : ∀ c ∈ text, p c = true)
    (htail : ∀ c ∈ tail.head?, p c = false) : (text ++ tail).dropWhile p = tail := by
  rw [List.dropWhile_append_of_pos htext]
  cases tail with
  | nil => rfl
  | cons c tail => simp [htail c rfl]

theorem word_append (c : Char) (htext : ∀ c ∈ text, isAlphanumeric c = true)
    (htail : Boundary tail) :
    Cut.word c (text ++ tail) = ⟨⟨c, text, .symbol (Cut.wordSymbol (c :: text))⟩, tail⟩ := by
  have hstop : ∀ c ∈ tail.head?, isAlphanumeric c = false :=
    fun c hc => isAlphanumeric_eq_false (htail c hc)
  rw [Cut.word, takeWhile_append_of_head? htext hstop, dropWhile_append_of_head? htext hstop]

theorem number_append (c : Char) (htext : ∀ c ∈ text, c.isDigit = true) (htail : Boundary tail) :
    Cut.number c (text ++ tail) = ⟨⟨c, text, Cut.numberReading (c :: text)⟩, tail⟩ := by
  have hstop : ∀ c ∈ tail.head?, c.isDigit = false := fun c hc => isDigit_eq_false (htail c hc)
  rw [Cut.number, takeWhile_append_of_head? htext hstop, dropWhile_append_of_head? htext hstop]

theorem quoted_append (htext : '"' ∉ text) (tail : List Char) :
    Cut.quoted (text ++ '"' :: tail) =
      ⟨⟨'"', text ++ ['"'], .symbol (.string (String.ofList text))⟩, tail⟩ := by
  have hinside : ∀ c ∈ text, (c != '"') = true := by
    intro c hc
    rw [bne_iff_ne]
    rintro rfl
    exact htext hc
  have hstop : ∀ c ∈ ('"' :: tail).head?, (c != '"') = false := by simp
  rw [Cut.quoted, dropWhile_append_of_head? hinside hstop]
  simp only [takeWhile_append_of_head? hinside hstop]

end

/-! ## Dashes in texts -/

/-- A text without three dashes in a row that does not end in a dash is all that stands before the
next three dashes. -/
theorem splitAtDashes_append {content : List Char} (hfence : ¬ fence <:+: content)
    (hlast : content.getLast? ≠ some '-') (after : List Char) :
    Cut.splitAtDashes (content ++ fence ++ after) = some (content, after) := by
  induction content with
  | nil => rfl
  | cons c content ih =>
    have hrest : Cut.splitAtDashes (content ++ fence ++ after) = some (content, after) := by
      refine ih (fun h => hfence (h.trans (List.infix_cons List.infix_rfl))) ?_
      cases content with
      | nil => simp
      | cons c' content => simpa using hlast
    have hne : ∀ body, c = '-' → content ++ fence ++ after ≠ '-' :: '-' :: body := by
      rintro body rfl h
      match content with
      | [] => simp at hlast
      | [c'] =>
        obtain ⟨rfl, -⟩ := List.cons.inj h
        simp at hlast
      | c' :: c'' :: content =>
        obtain ⟨rfl, hnext⟩ := List.cons.inj h
        obtain ⟨rfl, -⟩ := List.cons.inj hnext
        exact hfence ⟨[], content, rfl⟩
    rw [List.cons_append, List.cons_append, Cut.splitAtDashes]
    · rw [hrest]
      rfl
    · exact hne

/-- What stands before the first three dashes has no three dashes in a row, and its last character
is no dash: that one and the first two of the three would have come before them. -/
theorem wellFormed_of_splitAtDashes {body content after : List Char}
    (h : Cut.splitAtDashes body = some (content, after)) :
    ¬ fence <:+: content ∧ content.getLast? ≠ some '-' := by
  fun_induction Cut.splitAtDashes body generalizing content with
  | case1 =>
    obtain ⟨rfl, -⟩ := Prod.mk.inj (Option.some.inj h)
    simp [fence]
  | case2 c rest hne ih =>
    obtain ⟨⟨content, after'⟩, hrest, heq⟩ := Option.map_eq_some_iff.1 h
    obtain ⟨rfl, rfl⟩ := Prod.mk.inj heq
    obtain ⟨hfence, hlast⟩ := ih hrest
    have hsource := Cut.splitAtDashes_eq_some hrest
    constructor
    · rw [List.infix_cons_iff]
      rintro (⟨content', hprefix⟩ | hinfix)
      · obtain ⟨rfl, hcontent⟩ := List.cons.inj hprefix
        rw [← hcontent] at hsource
        exact hne _ rfl hsource
      · exact hfence hinfix
    · cases content with
      | nil =>
        rintro hdash
        obtain rfl : c = '-' := by simpa using hdash
        exact hne _ rfl hsource
      | cons c' content => simpa using hlast
  | case3 => cases h

theorem dashed_append {content : List Char} (hfence : ¬ fence <:+: content)
    (hlast : content.getLast? ≠ some '-') (tail : List Char) :
    Cut.dashed ('-' :: '-' :: (content ++ fence ++ tail)) =
      ⟨⟨'-', '-' :: '-' :: content ++ fence, .symbol (.text (String.ofList content))⟩, tail⟩ := by
  rw [Cut.dashed, splitAtDashes_append hfence hlast]
  rfl

/-! ## Reading what is spelled -/

theorem wordSymbol_letters (k : Keyword) : Cut.wordSymbol k.letters = .keyword k := by
  rw [Cut.wordSymbol, Keyword.ofLetters?_eq_some_iff.2 rfl]

theorem wordSymbol_of_ne_letters {word : List Char} (h : ∀ k : Keyword, word ≠ k.letters) :
    Cut.wordSymbol word = .identifier (String.ofList word) := by
  cases hk : Keyword.ofLetters? word with
  | none => rw [Cut.wordSymbol, hk]
  | some k => exact absurd (Keyword.ofLetters?_eq_some_iff.1 hk) (h k)

theorem numberReading_toDigits (value : UInt8) :
    Cut.numberReading (Nat.toDigits 10 value.toNat) = .symbol (.integer value) := by
  have hle : value.toNat ≤ 255 := by
    have := value.toNat_lt
    omega
  simp [Cut.numberReading, hle]

theorem cut_word {word tail : List Char} (hfirst : ∃ c ∈ word.head?, isAlphabetic c = true)
    (hword : ∀ c ∈ word, isAlphanumeric c = true) (htail : Boundary tail) :
    ∃ c text, word = c :: text ∧
      cut c (text ++ tail) = ⟨⟨c, text, .symbol (Cut.wordSymbol word)⟩, tail⟩ := by
  obtain ⟨c, hc, halpha⟩ := hfirst
  obtain ⟨text, rfl⟩ := List.head?_eq_some_iff.1 hc
  refine ⟨c, text, rfl, ?_⟩
  rw [cut_of_isAlphabetic halpha, word_append c (List.forall_mem_cons.1 hword).2 htail]

/-- Where no word could go on, the spelling of a well-formed symbol is read as it. -/
theorem cut_spelling {s : Symbol} (hs : s.WellFormed) {tail : List Char} (htail : Boundary tail) :
    ∃ c text, s.spelling = c :: text ∧
      cut c (text ++ tail) = ⟨⟨c, text, .symbol s⟩, tail⟩ := by
  cases s with
  | punct p => exact ⟨p.char, [], rfl, cut_punct p tail⟩
  | keyword k =>
    have hfirst : k.letters.head?.any isAlphabetic = true := by cases k <;> decide +kernel
    have hletters : k.letters.all isAlphanumeric = true := by cases k <;> decide +kernel
    have hword := cut_word ((Option.any_eq_true _ _).1 hfirst) (List.all_eq_true.1 hletters) htail
    rwa [wordSymbol_letters] at hword
  | identifier name =>
    obtain ⟨hfirst, hname, hkeyword⟩ := hs
    have hword := cut_word hfirst hname htail
    rwa [wordSymbol_of_ne_letters hkeyword, String.ofList_toList] at hword
  | text content =>
    refine ⟨'-', '-' :: '-' :: (content.toList ++ fence), rfl, ?_⟩
    have hdashed := dashed_append hs.1 hs.2 tail
    rw [String.ofList_toList] at hdashed
    exact hdashed
  | string content =>
    refine ⟨'"', content.toList ++ ['"'], rfl, ?_⟩
    have hquoted := quoted_append hs tail
    rw [String.ofList_toList] at hquoted
    rw [List.append_assoc]
    exact hquoted
  | integer value =>
    have hdigit : ∀ c ∈ Nat.toDigits 10 value.toNat, c.isDigit = true :=
      fun c hc => Nat.isDigit_of_mem_toDigits (by decide) (by decide) hc
    obtain ⟨c, text, hdigits⟩ :=
      List.exists_cons_of_ne_nil (@Nat.toDigits_ne_nil value.toNat 10)
    rw [hdigits] at hdigit
    obtain ⟨hc, htext⟩ := List.forall_mem_cons.1 hdigit
    refine ⟨c, text, hdigits, ?_⟩
    rw [cut_of_isDigit hc, number_append c htext htail, ← hdigits, numberReading_toDigits]
  | endOfInput => exact hs.elim

/-! ## What is read can be spelled -/

theorem of_mem_takeWhile {p : Char → Bool} {text : List Char} {c : Char}
    (h : c ∈ text.takeWhile p) : p c = true :=
  List.all_eq_true.1 List.all_takeWhile c h

theorem wellFormed_wordSymbol {word : List Char}
    (hfirst : ∃ c ∈ word.head?, isAlphabetic c = true)
    (hword : ∀ c ∈ word, isAlphanumeric c = true) : (Cut.wordSymbol word).WellFormed := by
  unfold Cut.wordSymbol
  split
  · trivial
  · rename_i hkeyword
    rw [Symbol.WellFormed, String.toList_ofList]
    refine ⟨hfirst, hword, fun k hk => ?_⟩
    rw [Keyword.ofLetters?_eq_some_iff.2 hk] at hkeyword
    cases hkeyword

theorem wellFormed_of_quoted {rest : List Char} {s : Symbol}
    (h : (Cut.quoted rest).piece.reading = .symbol s) : s.WellFormed := by
  unfold Cut.quoted at h
  split at h
  · cases h
  · cases h
    rw [Symbol.WellFormed, String.toList_ofList]
    intro hquote
    have := of_mem_takeWhile hquote
    simp at this

theorem wellFormed_of_dashed {rest : List Char} {s : Symbol}
    (h : (Cut.dashed rest).piece.reading = .symbol s) : s.WellFormed := by
  unfold Cut.dashed at h
  split at h
  · split at h
    · rename_i hsplit
      cases h
      rw [Symbol.WellFormed, String.toList_ofList]
      exact wellFormed_of_splitAtDashes hsplit
    · cases h
  all_goals cases h

/-- Whatever a text is read as is well formed. -/
theorem wellFormed_of_cut {c : Char} {rest : List Char} {s : Symbol}
    (h : (cut c rest).piece.reading = .symbol s) : s.WellFormed := by
  unfold cut at h
  split at h
  · cases h
  split at h
  · cases h
  split at h
  · exact wellFormed_of_dashed h
  split at h
  · exact wellFormed_of_quoted h
  split at h
  · simp only [Cut.number, Cut.numberReading] at h
    split at h <;> cases h
    trivial
  split at h
  · rename_i halpha
    cases h
    refine wellFormed_wordSymbol ⟨c, rfl, halpha⟩ (List.forall_mem_cons.2 ⟨?_, ?_⟩)
    · exact isAlphanumeric_of_isAlphabetic halpha
    · exact fun c hc => of_mem_takeWhile hc
  split at h <;> cases h
  trivial

end SlideDeck
