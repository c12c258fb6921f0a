import Mathlib.Order.Minimal
import SlideDeck.Proofs.Token.Line
import SlideDeck.Proofs.Token.Shift

/-!
# Words and numbers

A word goes on as long as letters and numbers follow, and a number as long as digits do. The whole
word is compared with the keywords, and the whole number is checked against its bound. What comes
behind is read as if it stood alone.

Results:
* `maximalFor_front_iff`: the longest front of a text that is made of some characters.
* `Keyword.next?_eq`: a reader that looks ahead for the letters of one keyword after the other finds
  the keyword that is the whole word.
* `readByte_eq`: a reader that adds up digits in eight bits finds the value of the whole number, or
  that it is out of range.
* `lex_longest`: what is read of a text that starts with a letter or a digit.
-/

namespace SlideDeck

open Unicode

/-! ## The longest front -/

/-- The text starts with the front, which is made of such characters. -/
def Front (p : Char → Bool) (text front : List Char) : Prop :=
  front <+: text ∧ ∀ c ∈ front, p c = true

section

variable {p : Char → Bool} {text front : List Char}

theorem front_takeWhile (p : Char → Bool) (text : List Char) : Front p text (text.takeWhile p) :=
  ⟨List.takeWhile_prefix p, fun _ hc => of_mem_takeWhile hc⟩

/-- No front goes on where the characters that are taken end. -/
theorem Front.prefix_takeWhile (h : Front p text front) : front <+: text.takeWhile p := by
  obtain ⟨⟨behind, rfl⟩, hall⟩ := h
  rw [List.takeWhile_append_of_pos hall]
  exact List.prefix_append _ _

/-- The longest front is what is taken while there are such characters. -/
theorem maximalFor_front_iff :
    MaximalFor (Front p text) List.length front ↔ front = text.takeWhile p := by
  constructor
  · rintro ⟨hfront, hlongest⟩
    have hprefix := hfront.prefix_takeWhile
    have hle := hlongest (front_takeWhile p text) hprefix.length_le
    exact hprefix.eq_of_length (Nat.le_antisymm hprefix.length_le hle)
  · rintro rfl
    exact ⟨front_takeWhile p text, fun _ hother _ => hother.prefix_takeWhile.length_le⟩

/-- Behind the characters that are taken come those that are left. -/
theorem drop_length_takeWhile (p : Char → Bool) (text : List Char) :
    text.drop (text.takeWhile p).length = text.dropWhile p := by
  calc text.drop (text.takeWhile p).length
      = (text.takeWhile p ++ text.dropWhile p).drop (text.takeWhile p).length := by
        rw [List.takeWhile_append_dropWhile]
    _ = text.dropWhile p := List.drop_left

end

/-! ## Looking ahead for keywords -/

/-- What comes behind the letters, if they come first and the word ends with them. -/
def eatLetters : (letters text : List Char) → Option (List Char)
  | [], rest => if rest.head?.any isAlphanumeric then none else some rest
  | _ :: _, [] => none
  | letter :: letters, c :: rest => if c = letter then eatLetters letters rest else none

/-- The keyword that the text starts with, and what comes behind it. The keywords are tried one
after the other. -/
def Keyword.next? (text : List Char) : Option (Keyword × List Char) :=
  [letKw, mutKw, macroKw, slideKw, selfKw, blockKw].findSome? fun k =>
    (eatLetters k.letters text).map (k, ·)

/-- The symbol of the word that the text starts with, and what comes behind it: a keyword if one is
found by looking ahead, otherwise all up to the next character of another kind. -/
def readWord (text : List Char) : Symbol × List Char :=
  match Keyword.next? text with
  | some (k, behind) => (.keyword k, behind)
  | none =>
    (.identifier (String.ofList (text.takeWhile isAlphanumeric)), text.dropWhile isAlphanumeric)

/-- Letters come first and end the word exactly if they are the whole word. -/
theorem eatLetters_eq_some_iff {letters : List Char} (h : ∀ c ∈ letters, isAlphanumeric c = true)
    {text behind : List Char} : eatLetters letters text = some behind ↔
      text.takeWhile isAlphanumeric = letters ∧ text.dropWhile isAlphanumeric = behind := by
  fun_induction eatLetters letters text with
  | case1 rest hmore =>
    obtain ⟨c, rest, rfl⟩ : ∃ c tail, rest = c :: tail := by
      cases rest with
      | nil => cases hmore
      | cons c tail => exact ⟨c, tail, rfl⟩
    have hc : isAlphanumeric c = true := hmore
    simp [hc]
  | case2 rest hend =>
    cases rest with
    | nil => simp [eq_comm]
    | cons c tail =>
      have hc : isAlphanumeric c = false := by simpa using hend
      simp [hc, eq_comm]
  | case3 letter letters => simp
  | case4 letters c rest ih =>
    obtain ⟨hc, hletters⟩ := List.forall_mem_cons.1 h
    rw [ih hletters, List.takeWhile_cons_of_pos hc, List.dropWhile_cons_of_pos hc]
    simp
  | case5 letter letters c rest hne =>
    obtain ⟨hletter, -⟩ := List.forall_mem_cons.1 h
    cases hc : isAlphanumeric c <;> simp [hc, hne]

theorem Keyword.isAlphabetic_of_mem_letters (k : Keyword) :
    ∀ c ∈ k.letters, isAlphabetic c = true := by
  have hall : k.letters.all isAlphabetic = true := by cases k <;> decide +kernel
  exact List.all_eq_true.1 hall

theorem Keyword.isAlphanumeric_of_mem_letters (k : Keyword) :
    ∀ c ∈ k.letters, isAlphanumeric c = true :=
  fun c hc => isAlphanumeric_of_isAlphabetic (k.isAlphabetic_of_mem_letters c hc)

theorem Keyword.letters_injective {k k' : Keyword} (h : k.letters = k'.letters) : k = k' := by
  have hk := ofLetters?_eq_some_iff.2 h
  rw [ofLetters?_eq_some_iff.2 rfl] at hk
  exact Option.some.inj hk

/-- A keyword is found exactly if it is the whole word, whichever are tried before. -/
theorem Keyword.next?_eq_some_iff {text behind : List Char} {k : Keyword} :
    Keyword.next? text = some (k, behind) ↔
      text.takeWhile isAlphanumeric = k.letters ∧ text.dropWhile isAlphanumeric = behind := by
  have hfound : ∀ k k' : Keyword, ∀ behind,
      (eatLetters k.letters text).map (k, ·) = some (k', behind) ↔
        k = k' ∧ text.takeWhile isAlphanumeric = k.letters ∧
          text.dropWhile isAlphanumeric = behind := by
    intro k k' behind
    simp only [Option.map_eq_some_iff, Prod.mk.injEq,
      eatLetters_eq_some_iff k.isAlphanumeric_of_mem_letters]
    grind
  constructor
  · intro h
    obtain ⟨_, k', _, -, hk', -⟩ := List.findSome?_eq_some_iff.1 h
    obtain ⟨rfl, hword⟩ := (hfound k' k behind).1 hk'
    exact hword
  · intro hword
    have hk := (hfound k k behind).2 ⟨rfl, hword⟩
    cases hnext : Keyword.next? text with
    | none =>
      have hmem : k ∈ [letKw, mutKw, macroKw, slideKw, selfKw, blockKw] := by cases k <;> simp
      rw [List.findSome?_eq_none_iff.1 hnext k hmem] at hk
      cases hk
    | some found =>
      obtain ⟨other, rest⟩ := found
      obtain ⟨_, k', _, -, hk', -⟩ := List.findSome?_eq_some_iff.1 hnext
      obtain ⟨rfl, hletters, hrest⟩ := (hfound k' other rest).1 hk'
      obtain rfl := Keyword.letters_injective (hletters.symm.trans hword.1)
      rw [← hrest, hword.2]

/-- Looking ahead finds the keyword that is the whole word. -/
theorem Keyword.next?_eq (text : List Char) :
    Keyword.next? text = (Keyword.ofLetters? (text.takeWhile isAlphanumeric)).map
      (·, text.dropWhile isAlphanumeric) := by
  ext ⟨k, behind⟩
  rw [Keyword.next?_eq_some_iff]
  simp [Keyword.ofLetters?_eq_some_iff]

/-- Looking ahead reads the same symbol as comparing the whole word. -/
theorem readWord_eq (text : List Char) :
    readWord text =
      (Cut.wordSymbol (text.takeWhile isAlphanumeric), text.dropWhile isAlphanumeric) := by
  rw [readWord, Keyword.next?_eq, Cut.wordSymbol]
  cases Keyword.ofLetters? (text.takeWhile isAlphanumeric) <;> rfl

/-! ## Adding up in eight bits -/

/-- The value with one more digit behind it, unless it overflows. -/
def pushDigit (value : UInt8) (c : Char) : Option UInt8 :=
  let next := 10 * value.toNat + (c.toNat - '0'.toNat)
  if next < UInt8.size then some (UInt8.ofNat next) else none

/-- The value of the digits, unless it overflows on the way. -/
def readByte (digits : List Char) : Option UInt8 := digits.foldlM pushDigit 0

/-- More digits do not make a value smaller. -/
theorem le_ofDigitChars (value : Nat) (digits : List Char) :
    value ≤ Nat.ofDigitChars 10 digits value := by
  induction digits generalizing value with
  | nil => exact Nat.le_refl value
  | cons c digits ih =>
    rw [Nat.ofDigitChars_cons]
    exact Nat.le_trans (by omega) (ih _)

/-- Nothing overflows on the way unless the whole value does. -/
theorem foldlM_pushDigit (value : UInt8) (digits : List Char) :
    digits.foldlM pushDigit value =
      let total := Nat.ofDigitChars 10 digits value.toNat
      if total < UInt8.size then some (UInt8.ofNat total) else none := by
  induction digits generalizing value with
  | nil => simp [UInt8.toNat_lt_size]
  | cons c digits ih =>
    rw [List.foldlM_cons, Nat.ofDigitChars_cons, pushDigit]
    by_cases hnext : 10 * value.toNat + (c.toNat - '0'.toNat) < UInt8.size
    · simp only [if_pos hnext]
      show digits.foldlM pushDigit _ = _
      rw [ih, UInt8.toNat_ofNat_of_lt' hnext]
    · have hle := le_ofDigitChars (10 * value.toNat + (c.toNat - '0'.toNat)) digits
      simp only [if_neg hnext]
      rw [if_neg (by omega)]
      rfl

/-- Adding up in eight bits finds the value of the digits, or that it is out of range. -/
theorem readByte_eq (digits : List Char) :
    readByte digits =
      let value := Nat.ofDigitChars 10 digits 0
      if value ≤ 255 then some (UInt8.ofNat value) else none := by
  have hsize : ∀ value, value < UInt8.size ↔ value ≤ 255 := fun value => Nat.lt_succ_iff
  rw [readByte, foldlM_pushDigit]
  simp only [hsize]
  rfl

/-- A number is read as what its digits add up to in eight bits. -/
theorem numberReading_eq (digits : List Char) :
    Cut.numberReading digits =
      match readByte digits with
      | some n => .symbol (.integer n)
      | none => .fault .integerOutOfRange := by
  rw [readByte_eq, Cut.numberReading]
  by_cases hvalue : Nat.ofDigitChars 10 digits 0 ≤ 255
  · simp only [if_pos hvalue]
  · simp only [if_neg hvalue]

/-! ## What is read -/

theorem newlines_takeWhile {p : Char → Bool} (hp : p '\n' = false) (text : List Char) :
    newlines (text.takeWhile p) = 0 := by
  rw [newlines_eq_zero_iff]
  intro hnewline
  cases hp.symm.trans (of_mem_takeWhile hnewline)

section

variable {c : Char} (rest : List Char)

/-- A word is read as a whole, and what is behind it as if it stood alone. -/
theorem lexFrom_of_isAlphabetic (hc : isAlphabetic c = true) :
    let w := (c :: rest).takeWhile isAlphanumeric
    let behind := lexFrom .start ((c :: rest).dropWhile isAlphanumeric)
    lexFrom .start (c :: rest) =
      ⟨⟨Cut.wordSymbol w, ⟨1, c, ⟨0, byteSize w⟩⟩⟩ ::
          behind.value.map (Token.shift (byteSize w) 0),
        behind.reports.map (Report.shift (byteSize w) 0)⟩ := by
  intro w behind
  have hword : isAlphanumeric c = true := isAlphanumeric_of_isAlphabetic hc
  have hcut : cut c rest = ⟨⟨c, rest.takeWhile isAlphanumeric, .symbol (Cut.wordSymbol w)⟩,
      (c :: rest).dropWhile isAlphanumeric⟩ := by
    rw [cut_of_isAlphabetic hc, List.dropWhile_cons_of_pos hword]
    simp only [w, List.takeWhile_cons_of_pos hword]
    rfl
  have htext : c :: rest.takeWhile isAlphanumeric = w := (List.takeWhile_cons_of_pos hword).symm
  have hlines : newlines w = 0 := newlines_takeWhile (isAlphanumeric_eq_false (.inl rfl)) _
  have hlex := lexFrom_start_cons c rest
  simp only [hcut, Placed.token?, Placed.report?, Placed.mark_start, Piece.text, htext,
    hlines] at hlex
  exact hlex

/-- A number is read as a whole, and what is behind it as if it stood alone. -/
theorem lexFrom_of_isDigit (hc : c.isDigit = true) :
    let w := (c :: rest).takeWhile Char.isDigit
    let behind := lexFrom .start ((c :: rest).dropWhile Char.isDigit)
    let mark : Mark := ⟨1, c, ⟨0, byteSize w⟩⟩
    lexFrom .start (c :: rest) =
      match readByte w with
      | some n => ⟨⟨.integer n, mark⟩ :: behind.value.map (Token.shift (byteSize w) 0),
          behind.reports.map (Report.shift (byteSize w) 0)⟩
      | none => ⟨behind.value.map (Token.shift (byteSize w) 0),
          mark.report .integerOutOfRange :: behind.reports.map (Report.shift (byteSize w) 0)⟩ := by
  intro w behind mark
  have hcut : cut c rest = ⟨⟨c, rest.takeWhile Char.isDigit, Cut.numberReading w⟩,
      (c :: rest).dropWhile Char.isDigit⟩ := by
    rw [cut_of_isDigit hc, List.dropWhile_cons_of_pos hc]
    simp only [w, List.takeWhile_cons_of_pos hc]
    rfl
  have htext : c :: rest.takeWhile Char.isDigit = w := (List.takeWhile_cons_of_pos hc).symm
  have hlines : newlines w = 0 := newlines_takeWhile (by decide) _
  have hlex := lexFrom_start_cons c rest
  simp only [hcut, Placed.token?, Placed.report?, Placed.mark_start, Piece.text, htext,
    hlines] at hlex
  rw [hlex, numberReading_eq]
  cases readByte w with
  | some n => rfl
  | none => rfl

end

/-- What is read of a text that starts with a letter or a digit. A word is as long as letters and
numbers follow; it is a keyword if the whole of it spells one, and an identifier otherwise, as a
reader finds that looks ahead for keywords. A number is as long as digits follow; it is read if its
value has eight bits and reported otherwise, as a reader finds that adds up in eight bits. What is
behind is read as if it stood alone, only so many bytes further. -/
theorem lex_longest (s : String) : ∀ c ∈ s.toList.head?,
    (isAlphabetic c = true → ∀ w, MaximalFor (Front isAlphanumeric s.toList) List.length w →
      let after := s.toList.drop w.length
      let behind := lex (String.ofList after)
      let bytes := byteSize w
      ∃ symbol, (∀ k : Keyword, w = k.letters → symbol = .keyword k) ∧
        ((∀ k : Keyword, w ≠ k.letters) → symbol = .identifier (String.ofList w)) ∧
        (lex s).value = ⟨symbol, ⟨1, c, ⟨0, bytes⟩⟩⟩ :: behind.value.map (Token.shift bytes 0) ∧
        (lex s).diagnostics = behind.diagnostics.map (Diagnostic.shift bytes 0) ∧
        readWord s.toList = (symbol, after)) ∧
    (c.isDigit = true → ∀ w, MaximalFor (Front Char.isDigit s.toList) List.length w →
      let behind := lex (String.ofList (s.toList.drop w.length))
      let bytes := byteSize w
      let value := Nat.ofDigitChars 10 w 0
      (value ≤ 255 → ∃ n : UInt8, n.toNat = value ∧ readByte w = some n ∧
        (lex s).value =
          ⟨.integer n, ⟨1, c, ⟨0, bytes⟩⟩⟩ :: behind.value.map (Token.shift bytes 0) ∧
        (lex s).diagnostics = behind.diagnostics.map (Diagnostic.shift bytes 0)) ∧
      (255 < value → readByte w = none ∧
        (lex s).value = behind.value.map (Token.shift bytes 0) ∧
        (lex s).diagnostics = {
          line := 1
          char := some c
          stage := some .lexing
          message := "Integer literal out of range (0-255)"
          span := some ⟨0, bytes⟩ } :: behind.diagnostics.map (Diagnostic.shift bytes 0))) := by
  intro c hc
  obtain ⟨rest, hs⟩ := List.head?_eq_some_iff.1 hc
  have hbehind : ∀ text, lex (String.ofList text) = lexFrom .start text := by
    intro text
    rw [lex, String.toList_ofList]
  rw [lex, hs]
  constructor
  · intro halpha w hw after behind bytes
    obtain rfl := maximalFor_front_iff.1 hw
    have hafter : after = (c :: rest).dropWhile isAlphanumeric := drop_length_takeWhile _ _
    refine ⟨Cut.wordSymbol ((c :: rest).takeWhile isAlphanumeric), ?_, wordSymbol_of_ne_letters,
      ?_, ?_, ?_⟩
    · intro k hk
      rw [hk, wordSymbol_letters]
    · rw [lexFrom_of_isAlphabetic rest halpha, ← hafter, ← hbehind]
    · rw [lexFrom_of_isAlphabetic rest halpha, ← hafter, ← hbehind]
      exact map_diagnostic_shift bytes 0 _
    · rw [readWord_eq, hafter]
  · intro hdigit w hw behind bytes value
    obtain rfl := maximalFor_front_iff.1 hw
    have hread : readByte ((c :: rest).takeWhile Char.isDigit) = _ := readByte_eq _
    have hlex := lexFrom_of_isDigit rest hdigit
    rw [← drop_length_takeWhile, ← hbehind] at hlex
    constructor
    · intro hvalue
      rw [if_pos hvalue] at hread
      refine ⟨UInt8.ofNat value, UInt8.toNat_ofNat_of_lt' (Nat.lt_succ_of_le hvalue), hread, ?_⟩
      rw [hlex, hread]
      exact ⟨rfl, map_diagnostic_shift bytes 0 _⟩
    · intro hvalue
      rw [if_neg (Nat.not_le.2 hvalue)] at hread
      refine ⟨hread, ?_⟩
      rw [hlex, hread]
      exact ⟨rfl, congrArg (_ :: ·) (map_diagnostic_shift bytes 0 _)⟩

/-- A word that starts like a keyword and goes on with a letter of two bytes, a number with zeros in
front, and a number that is out of range before a keyword. -/
theorem lex_longest_boundaries :
    (lex "selfé=").value = [⟨.identifier "selfé", ⟨1, 's', ⟨0, 6⟩⟩⟩,
        ⟨.punct .equalSign, ⟨1, '=', ⟨6, 7⟩⟩⟩] ∧
      (lex "0007é").value = [⟨.integer 7, ⟨1, '0', ⟨0, 4⟩⟩⟩, ⟨.identifier "é", ⟨1, 'é', ⟨4, 6⟩⟩⟩] ∧
      (lex "256let").value = [⟨.keyword .letKw, ⟨1, 'l', ⟨3, 6⟩⟩⟩] ∧
      (lex "256let").diagnostics.map (·.span) = [some ⟨0, 3⟩] := by
  have hword := (lex_longest "selfé=" 's' rfl).1 (by decide +kernel) "selfé".toList
    (maximalFor_front_iff.2 (by decide +kernel))
  have hzeros := (lex_longest "0007é" '0' rfl).2 rfl "0007".toList
    (maximalFor_front_iff.2 (by decide +kernel))
  have hlarge := (lex_longest "256let" '2' rfl).2 rfl "256".toList
    (maximalFor_front_iff.2 (by decide +kernel))
  obtain ⟨symbol, -, hsymbol, hword, -⟩ := hword
  obtain rfl := hsymbol fun k => by cases k <;> decide
  obtain ⟨n, hn, -, hzeros, -⟩ := hzeros.1 (by decide)
  obtain rfl : n = 7 := UInt8.toNat_inj.1 hn
  obtain ⟨-, hlarge, hdiagnostics⟩ := hlarge.2 (by decide)
  refine ⟨?_, ?_, ?_, ?_⟩
  · refine hword.trans ?_
    decide +kernel
  · refine hzeros.trans ?_
    decide +kernel
  · refine hlarge.trans ?_
    decide +kernel
  · rw [hdiagnostics]
    decide +kernel

end SlideDeck
