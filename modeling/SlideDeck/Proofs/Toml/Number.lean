import Mathlib.Data.List.Basic
import Mathlib.Data.List.TakeWhile
import SlideDeck.Toml.Time

/-!
# Integers read back

An integer that is written in decimal is read as itself if it has 64 bits with sign, and as nothing
otherwise: its digits are neither a float nor a date or time, however many there are.

Results:
* `natural?_digits`, `decimal?_toDigits`: digits have the value that they add up to, and those of a
  number have no zero in front.
* `isInt64_of_integer?`: an integer that is read has 64 bits.
* `integer?_toString`: an integer is read back if it has 64 bits.
* `isFloat_toString`, `isDateTime_toString`: it is nothing else.
-/

namespace SlideDeck.Toml

/-- Not empty, and all of its characters have the property. -/
def MadeOf (p : Char → Bool) (word : List Char) : Prop := word ≠ [] ∧ ∀ c ∈ word, p c = true

section

variable {p : Char → Bool} {word : List Char}

theorem MadeOf.notMem (h : MadeOf p word) {c : Char} (hc : p c = false) : c ∉ word := by
  intro hmem
  cases hc.symm.trans (h.2 c hmem)

theorem MadeOf.mono (h : MadeOf p word) (q : Char → Bool) (hpq : ∀ c, p c = true → q c = true) :
    MadeOf q word :=
  ⟨h.1, fun c hc => hpq c (h.2 c hc)⟩

theorem MadeOf.exists_cons (h : MadeOf p word) : ∃ c rest, word = c :: rest ∧ p c = true := by
  obtain ⟨c, rest, rfl⟩ := List.exists_cons_of_ne_nil h.1
  exact ⟨c, rest, rfl, h.2 c List.mem_cons_self⟩

variable {c : Char} {rest : List Char}

theorem MadeOf.takeWhile_append (h : MadeOf p word) (hc : p c = false) :
    (word ++ c :: rest).takeWhile p = word := by
  rw [List.takeWhile_append_of_pos h.2, List.takeWhile_cons_of_neg (by rw [hc]; decide),
    List.append_nil]

theorem MadeOf.dropWhile_append (h : MadeOf p word) (hc : p c = false) :
    (word ++ c :: rest).dropWhile p = c :: rest := by
  rw [List.dropWhile_append_of_pos h.2, List.dropWhile_cons_of_neg (by rw [hc]; decide)]

end

/-! ## Digits -/

abbrev Digits : List Char → Prop := MadeOf Char.isDigit

theorem digits_toDigits (n : Nat) : Digits (Nat.toDigits 10 n) :=
  ⟨Nat.toDigits_ne_nil, fun _ hc => Nat.isDigit_of_mem_toDigits (by decide) (by decide) hc⟩

theorem digitValue?_of_isDigit {c : Char} (h : c.isDigit = true) :
    digitValue? 10 c = some (c.toNat - '0'.toNat) := by
  obtain ⟨hlow, hhigh⟩ := Char.isDigit_iff_toNat.1 h
  have hle : '0' ≤ c ∧ c ≤ '9' := ⟨hlow, hhigh⟩
  have hlt : c.toNat - '0'.toNat < 10 := by
    have hnine : '9'.toNat = '0'.toNat + 9 := rfl
    omega
  simp only [digitValue?, if_pos hle, if_pos hlt]

section

variable {word : List Char}

theorem foldlM_digitValue? (h : ∀ c ∈ word, c.isDigit = true) (n : Nat) :
    word.foldlM (fun n c => (digitValue? 10 c).map (10 * n + ·)) n =
      some (Nat.ofDigitChars 10 word n) := by
  induction word generalizing n with
  | nil => rfl
  | cons c word ih =>
    obtain ⟨hc, hword⟩ := List.forall_mem_cons.1 h
    rw [List.foldlM_cons, digitValue?_of_isDigit hc, Nat.ofDigitChars_cons]
    exact ih hword _

theorem ungroup_digits (h : Digits word) : ungroup word = some word := by
  obtain ⟨hne, hall⟩ := h
  fun_induction ungroup word with
  | case1 => exact absurd rfl hne
  | case2 d => rfl
  | case3 d rest ih => cases hall '_' (by simp)
  | case4 d rest hmore _ ih => rw [ih hmore fun c hc => hall c (List.mem_cons_of_mem d hc)]; rfl

/-- Digits have the value that they add up to. -/
theorem natural?_digits (h : Digits word) :
    natural? 10 word = some (Nat.ofDigitChars 10 word 0) := by
  rw [natural?, ungroup_digits h]
  exact foldlM_digitValue? h.2 0

theorem splitSign_digits (h : Digits word) : splitSign word = (false, word) := by
  unfold splitSign
  split
  · exact absurd List.mem_cons_self (h.notMem rfl)
  · exact absurd List.mem_cons_self (h.notMem rfl)
  · rfl

end

/-- The digits of a number have no zero in front. -/
theorem head?_toDigits {n : Nat} (h : 0 < n) : (Nat.toDigits 10 n).head? ≠ some '0' := by
  induction n using Nat.strongRecOn with
  | _ n ih =>
    rw [Nat.toDigits_eq_if (by decide)]
    by_cases hn : n < 10
    · have hall : ∀ n < 10, 0 < n → n.digitChar ≠ '0' := by decide
      rw [if_pos hn]
      exact fun heq => hall n hn h (Option.some.inj heq)
    · have hrest := ih (n / 10) (by omega) (by omega)
      rw [if_neg hn, List.head?_append_of_ne_nil _ Nat.toDigits_ne_nil]
      exact hrest

theorem decimal?_toDigits (n : Nat) : decimal? (Nat.toDigits 10 n) = some n := by
  have hvalue : natural? 10 (Nat.toDigits 10 n) = some n := by
    rw [natural?_digits (digits_toDigits n), Nat.ofDigitChars_ten_toDigits]
  unfold decimal?
  split
  · rename_i c rest heq
    cases n with
    | zero => cases heq
    | succ n => exact absurd (congrArg List.head? heq) (head?_toDigits (Nat.succ_pos n))
  · exact hvalue

/-! ## Integers -/

/-- The integer has 64 bits with sign. -/
abbrev IsInt64 (i : Int) : Prop := Int64.minValue.toInt ≤ i ∧ i ≤ Int64.maxValue.toInt

/-- The characters of an integer: its digits, behind a minus sign if it is negative. -/
theorem toList_toString (i : Int) :
    (toString i).toList = Nat.toDigits 10 i.natAbs ∧ 0 ≤ i ∨
      (toString i).toList = '-' :: Nat.toDigits 10 i.natAbs ∧ i < 0 := by
  cases i with
  | ofNat n => exact .inl ⟨Nat.toList_repr, Int.natCast_nonneg n⟩
  | negSucc n =>
    refine .inr ⟨?_, Int.negSucc_lt_zero n⟩
    show ("-" ++ n.succ.repr).toList = _
    rw [String.toList_append, Nat.toList_repr]
    rfl

/-- The characters of an integer are digits and the minus sign. -/
theorem madeOf_toString (i : Int) :
    MadeOf (fun c => c.isDigit || c == '-') (toString i).toList := by
  obtain ⟨hne, hall⟩ := (digits_toDigits i.natAbs).mono (fun c => c.isDigit || c == '-')
    fun c hc => by rw [hc, Bool.true_or]
  obtain ⟨hword, -⟩ | ⟨hword, -⟩ := toList_toString i
  · exact hword ▸ ⟨hne, hall⟩
  · exact hword ▸ ⟨List.cons_ne_nil _ _, List.forall_mem_cons.2 ⟨rfl, hall⟩⟩

/-- The minus sign is the first character or none. -/
theorem dash_notMem_tail_toString (i : Int) : '-' ∉ (toString i).toList.tail := by
  have hdash := (digits_toDigits i.natAbs).notMem (c := '-') rfl
  obtain ⟨hword, -⟩ | ⟨hword, -⟩ := toList_toString i
  · exact hword ▸ fun hmem => hdash (List.mem_of_mem_tail hmem)
  · exact hword ▸ hdash

theorem isInt64_of_integer? {word : List Char} {i : Int} (h : integer? word = some i) :
    IsInt64 i := by
  have hlast : ∀ read : Option Int,
      (read.bind fun n => if IsInt64 n then some n else none) = some i → IsInt64 i := by
    intro read hread
    obtain ⟨n, -, hn⟩ := Option.bind_eq_some_iff.1 hread
    obtain ⟨hsmall, heq⟩ := Option.ite_none_right_eq_some.1 hn
    cases heq
    exact hsmall
  unfold integer? at h
  split at h <;> exact hlast _ h

/-- Without a mark of a radix, a word is a sign with decimal digits. -/
theorem integer?_of_notMem {word : List Char} (hx : 'x' ∉ word) (ho : 'o' ∉ word)
    (hb : 'b' ∉ word) :
    integer? word = (decimal? (splitSign word).2).bind fun n =>
      let i := if (splitSign word).1 then -Int.ofNat n else Int.ofNat n
      if IsInt64 i then some i else none := by
  unfold integer?
  split
  · exact absurd (by simp) hx
  · exact absurd (by simp) ho
  · exact absurd (by simp) hb
  · generalize splitSign word = split
    obtain ⟨isNegative, digits⟩ := split
    cases hvalue : decimal? digits with
    | none => simp only [hvalue, Option.map_none, Option.bind_eq_bind, Option.bind_none]
    | some n => simp only [hvalue, Option.map_some, Option.bind_eq_bind, Option.bind_some]

/-- An integer is read back if it has 64 bits. -/
theorem integer?_toString (i : Int) :
    integer? (toString i).toList = if IsInt64 i then some i else none := by
  have hword := madeOf_toString i
  rw [integer?_of_notMem (hword.notMem rfl) (hword.notMem rfl) (hword.notMem rfl)]
  obtain ⟨hword, hi⟩ | ⟨hword, hi⟩ := toList_toString i
  · have hvalue : Int.ofNat i.natAbs = i := Int.natAbs_of_nonneg hi
    rw [hword, splitSign_digits (digits_toDigits i.natAbs), decimal?_toDigits]
    simp only [Option.bind_some, Bool.false_eq_true, if_false, hvalue]
  · have hvalue : -Int.ofNat i.natAbs = i := by
      rw [Int.ofNat_eq_natCast, Int.ofNat_natAbs_of_nonpos (Int.le_of_lt hi), Int.neg_neg]
    rw [hword, splitSign, decimal?_toDigits]
    simp only [Option.bind_some, if_true, hvalue]

/-! ## What else a word can be -/

/-- Digits alone have neither a fraction nor an exponent. -/
theorem scientific?_toDigits (n : Nat) : scientific? (Nat.toDigits 10 n) = none := by
  have hne : ∀ mark, mark.isDigit = false → ∀ c ∈ Nat.toDigits 10 n, c ≠ mark := by
    rintro mark hmark c hc rfl
    exact (digits_toDigits n).notMem hmark hc
  have hexponent : ∀ c ∈ Nat.toDigits 10 n, (!(c == 'e' || c == 'E')) = true := by
    intro c hc
    simp [hne 'e' rfl c hc, hne 'E' rfl c hc]
  have hpoint : ∀ c ∈ Nat.toDigits 10 n, (c != '.') = true :=
    fun c hc => bne_iff_ne.2 (hne '.' rfl c hc)
  simp only [scientific?, List.takeWhile_eq_self_iff.2 hexponent,
    List.takeWhile_eq_self_iff.2 hpoint, List.dropWhile_eq_nil_iff.2 hexponent,
    List.dropWhile_eq_nil_iff.2 hpoint, decimal?_toDigits]
  rfl

/-- An integer is no float, however large it is. -/
theorem isFloat_toString (i : Int) : isFloat (toString i).toList = false := by
  have hdigits := digits_toDigits i.natAbs
  have hnamed : ∀ word, 'n' ∈ word → (Nat.toDigits 10 i.natAbs == word) = false := by
    intro word hword
    refine beq_eq_false_iff_ne.2 fun heq => ?_
    exact hdigits.notMem (c := 'n') rfl (heq ▸ hword)
  have hsplit : (splitSign (toString i).toList).2 = Nat.toDigits 10 i.natAbs := by
    obtain ⟨hword, -⟩ | ⟨hword, -⟩ := toList_toString i
    · rw [hword, splitSign_digits hdigits]
    · rw [hword, splitSign]
  unfold isFloat
  generalize splitSign (toString i).toList = split at hsplit
  obtain ⟨isNegative, digits⟩ := split
  obtain rfl : digits = Nat.toDigits 10 i.natAbs := hsplit
  simp only [hnamed ['i', 'n', 'f'] (by simp), hnamed ['n', 'a', 'n'] (by simp),
    scientific?_toDigits]
  rfl

/-- Without a colon a word holds no time. -/
theorem afterTime?_of_notMem {word : List Char} (h : ':' ∉ word) : afterTime? word = none := by
  unfold afterTime?
  split
  · exact absurd (by simp) h
  · rfl

/-- Without a dash behind its first character a word holds no date. -/
theorem isDate_of_notMem {word : List Char} (h : '-' ∉ word.tail) : isDate word = false := by
  unfold isDate
  split
  · exact absurd (by simp) h
  · rfl

theorem isDateTime_of_notMem {word : List Char} (htime : ':' ∉ word) (hdate : '-' ∉ word.tail) :
    isDateTime word = false := by
  have htail : (word.take 10).tail = word.tail.take 9 := by cases word <;> rfl
  have hfirst : isDate (word.take 10) = false :=
    isDate_of_notMem fun hmem => hdate (List.mem_of_mem_take (htail ▸ hmem))
  unfold isDateTime
  rw [isDate_of_notMem hdate, afterTime?_of_notMem htime, hfirst]
  split <;> rfl

theorem isDate_toString (i : Int) : isDate (toString i).toList = false :=
  isDate_of_notMem (dash_notMem_tail_toString i)

/-- An integer is no date or time, however many digits it has. -/
theorem isDateTime_toString (i : Int) : isDateTime (toString i).toList = false :=
  isDateTime_of_notMem ((madeOf_toString i).notMem rfl) (dash_notMem_tail_toString i)

end SlideDeck.Toml
