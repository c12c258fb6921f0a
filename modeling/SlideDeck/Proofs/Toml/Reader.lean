import SlideDeck.Toml.Tree
import SlideDeck.Proofs.Toml.Number

/-!
# Entries read

An integer that a reader hands out has 64 bits with sign, wherever it stands. A line that gives an
integer to a bare key is read as that, and lines are read one after another.

Results:
* `Reader.yields_value`, `Reader.fits_of_mem_lines`: the integers of a document have 64 bits.
* `Reader.line_entry`: a line with a bare key and a word is an entry if the word is a value.
* `Reader.lines_written`: entries that are written with integers are read back.
-/

namespace SlideDeck.Toml

namespace Reader

variable {α β : Type}

/-! ## Integers have 64 bits -/

/-- Whatever the reader hands out has the property. -/
def Yields (r : Reader α) (P : α → Prop) : Prop := ∀ text a rest, r text = some (a, rest) → P a

theorem Yields.bind {r : Reader α} {f : α → Reader β} {Q : α → Prop} {P : β → Prop}
    (hr : Yields r Q) (hf : ∀ a, Q a → Yields (f a) P) : Yields (r >>= f) P := by
  intro text b rest h
  obtain ⟨⟨a, text'⟩, ha, hb⟩ := Option.bind_eq_some_iff.1 h
  exact hf a (hr text a text' ha) text' b rest hb

theorem yields_true (r : Reader α) : Yields r fun _ => True := fun _ _ _ _ => trivial

/-- Only the last of two readers matters. -/
theorem yields_bind {r : Reader α} {f : α → Reader β} {P : β → Prop} (hf : ∀ a, Yields (f a) P) :
    Yields (r >>= f) P :=
  (yields_true r).bind fun a _ => hf a

theorem yields_pure {P : α → Prop} {a : α} (h : P a) : Yields (pure a) P := by
  intro text b rest hpure
  cases hpure
  exact h

theorem yields_ite {c : Prop} [Decidable c] {r r' : Reader α} {P : α → Prop} (h : Yields r P)
    (h' : Yields r' P) : Yields (if c then r else r') P := by
  by_cases hc : c
  · rwa [if_pos hc]
  · rwa [if_neg hc]

end Reader

/-- The value is no integer of more than 64 bits. -/
def Value.Fits (v : Value) : Prop := ∀ i, v = .integer i → IsInt64 i

/-- The line gives no integer of more than 64 bits. -/
def Line.Fits (l : Line) : Prop := ∀ path v, l = .entry path v → v.Fits

theorem fits_other : Value.other.Fits := fun _ h => nomatch h

theorem fits_of_wordValue? {word : List Char} {v : Value} (h : Reader.wordValue? word = some v) :
    v.Fits := by
  unfold Reader.wordValue? at h
  split at h
  · rename_i i hi
    cases h
    rintro _ ⟨⟩
    exact isInt64_of_integer? hi
  · obtain ⟨-, heq⟩ := Option.ite_none_right_eq_some.1 h
    cases heq
    exact fits_other

namespace Reader

theorem yields_scalar : Yields scalar Value.Fits := by
  intro text v rest h
  unfold scalar at h
  split at h
  · obtain ⟨_, -, heq⟩ := Option.map_eq_some_iff.1 h
    cases heq
    exact fits_other
  · obtain ⟨_, -, heq⟩ := Option.map_eq_some_iff.1 h
    cases heq
    exact fits_other
  · obtain ⟨read, hread, htail⟩ := Option.bind_eq_some_iff.1 h
    have hv : v = read := by
      split at htail
      · obtain ⟨_, -, heq⟩ := Option.bind_eq_some_iff.1 htail
        cases heq
        rfl
      · cases htail
        rfl
    exact hv ▸ fits_of_wordValue? hread

theorem yields_inlineTable (value : Reader Value) : Yields (inlineTable value) Value.Fits := by
  refine yields_bind fun _ => yields_bind fun closed => yields_ite (yields_pure fits_other) ?_
  refine yields_bind fun text => yields_bind fun pairs => ?_
  cases Entries.ofInline pairs with
  | none => exact fun _ _ _ h => nomatch h
  | some _ => exact yields_pure fits_other

/-- An array or an inline table is no integer, whatever is in it. -/
theorem yields_value (room : Nat) : Yields (value room) Value.Fits := by
  cases room with
  | zero => exact yields_scalar
  | succ room =>
    refine yields_bind fun _ => yields_ite ?_ ?_
    · exact yields_bind fun _ => yields_bind fun _ => yields_pure fits_other
    · exact yields_bind fun _ => yields_ite (yields_inlineTable _) yields_scalar

theorem yields_keyValue {value : Reader Value} (h : Yields value Value.Fits) :
    Yields (keyValue value) fun entry => entry.2.Fits :=
  yields_bind fun _ => yields_bind fun _ => yields_bind fun _ =>
    h.bind fun _ hv => yields_pure hv

theorem yields_line : Yields line fun l => ∀ m, l = some m → m.Fits := by
  refine yields_bind fun _ => yields_bind fun text => ?_
  have hnone : ∀ m : Line, none = some m → m.Fits := fun _ h => nomatch h
  split
  · exact yields_pure hnone
  · exact yields_bind fun _ => yields_pure hnone
  · exact yields_bind fun _ => yields_pure hnone
  · exact yields_bind fun _ => yields_pure hnone
  · refine yields_bind fun _ => yields_bind fun path => yields_bind fun _ => yields_bind fun _ =>
      yields_bind fun _ => yields_pure ?_
    rintro _ ⟨⟩ _ _ ⟨⟩
  · refine yields_bind fun _ => yields_bind fun path => yields_bind fun _ =>
      yields_bind fun _ => yields_pure ?_
    rintro _ ⟨⟩ _ _ ⟨⟩
  · refine (yields_keyValue (yields_value maxNesting)).bind fun entry hentry =>
      yields_bind fun _ => yields_pure ?_
    rintro _ ⟨⟩ _ _ ⟨⟩
    exact hentry

theorem fits_of_mem_lines {fuel : Nat} {text : List Char} {ls : List Line}
    (h : lines fuel text = some ls) : ∀ l ∈ ls, l.Fits := by
  induction fuel generalizing text ls with
  | zero => cases h
  | succ fuel ih =>
    cases text with
    | nil =>
      cases h
      exact fun _ hl => nomatch hl
    | cons c text =>
      obtain ⟨⟨l?, rest⟩, hline, htail⟩ := Option.bind_eq_some_iff.1 h
      obtain ⟨later, hlater, heq⟩ := Option.bind_eq_some_iff.1 htail
      cases heq
      intro l hl
      obtain hfirst | hmem := List.mem_append.1 hl
      · exact yields_line _ _ _ hline l (Option.mem_toList.1 hfirst)
      · exact ih hlater l hmem

/-! ## An entry with a bare key -/

section

variable {name word rest : List Char} {c : Char}

/-- What a reader hands out goes on to the next. -/
theorem bind_of_eq {r : Reader α} {a : α} {text : List Char} (h : r text = some (a, rest))
    (f : α → Reader β) : (r >>= f) text = f a rest := by
  show (r text).bind (fun read => f read.1 read.2) = f a rest
  rw [h, Option.bind_some]

theorem blanks_cons (h : isBlank c = false) : blanks (c :: rest) = some ((), c :: rest) :=
  congrArg (fun text => some ((), text)) (List.dropWhile_cons_of_neg (by rw [h]; decide))

theorem accept_of_ne {d : Char} (h : d ≠ c) : accept c (d :: rest) = some (false, d :: rest) :=
  if_neg h

theorem isBlank_of_isWordChar (h : isWordChar c = true) : isBlank c = false := by
  rw [isBlank, Bool.or_eq_false_iff, beq_eq_false_iff_ne, beq_eq_false_iff_ne]
  constructor <;> rintro rfl <;> cases h

theorem isBlank_of_isBare (h : isBare c = true) : isBlank c = false := by
  refine isBlank_of_isWordChar ?_
  simp only [isBare, isWordChar, Bool.or_eq_true] at h ⊢
  tauto

theorem keyPart_bare (hname : MadeOf isBare name) (hc : isBare c = false) :
    keyPart (name ++ c :: rest) = some (String.ofList name, c :: rest) := by
  have htake : (name ++ c :: rest).takeWhile isBare = name := hname.takeWhile_append hc
  have hdrop : (name ++ c :: rest).dropWhile isBare = c :: rest := hname.dropWhile_append hc
  obtain ⟨d, tail, rfl, hd⟩ := hname.exists_cons
  unfold keyPart
  split
  · rename_i heq
    cases heq
    cases hd
  · rename_i heq
    cases heq
    cases hd
  · rw [htake, hdrop]
    rfl

/-- A bare key with nothing but a blank up to the equals sign. -/
theorem key_bare (hname : MadeOf isBare name) :
    key (name ++ ' ' :: '=' :: rest) = some ([String.ofList name], '=' :: rest) := by
  have hfirst : blanks (name ++ ' ' :: '=' :: rest) = some ((), name ++ ' ' :: '=' :: rest) := by
    obtain ⟨d, tail, rfl, hd⟩ := hname.exists_cons
    exact blanks_cons (isBlank_of_isBare hd)
  rw [key, maxNesting, keyParts, bind_of_eq hfirst, bind_of_eq (keyPart_bare hname rfl)]
  rfl

theorem keyValue_bare (hname : MadeOf isBare name) (hc : isBlank c = false) (value : Reader Value) :
    keyValue value (name ++ ' ' :: '=' :: ' ' :: c :: rest) =
      (value (c :: rest)).map fun read => (([String.ofList name], read.1), read.2) := by
  have hequals : char '=' ('=' :: ' ' :: c :: rest) = some ((), ' ' :: c :: rest) := rfl
  have hblanks : blanks (' ' :: c :: rest) = some ((), c :: rest) := blanks_cons hc
  rw [keyValue, bind_of_eq (key_bare hname), bind_of_eq hequals, bind_of_eq hblanks,
    Option.map_eq_bind]
  rfl

/-- A word up to the end of its line is what it is read as, if it is no date. -/
theorem scalar_word (hword : MadeOf isWordChar word) (hdate : isDate word = false) :
    scalar (word ++ '\n' :: rest) = (wordValue? word).map fun v => (v, '\n' :: rest) := by
  have htake : (word ++ '\n' :: rest).takeWhile isWordChar = word := hword.takeWhile_append rfl
  have hdrop : (word ++ '\n' :: rest).dropWhile isWordChar = '\n' :: rest :=
    hword.dropWhile_append rfl
  obtain ⟨d, tail, rfl, hd⟩ := hword.exists_cons
  unfold scalar
  split
  · rename_i heq
    cases heq
    cases hd
  · rename_i heq
    cases heq
    cases hd
  · simp only [htake, hdrop, hdate, Bool.false_eq_true, if_false, Option.map_eq_bind]
    rfl

theorem value_word (hword : MadeOf isWordChar word) (hdate : isDate word = false) (room : Nat) :
    value room (word ++ '\n' :: rest) = (wordValue? word).map fun v => (v, '\n' :: rest) := by
  cases room with
  | zero => exact scalar_word hword hdate
  | succ room =>
    have hopen : ∀ d, isWordChar d = false →
        accept d (word ++ '\n' :: rest) = some (false, word ++ '\n' :: rest) := by
      obtain ⟨c, tail, rfl, hc⟩ := hword.exists_cons
      rintro d hd
      refine accept_of_ne ?_
      rintro rfl
      cases hc.symm.trans hd
    rw [value, bind_of_eq (hopen '[' rfl), if_neg (by decide), bind_of_eq (hopen '\x7b' rfl),
      if_neg (by decide), scalar_word hword hdate]

/-- A line with an entry begins like no other. -/
theorem line_of_isBare (hc : isBare c = true) : line (c :: rest) =
    (keyValue (value maxNesting) (c :: rest)).bind fun read =>
      (lineEnd read.2).bind fun done => some (some (.entry read.1.1 read.1.2), done.2) := by
  have hget : (get : Reader (List Char)) (c :: rest) = some (c :: rest, c :: rest) := rfl
  rw [line, bind_of_eq (blanks_cons (isBlank_of_isBare hc)), bind_of_eq hget]
  generalize htext : c :: rest = text
  split
  · cases htext
  iterate 5
    · cases htext
      cases hc
  · rfl

theorem line_entry (hname : MadeOf isBare name) (hword : MadeOf isWordChar word)
    (hdate : isDate word = false) :
    line (name ++ ' ' :: '=' :: ' ' :: (word ++ '\n' :: rest)) =
      (wordValue? word).map fun v => (some (.entry [String.ofList name] v), rest) := by
  have hkeyValue :
      keyValue (value maxNesting) (name ++ ' ' :: '=' :: ' ' :: (word ++ '\n' :: rest)) =
        (wordValue? word).map fun v => (([String.ofList name], v), '\n' :: rest) := by
    have hvalue : value maxNesting (word ++ '\n' :: rest) =
        (wordValue? word).map fun v => (v, '\n' :: rest) := value_word hword hdate maxNesting
    obtain ⟨c, tail, rfl, hc⟩ := hword.exists_cons
    rw [List.cons_append, keyValue_bare hname (isBlank_of_isWordChar hc), ← List.cons_append,
      hvalue, Option.map_map]
    rfl
  obtain ⟨c, tail, rfl, hc⟩ := hname.exists_cons
  rw [List.cons_append, line_of_isBare hc, ← List.cons_append, hkeyValue]
  cases wordValue? word <;> rfl

end

/-! ## Entries with integers -/

/-- Keys with integers, each on a line of its own. -/
def written : List (String × Int) → List Char
  | [] => []
  | (k, i) :: rest => k.toList ++ ' ' :: '=' :: ' ' :: ((toString i).toList ++ '\n' :: written rest)

theorem madeOf_isWordChar_toString (i : Int) : MadeOf isWordChar (toString i).toList := by
  refine (madeOf_toString i).mono isWordChar fun c hc => ?_
  obtain hdigit | hdash := Bool.or_eq_true _ _ ▸ hc
  · simp [isWordChar, Char.isAlphanum, hdigit]
  · cases eq_of_beq hdash
    rfl

/-- An integer is a value if it has 64 bits, and else it is none of any kind. -/
theorem wordValue?_toString (i : Int) :
    wordValue? (toString i).toList = if IsInt64 i then some (.integer i) else none := by
  have hnamed : ∀ word, 'e' ∈ word → ((toString i).toList == word) = false := by
    intro word hword
    refine beq_eq_false_iff_ne.2 fun heq => ?_
    exact (madeOf_toString i).notMem (c := 'e') rfl (heq ▸ hword)
  unfold wordValue?
  rw [integer?_toString]
  by_cases hi : IsInt64 i
  · rw [if_pos hi, if_pos hi]
  · rw [if_neg hi, if_neg hi, hnamed _ (by simp), hnamed _ (by simp), isFloat_toString,
      isDateTime_toString]
    rfl

/-- The first of the lines is read if its integer has 64 bits. -/
theorem line_written {k : String} {i : Int} {entries : List (String × Int)}
    (hk : MadeOf isBare k.toList) : line (written ((k, i) :: entries)) =
      if IsInt64 i then some (some (.entry [k] (.integer i)), written entries) else none := by
  rw [written, line_entry hk (madeOf_isWordChar_toString i) (isDate_toString i),
    wordValue?_toString, apply_ite (Option.map _), String.ofList_toList]
  rfl

/-- A line, and then those behind it. -/
theorem lines_succ {text : List Char} (h : text ≠ []) (fuel : Nat) : lines (fuel + 1) text =
    (line text).bind fun read => (lines fuel read.2).map (read.1.toList ++ ·) := by
  cases text with
  | nil => exact absurd rfl h
  | cons c text =>
    simp only [Option.map_eq_bind]
    rfl

/-- Entries are read back as they are written, unless an integer has more than 64 bits. -/
theorem lines_written {entries : List (String × Int)}
    (hnames : ∀ entry ∈ entries, MadeOf isBare entry.1.toList) {fuel : Nat}
    (hfuel : (written entries).length < fuel) :
    lines fuel (written entries) =
      if ∀ entry ∈ entries, IsInt64 entry.2
        then some (entries.map fun entry => .entry [entry.1] (.integer entry.2)) else none := by
  induction entries generalizing fuel with
  | nil =>
    cases fuel with
    | zero => cases hfuel
    | succ fuel => rfl
  | cons entry rest ih =>
    obtain ⟨k, i⟩ := entry
    obtain ⟨hk, hrest⟩ := List.forall_mem_cons.1 hnames
    cases fuel with
    | zero => cases hfuel
    | succ fuel =>
      have hlength : (written rest).length < fuel := by
        simp only [written, List.length_append, List.length_cons] at hfuel
        omega
      rw [lines_succ (by simp [written]), line_written hk]
      by_cases hi : IsInt64 i
      · have hall : (∀ entry ∈ (k, i) :: rest, IsInt64 entry.2) ↔ ∀ entry ∈ rest, IsInt64 entry.2 :=
          List.forall_mem_cons.trans (and_iff_right hi)
        rw [if_pos hi, Option.bind_some, ih hrest hlength, apply_ite (Option.map _)]
        simp only [hall]
        rfl
      · rw [if_neg hi, if_neg fun hall => hi (hall (k, i) List.mem_cons_self)]
        rfl

end Reader

end SlideDeck.Toml
