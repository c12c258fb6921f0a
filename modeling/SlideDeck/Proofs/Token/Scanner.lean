import SlideDeck.Proofs.Token.Concatenation
import SlideDeck.Proofs.Token.Fence
import SlideDeck.Proofs.Token.Longest

/-!
# A scanner that counts

A scanner keeps the characters of a source, a table with the byte offset of each of them, the number
of characters it has taken and the line it is in. It takes one character after the other, counts
line breaks where it meets them, and looks ahead without taking. In parentheses stand the methods
that are modelled.

Results:
* `Scanner.takeWhile_eq`, `Scanner.textRun_eq`, `Scanner.stringRun_eq`: what the loops take.
* `Scanner.word_eq`: keywords are looked for before a word is taken as an identifier.
* `Scanner.scanToken_eq`: what is scanned next is the first piece of the text ahead.
* `Scanner.At.mark_eq`: the table and the counters say where a piece is.
* `Scanner.At.scanAll_eq`: scanning to the end comes to the tokens and reports of the pieces.
* `lex_accounts`: the tokens and reports of a source account for all of it, and only the last report
  can give up, at the end of the source; they are those of the scanner.
-/

namespace SlideDeck

open Unicode

/-- The byte offset of each character of the text, and of its end. -/
def offsetsFrom (offset : Nat) : List Char → List Nat
  | [] => [offset]
  | c :: rest => offset :: offsetsFrom (offset + c.utf8Size) rest

/-- The offset of a character is the size of what comes before it. -/
theorem getElem?_offsetsFrom (offset : Nat) (before after : List Char) :
    (offsetsFrom offset (before ++ after))[before.length]? = some (offset + byteSize before) := by
  induction before generalizing offset with
  | nil => cases after <;> rfl
  | cons c before ih =>
    rw [List.cons_append, offsetsFrom, List.length_cons, List.getElem?_cons_succ, ih,
      byteSize_cons, Nat.add_assoc]

/-- The state of a scanner (`Scanner`). -/
structure Scanner where
  chars : List Char
  /-- The byte offset of each character, and of the end. -/
  offsets : List Nat
  /-- The number of characters that are taken. -/
  pos : Nat := 0
  line : Nat := 1

/-- What a fault means for the rest of the source (`Fault`). -/
inductive ScanFault where
  /-- Scanning goes on behind it. -/
  | recoverable (r : Report LexError)
  /-- The source ended inside of something. -/
  | fatal (r : Report LexError)

namespace Scanner

/-- A scanner before the text (`Scanner::new`). -/
def ofText (text : List Char) : Scanner := { chars := text, offsets := offsetsFrom 0 text }

/-! ## Looking ahead and taking -/

/-- Whether all is taken (`Scanner::at_end`). -/
def atEnd (sc : Scanner) : Bool := sc.chars.length ≤ sc.pos

/-- The character so many places ahead (`Scanner::peek_at`). -/
def peekAt (sc : Scanner) (n : Nat) : Option Char := sc.chars[sc.pos + n]?

def step (sc : Scanner) : Scanner := { sc with pos := sc.pos + 1 }

/-- Counts the line if the character breaks it. -/
def countLine (sc : Scanner) (c : Char) : Scanner :=
  if c = '\n' then { sc with line := sc.line + 1 } else sc

/-- Takes the next character (`Scanner::advance`). -/
def advance (sc : Scanner) : Option Char × Scanner :=
  match sc.peekAt 0 with
  | some c => (some c, sc.step)
  | none => (none, sc)

/-- The characters that are still to be taken. -/
def ahead (sc : Scanner) : List Char := sc.chars.drop sc.pos

/-- The scanner behind the text, if that is what comes next. -/
def past (sc : Scanner) (text : List Char) : Scanner :=
  { sc with pos := sc.pos + text.length, line := sc.line + newlines text }

section

variable {sc next : Scanner} {c : Char} {text rest : List Char}

theorem peekAt_eq (sc : Scanner) (n : Nat) : sc.peekAt n = sc.ahead[n]? :=
  List.getElem?_drop.symm

theorem pos_lt_of_ahead (h : sc.ahead = c :: rest) : sc.pos < sc.chars.length := by
  have hlength := congrArg List.length h
  rw [ahead, List.length_drop, List.length_cons] at hlength
  omega

theorem ahead_step (h : sc.ahead = c :: rest) : sc.step.ahead = rest := by
  rw [ahead, step, ← List.drop_drop, ← ahead, h]
  rfl

theorem ahead_eq_cons (h : sc.peekAt 0 = some c) : sc.ahead = c :: sc.step.ahead := by
  rw [peekAt_eq, ← List.head?_eq_getElem?] at h
  obtain ⟨rest, hrest⟩ := List.head?_eq_some_iff.1 h
  rw [hrest, ahead_step hrest]

theorem ahead_eq_nil (h : sc.peekAt 0 = none) : sc.ahead = [] := by
  rw [peekAt_eq, ← List.head?_eq_getElem?] at h
  exact List.head?_eq_none_iff.1 h

theorem advance_of_ahead (h : sc.ahead = c :: rest) : sc.advance = (some c, sc.step) := by
  have hpeek : sc.peekAt 0 = some c := by rw [peekAt_eq, h]; rfl
  rw [advance, hpeek]

theorem of_advance_some (h : sc.advance = (some c, next)) :
    sc.ahead = c :: next.ahead ∧ next = sc.step := by
  rw [advance] at h
  split at h
  · rename_i hpeek
    cases h
    exact ⟨ahead_eq_cons hpeek, rfl⟩
  · cases h

theorem of_advance_none (h : sc.advance = (none, next)) : sc.ahead = [] ∧ next = sc := by
  rw [advance] at h
  split at h
  · cases h
  · rename_i hpeek
    cases h
    exact ⟨ahead_eq_nil hpeek, rfl⟩

@[simp] theorem ahead_countLine (sc : Scanner) (c : Char) :
    (sc.countLine c).ahead = sc.ahead := by
  rw [countLine]
  split <;> rfl

@[simp] theorem past_nil (sc : Scanner) : sc.past [] = sc := rfl

/-- Lines are counted where a line break is taken. -/
theorem past_cons (sc : Scanner) (c : Char) (text : List Char) :
    sc.past (c :: text) = (sc.step.countLine c).past text := by
  have hpos : sc.pos + (text.length + 1) = sc.pos + 1 + text.length := by omega
  rw [past, List.length_cons, hpos, countLine]
  by_cases hc : c = '\n'
  · have hline : sc.line + newlines (c :: text) = sc.line + 1 + newlines text := by
      rw [hc, newlines, List.count_cons_self, newlines]
      omega
    rw [if_pos hc, hline]
    rfl
  · have hline : newlines (c :: text) = newlines text := List.count_cons_of_ne hc
    rw [if_neg hc, hline]
    rfl

theorem ahead_past (h : sc.ahead = text ++ rest) : (sc.past text).ahead = rest := by
  show sc.chars.drop (sc.pos + text.length) = rest
  rw [← List.drop_drop, ← ahead, h, List.drop_left]

theorem past_append (sc : Scanner) (a b : List Char) :
    sc.past (a ++ b) = (sc.past a).past b := by
  simp only [past, List.length_append, newlines_append, Nat.add_assoc]

theorem length_ahead_lt (h : sc.advance = (some c, next)) :
    next.ahead.length < sc.ahead.length := by
  rw [(of_advance_some h).1]
  exact Nat.lt_succ_self _

end

/-! ## Loops -/

/-- Takes characters as long as they are such (the loops for comments, words and numbers). -/
def takeWhile (p : Char → Bool) (sc : Scanner) : List Char × Scanner :=
  match _h : sc.peekAt 0 with
  | some c =>
    if p c then
      let found := sc.step.takeWhile p
      (c :: found.1, found.2)
    else ([], sc)
  | none => ([], sc)
termination_by sc.ahead.length
decreasing_by
  rw [ahead_eq_cons _h]
  exact Nat.lt_succ_self _

/-- Takes the text of a text block with the dashes behind it (the loop of `Scanner::text_block`). So
many dashes were taken just before. -/
def textRun (dashes : Nat) (sc : Scanner) : Option (List Char) × Scanner :=
  match _h : sc.advance with
  | (none, last) => (none, last)
  | (some c, next) =>
    if c = '-' then
      if dashes = 2 then (some [], next) else next.textRun (dashes + 1)
    else
      let found := (next.countLine c).textRun 0
      (found.1.map (List.replicate dashes '-' ++ c :: ·), found.2)
termination_by sc.ahead.length
decreasing_by
  · exact length_ahead_lt _h
  · rw [ahead_countLine]
    exact length_ahead_lt _h

/-- Takes the text of a string with the quote behind it (the loop of `Scanner::string`). -/
def stringRun (sc : Scanner) : Option (List Char) × Scanner :=
  match _h : sc.advance with
  | (none, last) => (none, last)
  | (some c, next) =>
    if c = '"' then (some [], next)
    else
      let found := (next.countLine c).stringRun
      (found.1.map (c :: ·), found.2)
termination_by sc.ahead.length
decreasing_by
  rw [ahead_countLine]
  exact length_ahead_lt _h

theorem takeWhile_eq {p : Char → Bool} (hp : p '\n' = false) (sc : Scanner) :
    sc.takeWhile p = (sc.ahead.takeWhile p, sc.past (sc.ahead.takeWhile p)) := by
  fun_induction takeWhile p sc with
  | case1 sc c hpeek hc found ih =>
    have hne : c ≠ '\n' := by
      rintro rfl
      cases hp.symm.trans hc
    have hfound : found = _ := ih
    rw [ahead_eq_cons hpeek, List.takeWhile_cons_of_pos hc, past_cons, countLine, if_neg hne,
      hfound]
  | case2 sc c hpeek hc =>
    rw [ahead_eq_cons hpeek, List.takeWhile_cons_of_neg hc, past_nil]
  | case3 sc hpeek =>
    rw [ahead_eq_nil hpeek, List.takeWhile_nil, past_nil]

/-- Up to the third dash in a row, a text is taken as it is counted out, line breaks included. -/
theorem textRun_eq (dashes : Nat) (sc : Scanner) : ∃ taken,
    sc.ahead = taken ++ (countDashes dashes sc.ahead).elim [] Prod.snd ∧
      sc.textRun dashes = ((countDashes dashes sc.ahead).map Prod.fst, sc.past taken) := by
  fun_induction textRun dashes sc with
  | case1 dashes sc last h =>
    obtain ⟨hahead, rfl⟩ := of_advance_none h
    rw [hahead]
    exact ⟨[], rfl, rfl⟩
  | case2 sc next h =>
    obtain ⟨hahead, rfl⟩ := of_advance_some h
    rw [hahead]
    exact ⟨['-'], rfl, rfl⟩
  | case3 dashes sc next hne h ih =>
    obtain ⟨hahead, rfl⟩ := of_advance_some h
    obtain ⟨taken, htaken, hrun⟩ := ih
    have hcount : countDashes dashes sc.ahead = countDashes (dashes + 1) sc.step.ahead := by
      rw [hahead, countDashes, if_pos rfl, if_neg hne]
    refine ⟨'-' :: taken, ?_, ?_⟩
    · rw [hcount, List.cons_append, ← htaken, hahead]
    · rw [hcount, hrun, past_cons]
      rfl
  | case4 dashes sc c next h hc found ih =>
    obtain ⟨hahead, rfl⟩ := of_advance_some h
    obtain ⟨taken, htaken, hrun⟩ := ih
    rw [ahead_countLine] at htaken hrun
    have hcount : countDashes dashes sc.ahead = (countDashes 0 sc.step.ahead).map
        fun split => (List.replicate dashes '-' ++ c :: split.1, split.2) := by
      rw [hahead, countDashes, if_neg hc]
    refine ⟨c :: taken, ?_, ?_⟩
    · rw [hcount, List.cons_append, Option.elim_map, hahead]
      exact congrArg (c :: ·) htaken
    · have hfound : found = _ := hrun
      rw [hcount, hfound, past_cons, Option.map_map, Option.map_map]
      rfl

/-- Up to the next quote, a string is taken as it stands, line breaks included. -/
theorem stringRun_eq (sc : Scanner) : sc.stringRun =
    match sc.ahead.dropWhile (· != '"') with
    | [] => (none, sc.past sc.ahead)
    | quote :: _ =>
      let content := sc.ahead.takeWhile (· != '"')
      (some content, sc.past (content ++ [quote])) := by
  fun_induction stringRun sc with
  | case1 sc last h =>
    obtain ⟨hahead, rfl⟩ := of_advance_none h
    rw [hahead]
    rfl
  | case2 sc next h =>
    obtain ⟨hahead, rfl⟩ := of_advance_some h
    rw [hahead]
    rfl
  | case3 sc c next h hc found ih =>
    obtain ⟨hahead, rfl⟩ := of_advance_some h
    have hother : (c != '"') = true := bne_iff_ne.2 hc
    have hfound : found = _ := ih
    rw [ahead_countLine] at hfound
    rw [hahead, List.dropWhile_cons_of_pos (p := (· != '"')) hother,
      List.takeWhile_cons_of_pos (p := (· != '"')) hother, hfound]
    cases sc.step.ahead.dropWhile (· != '"') with
    | nil => simp only [past_cons, Option.map_none]
    | cons quote after => simp only [past_cons, List.cons_append, Option.map_some]

/-! ## Words -/

/-- Looks ahead for the letters, from so many places ahead on, and takes all of them if the word
ends with them. -/
def eatFrom (sc : Scanner) (n : Nat) : List Char → Option Scanner
  | [] => if (sc.peekAt n).any isAlphanumeric then none else some { sc with pos := sc.pos + n }
  | letter :: letters =>
    if sc.peekAt n = some letter then sc.eatFrom (n + 1) letters else none

/-- Takes the letters if they come next and end the word (`Scanner::eat_suffix`). -/
def eatSuffix (sc : Scanner) (letters : List Char) : Option Scanner := sc.eatFrom 0 letters

/-- Takes the rest of a keyword that starts with the character (`Scanner::keyword`). -/
def keyword (sc : Scanner) (first : Char) : Option (Keyword × Scanner) :=
  [Keyword.letKw, .mutKw, .macroKw, .slideKw, .selfKw, .blockKw].findSome? fun k =>
    match k.letters with
    | [] => none
    | letter :: letters => if first = letter then (sc.eatSuffix letters).map (k, ·) else none

/-- Takes the rest of a word that starts with the character (`Scanner::identifier`). -/
def identifier (sc : Scanner) (first : Char) : Symbol × Scanner :=
  let found := sc.takeWhile isAlphanumeric
  (.identifier (String.ofList (first :: found.1)), found.2)

theorem eatFrom_eq (sc : Scanner) (n : Nat) (letters : List Char) :
    sc.eatFrom n letters = (eatLetters letters (sc.ahead.drop n)).map
      fun _ => { sc with pos := sc.pos + (n + letters.length) } := by
  induction letters generalizing n with
  | nil =>
    rw [eatFrom, eatLetters, peekAt_eq, List.head?_drop]
    split <;> rfl
  | cons letter letters ih =>
    have hlength : n + (letter :: letters).length = n + 1 + letters.length := by
      rw [List.length_cons]
      omega
    rw [eatFrom, peekAt_eq, ih, hlength, ← List.head?_drop, ← List.tail_drop]
    cases sc.ahead.drop n with
    | nil => rfl
    | cons c rest =>
      by_cases hc : c = letter
      · rw [eatLetters, if_pos hc, List.head?_cons, if_pos (congrArg some hc), List.tail_cons]
      · have hne : some c ≠ some letter := fun h => hc (Option.some.inj h)
        rw [eatLetters, if_neg hc, List.head?_cons, if_neg hne]
        rfl

/-- The arm of one keyword takes its letters if they are the whole word. -/
theorem keyword_eq (sc : Scanner) (first : Char) :
    sc.keyword first = (Keyword.next? (first :: sc.ahead)).map
      fun (k, _) => (k, { sc with pos := sc.pos + k.letters.tail.length }) := by
  rw [keyword, Keyword.next?, List.map_findSome?]
  congr
  funext k
  obtain ⟨letter, letters, hk⟩ : ∃ letter letters, k.letters = letter :: letters := by
    cases k <;> exact ⟨_, _, rfl⟩
  simp only [hk, Function.comp_apply, eatLetters]
  by_cases hfirst : first = letter
  · rw [if_pos hfirst, if_pos hfirst, eatSuffix, eatFrom_eq, List.drop_zero, Nat.zero_add]
    cases eatLetters letters sc.ahead with
    | none => rfl
    | some behind => simp [hk]
  · rw [if_neg hfirst, if_neg hfirst]
    rfl

/-- Keywords start with a letter. -/
theorem keyword_eq_none {first : Char} (h : isAlphabetic first = false) (sc : Scanner) :
    sc.keyword first = none := by
  rw [keyword_eq, Option.map_eq_none_iff]
  cases hnext : Keyword.next? (first :: sc.ahead) with
  | none => rfl
  | some found =>
    obtain ⟨hletters, -⟩ := Keyword.next?_eq_some_iff.1 hnext
    obtain ⟨letter, letters, hk⟩ : ∃ letter letters, found.1.letters = letter :: letters := by
      cases found.1 <;> exact ⟨_, _, rfl⟩
    have hprefix := List.takeWhile_prefix isAlphanumeric (l := first :: sc.ahead)
    rw [hletters, hk] at hprefix
    obtain ⟨rfl, -⟩ := List.cons_prefix_cons.1 hprefix
    have halpha := found.1.isAlphabetic_of_mem_letters letter (by rw [hk]; exact List.mem_cons_self)
    cases h.symm.trans halpha

/-- Keywords are looked for before a word is taken as an identifier. Both take the whole word. -/
theorem keyword_or_identifier {first : Char} (h : isAlphabetic first = true) (sc : Scanner) :
    let word := sc.ahead.takeWhile isAlphanumeric
    (match sc.keyword first with
      | some (k, last) => (Symbol.keyword k, last)
      | none => sc.identifier first) = (Cut.wordSymbol (first :: word), sc.past word) := by
  intro word
  have hfirst := isAlphanumeric_of_isAlphabetic h
  have hword : (first :: sc.ahead).takeWhile isAlphanumeric = first :: word :=
    List.takeWhile_cons_of_pos hfirst
  have hpast : newlines word = 0 := newlines_takeWhile (isAlphanumeric_eq_false (.inl rfl)) _
  rw [keyword_eq, Keyword.next?_eq, hword, Cut.wordSymbol]
  cases hk : Keyword.ofLetters? (first :: word) with
  | none =>
    show sc.identifier first = _
    rw [identifier, takeWhile_eq (isAlphanumeric_eq_false (.inl rfl))]
  | some k =>
    have hletters := Keyword.ofLetters?_eq_some_iff.1 hk
    show (Symbol.keyword k, _) = _
    rw [← hletters, past, hpast]
    rfl

/-! ## One token -/

/-- The range from the character on up to where the scanner is (`Scanner::span_from`). -/
def spanFrom (sc : Scanner) (start : Nat) : Span :=
  ⟨sc.offsets.getD start 0, sc.offsets.getD sc.pos 0⟩

/-- The mark of what started there (`Scanner::token`, `Scanner::error`). -/
def mark (sc : Scanner) (start line : Nat) (c : Char) : Mark := ⟨line, c, sc.spanFrom start⟩

/-- What scanning comes to: a token or none, or a fault. -/
abbrev Answer := Except ScanFault (Option Token)

/-- The first of the two characters ahead that is no dash is a fault. -/
def openingFault? (sc : Scanner) : Option LexError :=
  [0, 1].findSome? fun n =>
    match sc.peekAt n with
    | some c => if c = '-' then none else some .malformedText
    | none => some .unexpectedEnd

/-- Takes a text block of which the first dash is taken (`Scanner::text_block`). -/
def textBlock (sc : Scanner) (start line : Nat) : Answer × Scanner :=
  match sc.openingFault? with
  | some .unexpectedEnd =>
    let last := { sc with pos := sc.chars.length }
    (.error (.fatal ((last.mark start line '-').report .unexpectedEnd)), last)
  | some e => (.error (.recoverable ((sc.mark start line '-').report e)), sc)
  | none =>
    let (found, last) := { sc with pos := sc.pos + 2 }.textRun 0
    match found with
    | some text => (.ok (some ⟨.text (String.ofList text), last.mark start line '-'⟩), last)
    | none => (.error (.fatal ((last.mark start line '-').report .unterminatedText)), last)

/-- Takes a string of which the first quote is taken (`Scanner::string`). -/
def string (sc : Scanner) (start line : Nat) : Answer × Scanner :=
  let (found, last) := sc.stringRun
  match found with
  | some text => (.ok (some ⟨.string (String.ofList text), last.mark start line '"'⟩), last)
  | none => (.error (.fatal ((last.mark start line '"').report .unterminatedString)), last)

/-- Takes a number of which the first digit is taken (`Scanner::integer`). -/
def integer (sc : Scanner) (start line : Nat) (first : Char) : Answer × Scanner :=
  let found := sc.takeWhile Char.isDigit
  let last := found.2
  match readByte (first :: found.1) with
  | some n => (.ok (some ⟨.integer n, last.mark start line first⟩), last)
  | none => (.error (.recoverable ((last.mark start line first).report .integerOutOfRange)), last)

/-- Takes a word of which the first character is taken (the last arm of `Scanner::scan_token`). -/
def word (sc : Scanner) (start line : Nat) (first : Char) : Answer × Scanner :=
  match sc.keyword first with
  | some (k, last) => (.ok (some ⟨.keyword k, last.mark start line first⟩), last)
  | none =>
    if isAlphabetic first then
      let (symbol, last) := sc.identifier first
      (.ok (some ⟨symbol, last.mark start line first⟩), last)
    else
      (.error (.recoverable ((sc.mark start line first).report .unexpectedCharacter)), sc)

/-- Takes what comes next (`Scanner::scan_token`). -/
def scanToken (sc : Scanner) : Answer × Scanner :=
  let start := sc.pos
  let line := sc.line
  match sc.advance with
  | (none, last) => (.ok none, last)
  | (some c, next) =>
    if c = '#' then (.ok none, (next.takeWhile (· != '\n')).2)
    else if c = ' ' ∨ c = '\t' ∨ c = '\r' then (.ok none, next)
    else if c = '\n' then (.ok none, next.countLine c)
    else match Punct.ofChar? c with
    | some p => (.ok (some ⟨.punct p, next.mark start line c⟩), next)
    | none =>
      if c = '-' then next.textBlock start line
      else if c = '"' then next.string start line
      else if c.isDigit then next.integer start line c
      else next.word start line c

/-! ## What is scanned next -/

/-- What a piece at the mark is answered with. -/
def answer (mark : Mark) : Reading → Answer
  | .trivia => .ok none
  | .symbol s => .ok (some ⟨s, mark⟩)
  | .fault e =>
    .error (if e.givesUp then .fatal (mark.report e) else .recoverable (mark.report e))

/-- Takes the rest of a piece that starts with the character, which is taken, and answers it. -/
def rest (sc : Scanner) (start line : Nat) (c : Char) (piece : Piece) : Answer × Scanner :=
  let last := sc.past piece.tail
  (answer (last.mark start line c) piece.reading, last)

variable {sc : Scanner}

section

variable {start line : Nat}

/-- Where two dashes come next, all up to the next three is taken, or all there is. -/
theorem textBlock_of_body {body : List Char} (h : sc.ahead = '-' :: '-' :: body) :
    sc.textBlock start line = sc.rest start line '-' (Cut.dashed sc.ahead).piece := by
  have hfault : sc.openingFault? = none := by simp [openingFault?, peekAt_eq, h]
  have hopened : { sc with pos := sc.pos + 2 } = sc.past ['-', '-'] := rfl
  have hbody : (sc.past ['-', '-']).ahead = body := ahead_past h
  obtain ⟨taken, htaken, hrun⟩ := textRun_eq 0 (sc.past ['-', '-'])
  rw [hbody, countDashes_eq_splitAtDashes] at htaken hrun
  rw [← past_append] at hrun
  simp only [textBlock, hfault, hopened, hrun, h, Cut.dashed]
  cases hsplit : Cut.splitAtDashes body with
  | none =>
    rw [hsplit] at htaken
    have hall : taken = body := by simpa using htaken.symm
    subst hall
    rfl
  | some split =>
    obtain ⟨content, after⟩ := split
    have hcontent := Cut.splitAtDashes_eq_some hsplit
    rw [hsplit] at htaken
    have hall : taken = content ++ ['-', '-', '-'] :=
      List.append_cancel_right (htaken.symm.trans hcontent)
    subst hall
    rfl

/-- Where the source ends among the dashes, all of it is taken. -/
theorem textBlock_of_end (hpos : sc.pos ≤ sc.chars.length)
    (h : sc.ahead = [] ∨ sc.ahead = ['-']) :
    sc.textBlock start line = sc.rest start line '-' (Cut.dashed sc.ahead).piece := by
  have hend : sc.pos + sc.ahead.length = sc.chars.length := by
    rw [ahead, List.length_drop]
    omega
  have hlast : { sc with pos := sc.chars.length } = sc.past sc.ahead := by
    rw [← hend]
    obtain hahead | hahead := h <;> rw [hahead] <;> rfl
  have hfault : sc.openingFault? = some .unexpectedEnd := by
    obtain hahead | hahead := h <;> simp [openingFault?, peekAt_eq, hahead]
  simp only [textBlock, hfault, hlast]
  obtain hahead | hahead := h <;> rw [hahead] <;> rfl

/-- Where another character stands among the dashes, only the first of them is taken. -/
theorem textBlock_of_stray (hnone : sc.ahead ≠ []) (hone : sc.ahead ≠ ['-'])
    (hbody : ∀ body, sc.ahead ≠ '-' :: '-' :: body) :
    sc.textBlock start line = sc.rest start line '-' (Cut.dashed sc.ahead).piece := by
  have hfault : sc.openingFault? = some .malformedText := by
    match hahead : sc.ahead with
    | [] => exact absurd hahead hnone
    | [c] =>
      have hc : c ≠ '-' := by
        rintro rfl
        exact hone hahead
      simp [openingFault?, peekAt_eq, hahead, hc]
    | c :: c' :: body =>
      have hc : c = '-' → c' ≠ '-' := by
        rintro rfl rfl
        exact hbody body hahead
      by_cases hdash : c = '-' <;> simp [openingFault?, peekAt_eq, hahead, hdash, hc]
  rw [Cut.dashed_of_ne hnone hone hbody]
  simp only [textBlock, hfault]
  rfl

/-- A text block is taken as it is cut off behind its first dash. -/
theorem textBlock_eq (hpos : sc.pos ≤ sc.chars.length) :
    sc.textBlock start line = sc.rest start line '-' (Cut.dashed sc.ahead).piece := by
  by_cases hnone : sc.ahead = []
  · exact textBlock_of_end hpos (.inl hnone)
  by_cases hone : sc.ahead = ['-']
  · exact textBlock_of_end hpos (.inr hone)
  by_cases hbody : ∃ body, sc.ahead = '-' :: '-' :: body
  · obtain ⟨body, hahead⟩ := hbody
    exact textBlock_of_body hahead
  · exact textBlock_of_stray hnone hone fun body hahead => hbody ⟨body, hahead⟩

/-- A string is taken as it is cut off behind its first quote. -/
theorem string_eq (sc : Scanner) (start line : Nat) :
    sc.string start line = sc.rest start line '"' (Cut.quoted sc.ahead).piece := by
  rw [string, stringRun_eq, Cut.quoted]
  cases sc.ahead.dropWhile (· != '"') with
  | nil => rfl
  | cons quote after => rfl

/-- A number is taken as it is cut off behind its first digit. -/
theorem integer_eq (sc : Scanner) (start line : Nat) (first : Char) :
    sc.integer start line first = sc.rest start line first (Cut.number first sc.ahead).piece := by
  unfold integer
  simp only [takeWhile_eq (p := Char.isDigit) rfl, rest, Cut.number, numberReading_eq]
  generalize readByte (first :: sc.ahead.takeWhile Char.isDigit) = value
  cases value with
  | some n => rfl
  | none => rfl

/-- A word is taken as it is cut off behind its first letter. -/
theorem word_eq {first : Char} (h : isAlphabetic first = true) (sc : Scanner) (start line : Nat) :
    sc.word start line first = sc.rest start line first (Cut.word first sc.ahead).piece := by
  have hword := keyword_or_identifier h sc
  rw [word]
  cases hkeyword : sc.keyword first with
  | some found =>
    rw [hkeyword] at hword
    obtain ⟨hsymbol, hlast⟩ := Prod.mk.inj hword
    simp only [hsymbol, hlast]
    rfl
  | none =>
    rw [hkeyword] at hword
    simp only [if_pos h, hword]
    rfl

/-- What is no letter is taken alone. -/
theorem word_of_not_alphabetic {first : Char} (h : isAlphabetic first = false) (sc : Scanner)
    (start line : Nat) :
    sc.word start line first =
      sc.rest start line first ⟨first, [], .fault .unexpectedCharacter⟩ := by
  have hnot : ¬ isAlphabetic first = true := by simp [h]
  rw [word, keyword_eq_none h]
  simp only [if_neg hnot]
  rfl

/-- What is scanned next is the first piece of the text ahead, whatever character that starts with.
-/
theorem scanToken_eq {c : Char} {text : List Char} (h : sc.ahead = c :: text) :
    sc.scanToken = (sc.step.countLine c).rest sc.pos sc.line c (cut c text).piece := by
  have hpos : sc.step.pos ≤ sc.step.chars.length := pos_lt_of_ahead h
  have hadvance := advance_of_ahead h
  obtain rfl : sc.step.ahead = text := ahead_step h
  unfold scanToken
  simp only [hadvance]
  by_cases hcomment : c = '#'
  · subst hcomment
    rw [if_pos rfl, takeWhile_eq (by decide)]
    rfl
  rw [if_neg hcomment]
  by_cases hblank : c = ' ' ∨ c = '\t' ∨ c = '\r'
  · rw [if_pos hblank]
    obtain rfl | rfl | rfl := hblank <;> rfl
  rw [if_neg hblank]
  by_cases hnewline : c = '\n'
  · subst hnewline
    rw [if_pos rfl]
    rfl
  rw [if_neg hnewline, countLine, if_neg hnewline]
  cases hpunct : Punct.ofChar? c with
  | some p =>
    obtain rfl := Punct.ofChar?_eq_some_iff.1 hpunct
    rw [cut_punct]
    rfl
  | none =>
    simp only
    by_cases hdash : c = '-'
    · subst hdash
      rw [if_pos rfl, textBlock_eq hpos, cut_dash]
    rw [if_neg hdash]
    by_cases hquote : c = '"'
    · subst hquote
      rw [if_pos rfl, string_eq]
      rfl
    rw [if_neg hquote]
    by_cases hdigit : c.isDigit = true
    · rw [if_pos hdigit, integer_eq, cut_of_isDigit hdigit]
    rw [if_neg hdigit]
    by_cases halpha : isAlphabetic c = true
    · rw [word_eq halpha, cut_of_isAlphabetic halpha]
    · rw [word_of_not_alphabetic (Bool.eq_false_iff.2 halpha)]
      simp_all [cut, isBlank, Cut.single]

end

/-- The scanner goes over the piece, and answers it with its mark. -/
theorem scanToken_eq_past {c : Char} {text : List Char} (h : sc.ahead = c :: text) :
    let piece := (cut c text).piece
    sc.scanToken = (answer ((sc.past piece.text).mark sc.pos sc.line piece.head) piece.reading,
      sc.past piece.text) := by
  intro piece
  have hhead : piece.head = c := head_cut c text
  have hpast : sc.past piece.text = (sc.step.countLine c).past piece.tail := by
    rw [Piece.text, hhead, past_cons]
  rw [scanToken_eq h, hhead, hpast]
  rfl

/-- Behind what is scanned next comes what is behind the piece. -/
theorem ahead_scanToken {c : Char} {text : List Char} (h : sc.ahead = c :: text) :
    sc.scanToken.2.ahead = (cut c text).rest := by
  rw [scanToken_eq_past h]
  exact ahead_past (h.trans (cut_append c text).symm)

/-! ## To the end -/

theorem ahead_eq_nil_iff : sc.ahead = [] ↔ sc.atEnd = true := by
  rw [ahead, List.drop_eq_nil_iff, atEnd, decide_eq_true_iff]

theorem length_ahead_scanToken_lt (h : ¬ sc.atEnd = true) :
    sc.scanToken.2.ahead.length < sc.ahead.length := by
  obtain ⟨c, text, hahead⟩ := List.exists_cons_of_ne_nil (mt ahead_eq_nil_iff.1 h)
  rw [ahead_scanToken hahead, hahead]
  exact length_cut_rest_lt c text

/-- Scans until all is taken or a fault is fatal (`Lexer::lex`). -/
def scanAll (sc : Scanner) : Outcome LexError (List Token) :=
  if _h : sc.atEnd then ⟨[], []⟩
  else
    match sc.scanToken.1 with
    | .ok (some t) =>
      let o := sc.scanToken.2.scanAll
      ⟨t :: o.value, o.reports⟩
    | .ok none => sc.scanToken.2.scanAll
    | .error (.recoverable r) =>
      let o := sc.scanToken.2.scanAll
      ⟨o.value, r :: o.reports⟩
    | .error (.fatal r) => ⟨[], [r]⟩
termination_by sc.ahead.length
decreasing_by all_goals exact length_ahead_scanToken_lt _h

/-- The scanner has taken what comes before, and counted it. -/
structure At (sc : Scanner) (before text : List Char) : Prop where
  chars : sc.chars = before ++ text
  offsets : sc.offsets = offsetsFrom 0 sc.chars
  pos : sc.pos = before.length
  line : sc.line = 1 + newlines before

section

variable {before text rest : List Char}

theorem at_ofText (text : List Char) : (ofText text).At [] text where
  chars := rfl
  offsets := rfl
  pos := rfl
  line := rfl

theorem At.ahead_eq (h : sc.At before text) : sc.ahead = text := by
  rw [ahead, h.chars, h.pos, List.drop_left]

/-- The counters go over a text as over its characters. -/
theorem At.past (h : sc.At before (text ++ rest)) : (sc.past text).At (before ++ text) rest where
  chars := by
    rw [List.append_assoc]
    exact h.chars
  offsets := h.offsets
  pos := by
    rw [List.length_append, ← h.pos]
    rfl
  line := by
    rw [newlines_append, ← Nat.add_assoc, ← h.line]
    rfl

/-- The table has the offset of where the scanner is. -/
theorem At.offset_eq (h : sc.At before text) : sc.offsets.getD sc.pos 0 = byteSize before := by
  rw [h.offsets, h.chars, h.pos, List.getD_eq_getElem?_getD, getElem?_offsetsFrom]
  exact Nat.zero_add _

/-- The table and the counters say where a piece is. -/
theorem At.mark_eq {piece : Piece} (h : sc.At before (piece.text ++ rest)) :
    (sc.past piece.text).mark sc.pos sc.line piece.head =
      Placed.mark ⟨piece, Position.start.advance before⟩ := by
  have hstart : sc.offsets.getD sc.pos 0 = byteSize before := h.offset_eq
  have hstop : sc.offsets.getD (sc.past piece.text).pos 0 = byteSize (before ++ piece.text) :=
    h.past.offset_eq
  have hmarks := marks_mark before piece
  rw [byteSize_append] at hstop
  show (⟨sc.line, piece.head, ⟨sc.offsets.getD sc.pos 0,
    sc.offsets.getD (sc.past piece.text).pos 0⟩⟩ : Mark) = _
  rw [hstart, hstop, h.line, ← hmarks.line, ← hmarks.span]
  rfl

/-- Scanning comes to the tokens and reports of the text ahead. -/
theorem At.scanAll_eq (h : sc.At before text) :
    sc.scanAll = lexFrom (Position.start.advance before) text := by
  fun_induction pieces text generalizing sc before with
  | case1 =>
    rw [scanAll, dif_pos (ahead_eq_nil_iff.1 h.ahead_eq), lexFrom_nil]
  | case2 c rest ih =>
    have hahead := h.ahead_eq
    have hmore : ¬ sc.atEnd = true := by
      rw [← ahead_eq_nil_iff, hahead]
      exact List.cons_ne_nil c rest
    rw [← cut_append c rest] at h
    have hnext := ih h.past
    rw [Position.advance_append] at hnext
    obtain ⟨hvalue, hreports⟩ := lexFrom_cons (Position.start.advance before) c rest
    have hlex : lexFrom (Position.start.advance before) (c :: rest) = ⟨_, _⟩ :=
      congrArg₂ Outcome.mk hvalue hreports
    rw [scanAll, dif_neg hmore, scanToken_eq_past hahead, h.mark_eq, hlex]
    simp only [hnext]
    cases hreading : (cut c rest).piece.reading with
    | trivia =>
      simp only [answer, Placed.token?, Placed.report?, hreading]
      rfl
    | symbol s =>
      simp only [answer, Placed.token?, Placed.report?, hreading]
      rfl
    | fault e =>
      simp only [answer, Placed.token?, Placed.report?, hreading]
      cases he : e.givesUp with
      | false => rfl
      | true =>
        -- The loop stops, and nothing is left that could be read.
        rw [cut_rest_eq_nil hreading he, lexFrom_nil]
        rfl

end

end Scanner

/-! ## Sources -/

/-- The tokens and reports of a source account for all of it, and only the last report can give up,
at the end of the source. They are what a scanner finds that counts characters and lines itself. -/
theorem lex_accounts (source : String) :
    Accounts [] source.toList (lex source).value (lex source).reports ∧
      (∀ r ∈ (lex source).reports.dropLast, r.cause.givesUp = false) ∧
      (∀ r ∈ (lex source).reports, r.cause.givesUp = true →
        r.span.stop = source.utf8ByteSize) ∧
      (Scanner.ofText source.toList).scanAll = lex source := by
  have haccounts := accounts_lexFrom [] source.toList
  refine ⟨haccounts, haccounts.givesUp_eq_false, ?_, (Scanner.at_ofText source.toList).scanAll_eq⟩
  rw [← byteSize_toList]
  exact haccounts.stop_of_givesUp

/-- A word, a stray character, a comment and a string that is never closed. -/
theorem lex_accounts_unterminated :
    let reports : List (Report LexError) := [⟨.unexpectedCharacter, 1, '%', ⟨3, 4⟩⟩,
      ⟨.unterminatedString, 2, '"', ⟨7, 10⟩⟩]
    (lex "é %#\n \"a\n").reports = reports ∧
      ∀ r ∈ reports, r.cause.givesUp = true → r.span.stop = 10 := by
  have hreports : (lex "é %#\n \"a\n").reports = [⟨.unexpectedCharacter, 1, '%', ⟨3, 4⟩⟩,
      ⟨.unterminatedString, 2, '"', ⟨7, 10⟩⟩] := by decide +kernel
  obtain ⟨-, -, hstop, -⟩ := lex_accounts "é %#\n \"a\n"
  rw [hreports] at hstop
  exact ⟨hreports, hstop⟩

end SlideDeck
