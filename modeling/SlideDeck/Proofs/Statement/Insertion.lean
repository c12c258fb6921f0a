import Mathlib.Data.List.Forall2
import SlideDeck.Proofs.Statement.Parse
import SlideDeck.Proofs.Statement.Prompt

/-!
# Malformed statements in between

Tokens through a semicolon that are no statement, open no body and close none can be put between
any statements, at the top or in a body. Each is reported at one of its own tokens, and the
statements around it are parsed as if it were not there.

Results:
* `Inserts.derives`, `Derives.inserts`: what stands around malformed statements is any tokens that
  the grammar derives statements from.
* `ItemRule.ends`: a semicolon is the last token of a statement, and a text has none.
* `items_malformed`: a malformed statement is one fault, and what follows it is read as usual.
* `Inserts.exists_items`: malformed statements in between add their faults and nothing else.
* `parse_inserts`: there is a report for each malformed statement, in their order.
-/

namespace SlideDeck

open Reader

/-- Tokens through a semicolon that are no statement. They open no body, and they do not start with
a text, which is a statement, or with a closing brace. -/
structure Malformed (front : List Token) (last : Token) : Prop where
  ends : last.symbol = .punct .semicolon
  plain : ∀ t ∈ front, t.symbol ≠ .punct .semicolon ∧ t.symbol ≠ .punct .leftBrace
  start : ∀ t ∈ front.head?, t.symbol ≠ .punct .rightBrace ∧ ∀ content, t.symbol ≠ .text content
  not_derives : ∀ s, ¬ Derives (front ++ [last]) [s]

/-- The tokens spell the statements, and the result is the tokens with malformed statements put
before, between and behind the statements, in the order of the list. -/
inductive Inserts : (tokens : List Token) → List Statement → (malformed : List (List Token)) →
    (result : List Token) → Prop
  | nil : Inserts [] [] [] []
  | malformed {front tokens result : List Token} {last : Token} {statements : List Statement}
      {malformed : List (List Token)} : Malformed front last →
      Inserts tokens statements malformed result →
      Inserts tokens statements ((front ++ [last]) :: malformed) (front ++ last :: result)
  | command {t : Token} {tokens rest result : List Token} {c : Command} {after : List Statement}
      {malformed : List (List Token)} : CommandRule (t.symbol :: tokens.map Token.symbol) c →
      Inserts rest after malformed result →
      Inserts (t :: (tokens ++ rest)) (.command t c :: after) malformed (t :: (tokens ++ result))
  | compound {t opening closing : Token} {tokens inner rest innerResult result : List Token}
      {head : Head} {body after : List Statement} {inBody behind : List (List Token)} :
      HeadRule (t.symbol :: tokens.map Token.symbol) head →
      opening.symbol = .punct .leftBrace → Inserts inner body inBody innerResult →
      closing.symbol = .punct .rightBrace → Inserts rest after behind result →
      Inserts (t :: (tokens ++ opening :: (inner ++ closing :: rest)))
        (.compound t head body :: after) (inBody ++ behind)
        (t :: (tokens ++ opening :: (innerResult ++ closing :: result)))

theorem Inserts.derives {tokens result : List Token} {statements : List Statement}
    {malformed : List (List Token)} (h : Inserts tokens statements malformed result) :
    Derives tokens statements := by
  induction h with
  | nil => exact .nil
  | malformed _ _ ih => exact ih
  | command hrule _ ih => exact .command hrule ih
  | compound hrule hopen _ hclose _ ihbody ih => exact .compound hrule hopen ihbody hclose ih

/-- Nothing needs to be put in. -/
theorem Derives.inserts {tokens : List Token} {statements : List Statement}
    (h : Derives tokens statements) : Inserts tokens statements [] tokens := by
  induction h with
  | nil => exact .nil
  | command hrule _ ih => exact .command hrule ih
  | compound hrule hopen _ hclose _ ihbody ih => exact .compound hrule hopen ihbody hclose ih

/-! ## Semicolons -/

theorem ValueRule.semicolon_notMem {symbols : List Symbol} {v : Value} (h : ValueRule symbols v) :
    .punct .semicolon ∉ symbols := by
  rcases h with ⟨content⟩ | ⟨n⟩ | ⟨name⟩ | ⟨r, g, b, _ | a, _ | _⟩ <;> simp [alphaSymbols]

/-- A value that is assigned ends with a semicolon, and has no other one. -/
theorem AssignedRule.ends {symbols : List Symbol} {v : Value} (h : AssignedRule symbols v) :
    ∃ front, symbols = front ++ [.punct .semicolon] ∧ .punct .semicolon ∉ front := by
  obtain ⟨hv⟩ := h
  refine ⟨_, (List.cons_append ..).symm, ?_⟩
  simpa using hv.semicolon_notMem

/-- A command that is no text ends with a semicolon, and has no other one. -/
theorem CommandRule.ends {symbols : List Symbol} {c : Command} (h : CommandRule symbols c) :
    (∃ content, symbols = [.text content]) ∨
      ∃ front, symbols = front ++ [.punct .semicolon] ∧ .punct .semicolon ∉ front := by
  cases h with
  | text content => exact .inl ⟨content, rfl⟩
  | call name =>
    exact .inr ⟨[.punct .dollarSign, .identifier name, .punct .leftParen, .punct .rightParen], rfl,
      by simp⟩
  | declareLet name hv =>
    obtain ⟨front, rfl, hfront⟩ := hv.ends
    exact .inr ⟨.keyword .letKw :: .identifier name :: front, rfl, by simpa using hfront⟩
  | declareMut name hv =>
    obtain ⟨front, rfl, hfront⟩ := hv.ends
    exact .inr ⟨.keyword .mutKw :: .identifier name :: front, rfl, by simpa using hfront⟩
  | setAttribute name hv =>
    obtain ⟨front, rfl, hfront⟩ := hv.ends
    exact .inr ⟨.keyword .selfKw :: .punct .dot :: .identifier name :: front, rfl,
      by simpa using hfront⟩
  | assign name hv =>
    obtain ⟨front, rfl, hfront⟩ := hv.ends
    exact .inr ⟨.identifier name :: front, rfl, by simpa using hfront⟩

theorem HeadRule.semicolon_notMem {symbols : List Symbol} {head : Head}
    (h : HeadRule symbols head) : .punct .semicolon ∉ symbols := by
  rcases h with ⟨name, _ | parent⟩ | ⟨name, _ | parent⟩ | ⟨name⟩ <;> simp [parentSymbols]

/-- A statement that is no text ends with a semicolon, and the head of a declaration with an opening
brace; there is no semicolon before. -/
theorem ItemRule.ends {t : Token} {symbols : List Symbol} {item : Item}
    (h : ItemRule t symbols item) (htext : ∀ content, t.symbol ≠ .text content) :
    ∃ front last, t.symbol :: symbols = front ++ [last] ∧ .punct .semicolon ∉ front ∧
      ((last = .punct .semicolon ∧ ∃ c, CommandRule (t.symbol :: symbols) c) ∨
        last = .punct .leftBrace) := by
  cases h with
  | @command _ c hrule =>
    rcases hrule.ends with ⟨content, heq⟩ | ⟨front, heq, hfront⟩
    · exact absurd (List.cons.inj heq).1 (htext content)
    · exact ⟨front, _, heq, hfront, .inl ⟨rfl, c, hrule⟩⟩
  | opening hrule => exact ⟨_, _, rfl, hrule.semicolon_notMem, .inr rfl⟩

/-! ## A malformed statement is a fault -/

/-- What has no semicolon stands before the first one. -/
theorem exists_of_append_eq {a rest front behind : List Token} {last : Token}
    (h : a ++ rest = front ++ last :: behind) (hlast : last.symbol = .punct .semicolon)
    (ha : .punct .semicolon ∉ a.map Token.symbol) :
    ∃ between, front = a ++ between ∧ rest = between ++ last :: behind := by
  rcases List.append_eq_append_iff.1 h with ⟨between, hfront, hrest⟩ | ⟨beyond, rfl, hbeyond⟩
  · exact ⟨between, hfront, hrest⟩
  · cases beyond with
    | nil =>
      rw [List.nil_append] at hbeyond
      exact ⟨[], by simp, hbeyond.symm⟩
    | cons u beyond =>
      obtain ⟨rfl, -⟩ := List.cons.inj hbeyond
      refine absurd ?_ ha
      rw [← hlast]
      simp

theorem resume_append {front rest : List Token} {last : Token}
    (hfront : ∀ t ∈ front, t.symbol ≠ .punct .semicolon) (hlast : last.symbol = .punct .semicolon) :
    resume (front ++ last :: rest) = rest := by
  have hdrop : ∀ t ∈ front, (t.symbol != .punct .semicolon) = true := by simpa using hfront
  rw [resume, List.dropWhile_append_of_pos hdrop, List.dropWhile_cons]
  simp [hlast]

namespace Malformed

variable {front : List Token} {last : Token}

/-- No statement and no head of a declaration starts so. -/
theorem not_itemRule (h : Malformed front last) {t : Token} {tail begun left rest : List Token}
    {item : Item} (htail : front ++ last :: rest = t :: tail)
    (htext : ∀ content, t.symbol ≠ .text content) (hbegun : tail = begun ++ left) :
    ¬ ItemRule t (begun.map Token.symbol) item := by
  intro hitem
  obtain ⟨init, s, hsymbols, hinit, hs⟩ := hitem.ends htext
  rw [← List.map_cons] at hsymbols
  obtain ⟨taken, last', hsplit, rfl, hlast'⟩ := List.map_eq_append_iff.1 hsymbols
  obtain ⟨last', rfl, rfl⟩ := List.map_eq_singleton_iff.1 hlast'
  have hwhole : taken ++ (last' :: left) = front ++ last :: rest := by
    rw [htail, hbegun, ← List.cons_append, hsplit]
    simp
  obtain ⟨between, hfront, hrest⟩ := exists_of_append_eq hwhole h.ends hinit
  -- The item ends with the last token, or earlier, where neither a semicolon nor a brace can stand.
  cases between with
  | nil =>
    rw [List.append_nil] at hfront
    rw [List.nil_append] at hrest
    obtain ⟨rfl, rfl⟩ := List.cons.inj hrest
    subst hfront
    rcases hs with ⟨-, c, hrule⟩ | hbrace
    · refine h.not_derives (.command t c) ?_
      rw [← hsplit]
      simpa using Derives.command hrule .nil
    · cases h.ends.symm.trans hbrace
  | cons u between =>
    obtain ⟨rfl, -⟩ := List.cons.inj hrest
    have hplain := h.plain last' (by rw [hfront]; simp)
    rcases hs with ⟨hsemicolon, -⟩ | hbrace
    · exact hplain.1 hsemicolon
    · exact hplain.2 hbrace

end Malformed

/-- What is begun of a statement and is not ended has no semicolon. -/
theorem ItemRule.semicolon_notMem {t : Token} {front more : List Token} {item : Item}
    (h : ItemRule t ((front ++ more).map Token.symbol) item) (hmore : more ≠ [])
    (htext : ∀ content, t.symbol ≠ .text content) :
    .punct .semicolon ∉ (t :: front).map Token.symbol := by
  obtain ⟨init, s, hsymbols, hinit, -⟩ := h.ends htext
  rw [List.map_append, ← List.cons_append, ← List.map_cons] at hsymbols
  rcases List.append_eq_append_iff.1 hsymbols with ⟨between, rfl, -⟩ | ⟨beyond, hfront, hbeyond⟩
  · exact fun hmem => hinit (List.mem_append_left _ hmem)
  · cases beyond with
    | nil =>
      rw [hfront, List.append_nil]
      exact hinit
    | cons s' beyond =>
      obtain ⟨-, hnil⟩ := List.cons.inj hbeyond
      exact absurd (List.map_eq_nil_iff.1 (List.append_eq_nil_iff.1 hnil.symm).2) hmore

/-- A malformed statement is one fault at one of its tokens, and what follows is read as usual. -/
theorem items_malformed {front : List Token} {last : Token} (h : Malformed front last) (depth : Nat)
    (rest : List Token) : ∃ e, ∃ t ∈ front ++ [last],
      items depth (front ++ last :: rest) = .fault e (some t) :: items depth rest := by
  obtain ⟨t, tail, htail, hbrace, htext⟩ : ∃ t tail, front ++ last :: rest = t :: tail ∧
      t.symbol ≠ .punct .rightBrace ∧ ∀ content, t.symbol ≠ .text content := by
    cases front with
    | nil => exact ⟨last, rest, rfl, by simp [h.ends], by simp [h.ends]⟩
    | cons t front => exact ⟨t, front ++ last :: rest, rfl, h.start t rfl⟩
  cases hfirst : firstItem (0 < depth) t tail with
  | mk item left =>
    by_cases hfault : ∃ e found, item = .fault e found
    · obtain ⟨e, found, rfl⟩ := hfault
      obtain ⟨begun, after, hsplit, rfl, rfl, hbegun, -⟩ := firstItem_fault hfirst
      -- What was begun has no semicolon, so the fault is found at the last token at the latest.
      have hsemicolon : .punct .semicolon ∉ begun.map Token.symbol := by
        rcases hbegun with rfl | ⟨front, more, item, rfl, hmore, hitem⟩
        · simp
        · exact hitem.semicolon_notMem hmore htext
      obtain ⟨between, rfl, rfl⟩ :=
        exists_of_append_eq (hsplit.symm.trans htail.symm) h.ends hsemicolon
      have hresume : resume (between ++ last :: rest) = rest :=
        resume_append (fun u hu => (h.plain u (List.mem_append_right _ hu)).1) h.ends
      obtain ⟨u, hu, hhead⟩ :
          ∃ u ∈ between ++ [last], (between ++ last :: rest).head? = some u := by
        cases between <;> exact ⟨_, .head _, rfl⟩
      refine ⟨e, u, ?_, ?_⟩
      · rw [List.append_assoc]
        exact List.mem_append_right _ hu
      · rw [htail, items, hfirst, hhead, hresume]
        rfl
    · rcases firstItem_cases hfirst fun e found he => hfault ⟨e, found, he⟩ with
        ⟨-, ht, -, -⟩ | ⟨begun, hbegun, hitem⟩
      · exact absurd ht hbrace
      · exact absurd hitem (h.not_itemRule htail htext hbegun)

/-! ## Malformed statements in between -/

theorem not_derives_of_parse {tokens : List Token} (h : (parse tokens).isOk = false)
    (s : Statement) : ¬ Derives tokens [s] := by
  intro hderives
  rw [hderives.parse_eq] at h
  cases h

/-- The report stands at one of the tokens. -/
def ReportedAt (tokens : List Token) (r : Report ParseError) : Prop :=
  ∃ t ∈ tokens, ∃ e, r = t.report e

/-- The items nest to the statements, whatever follows, and their faults are one at a token of each
malformed statement. -/
theorem Inserts.exists_items {tokens result : List Token} {statements : List Statement}
    {malformed : List (List Token)} (h : Inserts tokens statements malformed result) (depth : Nat)
    (rest : List Token) : ∃ found : List Item,
      items depth (result ++ rest) = found ++ items depth rest ∧
      (∀ n, nestOnto n found = { n with level := statements ++ n.level }) ∧
      ∀ all, List.Forall₂ ReportedAt malformed (found.filterMap (Item.report? all)) := by
  induction h generalizing depth rest with
  | nil => exact ⟨[], rfl, fun _ => rfl, fun _ => .nil⟩
  | @malformed front tokens result last _ _ hmalformed _ ih =>
    obtain ⟨found, hitems, hnest, hreports⟩ := ih depth rest
    obtain ⟨e, t, ht, hfault⟩ := items_malformed hmalformed depth (result ++ rest)
    refine ⟨.fault e (some t) :: found, ?_, fun n => ?_, fun all => .cons ⟨t, ht, e, rfl⟩ ?_⟩
    · rw [List.append_assoc, List.cons_append, hfault, hitems, List.cons_append]
    · rw [nestOnto_cons, hnest]
      rfl
    · exact hreports all
  | @command t tokens _ result c _ _ hrule _ ih =>
    obtain ⟨found, hitems, hnest, hreports⟩ := ih depth rest
    refine ⟨.command t c :: found, ?_, fun n => ?_, hreports⟩
    · rw [List.cons_append, List.append_assoc, items_of_itemRule (.command hrule)]
      show Item.command t c :: items depth (result ++ rest) = _
      rw [hitems, List.cons_append]
    · rw [nestOnto_cons, hnest]
      rfl
  | @compound t opening closing tokens _ _ innerResult result head _ _ inBody behind hrule hopen _
      hclose _ ihb iha =>
    obtain ⟨founda, hitemsa, hnesta, hreportsa⟩ := iha depth rest
    -- How a malformed statement is read may depend on what follows: here the end of the body.
    obtain ⟨foundb, hitemsb, hnestb, hreportsb⟩ := ihb (depth + 1) (closing :: (result ++ rest))
    refine ⟨.opening t head :: (foundb ++ .closing :: founda), ?_, fun n => ?_, fun all => ?_⟩
    · have hsplit : t :: (tokens ++ opening :: (innerResult ++ closing :: result)) ++ rest =
          t :: (tokens ++ opening :: (innerResult ++ closing :: (result ++ rest))) := by simp
      rw [hsplit, items_of_headRule hrule hopen, hitemsb, items_closing hclose, hitemsa]
      simp
    · rw [nestOnto_cons, nest_append, nestOnto_cons, hnesta, hnestb]
      simp [Nesting.add]
    · show List.Forall₂ ReportedAt _ ((foundb ++ .closing :: founda).filterMap (Item.report? all))
      rw [List.filterMap_append]
      exact List.rel_append (hreportsb all) (hreportsa all)

/-- Where malformed statements are put between the statements of tokens that are parsed, the parse
fails with one report for each, in their order and at one of its tokens, and the statements are
parsed as before. -/
theorem parse_inserts {tokens result : List Token} {statements : List Statement}
    {malformed : List (List Token)} (h : Inserts tokens statements malformed result)
    (hmalformed : malformed ≠ []) :
    (parse tokens).result = .ok statements ∧ (parse result).isOk = false ∧
      (parse result).value = statements ∧
      List.Forall₂ ReportedAt malformed (parse result).reports := by
  obtain ⟨found, hitems, hnest, hreports⟩ := h.exists_items 0 []
  have hall : items 0 result = found := by simpa [items] using hitems
  have hparse : parse result = ⟨statements, found.filterMap (Item.report? result)⟩ := by
    simp [parse, hall, hnest]
  rw [hparse]
  have hsome : found.filterMap (Item.report? result) ≠ [] := by
    intro hnone
    have hreports := hreports result
    rw [hnone] at hreports
    exact hmalformed (List.forall₂_nil_right_iff.1 hreports)
  refine ⟨by rw [h.derives.parse_eq]; rfl, ?_, rfl, hreports result⟩
  rw [← Bool.not_eq_true, Outcome.isOk_iff]
  exact hsome

/-- A lone semicolon in front of a slide, and a call without its parentheses and a stray closing
brace in the body of the slide. -/
theorem parse_inserts_in_slide :
    let t (s : Symbol) (n : Nat) : Token := ⟨s, 1, 'a', ⟨n, n + 1⟩⟩
    let head := [t (.identifier "a") 2]
    let call := [t (.punct .dollarSign) 4, t (.identifier "m") 5, t (.punct .rightBrace) 6]
    let malformed := [[t (.punct .semicolon) 0], call ++ [t (.punct .semicolon) 7]]
    let tokens := t (.keyword .slideKw) 1 :: (head ++ t (.punct .leftBrace) 3 ::
      ([t (.text "x") 8] ++ [t (.punct .rightBrace) 9]))
    let result := t (.punct .semicolon) 0 :: t (.keyword .slideKw) 1 ::
      (head ++ t (.punct .leftBrace) 3 :: (call ++ t (.punct .semicolon) 7 ::
        t (.text "x") 8 :: t (.punct .rightBrace) 9 :: []))
    let statements := [Statement.compound (t (.keyword .slideKw) 1) (.slide "a" none)
      [.command (t (.text "x") 8) (.text "x")]]
    Inserts tokens statements malformed result ∧ (parse tokens).result = .ok statements ∧
      (parse result).isOk = false ∧ (parse result).value = statements ∧
        List.Forall₂ ReportedAt malformed (parse result).reports := by
  intro t head call malformed tokens result statements
  have hsemicolon : Malformed [] (t (.punct .semicolon) 0) :=
    ⟨rfl, by decide, by simp, not_derives_of_parse (by decide +kernel)⟩
  have hcall : Malformed call (t (.punct .semicolon) 7) :=
    ⟨rfl, by decide, by simp [call, t], not_derives_of_parse (by decide +kernel)⟩
  have htext : CommandRule ((t (.text "x") 8).symbol :: ([] : List Token).map Token.symbol)
      (.text "x") := .text "x"
  have hslide : HeadRule ((t (.keyword .slideKw) 1).symbol :: head.map Token.symbol)
      (.slide "a" none) := .slide "a" none
  have hbody := Inserts.malformed hcall (.command htext .nil)
  have hinserts : Inserts tokens statements malformed result :=
    .malformed hsemicolon (.compound hslide rfl hbody rfl .nil)
  exact ⟨hinserts, parse_inserts hinserts (by decide)⟩

end SlideDeck
