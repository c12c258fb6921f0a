import Mathlib.Order.Bounds.Defs
import SlideDeck.Proofs.Statement.Parse
import SlideDeck.Proofs.Statement.Prompt

/-!
# The first report

Tokens are viable if the grammar derives statements from them and from some tokens behind them. The
first report stands at the first token with which the tokens are no longer viable. Where all of them
are viable, the input stopped: inside the tokens of a statement, which is reported at the end of the
input, or between the statements of a body, which is reported at the declaration of the body.

Results:
* `LeavesOpen`: tokens that stop between statements, with the declarations that are open there.
* `StopsInside`: tokens that stop inside a statement.
* `LeavesOpen.viable`, `StopsInside.viable`: both are viable.
* `StopsInside.not_leavesOpen`: tokens do not stop in both ways.
* `LeavesOpen.viable_until_fault`: a first fault is found at the first token that is not viable.
* `first_report`: where the first report stands.
-/

namespace SlideDeck

open Reader

/-- The grammar derives statements from the tokens and some more. -/
def Viable (tokens : List Token) : Prop := ∃ more statements, Derives (tokens ++ more) statements

/-- The tokens spell statements, and the beginnings of declarations whose closing brace is missing,
from the innermost on. -/
inductive LeavesOpen : List Token → List (Token × Head) → Prop
  | nothing {tokens : List Token} {statements : List Statement} : Derives tokens statements →
      LeavesOpen tokens []
  | body {before front inner : List Token} {t opening : Token} {head : Head}
      {body : List Statement} {outer : List (Token × Head)} : LeavesOpen before outer →
      HeadRule (t.symbol :: front.map Token.symbol) head → opening.symbol = .punct .leftBrace →
      Derives inner body →
      LeavesOpen (before ++ t :: (front ++ opening :: inner)) ((t, head) :: outer)

/-- The tokens stop inside a command, or inside the head of a declaration. -/
def StopsInside (tokens : List Token) : Prop := ∃ before outer t front more item,
  tokens = before ++ t :: front ∧ LeavesOpen before outer ∧ more ≠ [] ∧
    ItemRule t ((front ++ more).map Token.symbol) item

/-! ## What can be completed -/

theorem Derives.append {a b : List Token} {as bs : List Statement} (ha : Derives a as)
    (hb : Derives b bs) : Derives (a ++ b) (as ++ bs) := by
  induction ha with
  | nil => exact hb
  | command hrule _ ih =>
    rw [List.cons_append, List.append_assoc]
    exact .command hrule ih
  | compound hrule hopen hinner hclose _ _ ih =>
    simp only [List.cons_append, List.append_assoc]
    exact .compound hrule hopen hinner hclose ih

namespace LeavesOpen

variable {tokens : List Token} {outer : List (Token × Head)}

/-- More statements in the body that is open. -/
theorem append (h : LeavesOpen tokens outer) {more : List Token} {statements : List Statement}
    (hmore : Derives more statements) : LeavesOpen (tokens ++ more) outer := by
  cases h with
  | nothing htokens => exact .nothing (htokens.append hmore)
  | body hbefore hrule hopen hinner =>
    simp only [List.append_assoc, List.cons_append]
    exact .body hbefore hrule hopen (hinner.append hmore)

/-- A closing brace closes the innermost declaration. -/
theorem close {t closing : Token} {head : Head} (h : LeavesOpen tokens ((t, head) :: outer))
    (hclose : closing.symbol = .punct .rightBrace) : LeavesOpen (tokens ++ [closing]) outer := by
  cases h with
  | @body before front inner _ opening _ body _ hbefore hrule hopen hinner =>
    have hdeclaration := hbefore.append (.compound hrule hopen hinner hclose .nil)
    simpa using hdeclaration

/-- What is open can be closed. -/
theorem viable (h : LeavesOpen tokens outer) : Viable tokens := by
  induction outer generalizing tokens with
  | nil =>
    cases h with
    | nothing htokens => exact ⟨[], _, by simpa using htokens⟩
  | cons declaration outer ih =>
    obtain ⟨closing, hclosing⟩ := exists_token (.punct .rightBrace)
    obtain ⟨more, statements, hderives⟩ := ih (h.close hclosing)
    refine ⟨closing :: more, statements, ?_⟩
    simpa using hderives

/-- A statement whose tokens were begun can be ended. -/
theorem viable_begun (h : LeavesOpen tokens outer) {t : Token} {front more : List Token}
    {item : Item} (hitem : ItemRule t ((front ++ more).map Token.symbol) item) :
    Viable (tokens ++ t :: front) := by
  have hfull : ∃ outer', LeavesOpen (tokens ++ t :: (front ++ more)) outer' := by
    rcases hitem.of_map with ⟨c, -, hrule⟩ | ⟨begun, opening, head, hsplit, -, hrule, hopen⟩
    · have hcommand := h.append (.command hrule .nil)
      rw [List.append_nil] at hcommand
      exact ⟨outer, hcommand⟩
    · rw [hsplit]
      exact ⟨_, .body h hrule hopen .nil⟩
  obtain ⟨outer', hfull⟩ := hfull
  obtain ⟨more', statements, hderives⟩ := hfull.viable
  refine ⟨more ++ more', statements, ?_⟩
  simpa using hderives

end LeavesOpen

theorem StopsInside.viable {tokens : List Token} (h : StopsInside tokens) : Viable tokens := by
  obtain ⟨before, outer, t, front, more, item, rfl, hbefore, -, hitem⟩ := h
  exact hbefore.viable_begun hitem

theorem Viable.of_append {a b : List Token} (h : Viable (a ++ b)) : Viable a := by
  obtain ⟨more, statements, hderives⟩ := h
  rw [List.append_assoc] at hderives
  exact ⟨b ++ more, statements, hderives⟩

/-! ## Items without a fault -/

/-- Tokens that stop between statements are read as items without a fault, and what is open is what
is never closed. -/
theorem LeavesOpen.exists_items {tokens : List Token} {outer : List (Token × Head)}
    (h : LeavesOpen tokens outer) : ∃ found : List Item,
      (∀ rest, items 0 (tokens ++ rest) = found ++ items outer.length rest) ∧
      (∀ e at?, Item.fault e at? ∉ found) ∧
      ∀ level unclosed, (nestOnto ⟨level, [], unclosed⟩ found).unclosed = unclosed ++ outer := by
  induction h with
  | nothing htokens =>
    obtain ⟨found, hitems, hfault, hnest⟩ := htokens.exists_items
    refine ⟨found, hitems 0, hfault, fun level unclosed => ?_⟩
    rw [hnest, List.append_nil]
  | @body before front inner t opening head body outer _ hrule hopen hinner ih =>
    obtain ⟨found, hitems, hfault, hnest⟩ := ih
    obtain ⟨foundInner, hitemsInner, hfaultInner, hnestInner⟩ := hinner.exists_items
    refine ⟨found ++ .opening t head :: foundInner, fun rest => ?_, ?_, fun level unclosed => ?_⟩
    · have hsplit : before ++ t :: (front ++ opening :: inner) ++ rest =
          before ++ t :: (front ++ opening :: (inner ++ rest)) := by simp
      rw [hsplit, hitems, items_of_headRule hrule hopen, hitemsInner]
      simp
    · simpa using fun e at? => ⟨hfault e at?, hfaultInner e at?⟩
    · rw [nest_append, nestOnto_cons, hnestInner]
      simp [Nesting.add, hnest]

/-- Viable tokens are read without a fault as far as they go. -/
theorem Viable.fault_notMem {tokens : List Token} (h : Viable tokens) :
    ∃ more, ∀ e at?, Item.fault e at? ∉ items 0 (tokens ++ more) := by
  obtain ⟨more, statements, hderives⟩ := h
  have hreports : (parse (tokens ++ more)).reports = [] := by rw [hderives.parse_eq]
  exact ⟨more, (parse_reports_eq_nil_iff.1 hreports).1⟩

/-! ## The first fault -/

/-- Tokens stop between statements, or they have a first fault behind such tokens. -/
theorem leavesOpen_or_fault {tokens before rest : List Token} {outer : List (Token × Head)}
    (hbefore : LeavesOpen before outer) (htokens : tokens = before ++ rest) :
    (∃ outer, LeavesOpen tokens outer) ∨ ∃ before outer t rest e found left,
      tokens = before ++ t :: rest ∧ LeavesOpen before outer ∧
        firstItem (0 < outer.length) t rest = (.fault e found, left) := by
  -- By induction on how the rest is read: each item without a fault is one more part of `before`.
  generalize hdepth : outer.length = depth
  fun_induction items depth rest generalizing before outer
  case case1 depth =>
    rw [List.append_nil] at htokens
    exact .inl ⟨outer, htokens ▸ hbefore⟩
  case case2 depth t rest first ih =>
    subst hdepth
    have hfirst : firstItem (0 < outer.length) t rest = first := rfl
    generalize first = first at ih hfirst
    obtain ⟨item, left⟩ := first
    by_cases hfault : ∃ e found, item = .fault e found
    · obtain ⟨e, found, rfl⟩ := hfault
      exact .inr ⟨before, outer, t, rest, e, found, left, htokens, hbefore, hfirst⟩
    · rcases firstItem_cases hfirst fun e found he => hfault ⟨e, found, he⟩ with
        ⟨hnested, ht, rfl, rfl⟩ | ⟨front, rfl, hitem⟩
      · cases outer with
        | nil => simp at hnested
        | cons declaration outer =>
          refine ih (hbefore.close ht) ?_ rfl
          rw [htokens, List.append_assoc, List.singleton_append]
      · have hsplit : tokens = (before ++ t :: front) ++ left := by
          rw [htokens, List.append_assoc, List.cons_append]
        rcases hitem.of_map with ⟨c, rfl, hrule⟩ | ⟨begun, opening, head, rfl, rfl, hrule, hopen⟩
        · have hcommand := hbefore.append (.command hrule .nil)
          rw [List.append_nil] at hcommand
          exact ih hcommand hsplit rfl
        · exact ih (.body hbefore hrule hopen .nil) hsplit rfl

/-! ## The first report -/

/-- Only faults are reported. -/
theorem filterMap_report?_of_notMem {found : List Item} (h : ∀ e at?, Item.fault e at? ∉ found)
    (tokens : List Token) : found.filterMap (Item.report? tokens) = [] := by
  rw [List.filterMap_eq_nil_iff]
  intro item hitem
  cases item with
  | fault e at? => exact absurd hitem (h e at?)
  | _ => rfl

/-- Where the input stops between statements, the declarations that are open are reported, from the
innermost on. -/
theorem LeavesOpen.reports {tokens : List Token} {outer : List (Token × Head)}
    (h : LeavesOpen tokens outer) :
    (∀ e at?, Item.fault e at? ∉ items 0 tokens) ∧
      (parse tokens).reports = outer.map fun (t, head) => t.report (.unclosed head.name) := by
  obtain ⟨found, hitems, hfault, hnest⟩ := h.exists_items
  have hall : items 0 tokens = found := by simpa [items] using hitems []
  have hunclosed : (nestOnto {} found).unclosed = outer := hnest [] []
  refine ⟨hall ▸ hfault, ?_⟩
  rw [parse, hall, hunclosed, filterMap_report?_of_notMem hfault]
  rfl

/-- Where tokens that stop between statements are followed by a fault, it is reported first. -/
theorem LeavesOpen.head?_reports {before rest left : List Token} {outer : List (Token × Head)}
    {t : Token} {e : ParseError} {found : Option Token} (h : LeavesOpen before outer)
    (hfirst : firstItem (0 < outer.length) t rest = (.fault e found, left)) :
    (parse (before ++ t :: rest)).reports.head? =
      some ((found.getD (endToken (before ++ t :: rest))).report e) := by
  obtain ⟨items₀, hitems, hfault, -⟩ := h.exists_items
  rw [parse, hitems, items, hfirst, List.filterMap_append, filterMap_report?_of_notMem hfault]
  rfl

/-- The tokens that begin a statement and do not end it are a fault without a token. -/
theorem firstItem_of_begun {t : Token} {front more : List Token} {item : Item}
    (hmore : more ≠ []) (hitem : ItemRule t ((front ++ more).map Token.symbol) item)
    (nested : Bool) : ∃ e, firstItem nested t front = (.fault e none, []) := by
  obtain ⟨reader, hreader⟩ := exists_after? hitem
  have hfull : reader (front ++ more) = .ok item [] :=
    (obeys_after? hreader _ _ _).2 ⟨front ++ more, by rw [List.append_nil], hitem⟩
  have hclosing : ¬(nested = true ∧ t.symbol = .punct .rightBrace) :=
    fun hclosing => hitem.symbol_ne hclosing.2
  cases hread : reader front with
  | ok item' left =>
    obtain ⟨taken, rfl, hall⟩ := (obeys_after? hreader).ok_append hread
    have hmost := hall (left ++ more)
    rw [← List.append_assoc, hfull] at hmost
    obtain ⟨-, hnil⟩ := EStateM.Result.ok.inj hmost
    exact absurd (List.append_eq_nil_iff.1 hnil.symm).2 hmore
  | error e left =>
    obtain ⟨taken, rfl, -, hleft⟩ := (prompt_after? hreader).fails _ _ _ hread
    cases left with
    | nil =>
      refine ⟨e, ?_⟩
      rw [firstItem, if_neg hclosing]
      simp only [hreader, hread]
      rfl
    | cons u rest =>
      have hfails := hleft u rest rfl (rest ++ more)
      rw [List.append_assoc, List.cons_append] at hfull
      cases hfull.symm.trans hfails

/-- Where the input stops inside a statement, the end of the input is reported first. -/
theorem StopsInside.head?_reports {tokens : List Token} (h : StopsInside tokens) : ∃ e last,
    tokens.getLast? = some last ∧ (parse tokens).reports.head? =
      some ⟨e, last.mark.line, none, .emptyAt last.mark.span.stop⟩ := by
  obtain ⟨before, outer, t, front, more, item, rfl, hbefore, hmore, hitem⟩ := h
  obtain ⟨e, hfirst⟩ := firstItem_of_begun hmore hitem (0 < outer.length)
  have hnonempty : before ++ t :: front ≠ [] := by simp
  have hlast := List.getLast?_eq_some_getLast hnonempty
  refine ⟨e, _, hlast, ?_⟩
  rw [hbefore.head?_reports hfirst, Option.getD_none, report_endToken hlast]

/-- Tokens do not stop both inside a statement and between statements. -/
theorem StopsInside.not_leavesOpen {tokens : List Token} (h : StopsInside tokens)
    {outer : List (Token × Head)} : ¬ LeavesOpen tokens outer := by
  intro hopen
  obtain ⟨before, outer', t, front, more, item, rfl, hbefore, hmore, hitem⟩ := h
  obtain ⟨e, hfirst⟩ := firstItem_of_begun hmore hitem (0 < outer'.length)
  obtain ⟨e', found, hfault⟩ := fault_mem_items hfirst
  obtain ⟨items₀, hitems, -, -⟩ := hbefore.exists_items
  refine hopen.reports.1 e' found ?_
  rw [hitems]
  exact List.mem_append_right _ hfault

/-- Where a fault is first, the tokens before the one at which it is found are viable, and they are
not with that one. If there is none, the tokens stop inside a statement. -/
theorem LeavesOpen.viable_until_fault {before rest left : List Token} {outer : List (Token × Head)}
    {t : Token} {e : ParseError} {found : Option Token} (h : LeavesOpen before outer)
    (hfirst : firstItem (0 < outer.length) t rest = (.fault e found, left)) :
    ∃ front after, before ++ t :: rest = front ++ after ∧ found = after.head? ∧ Viable front ∧
      (∀ u ∈ after.head?, ¬ Viable (front ++ [u])) ∧
      (after = [] → StopsInside (before ++ t :: rest)) := by
  obtain ⟨begun, after, hsplit, hfound, -, hbegun, hafter⟩ := firstItem_fault hfirst
  refine ⟨before ++ begun, after, ?_, hfound, ?_, ?_, ?_⟩
  · rw [hsplit, List.append_assoc]
  · rcases hbegun with rfl | ⟨front, more, item, rfl, -, hitem⟩
    · rw [List.append_nil]
      exact h.viable
    · exact h.viable_begun hitem
  · intro u hu hviable
    obtain ⟨more, hnone⟩ := hviable.fault_notMem
    obtain ⟨e', found', hfault⟩ := hafter u hu more
    obtain ⟨items₀, hitems, -, -⟩ := h.exists_items
    refine hnone e' found' ?_
    rw [List.append_assoc, List.append_assoc, List.singleton_append, hitems]
    exact List.mem_append_right _ hfault
  · rintro rfl
    rw [List.append_nil] at hsplit
    rcases hbegun with rfl | ⟨front, more, item, rfl, hmore, hitem⟩
    · cases hsplit
    · rw [hsplit]
      exact ⟨before, outer, t, front, more, item, rfl, h, hmore, hitem⟩

/-- Of the beginnings of the tokens that are viable, the longest is the one with which the next
token is not. -/
theorem isGreatest_viable {front after : List Token} (hfront : Viable front)
    (hafter : ∀ u ∈ after.head?, ¬ Viable (front ++ [u])) :
    IsGreatest {k | k ≤ (front ++ after).length ∧ Viable ((front ++ after).take k)}
      front.length := by
  refine ⟨⟨?_, ?_⟩, fun k hk => Nat.le_of_not_lt fun hlt => ?_⟩
  · rw [List.length_append]
    omega
  · rw [List.take_append_of_le_length (Nat.le_refl _), List.take_length]
    exact hfront
  · obtain ⟨hk, hviable⟩ := hk
    cases after with
    | nil =>
      rw [List.append_nil] at hk
      omega
    | cons u after =>
      obtain ⟨n, rfl⟩ : ∃ n, k = front.length + (n + 1) := ⟨k - front.length - 1, by omega⟩
      rw [List.take_length_add_append, List.take_succ_cons] at hviable
      refine hafter u rfl (Viable.of_append (b := after.take n) ?_)
      rw [List.append_assoc, List.singleton_append]
      exact hviable

/-- The first report of tokens that are not parsed. Where some of them are not viable, it stands at
the first token with which they are not. Where all of them are, the input stops inside a statement
or between the statements of a body: the report stands at the end of the input, on the line of the
last token, or at the declaration that is open there. -/
theorem first_report {tokens : List Token} (hfails : (parse tokens).isOk = false) :
    ∃ k, IsGreatest {k | k ≤ tokens.length ∧ Viable (tokens.take k)} k ∧
      (∀ t, tokens[k]? = some t → ∃ e, (parse tokens).reports.head? = some (t.report e)) ∧
      (k = tokens.length →
        (StopsInside tokens ∨ ∃ t head outer, LeavesOpen tokens ((t, head) :: outer)) ∧
        (StopsInside tokens → ∃ e last, tokens.getLast? = some last ∧
          (parse tokens).reports.head? =
            some ⟨e, last.mark.line, none, .emptyAt last.mark.span.stop⟩) ∧
        ∀ t head outer, LeavesOpen tokens ((t, head) :: outer) →
          (parse tokens).reports.head? = some (t.report (.unclosed head.name))) := by
  have hreports : ∀ t head outer, LeavesOpen tokens ((t, head) :: outer) →
      (parse tokens).reports.head? = some (t.report (.unclosed head.name)) := by
    intro t head outer hopen
    rw [hopen.reports.2]
    rfl
  rcases leavesOpen_or_fault (.nothing .nil) (List.nil_append tokens).symm with
    ⟨outer, hopen⟩ | ⟨before, outer, t, rest, e, found, left, htokens, hbefore, hfirst⟩
  · have hnext : ∀ u ∈ ([] : List Token).head?, ¬ Viable (tokens ++ [u]) := by simp
    have hgreatest := isGreatest_viable hopen.viable hnext
    rw [List.append_nil] at hgreatest
    refine ⟨tokens.length, hgreatest, fun t ht => ?_, fun _ =>
      ⟨.inr ?_, StopsInside.head?_reports, hreports⟩⟩
    · rw [List.getElem?_eq_none (Nat.le_refl _)] at ht
      cases ht
    · cases outer with
      | nil =>
        have hok : (parse tokens).isOk = true := Outcome.isOk_iff.2 hopen.reports.2
        rw [hfails] at hok
        cases hok
      | cons declaration outer => exact ⟨declaration.1, declaration.2, outer, hopen⟩
  · have hhead := hbefore.head?_reports hfirst
    obtain ⟨front, after, hsplit, rfl, hfront, hafter, hinside⟩ := hbefore.viable_until_fault hfirst
    rw [← htokens] at hhead hsplit hinside
    refine ⟨front.length, hsplit ▸ isGreatest_viable hfront hafter, fun u hu => ⟨e, ?_⟩, fun hk =>
      ⟨.inl (hinside ?_), StopsInside.head?_reports, hreports⟩⟩
    · rw [hsplit, List.getElem?_append_right (Nat.le_refl _), Nat.sub_self,
        ← List.head?_eq_getElem?] at hu
      rw [hhead, hu, Option.getD_some]
    · rw [hsplit, List.length_append] at hk
      exact List.eq_nil_of_length_eq_zero (by omega)

/-- A slide whose block is not closed either, and a value that is missing inside a slide. -/
theorem first_report_nested :
    let t (s : Symbol) (n : Nat) : Token := ⟨s, 1, 'a', ⟨n, n + 1⟩⟩
    let slide := [t (.keyword .slideKw) 0, t (.identifier "a") 1, t (.punct .leftBrace) 2]
    let block := [t (.keyword .blockKw) 3, t (.identifier "b") 4, t (.punct .leftBrace) 5]
    let assign := [t (.identifier "x") 3, t (.punct .equalSign) 4, t (.punct .semicolon) 5]
    ((parse (slide ++ block)).isOk = false ∧
      LeavesOpen (slide ++ block) [(t (.keyword .blockKw) 3, .block "b" none),
        (t (.keyword .slideKw) 0, .slide "a" none)] ∧
      (parse (slide ++ block)).reports.head? =
        some ((t (.keyword .blockKw) 3).report (.unclosed "b"))) ∧
    (parse (slide ++ assign)).isOk = false ∧
      (parse (slide ++ assign)).reports.head? =
        some ((t (.punct .semicolon) 5).report .expectedValue) ∧
      ∃ k, IsGreatest {k | k ≤ 6 ∧ Viable ((slide ++ assign).take k)} k ∧
        ∀ u, (slide ++ assign)[k]? = some u →
          ∃ e, (parse (slide ++ assign)).reports.head? = some (u.report e) := by
  intro t slide block assign
  have hslide : HeadRule ((t (.keyword .slideKw) 0).symbol ::
      [t (.identifier "a") 1].map Token.symbol) (.slide "a" none) := .slide "a" none
  have hnested : HeadRule ((t (.keyword .blockKw) 3).symbol ::
      [t (.identifier "b") 4].map Token.symbol) (.block "b" none) := .block "b" none
  have hbrace (n : Nat) : (t (.punct .leftBrace) n).symbol = .punct .leftBrace := rfl
  have hopen := ((LeavesOpen.nothing .nil).body hslide (hbrace 2) .nil).body hnested (hbrace 5) .nil
  have hblock : (parse (slide ++ block)).isOk = false := by decide +kernel
  have hassign : (parse (slide ++ assign)).isOk = false := by decide +kernel
  obtain ⟨k, hk, -, hend⟩ := first_report hblock
  have hlength : k = (slide ++ block).length :=
    Nat.le_antisymm hk.1.1 (hk.2 ⟨Nat.le_refl _, by rw [List.take_length]; exact hopen.viable⟩)
  obtain ⟨k', hk', hreport, -⟩ := first_report hassign
  exact ⟨⟨hblock, hopen, (hend hlength).2.2 _ _ _ hopen⟩, hassign, by decide +kernel, k', hk',
    hreport⟩

end SlideDeck
