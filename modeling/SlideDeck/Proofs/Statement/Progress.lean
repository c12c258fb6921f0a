import SlideDeck.Proofs.Statement.Parse
import SlideDeck.Proofs.Statement.Preorder

/-!
# Loops over statements

Tokens are parsed by loops: one over the statements at the top, and one over the statements of each
body. A turn of a loop reads one declaration and, if that fails, drops tokens through the next
semicolon; the declaration may have a loop over its body inside. Every turn takes tokens, so that
all loops come to an end, and there cannot be more statements and reports than tokens.

Results:
* `Turn`, `Loop`: what a turn takes and adds, and what a whole loop does.
* `Turn.exists_taken`, `Loop.exists_taken`: there are no more statements, at any nesting, and
  reports than tokens that were taken, and a turn takes at least one.
* `exists_loop`: from any tokens on, a loop comes to an end.
* `Loop.exists_items`: a loop reads its tokens as the items that they are split into.
* `parse_progress`: every turn takes tokens, every loop ends, the loop at the top comes to what is
  parsed, and that is bounded by the number of tokens.
-/

namespace SlideDeck

mutual

/-- One turn of a loop over statements, in a body if `nested`, with what it adds and the tokens that
it leaves: one declaration and, if that is a fault, the tokens through the next semicolon. `all` is
the whole input. -/
inductive Turn (all : List Token) :
    Bool → List Token → Outcome ParseError (List Statement) → List Token → Prop
  | command {nested : Bool} {t u : Token} {rest left : List Token} {c : Command} :
      firstItem nested t rest = (.command u c, left) →
      Turn all nested (t :: rest) ⟨[.command u c], []⟩ left
  | fault {nested : Bool} {t : Token} {rest left : List Token} {e : ParseError}
      {found : Option Token} : firstItem nested t rest = (.fault e found, left) →
      Turn all nested (t :: rest) ⟨[], [(found.getD (endToken all)).report e]⟩ left
  /-- The loop over the body stops at a closing brace. -/
  | closed {nested : Bool} {t u closing : Token} {rest inner left : List Token} {head : Head}
      {body : Outcome ParseError (List Statement)} :
      firstItem nested t rest = (.opening u head, inner) →
      Loop all true inner body (closing :: left) →
      Turn all nested (t :: rest) ⟨[.compound u head body.value], body.reports⟩ left
  /-- The loop over the body stops at the end of the input: the declaration fails. -/
  | unclosed {nested : Bool} {t u : Token} {rest inner : List Token} {head : Head}
      {body : Outcome ParseError (List Statement)} :
      firstItem nested t rest = (.opening u head, inner) → Loop all true inner body [] →
      Turn all nested (t :: rest) ⟨[], body.reports ++ [u.report (.unclosed head.name)]⟩ []

/-- A loop over statements: turn after turn up to the end of the input or, in a body, up to a
closing brace. -/
inductive Loop (all : List Token) :
    Bool → List Token → Outcome ParseError (List Statement) → List Token → Prop
  | stop {nested : Bool} {tokens : List Token} :
      (∀ t ∈ tokens.head?, nested = true ∧ t.symbol = .punct .rightBrace) →
      Loop all nested tokens ⟨[], []⟩ tokens
  | turn {nested : Bool} {tokens between left : List Token}
      {first more : Outcome ParseError (List Statement)} : Turn all nested tokens first between →
      Loop all nested between more left →
      Loop all nested tokens ⟨first.value ++ more.value, first.reports ++ more.reports⟩ left

end

/-! ## What turns take -/

/-- There are no more statements, at any nesting, and reports than tokens were taken. -/
def Pays (taken : List Token) (outcome : Outcome ParseError (List Statement)) : Prop :=
  (preorder outcome.value).length + outcome.reports.length ≤ taken.length

theorem exists_taken_of_firstItem {nested : Bool} {t : Token} {rest left : List Token} {item : Item}
    (h : firstItem nested t rest = (item, left)) : ∃ front, rest = front ++ left := by
  have hsuffix := firstItem_suffix nested t rest
  rw [h] at hsuffix
  obtain ⟨front, hfront⟩ := hsuffix
  exact ⟨front, hfront.symm⟩

mutual

/-- A turn takes at least one token, and as many as it adds statements and reports, or more. -/
theorem Turn.exists_taken {all tokens left : List Token} {nested : Bool}
    {outcome : Outcome ParseError (List Statement)} (h : Turn all nested tokens outcome left) :
    ∃ taken, taken ≠ [] ∧ tokens = taken ++ left ∧ Pays taken outcome := by
  match h with
  | @Turn.command _ _ t u rest left c hfirst =>
    obtain ⟨front, rfl⟩ := exists_taken_of_firstItem hfirst
    exact ⟨t :: front, by simp, rfl, by simp [Pays]⟩
  | @Turn.fault _ _ t rest left e found hfirst =>
    obtain ⟨front, rfl⟩ := exists_taken_of_firstItem hfirst
    exact ⟨t :: front, by simp, rfl, by simp [Pays]⟩
  | @Turn.closed _ _ t u closing rest inner left head body hfirst hbody =>
    obtain ⟨front, rfl⟩ := exists_taken_of_firstItem hfirst
    obtain ⟨taken, rfl, hpays⟩ := Loop.exists_taken hbody
    refine ⟨t :: (front ++ (taken ++ [closing])), by simp, by simp, ?_⟩
    simp only [Pays, preorder_compound, preorder_nil, List.append_nil, List.length_cons,
      List.length_append] at hpays ⊢
    omega
  | @Turn.unclosed _ _ t u rest inner head body hfirst hbody =>
    obtain ⟨front, rfl⟩ := exists_taken_of_firstItem hfirst
    obtain ⟨taken, rfl, hpays⟩ := Loop.exists_taken hbody
    refine ⟨t :: (front ++ taken), by simp, by simp, ?_⟩
    simp only [Pays, preorder_nil, List.length_nil, List.length_cons, List.length_append]
      at hpays ⊢
    omega

/-- A loop takes as many tokens as it adds statements and reports, or more. -/
theorem Loop.exists_taken {all tokens left : List Token} {nested : Bool}
    {outcome : Outcome ParseError (List Statement)} (h : Loop all nested tokens outcome left) :
    ∃ taken, tokens = taken ++ left ∧ Pays taken outcome := by
  match h with
  | .stop _ => exact ⟨[], rfl, by simp [Pays]⟩
  | .turn hturn hloop =>
    obtain ⟨taken, -, rfl, hpays⟩ := Turn.exists_taken hturn
    obtain ⟨takenLater, rfl, hpaysLater⟩ := Loop.exists_taken hloop
    refine ⟨taken ++ takenLater, by simp, ?_⟩
    simp only [Pays, preorder_append, List.length_append] at hpays hpaysLater ⊢
    omega

end

/-! ## Loops come to an end -/

section

variable {all tokens left : List Token} {nested : Bool}
  {outcome : Outcome ParseError (List Statement)}

/-- A loop leaves nothing, or a closing brace if it is in a body. -/
theorem Loop.stops (h : Loop all nested tokens outcome left) :
    ∀ t ∈ left.head?, nested = true ∧ t.symbol = .punct .rightBrace := by
  induction h using Loop.rec (motive_1 := fun _ _ _ _ _ => True) with
  | stop hstop => exact hstop
  | turn _ _ _ ih => exact ih
  | command | fault | closed | unclosed => trivial

/-- The loop at the top leaves nothing. -/
theorem Loop.left_eq_nil (h : Loop all false tokens outcome left) : left = [] := by
  cases left with
  | nil => rfl
  | cons t left =>
    obtain ⟨hnested, -⟩ := h.stops t rfl
    cases hnested

/-- Where no tokens are left, a loop has nothing to do. -/
theorem Loop.of_nil (h : Loop all nested [] outcome left) : left = [] ∧ outcome = ⟨[], []⟩ := by
  cases h with
  | stop => exact ⟨rfl, rfl⟩
  | turn hturn => cases hturn

end

/-- There is a turn from any token on, but for a closing brace in a body, if the loop over the body
comes to an end. -/
theorem exists_turn (all : List Token) {nested : Bool} {t : Token} {rest : List Token}
    (hstart : ¬ (nested = true ∧ t.symbol = .punct .rightBrace))
    (hbody : ∀ inner : List Token, inner.length ≤ rest.length →
      ∃ outcome left, Loop all true inner outcome left) :
    ∃ outcome left, Turn all nested (t :: rest) outcome left := by
  cases hfirst : firstItem nested t rest with
  | mk item left =>
    cases item with
    | command u c => exact ⟨_, _, .command hfirst⟩
    | fault e found => exact ⟨_, _, .fault hfirst⟩
    | closing => exact absurd (firstItem_closing hfirst) hstart
    | opening u head =>
      have hshorter := length_firstItem_le nested t rest
      rw [hfirst] at hshorter
      obtain ⟨body, behind, hloop⟩ := hbody left hshorter
      cases behind with
      | nil => exact ⟨_, _, .unclosed hfirst hloop⟩
      | cons closing behind => exact ⟨_, _, .closed hfirst hloop⟩

/-- From any tokens on, a loop comes to an end. -/
theorem exists_loop (all : List Token) (nested : Bool) (tokens : List Token) :
    ∃ outcome left, Loop all nested tokens outcome left := by
  induction hlength : tokens.length using Nat.strongRecOn generalizing nested tokens with
  | _ n ih =>
    subst hlength
    cases tokens with
    | nil => exact ⟨_, _, .stop (by simp)⟩
    | cons t rest =>
      by_cases hstop : nested = true ∧ t.symbol = .punct .rightBrace
      · exact ⟨_, _, .stop (by simpa using hstop)⟩
      · obtain ⟨first, between, hturn⟩ := exists_turn all hstop fun inner hinner =>
          ih inner.length (Nat.lt_succ_of_le hinner) true inner rfl
        obtain ⟨taken, hne, htokens, -⟩ := hturn.exists_taken
        have hshorter : between.length < (t :: rest).length := by
          have hpos := List.length_pos_iff.2 hne
          rw [htokens, List.length_append]
          omega
        obtain ⟨more, left, hloop⟩ := ih between.length hshorter nested between rfl
        exact ⟨_, _, .turn hturn hloop⟩

/-! ## Loops and items -/

/-- Whatever follows, the items nest to the statements, and their faults are the reports. -/
structure Whole (all : List Token) (found : List Item)
    (outcome : Outcome ParseError (List Statement)) : Prop where
  reports : found.filterMap (Item.report? all) = outcome.reports
  nest : ∀ n, nestOnto n found = { n with level := outcome.value ++ n.level }

/-- Where nothing follows, the items nest to the statements, and their faults are reported, and
after them the declarations that are not closed. -/
structure CutOff (all : List Token) (found : List Item) (unclosed : List (Token × Head))
    (outcome : Outcome ParseError (List Statement)) : Prop where
  reports : outcome.reports = found.filterMap (Item.report? all) ++
    unclosed.map fun (t, head) => t.report (.unclosed head.name)
  nest : nestOnto {} found = ⟨outcome.value, [], unclosed⟩

/-- The items are what is read before the tokens that are left: all of it, or up to the end of the
input. -/
def ReadAs (all : List Token) (found : List Item) (outcome : Outcome ParseError (List Statement))
    (left : List Token) : Prop :=
  Whole all found outcome ∨ left = [] ∧ ∃ unclosed, CutOff all found unclosed outcome

section

variable {all left : List Token} {found more : List Item} {unclosed : List (Token × Head)}
  {first outcome : Outcome ParseError (List Statement)} {t : Token} {head : Head}

theorem Whole.cutOff (h : Whole all found outcome) : CutOff all found [] outcome where
  reports := by rw [h.reports, List.map_nil, List.append_nil]
  nest := by rw [h.nest, List.append_nil]

theorem ReadAs.cutOff (h : ReadAs all found outcome []) :
    ∃ unclosed, CutOff all found unclosed outcome := by
  rcases h with hwhole | ⟨-, hcut⟩
  · exact ⟨[], hwhole.cutOff⟩
  · exact hcut

theorem ReadAs.whole (h : ReadAs all found outcome (t :: left)) : Whole all found outcome := by
  rcases h with hwhole | ⟨hnil, -⟩
  · exact hwhole
  · cases hnil

/-- What follows items is nested first. -/
theorem Whole.append (hfirst : Whole all found first) (hmore : ReadAs all more outcome left) :
    ReadAs all (found ++ more) ⟨first.value ++ outcome.value, first.reports ++ outcome.reports⟩
      left := by
  rcases hmore with hwhole | ⟨hleft, unclosed, hcut⟩
  · refine .inl ⟨?_, fun n => ?_⟩
    · rw [List.filterMap_append, hfirst.reports, hwhole.reports]
    · rw [nest_append, hwhole.nest, hfirst.nest, List.append_assoc]
  · refine .inr ⟨hleft, unclosed, ⟨?_, ?_⟩⟩
    · rw [List.filterMap_append, hfirst.reports, hcut.reports, List.append_assoc]
    · rw [nest_append, hcut.nest, hfirst.nest]

/-- A declaration that is closed. -/
theorem Whole.compound (h : Whole all found outcome) :
    Whole all (.opening t head :: (found ++ [.closing]))
      ⟨[.compound t head outcome.value], outcome.reports⟩ where
  reports := by
    show (found ++ [Item.closing]).filterMap (Item.report? all) = _
    rw [List.filterMap_append, h.reports]
    exact List.append_nil _
  nest := by
    intro n
    rw [nestOnto_cons, nest_append, h.nest]
    simp [nestOnto, Nesting.add]

/-- A declaration that is never closed. -/
theorem CutOff.opening (h : CutOff all found unclosed outcome) :
    CutOff all (.opening t head :: found) (unclosed ++ [(t, head)])
      ⟨[], outcome.reports ++ [t.report (.unclosed head.name)]⟩ where
  reports := by
    show _ = found.filterMap (Item.report? all) ++ _
    rw [h.reports, List.map_append, List.append_assoc]
    rfl
  nest := by
    rw [nestOnto_cons, h.nest]
    rfl

end

mutual

/-- A turn reads its tokens as items. -/
theorem Turn.exists_items {all tokens left : List Token} {nested : Bool}
    {outcome : Outcome ParseError (List Statement)} (h : Turn all nested tokens outcome left)
    (depth : Nat) (hdepth : nested = decide (0 < depth)) : ∃ found,
      items depth tokens = found ++ items depth left ∧ ReadAs all found outcome left := by
  match h with
  | @Turn.command _ _ t u rest left c hfirst =>
    exact ⟨[.command u c], items_cons (hdepth ▸ hfirst), .inl ⟨rfl, fun n => rfl⟩⟩
  | @Turn.fault _ _ t rest left e found hfirst =>
    exact ⟨[.fault e found], items_cons (hdepth ▸ hfirst), .inl ⟨rfl, fun n => rfl⟩⟩
  | @Turn.closed _ _ t u closing rest inner left head body hfirst hbody =>
    obtain ⟨found, hitems, hread⟩ := Loop.exists_items hbody (depth + 1) (by simp)
    have hclosing : closing.symbol = .punct .rightBrace := (hbody.stops closing rfl).2
    refine ⟨.opening u head :: (found ++ [.closing]), ?_, .inl hread.whole.compound⟩
    rw [items_cons (hdepth ▸ hfirst)]
    show _ :: items (depth + 1) inner = _
    rw [hitems, items_closing hclosing]
    simp
  | @Turn.unclosed _ _ t u rest inner head body hfirst hbody =>
    obtain ⟨found, hitems, hread⟩ := Loop.exists_items hbody (depth + 1) (by simp)
    obtain ⟨unclosed, hcut⟩ := hread.cutOff
    refine ⟨.opening u head :: found, ?_, .inr ⟨rfl, _, hcut.opening⟩⟩
    rw [items_cons (hdepth ▸ hfirst)]
    show _ :: items (depth + 1) inner = _
    rw [hitems, items, items, List.cons_append]

/-- A loop reads its tokens as items. -/
theorem Loop.exists_items {all tokens left : List Token} {nested : Bool}
    {outcome : Outcome ParseError (List Statement)} (h : Loop all nested tokens outcome left)
    (depth : Nat) (hdepth : nested = decide (0 < depth)) : ∃ found,
      items depth tokens = found ++ items depth left ∧ ReadAs all found outcome left := by
  match h with
  | .stop _ => exact ⟨[], rfl, .inl ⟨rfl, fun n => rfl⟩⟩
  | @Loop.turn _ _ tokens between left first more hturn hloop =>
    obtain ⟨found, hitems, hread⟩ := Turn.exists_items hturn depth hdepth
    obtain ⟨foundMore, hitemsMore, hreadMore⟩ := Loop.exists_items hloop depth hdepth
    rcases hread with hwhole | ⟨rfl, hcut⟩
    · refine ⟨found ++ foundMore, ?_, hwhole.append hreadMore⟩
      rw [hitems, hitemsMore, List.append_assoc]
    · obtain ⟨rfl, rfl⟩ := hloop.of_nil
      simp only [List.append_nil]
      exact ⟨found, hitems, .inr ⟨rfl, hcut⟩⟩

end

/-- The loop at the top comes to what is parsed. -/
theorem Loop.eq_parse {tokens left : List Token} {outcome : Outcome ParseError (List Statement)}
    (h : Loop tokens false tokens outcome left) : outcome = parse tokens := by
  obtain rfl := h.left_eq_nil
  obtain ⟨found, hitems, hread⟩ := h.exists_items 0 (by simp)
  rw [items, List.append_nil] at hitems
  obtain ⟨unclosed, hreports, hnest⟩ := hread.cutOff
  rw [parse, hitems, hnest, ← hreports]

/-! ## Progress -/

/-- Every turn of a loop takes tokens, and from any tokens on a loop comes to an end. The loop over
the whole input comes to what is parsed and to nothing else, and there are no more statements, at
any nesting, and diagnostics than tokens. -/
theorem parse_progress :
    (∀ all nested tokens outcome left, Turn all nested tokens outcome left →
      ∃ taken, taken ≠ [] ∧ tokens = taken ++ left) ∧
    (∀ all nested tokens, ∃ outcome left, Loop all nested tokens outcome left) ∧
    ∀ tokens, (∀ outcome left, Loop tokens false tokens outcome left ↔
        outcome = parse tokens ∧ left = []) ∧
      (preorder (parse tokens).value).length + (parse tokens).diagnostics.length ≤
        tokens.length := by
  refine ⟨fun all nested tokens outcome left h => ?_, exists_loop, fun tokens => ?_⟩
  · obtain ⟨taken, hne, htokens, -⟩ := h.exists_taken
    exact ⟨taken, hne, htokens⟩
  · obtain ⟨outcome, left, hloop⟩ := exists_loop tokens false tokens
    obtain rfl := hloop.left_eq_nil
    obtain rfl := hloop.eq_parse
    refine ⟨fun outcome left => ⟨fun h => ⟨h.eq_parse, h.left_eq_nil⟩, ?_⟩, ?_⟩
    · rintro ⟨rfl, rfl⟩
      exact hloop
    · obtain ⟨taken, htokens, hpays⟩ := hloop.exists_taken
      rw [List.append_nil] at htokens
      rw [Outcome.diagnostics, List.length_map]
      exact htokens ▸ hpays

/-- The only turn of the loop at the top is at a slide that is never closed. The loop over its body
has two turns, at a stray semicolon and at a text. -/
theorem parse_progress_unclosed :
    let token (symbol : Symbol) (n : Nat) : Token := ⟨symbol, ⟨1, 'a', ⟨n, n + 1⟩⟩⟩
    let slide := token (.keyword .slideKw) 0
    let stray := token (.punct .semicolon) 3
    let text := token (.text "x") 4
    let tokens := [slide, token (.identifier "a") 1, token (.punct .leftBrace) 2, stray, text]
    let outcome : Outcome ParseError (List Statement) :=
      ⟨[], [stray.report (.unexpected (.punct .semicolon)), slide.report (.unclosed "a")]⟩
    Turn tokens false tokens outcome [] ∧ (∃ taken, taken ≠ [] ∧ tokens = taken ++ []) ∧
      outcome = parse tokens ∧
      (preorder (parse tokens).value).length + (parse tokens).diagnostics.length ≤ 5 := by
  intro token slide stray text tokens outcome
  have hopens : firstItem false slide tokens.tail = (.opening slide (.slide "a" none),
      [stray, text]) := by decide
  have hstray : firstItem true stray [text] =
      (.fault (.unexpected (.punct .semicolon)) (some stray), [text]) := by decide
  have htext : firstItem true text [] = (.command text (.text "x"), []) := by decide
  have hbody : Loop tokens true [stray, text] ⟨[.command text (.text "x")],
      [stray.report (.unexpected (.punct .semicolon))]⟩ [] :=
    .turn (.fault hstray) (.turn (.command htext) (.stop (by simp)))
  have hturn : Turn tokens false tokens outcome [] := .unclosed hopens hbody
  have hloop : Loop tokens false tokens outcome [] := .turn hturn (.stop (by simp))
  obtain ⟨hparse, hcount⟩ := parse_progress.2.2 tokens
  exact ⟨hturn, parse_progress.1 _ _ _ _ _ hturn, ((hparse _ _).1 hloop).1, hcount⟩

end SlideDeck
