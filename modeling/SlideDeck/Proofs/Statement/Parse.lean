import SlideDeck.Proofs.Statement.Grammar
import SlideDeck.Statement.Parse

/-!
# What is parsed

The grammar derives statements from tokens: commands, and declarations whose body stands between
braces. The tokens are parsed without a fault exactly where the grammar derives statements from
them, and they are parsed as those.

Results:
* `Derives`: which statements the grammar derives from tokens.
* `Derives.exists_items`: derived statements are read as items that nest to them.
* `derivesTail_of_items`: items without a fault nest to statements that are derived.
* `Derives.parse_eq`, `derives_of_parse`: derived statements are parsed, and parsed ones derived.
* `parse_eq_ok_iff`: parsing succeeds exactly with the statements that are derived.
-/

namespace SlideDeck

/-- The tokens spell the statements, one after the other. Each statement keeps its first token. -/
inductive Derives : List Token → List Statement → Prop
  | nil : Derives [] []
  | command {t : Token} {tokens rest : List Token} {c : Command} {after : List Statement} :
      CommandRule (t.symbol :: tokens.map Token.symbol) c → Derives rest after →
      Derives (t :: (tokens ++ rest)) (.command t c :: after)
  | compound {t opening closing : Token} {tokens inner rest : List Token} {head : Head}
      {body after : List Statement} :
      HeadRule (t.symbol :: tokens.map Token.symbol) head →
      opening.symbol = .punct .leftBrace → Derives inner body →
      closing.symbol = .punct .rightBrace → Derives rest after →
      Derives (t :: (tokens ++ opening :: (inner ++ closing :: rest)))
        (.compound t head body :: after)

/-! ## The first item -/

theorem ItemRule.symbol_ne {t : Token} {symbols : List Symbol} {item : Item}
    (h : ItemRule t symbols item) : t.symbol ≠ .punct .rightBrace := by
  intro ht
  rcases h with ⟨hrule⟩ | ⟨hrule⟩ <;> rw [ht] at hrule <;> cases hrule

/-- The item that tokens spell is a command, or the head of a declaration up to its opening brace.
-/
theorem ItemRule.of_map {t : Token} {tokens : List Token} {item : Item}
    (h : ItemRule t (tokens.map Token.symbol) item) :
    (∃ c, item = .command t c ∧ CommandRule (t.symbol :: tokens.map Token.symbol) c) ∨
      ∃ front opening head, tokens = front ++ [opening] ∧ item = .opening t head ∧
        HeadRule (t.symbol :: front.map Token.symbol) head ∧
        opening.symbol = .punct .leftBrace := by
  generalize hsymbols : tokens.map Token.symbol = symbols at h
  rcases h with ⟨hrule⟩ | ⟨hrule⟩
  · exact .inl ⟨_, rfl, hrule⟩
  · obtain ⟨front, last, rfl, rfl, hlast⟩ := List.map_eq_append_iff.1 hsymbols
    obtain ⟨opening, rfl, hopen⟩ := List.map_eq_singleton_iff.1 hlast
    exact .inr ⟨front, opening, _, rfl, rfl, hrule, hopen⟩

theorem firstItem_of_itemRule {t : Token} {front : List Token} {item : Item}
    (h : ItemRule t (front.map Token.symbol) item) (nested : Bool) (left : List Token) :
    firstItem nested t (front ++ left) = (item, left) := by
  obtain ⟨reader, hreader⟩ := exists_after? h
  have hok : reader (front ++ left) = .ok item left :=
    (obeys_after? hreader _ _ _).2 ⟨front, rfl, h⟩
  rw [firstItem, if_neg fun hclosing => h.symbol_ne hclosing.2]
  simp only [hreader, hok]

/-- An item that is no fault is a closing brace of a declaration, or as the grammar has it. -/
theorem firstItem_cases {nested : Bool} {t : Token} {rest left : List Token} {item : Item}
    (h : firstItem nested t rest = (item, left)) (hfault : ∀ e found, item ≠ .fault e found) :
    (nested = true ∧ t.symbol = .punct .rightBrace ∧ item = .closing ∧ left = rest) ∨
      ∃ front, rest = front ++ left ∧ ItemRule t (front.map Token.symbol) item := by
  unfold firstItem at h
  split at h
  · rename_i hclosing
    cases h
    exact .inl ⟨hclosing.1, hclosing.2, rfl, rfl⟩
  · split at h
    · cases h
      exact absurd rfl (hfault _ _)
    · rename_i reader hreader
      split at h
      · rename_i hok
        cases h
        exact .inr ((obeys_after? hreader _ _ _).1 hok)
      · cases h
        exact absurd rfl (hfault _ _)

/-- A closing brace is an item only where a declaration is open. -/
theorem firstItem_closing {nested : Bool} {t : Token} {rest left : List Token}
    (h : firstItem nested t rest = (.closing, left)) :
    nested = true ∧ t.symbol = .punct .rightBrace := by
  have hfault : ∀ e found, Item.closing ≠ .fault e found := by simp
  rcases firstItem_cases h hfault with ⟨hnested, ht, -⟩ | ⟨front, -, hitem⟩
  · exact ⟨hnested, ht⟩
  · obtain ⟨c, hc, -⟩ | ⟨_, _, _, -, hc, -⟩ := hitem.of_map <;> cases hc

theorem items_of_itemRule {t : Token} {front : List Token} {item : Item}
    (h : ItemRule t (front.map Token.symbol) item) (depth : Nat) (left : List Token) :
    items depth (t :: (front ++ left)) = item :: items (item.depthAfter depth) left :=
  items_cons (firstItem_of_itemRule h (0 < depth) left)

/-- The head of a declaration opens its body. -/
theorem items_of_headRule {t opening : Token} {front : List Token} {head : Head}
    (h : HeadRule (t.symbol :: front.map Token.symbol) head)
    (hopen : opening.symbol = .punct .leftBrace) (depth : Nat) (left : List Token) :
    items depth (t :: (front ++ opening :: left)) =
      .opening t head :: items (depth + 1) left := by
  have hitem : ItemRule t ((front ++ [opening]).map Token.symbol) (.opening t head) := by
    rw [List.map_append, List.map_singleton, hopen]
    exact .opening h
  have hitems := items_of_itemRule hitem depth left
  rwa [List.append_assoc] at hitems

theorem items_closing {t : Token} (ht : t.symbol = .punct .rightBrace) (depth : Nat)
    (rest : List Token) : items (depth + 1) (t :: rest) = .closing :: items depth rest := by
  simp [items, firstItem, ht, Item.depthAfter]

/-! ## Derived statements are parsed -/

theorem nestOnto_cons (n : Nesting) (item : Item) (items : List Item) :
    nestOnto n (item :: items) = (nestOnto n items).add item := rfl

/-- Derived statements are read as items without a fault, whatever follows, and the items nest to
the statements. -/
theorem Derives.exists_items {tokens : List Token} {statements : List Statement}
    (h : Derives tokens statements) : ∃ found : List Item,
      (∀ depth rest, items depth (tokens ++ rest) = found ++ items depth rest) ∧
      (∀ e at?, Item.fault e at? ∉ found) ∧
      ∀ n, nestOnto n found = { n with level := statements ++ n.level } := by
  induction h with
  | nil => exact ⟨[], fun _ _ => rfl, by simp, fun _ => rfl⟩
  | @command t tokens rest c after hrule _ ih =>
    obtain ⟨found, hitems, hfault, hnest⟩ := ih
    refine ⟨.command t c :: found, fun depth left => ?_, by simpa using hfault, fun n => ?_⟩
    · rw [List.cons_append, List.append_assoc, items_of_itemRule (.command hrule)]
      show Item.command t c :: items depth (rest ++ left) = _
      rw [hitems, List.cons_append]
    · rw [nestOnto_cons, hnest]
      rfl
  | @compound t opening closing tokens inner rest head body after hrule hopen _ hclose _ ihb iha =>
    obtain ⟨foundb, hitemsb, hfaultb, hnestb⟩ := ihb
    obtain ⟨founda, hitemsa, hfaulta, hnesta⟩ := iha
    refine ⟨.opening t head :: (foundb ++ .closing :: founda), fun depth left => ?_, ?_,
      fun n => ?_⟩
    · have hsplit : t :: (tokens ++ opening :: (inner ++ closing :: rest)) ++ left =
          t :: (tokens ++ opening :: (inner ++ closing :: (rest ++ left))) := by simp
      rw [hsplit, items_of_headRule hrule hopen, hitemsb, items_closing hclose, hitemsa]
      simp
    · simpa using fun e at? => ⟨hfaultb e at?, hfaulta e at?⟩
    · rw [nestOnto_cons, nest_append, nestOnto_cons, hnesta, hnestb]
      simp [Nesting.add]

/-! ## Parsed statements are derived -/

/-- The tokens spell statements, and then for each declaration that is open, from the innermost on,
its closing brace and the statements after it. -/
inductive DerivesTail : List Token → List Statement → List (List Statement) → Prop
  | done {tokens : List Token} {level : List Statement} :
      Derives tokens level → DerivesTail tokens level []
  | close {inner rest : List Token} {closing : Token} {level after : List Statement}
      {outer : List (List Statement)} :
      Derives inner level → closing.symbol = .punct .rightBrace → DerivesTail rest after outer →
      DerivesTail (inner ++ closing :: rest) level (after :: outer)

/-- A statement that is derived in front of any statements is derived in front of those here. -/
theorem DerivesTail.cons {front tokens : List Token} {s : Statement} {level : List Statement}
    {outer : List (List Statement)}
    (hfront : ∀ rest after, Derives rest after → Derives (front ++ rest) (s :: after))
    (h : DerivesTail tokens level outer) : DerivesTail (front ++ tokens) (s :: level) outer := by
  cases h with
  | done hlevel => exact .done (hfront _ _ hlevel)
  | close hlevel hclose htail =>
    rw [← List.append_assoc]
    exact .close (hfront _ _ hlevel) hclose htail

theorem DerivesTail.command {t : Token} {front tokens : List Token} {c : Command}
    {level : List Statement} {outer : List (List Statement)}
    (hrule : CommandRule (t.symbol :: front.map Token.symbol) c)
    (h : DerivesTail tokens level outer) :
    DerivesTail (t :: (front ++ tokens)) (.command t c :: level) outer :=
  have hfront : ∀ rest after, Derives rest after →
      Derives (t :: front ++ rest) (.command t c :: after) := fun _ _ hrest => .command hrule hrest
  h.cons hfront

/-- The head of a declaration makes the open body its own. -/
theorem DerivesTail.opening {t opening : Token} {front tokens : List Token} {head : Head}
    {level after : List Statement} {outer : List (List Statement)}
    (hrule : HeadRule (t.symbol :: front.map Token.symbol) head)
    (hopen : opening.symbol = .punct .leftBrace) (h : DerivesTail tokens level (after :: outer)) :
    DerivesTail (t :: (front ++ opening :: tokens)) (.compound t head level :: after) outer := by
  cases h with
  | @close inner rest closing _ _ _ hlevel hclose htail =>
    have hsplit : t :: (front ++ opening :: (inner ++ closing :: rest)) =
        (t :: (front ++ opening :: (inner ++ [closing]))) ++ rest := by simp
    rw [hsplit]
    refine htail.cons fun rest' after' hrest => ?_
    simpa using Derives.compound hrule hopen hlevel hclose hrest

theorem Nesting.unclosed_of_add {item : Item} {n : Nesting} (h : (n.add item).unclosed = []) :
    n.unclosed = [] := by
  unfold Nesting.add at h
  split at h
  · exact h
  · exact h
  · split at h
    · exact h
    · simp at h
  · exact h

/-- One more item in front. The braces that close a declaration to come are no more than the
declarations that are open. -/
theorem DerivesTail.add {depth : Nat} {t : Token} {rest left : List Token} {item : Item}
    {n : Nesting} (hfirst : firstItem (0 < depth) t rest = (item, left))
    (hfault : ∀ e found, item ≠ .fault e found) (h : DerivesTail left n.level n.outer)
    (hdepth : n.outer.length ≤ item.depthAfter depth) (hunclosed : (n.add item).unclosed = []) :
    DerivesTail (t :: rest) (n.add item).level (n.add item).outer ∧
      (n.add item).outer.length ≤ depth := by
  rcases firstItem_cases hfirst hfault with ⟨hnested, ht, rfl, rfl⟩ | ⟨front, rfl, hitem⟩
  · refine ⟨.close .nil ht h, ?_⟩
    have hpos : 0 < depth := by simpa using hnested
    show n.outer.length + 1 ≤ depth
    have : n.outer.length ≤ depth - 1 := hdepth
    omega
  · rcases hitem.of_map with ⟨c, rfl, hrule⟩ | ⟨front, opening, head, rfl, rfl, hrule, hopen⟩
    · exact ⟨h.command hrule, hdepth⟩
    · have hdepth : n.outer.length ≤ depth + 1 := hdepth
      rw [List.append_assoc, List.singleton_append]
      rcases n with ⟨level, _ | ⟨after, outer⟩, unclosed⟩
      · simp [Nesting.add] at hunclosed
      · exact ⟨h.opening hrule hopen, Nat.le_of_succ_le_succ hdepth⟩

theorem derivesTail_of_items {depth : Nat} {tokens : List Token} {n : Nesting}
    (hfault : ∀ e at?, Item.fault e at? ∉ items depth tokens)
    (hn : nestOnto {} (items depth tokens) = n) (hunclosed : n.unclosed = []) :
    DerivesTail tokens n.level n.outer ∧ n.outer.length ≤ depth := by
  fun_induction items depth tokens generalizing n
  case case1 depth =>
    subst hn
    exact ⟨.done .nil, Nat.zero_le _⟩
  case case2 depth t rest first ih =>
    subst hn
    rw [nestOnto_cons] at hunclosed ⊢
    have hleft := ih (fun e at? hmem => hfault e at? (.tail _ hmem)) rfl
      (Nesting.unclosed_of_add hunclosed)
    refine hleft.1.add rfl (fun e found heq => ?_) hleft.2 hunclosed
    exact hfault e found (heq ▸ .head _)

/-! ## Parsing -/

theorem parse_reports_eq_nil_iff {tokens : List Token} : (parse tokens).reports = [] ↔
    (∀ e at?, Item.fault e at? ∉ items 0 tokens) ∧
      (nestOnto {} (items 0 tokens)).unclosed = [] := by
  rw [parse, List.append_eq_nil_iff, List.map_eq_nil_iff, List.filterMap_eq_nil_iff]
  refine and_congr_left fun _ => ⟨fun h e at? hmem => ?_, fun h item hmem => ?_⟩
  · cases h _ hmem
  · cases item with
    | fault e at? => exact absurd hmem (h e at?)
    | _ => rfl

/-- Tokens that spell statements are parsed as those, and nothing is reported. -/
theorem Derives.parse_eq {tokens : List Token} {statements : List Statement}
    (h : Derives tokens statements) : parse tokens = ⟨statements, []⟩ := by
  obtain ⟨found, hitems, hfault, hnest⟩ := h.exists_items
  have hall : items 0 tokens = found := by simpa [items] using hitems 0 []
  have hnested : nestOnto {} found = ⟨statements, [], []⟩ := by simpa using hnest {}
  have hreports : (parse tokens).reports = [] := by
    rw [parse_reports_eq_nil_iff, hall, hnested]
    exact ⟨hfault, rfl⟩
  have hvalue : (parse tokens).value = statements := by
    rw [parse, hall, hnested]
  rw [← hreports, ← hvalue]

/-- Where nothing is reported, the tokens spell the statements that they are parsed as. -/
theorem derives_of_parse {tokens : List Token} (h : (parse tokens).reports = []) :
    Derives tokens (parse tokens).value := by
  obtain ⟨hfault, hunclosed⟩ := parse_reports_eq_nil_iff.1 h
  obtain ⟨htail, hdepth⟩ := derivesTail_of_items hfault rfl hunclosed
  rw [List.eq_nil_of_length_eq_zero (Nat.le_zero.1 hdepth)] at htail
  cases htail with
  | done h => exact h

/-- The tokens are parsed as statements without a fault exactly if they spell those statements. -/
theorem parse_eq_ok_iff (tokens : List Token) (statements : List Statement) :
    (parse tokens).result = .ok statements ↔ Derives tokens statements := by
  rw [Outcome.result_eq_ok_iff, Outcome.isOk_iff, parse_reports_eq_nil_iff]
  constructor
  · rintro ⟨⟨hfault, hunclosed⟩, rfl⟩
    obtain ⟨htail, hdepth⟩ := derivesTail_of_items hfault rfl hunclosed
    rw [List.eq_nil_of_length_eq_zero (Nat.le_zero.1 hdepth)] at htail
    cases htail with
    | done h => exact h
  · intro h
    obtain ⟨found, hitems, hfault, hnest⟩ := h.exists_items
    have hall : items 0 tokens = found := by simpa [items] using hitems 0 []
    rw [parse, hall, hnest]
    exact ⟨⟨hfault, rfl⟩, List.append_nil _⟩

end SlideDeck
