import SlideDeck.Statement.Parse
import SlideDeck.Proofs.Statement.Likeness

/-!
# Parsing sees symbols only

No reader asks where a token stands. Two lists of tokens with the same symbols are read the same
way, are split into the same items and nest to the same statements, but for the tokens that these
keep; and the same faults are found in both.

Results:
* `Reader.Corresponds`: two readers lead to related results on tokens of the same symbols; closed
  under `bind`.
* `Composed.unplaced`: no reader asks where the tokens stand.
* `corresponds_after?`, `alike_items`: what a token starts, and all items.
* `alike_parse`, `causes_parse`: what is parsed, and the faults.
-/

namespace SlideDeck

/-- The tokens stand for the same, at any places. -/
def Token.SameSymbol (t u : Token) : Prop := t.symbol = u.symbol

/-- The lists are of the same symbols. -/
abbrev SameSymbols : List Token → List Token → Prop := List.Forall₂ Token.SameSymbol

theorem sameSymbols_iff {tokens tokens' : List Token} :
    SameSymbols tokens tokens' ↔ tokens.map Token.symbol = tokens'.map Token.symbol := by
  rw [← List.forall₂_eq_eq_eq, List.forall₂_map_left_iff, List.forall₂_map_right_iff]
  rfl

theorem Token.SameSymbol.kind {t u : Token} (h : t.SameSymbol u) : t.kind = u.kind :=
  congrArg Symbol.kind h

/-! ## Readers -/

namespace Reader

variable {α β : Type}

/-- Both succeed, with related results, or both fail for the same reason; and what they leave is of
the same symbols. -/
inductive SameResult (R : α → α → Prop) : EStateM.Result ParseError (List Token) α →
    EStateM.Result ParseError (List Token) α → Prop
  | ok {a b : α} {rest rest' : List Token} : R a b → SameSymbols rest rest' →
      SameResult R (.ok a rest) (.ok b rest')
  | error {e : ParseError} {rest rest' : List Token} : SameSymbols rest rest' →
      SameResult R (.error e rest) (.error e rest')

/-- The readers come to the same on tokens of the same symbols. -/
def Corresponds (R : α → α → Prop) (r r' : Reader α) : Prop :=
  ∀ tokens tokens', SameSymbols tokens tokens' → SameResult R (r tokens) (r' tokens')

/-- The reader does not ask where the tokens stand. -/
abbrev Unplaced (r : Reader α) : Prop := Corresponds Eq r r

theorem corresponds_pure {R : α → α → Prop} {a b : α} (h : R a b) :
    Corresponds R (pure a) (pure b) :=
  fun _ _ htokens => .ok h htokens

theorem corresponds_bind {R : β → β → Prop} {r : Reader α} {f f' : α → Reader β}
    (hr : Unplaced r) (hf : ∀ a, Corresponds R (f a) (f' a)) :
    Corresponds R (r >>= f) (r >>= f') := by
  intro tokens tokens' htokens
  have hfirst := hr tokens tokens' htokens
  change SameResult R (EStateM.bind r f tokens) (EStateM.bind r f' tokens')
  unfold EStateM.bind
  generalize r tokens = first, r tokens' = first' at hfirst
  cases hfirst with
  | ok heq hrest =>
    cases heq
    exact hf _ _ _ hrest
  | error hrest => exact .error hrest

theorem unplaced_pure (a : α) : Unplaced (pure a) := corresponds_pure rfl

theorem unplaced_next (says? : Symbol → Option α) (error : SymbolKind → ParseError) :
    Unplaced (next says? error) := by
  intro tokens tokens' htokens
  cases htokens with
  | nil => exact .error .nil
  | @cons t u rest rest' ht hrest =>
    simp only [next, ht.kind, show t.symbol = u.symbol from ht]
    split
    · exact .ok rfl hrest
    · exact .error (.cons ht hrest)

theorem unplaced_accept (p : Punct) : Unplaced (accept p) := by
  intro tokens tokens' htokens
  cases htokens with
  | nil => exact .ok rfl .nil
  | @cons t u rest rest' ht hrest =>
    simp only [accept, show t.symbol = u.symbol from ht]
    split
    · exact .ok rfl hrest
    · exact .ok rfl (.cons ht hrest)

theorem unplaced_acceptInteger : Unplaced acceptInteger := by
  intro tokens tokens' htokens
  cases htokens with
  | nil => exact .ok rfl .nil
  | @cons t u rest rest' ht hrest =>
    simp only [acceptInteger, show t.symbol = u.symbol from ht]
    split
    · exact .ok rfl hrest
    · exact .ok rfl (.cons ht hrest)

theorem Composed.unplaced {r : Reader α} (h : Composed r) : Unplaced r := by
  induction h with
  | pure a => exact unplaced_pure a
  | next says? => exact unplaced_next says? _
  | accept p => exact unplaced_accept p
  | acceptInteger => exact unplaced_acceptInteger
  | bind _ _ ihr ihf => exact corresponds_bind ihr ihf

end Reader

/-! ## Items -/

namespace Item

open Reader

/-- The items are the same but for the tokens that they keep, which stand for the same. -/
inductive Alike : Item → Item → Prop
  | command {t u : Token} {c : Command} : t.SameSymbol u → Alike (.command t c) (.command u c)
  | opening {t u : Token} {head : Head} : t.SameSymbol u → Alike (.opening t head) (.opening u head)
  | closing : Alike .closing .closing
  | fault {e : ParseError} {found found' : Option Token} : Alike (.fault e found) (.fault e found')

theorem Alike.depthAfter {i j : Item} (h : i.Alike j) (depth : Nat) :
    i.depthAfter depth = j.depthAfter depth := by
  cases h <;> rfl

/-- What a token starts does not depend on where it stands. -/
theorem corresponds_after? {t u : Token} (h : t.SameSymbol u) :
    Option.Rel (Corresponds Alike) (after? t) (after? u) := by
  have hcommand (c : Command) : Corresponds Alike (pure (.command t c)) (pure (.command u c)) :=
    corresponds_pure (.command h)
  have hopening (head : Head) :
      Corresponds Alike (pure (.opening t head)) (pure (.opening u head)) :=
    corresponds_pure (.opening h)
  have hmark (p : Punct) : Unplaced (mark p) := (composed_mark p).unplaced
  have hname : Unplaced Reader.name := composed_name.unplaced
  have hparent : Unplaced parent? := composed_parent?.unplaced
  have harguments : Unplaced noArguments := composed_noArguments.unplaced
  have hassigned : Unplaced assigned := composed_assigned.unplaced
  simp only [after?, show t.symbol = u.symbol from h]
  split
  · exact .some (hcommand _)
  · exact .some (corresponds_bind hname fun _ => corresponds_bind hparent fun _ =>
      corresponds_bind (hmark _) fun _ => hopening _)
  · exact .some (corresponds_bind hname fun _ => corresponds_bind hparent fun _ =>
      corresponds_bind (hmark _) fun _ => hopening _)
  · exact .some (corresponds_bind hname fun _ => corresponds_bind harguments fun _ =>
      corresponds_bind (hmark _) fun _ => hopening _)
  · exact .some (corresponds_bind hname fun _ => corresponds_bind harguments fun _ =>
      corresponds_bind (hmark _) fun _ => hcommand _)
  · exact .some (corresponds_bind hname fun _ => corresponds_bind hassigned fun _ => hcommand _)
  · exact .some (corresponds_bind hname fun _ => corresponds_bind hassigned fun _ => hcommand _)
  · exact .some (corresponds_bind (hmark _) fun _ => corresponds_bind hname fun _ =>
      corresponds_bind hassigned fun _ => hcommand _)
  · exact .some (corresponds_bind hassigned fun _ => hcommand _)
  · exact .none

end Item

theorem sameSymbols_resume {tokens tokens' : List Token} (h : SameSymbols tokens tokens') :
    SameSymbols (resume tokens) (resume tokens') := by
  refine List.forall₂_drop 1 ?_
  induction h with
  | nil => exact .nil
  | @cons t u rest rest' ht hrest ih =>
    simp only [List.dropWhile_cons, show t.symbol = u.symbol from ht]
    split
    · exact ih
    · exact .cons ht hrest

theorem alike_firstItem (nested : Bool) {t u : Token} {rest rest' : List Token}
    (ht : t.SameSymbol u) (hrest : SameSymbols rest rest') :
    (firstItem nested t rest).1.Alike (firstItem nested u rest').1 ∧
      SameSymbols (firstItem nested t rest).2 (firstItem nested u rest').2 := by
  have hafter := Item.corresponds_after? ht
  simp only [firstItem, ht.kind, show t.symbol = u.symbol from ht]
  split
  · exact ⟨.closing, hrest⟩
  generalize Item.after? t = reader?, Item.after? u = reader?' at hafter
  cases hafter with
  | none => exact ⟨.fault, sameSymbols_resume (.cons ht hrest)⟩
  | @some reader reader' hreader =>
    have hresult := hreader rest rest' hrest
    simp only
    generalize reader rest = result, reader' rest' = result' at hresult
    cases hresult with
    | ok hitem hleft => exact ⟨hitem, hleft⟩
    | error hleft => exact ⟨.fault, sameSymbols_resume hleft⟩

/-- Tokens of the same symbols are split into the same items. -/
theorem alike_items (depth : Nat) {tokens tokens' : List Token} (h : SameSymbols tokens tokens') :
    List.Forall₂ Item.Alike (items depth tokens) (items depth tokens') := by
  fun_induction items depth tokens generalizing tokens'
  case case1 depth =>
    cases h
    rw [items]
    exact .nil
  case case2 depth t rest first ih =>
    obtain _ | ⟨ht, hrest⟩ := h
    obtain ⟨hfirst, hleft⟩ := alike_firstItem (0 < depth) ht hrest
    rw [items]
    refine .cons hfirst ?_
    rw [← hfirst.depthAfter depth]
    exact ih hleft

/-! ## Statements -/

/-- What is nested is the same but for the tokens that are kept. -/
structure Nesting.Alike (n n' : Nesting) : Prop where
  level : List.Forall₂ (Statement.Alike Token.SameSymbol) n.level n'.level
  outer : List.Forall₂ (List.Forall₂ (Statement.Alike Token.SameSymbol)) n.outer n'.outer
  unclosed : List.Forall₂ (fun opened opened' => opened.2 = opened'.2) n.unclosed n'.unclosed

theorem Nesting.Alike.add {i j : Item} (hitem : i.Alike j) {n n' : Nesting} (h : n.Alike n') :
    (Nesting.add i n).Alike (Nesting.add j n') := by
  cases hitem with
  | command ht => exact { h with level := .cons (.command ht) h.level }
  | closing => exact { h with level := .nil, outer := .cons h.level h.outer }
  | fault => exact h
  | opening ht =>
    obtain ⟨level, outer, unclosed⟩ := n
    obtain ⟨level', outer', unclosed'⟩ := n'
    obtain ⟨hlevel, houter, hunclosed⟩ := h
    cases houter with
    | nil => exact ⟨.nil, .nil, List.rel_append hunclosed (.cons rfl .nil)⟩
    | cons hafter houter => exact ⟨.cons (.compound ht hlevel) hafter, houter, hunclosed⟩

theorem alike_nestOnto {items items' : List Item} (hitems : List.Forall₂ Item.Alike items items')
    {n n' : Nesting} (h : n.Alike n') : (nestOnto n items).Alike (nestOnto n' items') := by
  induction hitems with
  | nil => exact h
  | cons hitem _ ih => exact Nesting.Alike.add hitem ih

section

variable {tokens tokens' : List Token}

theorem alike_nesting (h : SameSymbols tokens tokens') :
    (nestOnto {} (items 0 tokens)).Alike (nestOnto {} (items 0 tokens')) :=
  alike_nestOnto (alike_items 0 h) ⟨.nil, .nil, .nil⟩

/-- Tokens of the same symbols spell the same statements, but for the tokens that are kept. -/
theorem alike_parse (h : SameSymbols tokens tokens') :
    List.Forall₂ (Statement.Alike Token.SameSymbol) (parse tokens).value (parse tokens').value :=
  (alike_nesting h).level

theorem Item.Alike.report? {i j : Item} (h : i.Alike j) :
    Option.Rel (fun r r' : Report ParseError => r.cause = r'.cause) (i.report? tokens)
      (j.report? tokens') := by
  cases h with
  | command | opening | closing => exact .none
  | fault => exact .some rfl

/-- The same faults are found in tokens of the same symbols. -/
theorem causes_parse (h : SameSymbols tokens tokens') :
    (parse tokens).reports.map Report.cause = (parse tokens').reports.map Report.cause := by
  rw [← List.forall₂_eq_eq_eq, List.forall₂_map_left_iff, List.forall₂_map_right_iff]
  refine List.rel_append (List.rel_filterMap (fun _ _ hitem => hitem.report?) (alike_items 0 h)) ?_
  exact List.rel_map (fun _ _ hopened => congrArg (ParseError.unclosed ·.name) hopened)
    (alike_nesting h).unclosed

end

end SlideDeck
