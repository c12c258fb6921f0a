import Mathlib.Data.List.Forall2
import SlideDeck.Proofs.Statement.Parse
import SlideDeck.Proofs.Statement.Preorder

/-!
# What statements are read from

Tokens with faults are parsed as the statements around the faults. Each of these is written in the
input as it stands there: its first token and those right behind it spell it, a declaration up to
its opening brace, before the first token of the next statement comes. So no token is used twice,
and no statement is put together from parts of others.

Results:
* `ItemRule.introduced`, `ItemRule.payloads_sublist`: what the grammar has a statement start with,
  and which of its symbols say its names and its value.
* `parts_of_items`: the tokens of items fall into parts, one for each statement that they nest to.
* `statements_written`: the input falls into parts, one for each statement that it is parsed as.
-/

namespace SlideDeck

/-! ## What a statement is written with -/

/-- The symbol that introduces the command. -/
def Command.introducer : Command → Symbol
  | .text content => .text content
  | .call _ => .punct .dollarSign
  | .declare _ isMutable _ => .keyword (if isMutable then .mutKw else .letKw)
  | .assign name _ => .identifier name
  | .setAttribute _ _ => .keyword .selfKw

/-- The symbol that introduces the declaration. -/
def Head.introducer : Head → Symbol
  | .slide _ _ => .keyword .slideKw
  | .block _ _ => .keyword .blockKw
  | .macroDef _ => .keyword .macroKw

/-- The symbols that say the value. A color that is opaque need not say so. -/
def Value.payloads : Value → List Symbol
  | .string content => [.string content]
  | .integer n => [.integer n]
  | .reference name => [.identifier name]
  | .color c => [.integer c.r, .integer c.g, .integer c.b] ++
      if c.a = 255 then [] else [.integer c.a]

/-- The symbols behind the first one that say the name and the value. -/
def Command.payloads : Command → List Symbol
  | .text _ => []
  | .call name => [.identifier name]
  | .declare name _ value | .setAttribute name value => .identifier name :: value.payloads
  | .assign _ value => value.payloads

/-- The symbols behind the first one that say the name and the parent. -/
def Head.payloads : Head → List Symbol
  | .slide name parent | .block name parent => .identifier name :: parent.toList.map .identifier
  | .macroDef name => [.identifier name]

namespace Statement

def introducer : Statement → Symbol
  | command _ c => c.introducer
  | compound _ head _ => head.introducer

def payloads : Statement → List Symbol
  | command _ c => c.payloads
  | compound _ head _ => head.payloads

/-- The item that the statement starts with. -/
def item : Statement → Item
  | command t c => .command t c
  | compound t head _ => .opening t head

/-- The tokens start with those of the statement, up to its body if it has one. -/
def Starts (s : Statement) (part : List Token) : Prop := ∃ written passed,
  part = s.token :: (written ++ passed) ∧ ItemRule s.token (written.map Token.symbol) s.item

end Statement

/-! ## Names and values in the grammar -/

theorem ValueRule.payloads_sublist {symbols : List Symbol} {v : Value} (h : ValueRule symbols v) :
    v.payloads.Sublist symbols := by
  cases h with
  | string | integer | reference => exact List.Sublist.refl _
  | color r g b alpha comma =>
    have hchannels : [Symbol.integer r, .integer g, .integer b].Sublist
        [.punct .leftParen, .integer r, .punct .comma, .integer g, .punct .comma, .integer b] :=
      .cons _ <| .cons_cons _ <| .cons _ <| .cons_cons _ <| .cons _ <| .cons_cons _ .slnil
    have halpha : (if alpha.getD 255 = 255 then [] else [Symbol.integer (alpha.getD 255)]).Sublist
        (alphaSymbols alpha comma) := by
      split
      · exact List.nil_sublist _
      · cases alpha with
        | none => contradiction
        | some a => exact List.singleton_sublist.2 (by simp [alphaSymbols])
    exact (hchannels.append halpha).trans (List.sublist_append_left _ _)

theorem AssignedRule.payloads_sublist {symbols : List Symbol} {v : Value}
    (h : AssignedRule symbols v) : v.payloads.Sublist symbols := by
  obtain ⟨hvalue⟩ := h
  exact (hvalue.payloads_sublist.trans (List.sublist_append_left _ _)).cons _

theorem CommandRule.introduced {s : Symbol} {symbols : List Symbol} {c : Command}
    (h : CommandRule (s :: symbols) c) : s = c.introducer := by
  cases h <;> rfl

theorem CommandRule.payloads_sublist {s : Symbol} {symbols : List Symbol} {c : Command}
    (h : CommandRule (s :: symbols) c) : c.payloads.Sublist symbols := by
  cases h with
  | text => exact List.nil_sublist _
  | call => exact List.sublist_append_left [_] _
  | declareLet name hvalue | declareMut name hvalue =>
    exact hvalue.payloads_sublist.cons_cons _
  | setAttribute name hvalue => exact (hvalue.payloads_sublist.cons_cons _).cons _
  | assign name hvalue => exact hvalue.payloads_sublist

theorem HeadRule.introduced {s : Symbol} {symbols : List Symbol} {head : Head}
    (h : HeadRule (s :: symbols) head) : s = head.introducer := by
  cases h <;> rfl

theorem HeadRule.payloads_sublist {s : Symbol} {symbols : List Symbol} {head : Head}
    (h : HeadRule (s :: symbols) head) : head.payloads.Sublist symbols := by
  have hparent (parent : Option String) :
      (parent.toList.map Symbol.identifier).Sublist (parentSymbols parent) := by
    cases parent with
    | none => exact .slnil
    | some parent => exact .cons _ (List.Sublist.refl _)
  cases h with
  | slide name parent | block name parent => exact (hparent parent).cons_cons _
  | macroDef name => exact List.sublist_append_left [_] _

section

variable {s : Statement} {symbols : List Symbol}

/-- A statement is introduced by its own symbol. -/
theorem ItemRule.introduced (h : ItemRule s.token symbols s.item) :
    s.token.symbol = s.introducer := by
  cases s with
  | command t c =>
    cases h with
    | command hrule => exact hrule.introduced
  | compound t head body =>
    cases h with
    | opening hrule => exact hrule.introduced

/-- The symbols behind that say its names and its value, in order. -/
theorem ItemRule.payloads_sublist (h : ItemRule s.token symbols s.item) :
    s.payloads.Sublist symbols := by
  cases s with
  | command t c =>
    cases h with
    | command hrule => exact hrule.payloads_sublist
  | compound t head body =>
    cases h with
    | opening hrule => exact hrule.payloads_sublist.trans (List.sublist_append_left _ _)

end

/-! ## Parts of the input -/

/-- Behind what may stand in front, the tokens fall into parts that start with the statements. -/
def FallsInto (tokens : List Token) (statements : List Statement) : Prop :=
  ∃ front parts, tokens = front ++ parts.flatten ∧
    List.Forall₂ Statement.Starts statements parts

namespace FallsInto

variable {tokens rest : List Token} {statements : List Statement}

theorem nil (tokens : List Token) : FallsInto tokens [] :=
  ⟨tokens, [], (List.append_nil tokens).symm, .nil⟩

/-- More tokens in front. -/
theorem of_suffix (h : FallsInto rest statements) (hrest : rest <:+ tokens) :
    FallsInto tokens statements := by
  obtain ⟨front, parts, rfl, hparts⟩ := h
  obtain ⟨before, rfl⟩ := hrest
  exact ⟨before ++ front, parts, (List.append_assoc _ _ _).symm, hparts⟩

/-- One more statement in front. -/
theorem cons {s : Statement} {written : List Token} (h : FallsInto rest statements)
    (hs : ItemRule s.token (written.map Token.symbol) s.item) :
    FallsInto (s.token :: (written ++ rest)) (s :: statements) := by
  obtain ⟨front, parts, rfl, hparts⟩ := h
  refine ⟨[], (s.token :: (written ++ front)) :: parts, ?_, .cons ⟨written, front, rfl, hs⟩ hparts⟩
  simp

end FallsInto

/-- No more closing braces are left over than declarations were open. -/
theorem length_outer_le (depth : Nat) (tokens : List Token) :
    (nestOnto {} (items depth tokens)).outer.length ≤ depth := by
  fun_induction items depth tokens
  case case1 depth => exact Nat.zero_le _
  case case2 depth t rest first ih =>
    have hfirst : firstItem (0 < depth) t rest = first := rfl
    generalize first = first at ih hfirst
    obtain ⟨item, left⟩ := first
    rw [nestOnto_cons]
    generalize nestOnto {} (items (item.depthAfter depth) left) = nesting at ih
    obtain ⟨level, outer, unclosed⟩ := nesting
    cases item with
    | command | fault => exact ih
    | closing =>
      have hnested : 0 < depth := of_decide_eq_true (firstItem_closing hfirst).1
      simp only [Item.depthAfter, Nesting.add, List.length_cons] at ih ⊢
      omega
    | opening u head =>
      cases outer with
      | nil => exact Nat.zero_le _
      | cons after outer =>
        simp only [Item.depthAfter, Nesting.add, List.length_cons] at ih ⊢
        omega

/-- The statements that items nest to are written in the tokens of the items: those at the top, and
those behind each closing brace whose declaration is yet to come. -/
theorem parts_of_items (depth : Nat) (tokens : List Token) :
    let nesting := nestOnto {} (items depth tokens)
    FallsInto tokens (preorder nesting.level ++ nesting.outer.flatMap preorder) := by
  fun_induction items depth tokens
  case case1 depth => exact .nil []
  case case2 depth t rest first ih =>
    have hfirst : firstItem (0 < depth) t rest = first := rfl
    have hsuffix : first.2 <:+ t :: rest :=
      (firstItem_suffix _ t rest).trans (List.suffix_cons t rest)
    generalize first = first at ih hfirst hsuffix
    obtain ⟨item, left⟩ := first
    rw [nestOnto_cons]
    generalize nestOnto {} (items (item.depthAfter depth) left) = nesting at ih
    -- A fault passes tokens over, and so does a closing brace; all else is a statement of its own.
    by_cases hfault : ∃ e found, item = .fault e found
    · obtain ⟨e, found, rfl⟩ := hfault
      exact ih.of_suffix hsuffix
    · rcases firstItem_cases hfirst fun e found he => hfault ⟨e, found, he⟩ with
        ⟨-, -, rfl, rfl⟩ | ⟨front, rfl, hitem⟩
      · exact ih.of_suffix hsuffix
      · obtain ⟨level, outer, unclosed⟩ := nesting
        rcases hitem.of_map with ⟨c, rfl, -⟩ | ⟨_, _, head, -, rfl, -, -⟩
        · simpa [Nesting.add, Statement.token] using FallsInto.cons (s := .command t c) ih hitem
        · cases outer with
          | nil => exact .nil _
          | cons after outer =>
            simpa [Nesting.add, Statement.token] using
              FallsInto.cons (s := .compound t head level) ih hitem

/-! ## What is parsed -/

/-- The first tokens of parts are in the order of the input. -/
theorem sublist_flatten_of_starts {statements : List Statement} {parts : List (List Token)}
    (h : List.Forall₂ Statement.Starts statements parts) :
    (statements.map Statement.token).Sublist parts.flatten := by
  induction h with
  | nil => exact .slnil
  | cons hpart _ ih =>
    obtain ⟨written, passed, rfl, -⟩ := hpart
    exact (ih.trans (List.sublist_append_right _ _)).cons_cons _

/-- Whatever faults there are: the tokens that introduce the statements, each declaration before
those of its body, are in the order of the input. The input falls into parts, one for each
statement: each starts with the token that introduces the statement, which has the symbol that
introduces such statements, and then come the tokens that end a command, or the head of a
declaration, with what they say for its names and its value. -/
theorem statements_written (tokens : List Token) :
    let statements := preorder (parse tokens).value
    (statements.map Statement.token).Sublist tokens ∧
      ∃ front parts, tokens = front ++ parts.flatten ∧
        List.Forall₂ (fun s part => s.token.symbol = s.introducer ∧
          ∃ written passed, part = s.token :: (written ++ passed) ∧
            ItemRule s.token (written.map Token.symbol) s.item ∧
            s.payloads.Sublist (written.map Token.symbol)) statements parts := by
  intro statements
  have hfalls := parts_of_items 0 tokens
  have houter : (nestOnto {} (items 0 tokens)).outer = [] :=
    List.eq_nil_of_length_eq_zero (Nat.le_zero.1 (length_outer_le 0 tokens))
  simp only [houter, List.flatMap_nil, List.append_nil] at hfalls
  obtain ⟨front, parts, htokens, hparts⟩ := hfalls
  refine ⟨?_, front, parts, htokens, List.Forall₂.imp (fun s part hpart => ?_) hparts⟩
  · rw [htokens]
    exact (sublist_flatten_of_starts hparts).trans (List.sublist_append_right _ _)
  · obtain ⟨written, passed, hpart, hitem⟩ := hpart
    exact ⟨hitem.introduced, written, passed, hpart, hitem, hitem.payloads_sublist⟩

end SlideDeck
