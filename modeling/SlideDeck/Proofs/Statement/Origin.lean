import SlideDeck.Proofs.Statement.Parse
import SlideDeck.Proofs.Statement.Preorder
import SlideDeck.Proofs.Statement.Prompt

/-!
# Tokens of what is parsed

Whatever is said about tokens that are parsed points to one of them: each statement keeps the token
that introduced it, and each report stands at a token, or at the end of the input.

Results:
* `exists_firstItem_of_mem_items`, `mem_of_mem_items`: items are read from tokens of the input, and
  keep some of them.
* `exists_of_mem_parse_reports`: reports stand at tokens of the input, or behind the last one.
* `Derives.standAt`, `Derives.sublist`: statements are introduced by tokens of the input, in order.
-/

namespace SlideDeck

/-- The statements, and those of their bodies, are introduced by these tokens. -/
def StandAt (tokens : List Token) (statements : List Statement) : Prop :=
  ∀ s ∈ preorder statements, s.token ∈ tokens

/-! ## Statements -/

/-- The tokens that introduced statements are in the order of the input, each declaration before the
statements of its body. -/
theorem Derives.sublist {tokens : List Token} {statements : List Statement}
    (h : Derives tokens statements) :
    ((preorder statements).map Statement.token).Sublist tokens := by
  induction h with
  | nil => exact .slnil
  | @command t tokens rest c after _ _ ih =>
    rw [preorder_command]
    exact (ih.trans (List.sublist_append_right tokens rest)).cons_cons t
  | @compound t opening closing tokens inner rest head body after _ _ _ _ _ ihbody ih =>
    rw [preorder_compound, List.map_cons, List.map_append]
    have hinside := (ihbody.append (ih.cons closing)).cons opening
    exact (hinside.trans (List.sublist_append_right tokens _)).cons_cons t

/-- Statements are introduced by tokens of the input. -/
theorem Derives.standAt {tokens : List Token} {statements : List Statement}
    (h : Derives tokens statements) : StandAt tokens statements :=
  fun _ hs => h.sublist.subset (List.mem_map_of_mem hs)

/-! ## Items -/

/-- The token that the item keeps. -/
def Item.token? : Item → Option Token
  | command t _ => some t
  | opening t _ => some t
  | closing => none
  | fault _ found => found

/-- The first item keeps a token of the input, and leaves tokens of the input. -/
theorem firstItem_subset {depth : Nat} {t : Token} {rest left : List Token} {item : Item}
    (h : firstItem (0 < depth) t rest = (item, left)) :
    item.token?.toList ⊆ t :: rest ∧ left ⊆ t :: rest := by
  by_cases hfault : ∃ e found, item = .fault e found
  · obtain ⟨e, found, rfl⟩ := hfault
    obtain ⟨begun, after, hsplit, rfl, rfl, -, -⟩ := firstItem_fault h
    rw [hsplit]
    refine ⟨fun u hu => ?_, fun u hu => List.mem_append_right _ ((resume_suffix after).subset hu)⟩
    refine List.mem_append_right _ (List.mem_of_mem_head? ?_)
    simpa [Item.token?] using hu
  · rcases firstItem_cases h fun e found he => hfault ⟨e, found, he⟩ with
      ⟨-, -, rfl, rfl⟩ | ⟨front, rfl, hitem⟩
    · simp [Item.token?]
    · refine ⟨?_, by simp⟩
      generalize front.map Token.symbol = symbols at hitem
      cases hitem <;> simp [Item.token?]

/-- Every item is the first one of tokens of the input. -/
theorem exists_firstItem_of_mem_items {depth : Nat} {tokens : List Token} {item : Item}
    (hitem : item ∈ items depth tokens) : ∃ (depth : Nat) (t : Token) (rest left : List Token),
      t :: rest ⊆ tokens ∧ firstItem (0 < depth) t rest = (item, left) := by
  fun_induction items depth tokens
  case case1 depth => cases hitem
  case case2 depth t rest first ih =>
    have hleft : first.2 ⊆ t :: rest := (firstItem_subset rfl).2
    cases hitem with
    | head => exact ⟨depth, t, rest, first.2, List.Subset.refl _, rfl⟩
    | tail _ hmem =>
      obtain ⟨depth, u, rest', left, hsub, hitem⟩ := ih hmem
      exact ⟨depth, u, rest', left, List.Subset.trans hsub hleft, hitem⟩

/-- Items keep tokens of the input. -/
theorem mem_of_mem_items {depth : Nat} {tokens : List Token} {item : Item}
    (hitem : item ∈ items depth tokens) : ∀ t ∈ item.token?, t ∈ tokens := by
  obtain ⟨_, u, rest, left, hsub, hfirst⟩ := exists_firstItem_of_mem_items hitem
  exact fun t ht => hsub ((firstItem_subset hfirst).1 (by simpa using ht))

/-- What is not closed was opened. -/
theorem opening_of_mem_unclosed {found : List Item} {t : Token} {head : Head}
    (h : (t, head) ∈ (nestOnto {} found).unclosed) : Item.opening t head ∈ found := by
  induction found with
  | nil => cases h
  | cons item found ih =>
    rw [nestOnto_cons] at h
    unfold Nesting.add at h
    split at h
    · exact .tail _ (ih h)
    · exact .tail _ (ih h)
    · split at h
      · exact .tail _ (ih h)
      · rcases List.mem_append.1 h with hmem | hmem
        · exact .tail _ (ih hmem)
        · obtain ⟨rfl, rfl⟩ := Prod.mk.inj (List.mem_singleton.1 hmem)
          exact .head _
    · exact .tail _ (ih h)

/-! ## Reports -/

/-- Reports stand at tokens of the input, or at its end, behind the last token. -/
theorem exists_of_mem_parse_reports {tokens : List Token} {r : Report ParseError}
    (hr : r ∈ (parse tokens).reports) :
    ∃ e, (∃ t ∈ tokens, r = t.report e) ∨ r = (endToken tokens).report e := by
  rcases List.mem_append.1 hr with hmem | hmem
  · obtain ⟨item, hitem, hreport⟩ := List.mem_filterMap.1 hmem
    cases item with
    | fault e found =>
      cases hreport
      cases found with
      | none => exact ⟨e, .inr rfl⟩
      | some t => exact ⟨e, .inl ⟨t, mem_of_mem_items hitem t rfl, rfl⟩⟩
    | command | opening | closing => cases hreport
  · obtain ⟨⟨t, head⟩, hopen, rfl⟩ := List.mem_map.1 hmem
    exact ⟨_, .inl ⟨t, mem_of_mem_items (opening_of_mem_unclosed hopen) t rfl, rfl⟩⟩

end SlideDeck
