import SlideDeck.Proofs.Statement.Origin

/-!
# Names in statements

The names that a statement writes are identifiers of the input. A fault of parsing quotes a name
only where a declaration is never closed, and then it quotes the name of that declaration.

Results:
* `Derives.identifier_mem`: the names of statements are identifiers of the input.
* `Reader.Composed.name?_error`: no reader finds that a declaration is never closed.
* `identifier_mem_of_parse_report`: names in reports are identifiers of the input.
-/

namespace SlideDeck

/-- The name of the variable, if the value is a reference. -/
def Value.name? : Value → Option String
  | .reference name => some name
  | _ => none

def Command.names : Command → List String
  | .text _ => []
  | .call name => [name]
  | .declare name _ value | .assign name value | .setAttribute name value =>
    name :: value.name?.toList

def Head.names : Head → List String
  | .slide name parent | .block name parent => name :: parent.toList
  | .macroDef name => [name]

/-- The names that the statement writes, without those in its body. -/
def Statement.names : Statement → List String
  | .command _ c => c.names
  | .compound _ head _ => head.names

theorem Head.name_mem_names (head : Head) : head.name ∈ head.names := by
  cases head <;> exact .head _

/-! ## Names in the grammar -/

theorem AssignedRule.identifier_mem {symbols : List Symbol} {v : Value}
    (h : AssignedRule symbols v) {name : String} (hname : name ∈ v.name?) :
    .identifier name ∈ symbols := by
  obtain ⟨hvalue⟩ := h
  cases hvalue with
  | reference name' =>
    cases hname
    simp
  | string | integer | color => cases hname

theorem CommandRule.identifier_mem {symbols : List Symbol} {c : Command}
    (h : CommandRule symbols c) {name : String} (hname : name ∈ c.names) :
    .identifier name ∈ symbols := by
  cases h with
  | text => cases hname
  | call name' =>
    obtain rfl := List.mem_singleton.1 hname
    simp
  | declareLet name' hvalue | declareMut name' hvalue | setAttribute name' hvalue
  | assign name' hvalue =>
    rcases List.mem_cons.1 hname with rfl | hname
    · simp
    · have hmem := hvalue.identifier_mem (Option.mem_toList.1 hname)
      simp [hmem]

theorem HeadRule.identifier_mem {symbols : List Symbol} {head : Head} (h : HeadRule symbols head)
    {name : String} (hname : name ∈ head.names) : .identifier name ∈ symbols := by
  cases h with
  | slide name' parent | block name' parent =>
    rcases List.mem_cons.1 hname with rfl | hname
    · simp
    · obtain rfl := Option.mem_toList.1 hname
      simp [parentSymbols]
  | macroDef name' =>
    obtain rfl := List.mem_singleton.1 hname
    simp

/-! ## Names of statements -/

/-- The names of statements are identifiers of the input. -/
theorem Derives.identifier_mem {tokens : List Token} {statements : List Statement}
    (h : Derives tokens statements) {s : Statement} (hs : s ∈ preorder statements) {name : String}
    (hname : name ∈ s.names) : .identifier name ∈ tokens.map Token.symbol := by
  induction h with
  | nil => simp at hs
  | @command t tokens rest c after hrule _ ih =>
    rw [preorder_command] at hs
    rw [List.map_cons, List.map_append, ← List.cons_append]
    rcases List.mem_cons.1 hs with rfl | hs
    · exact List.mem_append_left _ (hrule.identifier_mem hname)
    · exact List.mem_append_right _ (ih hs)
  | @compound t opening closing tokens inner rest head body after hrule _ _ _ _ ihbody ih =>
    rw [preorder_compound] at hs
    rw [List.map_cons, List.map_append, ← List.cons_append]
    rcases List.mem_cons.1 hs with rfl | hs
    · exact List.mem_append_left _ (hrule.identifier_mem hname)
    · refine List.mem_append_right _ ?_
      rcases List.mem_append.1 hs with hs | hs
      · simp [ihbody hs]
      · simp [ih hs]

/-! ## Names in faults -/

/-- The name that the message quotes. -/
def ParseError.name? : ParseError → Option String
  | unclosed name => some name
  | _ => none

theorem ParseError.name?_eq_none {e : ParseError} (h : ∀ name, e ≠ .unclosed name) :
    e.name? = none := by
  cases e with
  | unclosed name => exact absurd rfl (h name)
  | expected | unexpected | expectedValue | malformedColor => rfl

/-- No reader finds that a declaration is never closed. -/
theorem Reader.Composed.name?_error {α : Type} {r : Reader α} (h : Composed r)
    {tokens left : List Token} {e : ParseError} (herror : r tokens = .error e left) :
    e.name? = none := by
  induction h generalizing tokens left with
  | pure a => cases herror
  | next says? hquotes =>
    unfold Reader.next at herror
    repeat' split at herror
    all_goals cases herror
    all_goals exact ParseError.name?_eq_none (hquotes _)
  | accept p =>
    unfold Reader.accept at herror
    repeat' split at herror
    all_goals cases herror
  | acceptInteger =>
    unfold Reader.acceptInteger at herror
    repeat' split at herror
    all_goals cases herror
  | @bind α β r f _ _ ihr ihf =>
    cases hfirst : r tokens with
    | ok a between =>
      rw [bind_of_ok hfirst] at herror
      exact ihf a herror
    | error e' left' =>
      rw [bind_of_error hfirst] at herror
      cases herror
      exact ihr hfirst

/-- No item is the fault that a declaration is never closed. -/
theorem name?_of_fault_mem_items {depth : Nat} {tokens : List Token} {e : ParseError}
    {found : Option Token} (h : Item.fault e found ∈ items depth tokens) : e.name? = none := by
  obtain ⟨_, t, rest, left, -, hfirst⟩ := exists_firstItem_of_mem_items h
  unfold firstItem at hfirst
  split at hfirst
  · cases hfirst
  split at hfirst
  · cases hfirst
    rfl
  · rename_i reader hreader
    split at hfirst
    · rename_i item left hok
      obtain ⟨front, -, hitem⟩ := (obeys_after? hreader _ _ _).1 hok
      generalize front.map Token.symbol = symbols at hitem
      cases hitem <;> cases hfirst
    · rename_i e left herror
      cases hfirst
      exact (Item.composed_after? hreader).name?_error herror

/-- A declaration that is opened is named by an identifier of the input. -/
theorem identifier_mem_of_opening_mem_items {depth : Nat} {tokens : List Token} {t : Token}
    {head : Head} (h : Item.opening t head ∈ items depth tokens) :
    .identifier head.name ∈ tokens.map Token.symbol := by
  obtain ⟨_, u, rest, left, hsub, hfirst⟩ := exists_firstItem_of_mem_items h
  have hmem : Symbol.identifier head.name ∈ (u :: rest).map Token.symbol := by
    rcases firstItem_cases hfirst fun e found => by simp with
      ⟨-, -, hclosing, -⟩ | ⟨front, rfl, hitem⟩
    · cases hclosing
    · obtain ⟨c, hcommand, -⟩ | ⟨front, opening, head', rfl, heq, hrule, -⟩ := hitem.of_map
      · cases hcommand
      · obtain ⟨-, rfl⟩ := Item.opening.inj heq
        have hname := hrule.identifier_mem head.name_mem_names
        simp only [List.map_cons, List.map_append, List.append_assoc]
        exact List.mem_append_left _ hname
  exact List.map_subset _ hsub hmem

/-- Names in the reports of parsing are identifiers of the input. -/
theorem identifier_mem_of_parse_report {tokens : List Token} {r : Report ParseError}
    (hr : r ∈ (parse tokens).reports) {name : String} (hname : name ∈ r.cause.name?) :
    .identifier name ∈ tokens.map Token.symbol := by
  rcases List.mem_append.1 hr with hmem | hmem
  · obtain ⟨item, hitem, hreport⟩ := List.mem_filterMap.1 hmem
    cases item with
    | fault e found =>
      cases hreport
      have hnone : e.name? = none := name?_of_fault_mem_items hitem
      cases hnone.symm.trans hname
    | command | opening | closing => cases hreport
  · obtain ⟨⟨t, head⟩, hopen, rfl⟩ := List.mem_map.1 hmem
    cases hname
    exact identifier_mem_of_opening_mem_items (opening_of_mem_unclosed hopen)

end SlideDeck
