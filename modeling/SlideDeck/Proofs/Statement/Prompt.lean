import SlideDeck.Proofs.Statement.Grammar

/-!
# Where readers fail

A reader that fails leaves the first token that cannot be right: what it took before that token can
be completed to something on which it succeeds, and with that token it fails whatever follows. Where
it leaves nothing, all that it was given can be completed.

Results:
* `prompt_next`, `prompt_bind`, `prompt_optional_bind`: readers of one token, one reader after the
  other, and what follows a token that may be missing.
* `prompt_after?`: the readers of statements fail at the first token that cannot be right.
* `firstItem_fault`: so a fault is found there, and what was begun of the statement can be ended.
-/

namespace SlideDeck

namespace Reader

variable {α β : Type}

/-- The reader can succeed, and it fails no later and no earlier than at the first token that cannot
be right. -/
structure Prompt (r : Reader α) : Prop where
  succeeds : ∃ tokens a, r tokens = .ok a []
  fails : ∀ tokens e left, r tokens = .error e left → ∃ front, tokens = front ++ left ∧
    (∃ more a, r (front ++ more) = .ok a []) ∧
    ∀ t rest, left = t :: rest → ∀ rest', r (front ++ t :: rest') = .error e (t :: rest')

/-! ## Readers put together -/

theorem exists_token (s : Symbol) : ∃ t : Token, t.symbol = s := ⟨⟨s, 1, 'a', 0, 0⟩, rfl⟩

/-- What a reader takes when it succeeds does not depend on what follows. -/
theorem Obeys.ok_append {r : Reader α} {rule : Rule α} (h : Obeys r rule) {tokens left : List Token}
    {a : α} (hok : r tokens = .ok a left) :
    ∃ front, tokens = front ++ left ∧ ∀ rest, r (front ++ rest) = .ok a rest := by
  obtain ⟨front, rfl, hrule⟩ := (h tokens a left).1 hok
  exact ⟨front, rfl, fun rest => (h _ a rest).2 ⟨front, rfl, hrule⟩⟩

theorem bind_of_ok {r : Reader α} {f : α → Reader β} {tokens left : List Token} {a : α}
    (h : r tokens = .ok a left) : (r >>= f) tokens = f a left := by
  show EStateM.bind r f tokens = _
  rw [EStateM.bind, h]

theorem bind_of_error {r : Reader α} {f : α → Reader β} {tokens left : List Token} {e : ParseError}
    (h : r tokens = .error e left) : (r >>= f) tokens = .error e left := by
  show EStateM.bind r f tokens = _
  rw [EStateM.bind, h]

theorem prompt_pure (a : α) : Prompt (pure a : Reader α) where
  succeeds := ⟨[], a, rfl⟩
  fails := by
    intro tokens e left h
    cases h

/-- A reader of one token takes nothing where it fails. -/
theorem prompt_next {says? : Symbol → Option α} (error : SymbolKind → ParseError) {s : Symbol}
    {a : α} (hs : says? s = some a) : Prompt (next says? error) := by
  obtain ⟨t, rfl⟩ := exists_token s
  have hok : next says? error [t] = .ok a [] := by simp [next, hs]
  refine ⟨⟨[t], a, hok⟩, fun tokens e left h => ⟨[], ?_, ⟨[t], a, hok⟩, ?_⟩⟩
  · unfold next at h
    repeat' split at h
    all_goals cases h
    all_goals rfl
  · rintro u rest rfl rest'
    unfold next at h
    split at h
    · cases h
    · rename_i v rest₀
      split at h
      · cases h
      · rename_i hnone
        cases h
        simp [next, hnone]

theorem prompt_bind {r : Reader α} {f : α → Reader β} {rule : Rule α} (hrule : Obeys r rule)
    (hr : Prompt r) (hf : ∀ a, Prompt (f a)) : Prompt (r >>= f) where
  succeeds := by
    obtain ⟨tokens, a, hok⟩ := hr.succeeds
    obtain ⟨tokens', b, hok'⟩ := (hf a).succeeds
    obtain ⟨front, rfl, hfront⟩ := hrule.ok_append hok
    exact ⟨front ++ tokens', b, (bind_of_ok (hfront tokens')).trans hok'⟩
  fails := by
    intro tokens e left h
    cases hfirst : r tokens with
    | error e' left' =>
      rw [bind_of_error hfirst] at h
      cases h
      obtain ⟨front, rfl, ⟨more, a, hok⟩, hleft⟩ := hr.fails _ _ _ hfirst
      obtain ⟨tokens', b, hok'⟩ := (hf a).succeeds
      obtain ⟨taken, htaken, hall⟩ := hrule.ok_append hok
      rw [List.append_nil] at htaken
      refine ⟨front, rfl, ⟨more ++ tokens', b, ?_⟩, fun t rest ht rest' => ?_⟩
      · rw [← List.append_assoc, htaken]
        exact (bind_of_ok (hall tokens')).trans hok'
      · exact bind_of_error (hleft t rest ht rest')
    | ok a between =>
      rw [bind_of_ok hfirst] at h
      obtain ⟨front, rfl, hall⟩ := hrule.ok_append hfirst
      obtain ⟨middle, rfl, ⟨more, b, hok⟩, hleft⟩ := (hf a).fails _ _ _ h
      refine ⟨front ++ middle, by rw [List.append_assoc], ⟨more, b, ?_⟩, fun t rest ht rest' => ?_⟩
      · rw [List.append_assoc]
        exact (bind_of_ok (hall _)).trans hok
      · rw [List.append_assoc]
        exact (bind_of_ok (hall _)).trans (hleft t rest ht rest')

/-! ## Tokens that may be missing -/

theorem optional_cons_some {says? : Symbol → Option α} {missing a : α} {t : Token}
    (h : says? t.symbol = some a) (rest : List Token) :
    optional says? missing (t :: rest) = .ok a rest := by
  simp [optional, h]

theorem optional_cons_none {says? : Symbol → Option α} {missing : α} {t : Token}
    (h : says? t.symbol = none) (rest : List Token) :
    optional says? missing (t :: rest) = .ok missing (t :: rest) := by
  simp [optional, h]

theorem prompt_optional_bind {says? : Symbol → Option α} {missing : α} {f : α → Reader β}
    {s : Symbol} {a : α} (hs : says? s = some a) (hf : ∀ a, Prompt (f a)) :
    Prompt (optional says? missing >>= f) := by
  have hsucceeds : ∃ tokens b, (optional says? missing >>= f) tokens = .ok b [] := by
    obtain ⟨t, rfl⟩ := exists_token s
    obtain ⟨tokens, b, hok⟩ := (hf a).succeeds
    exact ⟨t :: tokens, b, (bind_of_ok (optional_cons_some hs tokens)).trans hok⟩
  refine ⟨hsucceeds, fun tokens e left h => ?_⟩
  cases tokens with
  | nil =>
    have hnil : (optional says? missing >>= f) [] = f missing [] := bind_of_ok rfl
    rw [hnil] at h
    obtain ⟨front, hfront, -, -⟩ := (hf missing).fails _ _ _ h
    obtain ⟨rfl, rfl⟩ := List.append_eq_nil_iff.1 hfront.symm
    exact ⟨[], rfl, hsucceeds, by simp⟩
  | cons t tokens =>
    cases hsays : says? t.symbol with
    | some a' =>
      rw [bind_of_ok (optional_cons_some hsays tokens)] at h
      obtain ⟨front, rfl, ⟨more, b, hok⟩, hleft⟩ := (hf a').fails _ _ _ h
      refine ⟨t :: front, rfl, ⟨more, b, ?_⟩, fun u rest hu rest' => ?_⟩
      · exact (bind_of_ok (optional_cons_some hsays _)).trans hok
      · exact (bind_of_ok (optional_cons_some hsays _)).trans (hleft u rest hu rest')
    | none =>
      rw [bind_of_ok (optional_cons_none hsays tokens)] at h
      obtain ⟨front, hfront, ⟨more, b, hok⟩, hleft⟩ := (hf missing).fails _ _ _ h
      cases front with
      | nil =>
        rw [List.nil_append] at hfront
        subst hfront
        refine ⟨[], rfl, hsucceeds, ?_⟩
        rintro u rest ⟨⟩ rest'
        exact (bind_of_ok (optional_cons_none hsays rest')).trans (hleft t tokens rfl rest')
      | cons u front =>
        obtain ⟨rfl, rfl⟩ := List.cons.inj hfront
        refine ⟨t :: front, rfl, ⟨more, b, ?_⟩, fun u rest hu rest' => ?_⟩
        · exact (bind_of_ok (optional_cons_none hsays _)).trans hok
        · exact (bind_of_ok (optional_cons_none hsays _)).trans (hleft u rest hu rest')

theorem prompt_accept_bind (p : Punct) {f : Bool → Reader β} (hf : ∀ found, Prompt (f found)) :
    Prompt (accept p >>= f) := by
  rw [accept_eq_optional]
  exact prompt_optional_bind (if_pos rfl) hf

theorem prompt_acceptInteger_bind {f : Option UInt8 → Reader β} (hf : ∀ n?, Prompt (f n?)) :
    Prompt (acceptInteger >>= f) := by
  have hs : (integer? (.integer 0)).map some = some (some 0) := rfl
  rw [acceptInteger_eq_optional]
  exact prompt_optional_bind hs hf

/-! ## The readers of statements -/

/-- What follows a token that is known by what it says. -/
theorem prompt_next_bind {says? : Symbol → Option α} {error : SymbolKind → ParseError}
    {spell : α → Symbol} (hreads : ∀ s a, says? s = some a ↔ s = spell a) (a : α)
    {f : α → Reader β} (hf : ∀ a, Prompt (f a)) : Prompt (next says? error >>= f) :=
  prompt_bind (obeys_next says? error) (prompt_next error ((hreads (spell a) a).2 rfl)) hf

theorem prompt_mark_bind (p : Punct) {f : Unit → Reader β} (hf : Prompt (f ())) :
    Prompt (mark p >>= f) :=
  prompt_next_bind (fun _ _ => isMark_eq_some_iff) () fun _ => hf

theorem prompt_colorMark_bind (p : Punct) {f : Unit → Reader β} (hf : Prompt (f ())) :
    Prompt (colorMark p >>= f) :=
  prompt_next_bind (fun _ _ => isMark_eq_some_iff) () fun _ => hf

theorem prompt_name_bind {f : String → Reader β} (hf : ∀ name, Prompt (f name)) :
    Prompt (name >>= f) :=
  prompt_next_bind (fun _ _ => name?_eq_some_iff) "" hf

theorem prompt_channel_bind {f : UInt8 → Reader β} (hf : ∀ n, Prompt (f n)) :
    Prompt (channel >>= f) :=
  prompt_next_bind (fun _ _ => integer?_eq_some_iff) 0 hf

/-- What follows the third channel of a color, through the closing parenthesis. -/
theorem prompt_alpha_bind (g : UInt8 → α) :
    Prompt (alpha >>= fun a => colorMark .rightParen >>= fun _ => pure (g a)) := by
  have hend (a : UInt8) : Prompt (colorMark .rightParen >>= fun _ => pure (g a)) :=
    prompt_colorMark_bind _ (prompt_pure _)
  rw [alpha, bind_assoc]
  refine prompt_accept_bind .comma fun found => ?_
  cases found with
  | false => exact hend 255
  | true =>
    simp only [if_true]
    rw [bind_assoc]
    refine prompt_acceptInteger_bind fun a? => ?_
    cases a? with
    | none => exact hend 255
    | some a =>
      simp only
      rw [bind_assoc]
      exact prompt_accept_bind .comma fun _ => hend a

theorem prompt_color : Prompt color :=
  prompt_channel_bind fun r => prompt_colorMark_bind .comma <|
  prompt_channel_bind fun g => prompt_colorMark_bind .comma <|
  prompt_channel_bind fun b => prompt_alpha_bind fun a => Color.mk r g b a

theorem prompt_value : Prompt value := by
  refine prompt_accept_bind .leftParen fun found => ?_
  have hinteger : plain? (.integer 0) = some (.integer 0) := rfl
  cases found with
  | false => exact prompt_next (fun _ => .expectedValue) hinteger
  | true => exact prompt_bind obeys_color prompt_color fun c => prompt_pure _

theorem prompt_assigned : Prompt assigned :=
  prompt_mark_bind .equalSign <| prompt_bind obeys_value prompt_value fun v =>
  prompt_mark_bind .semicolon <| prompt_pure v

theorem prompt_assigned_bind (g : Value → α) : Prompt (assigned >>= fun v => pure (g v)) :=
  prompt_bind obeys_assigned prompt_assigned fun _ => prompt_pure _

/-- What follows the name of a slide or block, through the opening brace. -/
theorem prompt_parent_bind (g : Option String → α) :
    Prompt (parent? >>= fun parent => mark .leftBrace >>= fun _ => pure (g parent)) := by
  have hend (parent : Option String) : Prompt (mark .leftBrace >>= fun _ => pure (g parent)) :=
    prompt_mark_bind _ (prompt_pure _)
  rw [parent?, bind_assoc]
  refine prompt_accept_bind .colon fun found => ?_
  cases found with
  | false => exact hend none
  | true =>
    simp only [if_true]
    rw [bind_assoc]
    exact prompt_name_bind fun parent => hend (some parent)

/-- What follows the name of a macro, through a mark. -/
theorem prompt_noArguments_bind (p : Punct) (v : α) :
    Prompt (noArguments >>= fun _ => mark p >>= fun _ => pure v) := by
  rw [noArguments, bind_assoc]
  exact prompt_mark_bind _ <| prompt_mark_bind _ <| prompt_mark_bind _ <| prompt_pure _

/-- The reader of what follows the first token of a statement fails at the first token that cannot
be right. -/
theorem prompt_after? {t : Token} {r : Reader Item} (h : Item.after? t = some r) : Prompt r := by
  unfold Item.after? at h
  split at h <;> simp only [Option.some.injEq, reduceCtorEq] at h <;> subst h
  · exact prompt_pure _
  · exact prompt_name_bind fun name => prompt_parent_bind _
  · exact prompt_name_bind fun name => prompt_parent_bind _
  · exact prompt_name_bind fun name => prompt_noArguments_bind _ _
  · exact prompt_name_bind fun name => prompt_noArguments_bind _ _
  · exact prompt_name_bind fun name => prompt_assigned_bind _
  · exact prompt_name_bind fun name => prompt_assigned_bind _
  · exact prompt_mark_bind _ <| prompt_name_bind fun name => prompt_assigned_bind _
  · exact prompt_assigned_bind _

end Reader

open Reader

/-! ## Where a fault is found -/

theorem fault_mem_items {depth : Nat} {t : Token} {rest left : List Token} {e : ParseError}
    {found : Option Token} (h : firstItem (0 < depth) t rest = (.fault e found, left)) :
    ∃ e found, Item.fault e found ∈ items depth (t :: rest) := by
  refine ⟨e, found, ?_⟩
  rw [items_cons h]
  exact .head _

/-- A fault is found at the token that is left behind what was begun of a statement. What was begun
can be ended, and with that token there is a fault whatever follows. -/
theorem firstItem_fault {depth : Nat} {t : Token} {rest left : List Token} {e : ParseError}
    {found : Option Token} (h : firstItem (0 < depth) t rest = (.fault e found, left)) :
    ∃ begun after, t :: rest = begun ++ after ∧ found = after.head? ∧ left = resume after ∧
      (begun = [] ∨ ∃ front more item, begun = t :: front ∧ more ≠ [] ∧
        ItemRule t ((front ++ more).map Token.symbol) item) ∧
      ∀ u ∈ after.head?, ∀ more,
        ∃ e found, Item.fault e found ∈ items depth (begun ++ u :: more) := by
  unfold firstItem at h
  split at h
  · cases h
  rename_i hclosing
  split at h
  · rename_i hnone
    cases h
    refine ⟨[], t :: rest, rfl, rfl, rfl, .inl rfl, ?_⟩
    rintro u ⟨⟩ more
    have hfirst : firstItem (0 < depth) t more =
        (.fault (.unexpected t.kind) (some t), resume (t :: more)) := by
      rw [firstItem, if_neg hclosing]
      simp only [hnone]
    exact fault_mem_items hfirst
  · rename_i reader hreader
    split at h
    · rename_i item left hok
      obtain ⟨front, -, hitem⟩ := (obeys_after? hreader _ _ _).1 hok
      generalize front.map Token.symbol = symbols at hitem
      cases hitem <;> cases h
    · rename_i e left herror
      cases h
      obtain ⟨front, rfl, ⟨more, item, hok⟩, hleft⟩ := (prompt_after? hreader).fails _ _ _ herror
      have hmore : more ≠ [] := by
        rintro rfl
        obtain ⟨taken, htaken, hall⟩ := (obeys_after? hreader).ok_append hok
        rw [List.append_nil, List.append_nil] at htaken
        rw [← htaken] at hall
        cases (hall left).symm.trans herror
      obtain ⟨taken, htaken, hitem⟩ := (obeys_after? hreader _ _ _).1 hok
      rw [List.append_nil] at htaken
      refine ⟨t :: front, left, rfl, rfl, rfl,
        .inr ⟨front, more, item, rfl, hmore, htaken ▸ hitem⟩, ?_⟩
      intro u hu more'
      obtain ⟨rest, rfl⟩ := List.head?_eq_some_iff.1 hu
      have hfirst : firstItem (0 < depth) t (front ++ u :: more') =
          (.fault e (some u), resume (u :: more')) := by
        rw [firstItem, if_neg hclosing]
        simp only [hreader, hleft u rest rfl more', List.head?_cons]
      exact fault_mem_items hfirst

end SlideDeck
