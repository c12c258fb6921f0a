import SlideDeck.Statement.Reader

/-!
# Readers and rules

A rule says which sequences of symbols stand for what. A reader obeys a rule if it succeeds exactly
where the tokens begin with such a sequence, with what that stands for, and leaves the tokens behind
it. Where a part may be missing, what follows it must not start like it.

Results:
* `obeys_next`, `obeys_bind`: readers of one token, and one reader after the other.
* `obeys_optional_bind`: what follows a part that may be missing.
-/

namespace SlideDeck.Reader

variable {α β : Type}

/-- Sequences of symbols and what they stand for. -/
abbrev Rule (α : Type) := List Symbol → α → Prop

/-- The reader succeeds exactly on what the rule derives. -/
def Obeys (r : Reader α) (rule : Rule α) : Prop :=
  ∀ tokens a rest, r tokens = .ok a rest ↔
    ∃ front, tokens = front ++ rest ∧ rule (front.map Token.symbol) a

/-- What the rule derives is not empty, and does not start with such a symbol. -/
def Rule.StartsApart (rule : Rule α) (starts : Symbol → Prop) : Prop :=
  ∀ symbols a, rule symbols a → ∃ s rest, symbols = s :: rest ∧ ¬ starts s

/-- The rule of one symbol. -/
def oneOf (says? : Symbol → Option α) : Rule α := fun symbols a =>
  ∃ s, symbols = [s] ∧ says? s = some a

/-- One rule after the other. -/
def andThen (rule : Rule α) (next : α → Rule β) : Rule β := fun symbols b =>
  ∃ front a rest, symbols = front ++ rest ∧ rule front a ∧ next a rest b

theorem Obeys.congr {r : Reader α} {rule rule' : Rule α} (h : Obeys r rule)
    (hrule : ∀ symbols a, rule symbols a ↔ rule' symbols a) : Obeys r rule' := by
  intro tokens a rest
  rw [h tokens a rest]
  simp only [hrule]

theorem obeys_pure (a : α) : Obeys (pure a) fun symbols b => symbols = [] ∧ b = a := by
  intro tokens b rest
  show EStateM.Result.ok a tokens = .ok b rest ↔ _
  rw [EStateM.Result.ok.injEq]
  constructor
  · rintro ⟨rfl, rfl⟩
    exact ⟨[], rfl, rfl, rfl⟩
  · rintro ⟨front, rfl, hfront, rfl⟩
    rw [List.map_eq_nil_iff] at hfront
    exact ⟨rfl, by simp [hfront]⟩

theorem bind_eq_ok_iff {r : Reader α} {f : α → Reader β} {tokens rest : List Token} {b : β} :
    (r >>= f) tokens = .ok b rest ↔ ∃ a between, r tokens = .ok a between ∧
      f a between = .ok b rest := by
  show EStateM.bind r f tokens = _ ↔ _
  unfold EStateM.bind
  cases r tokens with
  | ok a between =>
    constructor
    · exact fun h => ⟨a, between, rfl, h⟩
    · rintro ⟨a', between', heq, h⟩
      cases heq
      exact h
  | error e between => simp

theorem obeys_bind {r : Reader α} {f : α → Reader β} {rule : Rule α} {next : α → Rule β}
    (hr : Obeys r rule) (hf : ∀ a, Obeys (f a) (next a)) : Obeys (r >>= f) (andThen rule next) := by
  intro tokens b rest
  rw [bind_eq_ok_iff]
  constructor
  · rintro ⟨a, between, hfirst, hsecond⟩
    obtain ⟨front, rfl, hrule⟩ := (hr _ _ _).1 hfirst
    obtain ⟨middle, rfl, hnext⟩ := (hf a _ _ _).1 hsecond
    exact ⟨front ++ middle, by simp, _, a, _, List.map_append, hrule, hnext⟩
  · rintro ⟨front, rfl, symbols, a, symbols', hsymbols, hrule, hnext⟩
    obtain ⟨first, second, rfl, rfl, rfl⟩ := List.map_eq_append_iff.1 hsymbols
    refine ⟨a, second ++ rest, (hr _ _ _).2 ⟨first, ?_, hrule⟩, (hf a _ _ _).2 ⟨second, rfl, hnext⟩⟩
    rw [List.append_assoc]

theorem obeys_next (says? : Symbol → Option α) (error : SymbolKind → ParseError) :
    Obeys (next says? error) (oneOf says?) := by
  intro tokens a rest
  unfold next
  constructor
  · intro h
    split at h
    · cases h
    · rename_i t left
      split at h
      · rename_i a' hreads
        cases h
        exact ⟨[t], rfl, t.symbol, rfl, hreads⟩
      · cases h
  · rintro ⟨front, rfl, s, hfront, hreads⟩
    obtain ⟨t, rfl, rfl⟩ := List.map_eq_singleton_iff.1 hfront
    simp [hreads]

/-- Takes the next token if it says something, and stands for `missing` otherwise. -/
def optional (says? : Symbol → Option α) (missing : α) : Reader α
  | [] => .ok missing []
  | t :: rest =>
    match says? t.symbol with
    | some a => .ok a rest
    | none => .ok missing (t :: rest)

theorem optional_eq_ok_iff {says? : Symbol → Option α} {missing a : α} {tokens rest : List Token} :
    optional says? missing tokens = .ok a rest ↔
      (∃ t, tokens = t :: rest ∧ says? t.symbol = some a) ∨
        (a = missing ∧ rest = tokens ∧ ∀ t ∈ tokens.head?, says? t.symbol = none) := by
  cases tokens with
  | nil => simp [optional, eq_comm]
  | cons t tokens =>
    cases h : says? t.symbol with
    | none => simp [optional, h, eq_comm]
    | some a' =>
      constructor
      · intro hok
        simp only [optional, h] at hok
        cases hok
        exact .inl ⟨t, rfl, h⟩
      · rintro (⟨t', heq, hreads⟩ | ⟨-, -, hnone⟩)
        · cases heq
          cases h.symm.trans hreads
          simp [optional, h]
        · cases h.symm.trans (hnone t rfl)

/-- A token that may be missing, where what follows without it does not start like it. -/
theorem obeys_optional_bind {says? : Symbol → Option α} {missing : α} {f : α → Reader β}
    {next : α → Rule β} (hf : ∀ a, Obeys (f a) (next a))
    (hapart : (next missing).StartsApart fun s => (says? s).isSome = true) :
    Obeys (optional says? missing >>= f) fun symbols b =>
      andThen (oneOf says?) next symbols b ∨ next missing symbols b := by
  intro tokens b rest
  rw [bind_eq_ok_iff]
  constructor
  · rintro ⟨a, between, hfirst, hsecond⟩
    obtain ⟨front, rfl, hnext⟩ := (hf a _ _ _).1 hsecond
    rcases optional_eq_ok_iff.1 hfirst with ⟨t, rfl, hreads⟩ | ⟨rfl, rfl, -⟩
    · exact ⟨t :: front, rfl, .inl ⟨[t.symbol], a, _, rfl, ⟨_, rfl, hreads⟩, hnext⟩⟩
    · exact ⟨front, rfl, .inr hnext⟩
  · rintro ⟨front, rfl, ⟨_, a, symbols, hfront, ⟨s, rfl, hreads⟩, hnext⟩ | hnext⟩
    · obtain ⟨t, front, rfl, rfl, rfl⟩ := List.map_eq_cons_iff.1 hfront
      exact ⟨a, front ++ rest, optional_eq_ok_iff.2 (.inl ⟨t, rfl, hreads⟩),
        (hf a _ _ _).2 ⟨front, rfl, hnext⟩⟩
    · obtain ⟨s, symbols, hfront, hreads⟩ := hapart _ _ hnext
      obtain ⟨t, front, rfl, rfl, rfl⟩ := List.map_eq_cons_iff.1 hfront
      refine ⟨missing, _, optional_eq_ok_iff.2 (.inr ⟨rfl, rfl, ?_⟩),
        (hf missing _ _ _).2 ⟨_, rfl, hnext⟩⟩
      simpa using hreads

/-! ## The readers of optional tokens -/

theorem accept_eq_optional (p : Punct) :
    accept p = optional (fun s => if s = .punct p then some true else none) false := by
  funext tokens
  cases tokens with
  | nil => rfl
  | cons t tokens =>
    by_cases h : t.symbol = .punct p <;> simp [accept, optional, h]

theorem acceptInteger_eq_optional :
    acceptInteger = optional (fun s => (integer? s).map some) none := by
  funext tokens
  cases tokens with
  | nil => rfl
  | cons t tokens =>
    cases h : t.symbol <;> simp [acceptInteger, optional, integer?, h]

end SlideDeck.Reader
