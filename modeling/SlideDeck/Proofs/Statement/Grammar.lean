import SlideDeck.Proofs.Statement.Rule
import SlideDeck.Statement.Item

/-!
# The grammar of statements

What the symbols of a value, of a command and of the head of a declaration are. The readers succeed
exactly on them.

Results:
* `obeys_value`: the reader of values obeys the rule of values.
* `obeys_after?`: what is read from the first token of a statement on is a command, or a head
  with its opening brace, as the grammar has it.
-/

namespace SlideDeck

open Reader

/-- The alpha channel of a color, if it has one, and a comma that may follow. -/
def alphaSymbols (alpha : Option UInt8) (comma : Bool) : List Symbol :=
  (match alpha with
    | some a => [.punct .comma, .integer a]
    | none => []) ++ if comma then [.punct .comma] else []

/-- `string`, `integer`, `name` or `(r, g, b[, a][,])`, where the color is opaque without `a`. -/
inductive ValueRule : List Symbol → Value → Prop
  | string (content : String) : ValueRule [.string content] (.string content)
  | integer (n : UInt8) : ValueRule [.integer n] (.integer n)
  | reference (name : String) : ValueRule [.identifier name] (.reference name)
  | color (r g b : UInt8) (alpha : Option UInt8) (comma : Bool) : ValueRule
      ([.punct .leftParen, .integer r, .punct .comma, .integer g, .punct .comma, .integer b] ++
        alphaSymbols alpha comma ++ [.punct .rightParen]) (.color ⟨r, g, b, alpha.getD 255⟩)

/-- `= value;` -/
inductive AssignedRule : List Symbol → Value → Prop
  | mk {symbols : List Symbol} {v : Value} : ValueRule symbols v →
      AssignedRule (.punct .equalSign :: (symbols ++ [.punct .semicolon])) v

/-- The symbols of a command. -/
inductive CommandRule : List Symbol → Command → Prop
  | text (content : String) : CommandRule [.text content] (.text content)
  | call (name : String) : CommandRule
      [.punct .dollarSign, .identifier name, .punct .leftParen, .punct .rightParen,
        .punct .semicolon] (.call name)
  | declareLet (name : String) {symbols : List Symbol} {v : Value} : AssignedRule symbols v →
      CommandRule (.keyword .letKw :: .identifier name :: symbols) (.declare name false v)
  | declareMut (name : String) {symbols : List Symbol} {v : Value} : AssignedRule symbols v →
      CommandRule (.keyword .mutKw :: .identifier name :: symbols) (.declare name true v)
  | setAttribute (name : String) {symbols : List Symbol} {v : Value} : AssignedRule symbols v →
      CommandRule (.keyword .selfKw :: .punct .dot :: .identifier name :: symbols)
        (.setAttribute name v)
  | assign (name : String) {symbols : List Symbol} {v : Value} : AssignedRule symbols v →
      CommandRule (.identifier name :: symbols) (.assign name v)

/-- `: parent`, or nothing. -/
def parentSymbols : Option String → List Symbol
  | some parent => [.punct .colon, .identifier parent]
  | none => []

/-- The symbols of the head of a declaration, up to its opening brace. -/
inductive HeadRule : List Symbol → Head → Prop
  | slide (name : String) (parent : Option String) :
      HeadRule (.keyword .slideKw :: .identifier name :: parentSymbols parent) (.slide name parent)
  | block (name : String) (parent : Option String) :
      HeadRule (.keyword .blockKw :: .identifier name :: parentSymbols parent) (.block name parent)
  | macroDef (name : String) : HeadRule
      [.keyword .macroKw, .identifier name, .punct .leftParen, .punct .rightParen] (.macroDef name)

namespace Reader

/-! ## One token -/

theorem isMark_eq_some_iff {p : Punct} {s : Symbol} {u : Unit} :
    isMark p s = some u ↔ s = .punct p := by
  simp [isMark]

theorem name?_eq_some_iff {s : Symbol} {name : String} :
    name? s = some name ↔ s = .identifier name := by
  cases s <;> simp [name?]

theorem integer?_eq_some_iff {s : Symbol} {n : UInt8} : integer? s = some n ↔ s = .integer n := by
  cases s <;> simp [integer?]

variable {α β : Type}

/-- What follows a token that is known by what it says. -/
theorem obeys_next_bind {says? : Symbol → Option α} {error : SymbolKind → ParseError}
    {spell : α → Symbol} (hreads : ∀ s a, says? s = some a ↔ s = spell a) {f : α → Reader β}
    {rule : α → Rule β} (hf : ∀ a, Obeys (f a) (rule a)) :
    Obeys (next says? error >>= f) fun symbols b =>
      ∃ a rest, symbols = spell a :: rest ∧ rule a rest b := by
  refine (obeys_bind (obeys_next says? error) hf).congr fun symbols b => ?_
  constructor
  · rintro ⟨_, a, rest, rfl, ⟨s, rfl, hs⟩, hrule⟩
    exact ⟨a, rest, by rw [(hreads s a).1 hs]; rfl, hrule⟩
  · rintro ⟨a, rest, rfl, hrule⟩
    exact ⟨[spell a], a, rest, rfl, ⟨_, rfl, (hreads _ a).2 rfl⟩, hrule⟩

theorem obeys_mark_bind (p : Punct) {f : Unit → Reader α} {rule : Rule α} (hf : Obeys (f ()) rule) :
    Obeys (mark p >>= f) fun symbols a => ∃ rest, symbols = .punct p :: rest ∧ rule rest a :=
  (obeys_next_bind (fun _ _ => isMark_eq_some_iff) fun _ => hf).congr (by simp)

theorem obeys_colorMark_bind (p : Punct) {f : Unit → Reader α} {rule : Rule α}
    (hf : Obeys (f ()) rule) :
    Obeys (colorMark p >>= f) fun symbols a => ∃ rest, symbols = .punct p :: rest ∧ rule rest a :=
  (obeys_next_bind (fun _ _ => isMark_eq_some_iff) fun _ => hf).congr (by simp)

theorem obeys_name_bind {f : String → Reader α} {rule : String → Rule α}
    (hf : ∀ name, Obeys (f name) (rule name)) : Obeys (name >>= f) fun symbols a =>
      ∃ name rest, symbols = .identifier name :: rest ∧ rule name rest a :=
  obeys_next_bind (fun _ _ => name?_eq_some_iff) hf

theorem obeys_channel_bind {f : UInt8 → Reader α} {rule : UInt8 → Rule α}
    (hf : ∀ n, Obeys (f n) (rule n)) : Obeys (channel >>= f) fun symbols a =>
      ∃ n rest, symbols = .integer n :: rest ∧ rule n rest a :=
  obeys_next_bind (fun _ _ => integer?_eq_some_iff) hf

/-! ## Optional tokens -/

theorem obeys_accept_bind {p : Punct} {f : Bool → Reader α} {found missing : Rule α}
    (hfound : Obeys (f true) found) (hmissing : Obeys (f false) missing)
    (hapart : missing.StartsApart (· = .punct p)) :
    Obeys (accept p >>= f) fun symbols a =>
      (∃ rest, symbols = .punct p :: rest ∧ found rest a) ∨ missing symbols a := by
  have hf : ∀ isThere, Obeys (f isThere) (if isThere then found else missing) := by
    rintro (_ | _)
    · exact hmissing
    · exact hfound
  rw [accept_eq_optional]
  refine (obeys_optional_bind hf ?_).congr fun symbols a => or_congr_left ?_
  · simpa [Rule.StartsApart] using hapart
  · constructor
    · rintro ⟨_, isThere, rest, rfl, ⟨s, rfl, hs⟩, hrule⟩
      dsimp only at hs
      split at hs <;> cases hs
      rename_i hmark
      exact ⟨rest, by rw [hmark]; rfl, hrule⟩
    · rintro ⟨rest, rfl, hrule⟩
      exact ⟨[.punct p], true, rest, rfl, ⟨_, rfl, if_pos rfl⟩, hrule⟩

theorem obeys_acceptInteger_bind {f : Option UInt8 → Reader α} {found : UInt8 → Rule α}
    {missing : Rule α} (hfound : ∀ n, Obeys (f (some n)) (found n))
    (hmissing : Obeys (f none) missing)
    (hapart : missing.StartsApart fun s => ∃ n, s = .integer n) :
    Obeys (acceptInteger >>= f) fun symbols a =>
      (∃ n rest, symbols = .integer n :: rest ∧ found n rest a) ∨ missing symbols a := by
  have hf : ∀ n?, Obeys (f n?) (n?.elim missing found) := by
    rintro (_ | n)
    · exact hmissing
    · exact hfound n
  rw [acceptInteger_eq_optional]
  refine (obeys_optional_bind hf ?_).congr fun symbols a => or_congr_left ?_
  · simpa [Rule.StartsApart, Option.isSome_iff_exists, integer?_eq_some_iff] using hapart
  · constructor
    · rintro ⟨_, n?, rest, rfl, ⟨s, rfl, hs⟩, hrule⟩
      obtain ⟨n, hn, rfl⟩ := Option.map_eq_some_iff.1 hs
      exact ⟨n, rest, by rw [integer?_eq_some_iff.1 hn]; rfl, hrule⟩
    · rintro ⟨n, rest, rfl, hrule⟩
      exact ⟨[.integer n], some n, rest, rfl, ⟨_, rfl, rfl⟩, hrule⟩

/-! ## The mark at the end -/

/-- Just a mark. -/
def endRule (p : Punct) (v : α) : Rule α := fun symbols a => symbols = [.punct p] ∧ a = v

theorem endRule_iff {p : Punct} {v a : α} {symbols : List Symbol} :
    endRule p v symbols a ↔ ∃ rest, symbols = .punct p :: rest ∧ rest = [] ∧ a = v := by
  constructor
  · rintro ⟨rfl, rfl⟩
    exact ⟨[], rfl, rfl, rfl⟩
  · rintro ⟨_, rfl, rfl, rfl⟩
    exact ⟨rfl, rfl⟩

theorem obeys_mark_end (p : Punct) (v : α) : Obeys (mark p >>= fun _ => pure v) (endRule p v) :=
  (obeys_mark_bind p (obeys_pure v)).congr fun _ _ => endRule_iff.symm

theorem obeys_colorMark_end (p : Punct) (v : α) :
    Obeys (colorMark p >>= fun _ => pure v) (endRule p v) :=
  (obeys_colorMark_bind p (obeys_pure v)).congr fun _ _ => endRule_iff.symm

theorem endRule_startsApart {p : Punct} (v : α) {starts : Symbol → Prop}
    (h : ¬ starts (.punct p)) : (endRule p v).StartsApart starts := by
  rintro symbols a ⟨rfl, -⟩
  exact ⟨_, [], rfl, h⟩

/-! ## Values -/

/-- What follows the third channel of a color, through the closing parenthesis. -/
theorem obeys_alpha_bind (g : UInt8 → α) :
    Obeys (alpha >>= fun a => colorMark .rightParen >>= fun _ => pure (g a)) fun symbols v =>
      ∃ alpha comma, symbols = alphaSymbols alpha comma ++ [.punct .rightParen] ∧
        v = g (alpha.getD 255) := by
  have hcomma (a : UInt8) : Obeys ((accept .comma >>= fun _ => pure a) >>= fun a =>
      colorMark .rightParen >>= fun _ => pure (g a)) fun symbols v =>
        (∃ rest, symbols = .punct .comma :: rest ∧ endRule .rightParen (g a) rest v) ∨
          endRule .rightParen (g a) symbols v := by
    rw [bind_assoc]
    exact obeys_accept_bind (obeys_colorMark_end _ _) (obeys_colorMark_end _ _)
      (endRule_startsApart _ (by simp))
  have hinteger : Obeys ((acceptInteger >>= fun a? => match a? with
      | some a => accept .comma >>= fun _ => pure a
      | none => pure 255) >>= fun a => colorMark .rightParen >>= fun _ => pure (g a))
      fun symbols v => (∃ a rest, symbols = .integer a :: rest ∧
        ((∃ rest', rest = .punct .comma :: rest' ∧ endRule .rightParen (g a) rest' v) ∨
          endRule .rightParen (g a) rest v)) ∨ endRule .rightParen (g 255) symbols v := by
    rw [bind_assoc]
    exact obeys_acceptInteger_bind hcomma (obeys_colorMark_end _ _)
      (endRule_startsApart _ (by simp))
  rw [alpha, bind_assoc]
  refine Obeys.congr (obeys_accept_bind hinteger (obeys_colorMark_end _ _)
    (endRule_startsApart _ (by simp))) fun symbols v => ?_
  constructor
  · rintro (⟨_, rfl, ⟨a, _, rfl, ⟨_, rfl, rfl, rfl⟩ | ⟨rfl, rfl⟩⟩ | ⟨rfl, rfl⟩⟩ | ⟨rfl, rfl⟩)
    · exact ⟨some a, true, rfl, rfl⟩
    · exact ⟨some a, false, rfl, rfl⟩
    · exact ⟨none, true, rfl, rfl⟩
    · exact ⟨none, false, rfl, rfl⟩
  · rintro ⟨_ | a, _ | _, rfl, rfl⟩
    · exact .inr ⟨rfl, rfl⟩
    · exact .inl ⟨_, rfl, .inr ⟨rfl, rfl⟩⟩
    · exact .inl ⟨_, rfl, .inl ⟨a, _, rfl, .inr ⟨rfl, rfl⟩⟩⟩
    · exact .inl ⟨_, rfl, .inl ⟨a, _, rfl, .inl ⟨_, rfl, rfl, rfl⟩⟩⟩

theorem obeys_color : Obeys color fun symbols c => ∃ r g b alpha comma,
    symbols = [.integer r, .punct .comma, .integer g, .punct .comma, .integer b] ++
      alphaSymbols alpha comma ++ [.punct .rightParen] ∧ c = ⟨r, g, b, alpha.getD 255⟩ := by
  unfold color
  refine Obeys.congr (obeys_channel_bind fun r => obeys_colorMark_bind .comma <|
    obeys_channel_bind fun g => obeys_colorMark_bind .comma <|
    obeys_channel_bind fun b => obeys_alpha_bind fun a => Color.mk r g b a) fun symbols c => ?_
  constructor
  · rintro ⟨r, _, rfl, _, rfl, g, _, rfl, _, rfl, b, _, rfl, alpha, comma, rfl, rfl⟩
    exact ⟨r, g, b, alpha, comma, rfl, rfl⟩
  · rintro ⟨r, g, b, alpha, comma, rfl, rfl⟩
    exact ⟨r, _, rfl, _, rfl, g, _, rfl, _, rfl, b, _, rfl, alpha, comma, rfl, rfl⟩

theorem obeys_value : Obeys value ValueRule := by
  have hparen : Obeys (color >>= fun c => pure (Value.color c)) _ :=
    obeys_bind obeys_color fun c => obeys_pure (Value.color c)
  have hplain := obeys_next plain? fun _ => .expectedValue
  unfold value
  refine Obeys.congr (obeys_accept_bind hparen hplain ?_) fun symbols v => ?_
  · rintro symbols v ⟨s, rfl, hs⟩
    refine ⟨s, [], rfl, ?_⟩
    rintro rfl
    cases hs
  · constructor
    · rintro (⟨_, rfl, _, c, _, rfl, ⟨r, g, b, alpha, comma, rfl, rfl⟩, rfl, rfl⟩ | ⟨s, rfl, hs⟩)
      · simpa using ValueRule.color r g b alpha comma
      · cases s <;> cases hs
        · exact .reference _
        · exact .string _
        · exact .integer _
    · rintro (⟨content⟩ | ⟨n⟩ | ⟨name⟩ | ⟨r, g, b, alpha, comma⟩)
      · exact .inr ⟨_, rfl, rfl⟩
      · exact .inr ⟨_, rfl, rfl⟩
      · exact .inr ⟨_, rfl, rfl⟩
      · refine .inl ⟨_, rfl, _, _, [], ?_, ⟨r, g, b, alpha, comma, rfl, rfl⟩, rfl, rfl⟩
        simp

theorem obeys_assigned : Obeys assigned AssignedRule := by
  unfold assigned
  refine Obeys.congr (obeys_mark_bind .equalSign <| obeys_bind obeys_value fun v =>
    obeys_mark_bind .semicolon <| obeys_pure v) fun symbols v => ?_
  constructor
  · rintro ⟨_, rfl, symbols, v, _, rfl, hv, _, rfl, rfl, rfl⟩
    exact .mk hv
  · rintro ⟨hv⟩
    exact ⟨_, rfl, _, _, _, rfl, hv, _, rfl, rfl, rfl⟩

/-! ## Statements -/

/-- What follows the name of a slide or block, through the opening brace. -/
theorem obeys_parent_bind (g : Option String → α) :
    Obeys (parent? >>= fun parent => mark .leftBrace >>= fun _ => pure (g parent))
      fun symbols v => ∃ parent, symbols = parentSymbols parent ++ [.punct .leftBrace] ∧
        v = g parent := by
  have hname : Obeys ((name >>= fun parent => pure (some parent)) >>= fun parent =>
      mark .leftBrace >>= fun _ => pure (g parent)) fun symbols v =>
        ∃ parent rest, symbols = .identifier parent :: rest ∧
          endRule .leftBrace (g (some parent)) rest v := by
    rw [bind_assoc]
    exact obeys_name_bind fun parent => obeys_mark_end _ _
  rw [parent?, bind_assoc]
  refine Obeys.congr (obeys_accept_bind hname (obeys_mark_end _ _)
    (endRule_startsApart _ (by simp))) fun symbols v => ?_
  constructor
  · rintro (⟨_, rfl, parent, _, rfl, rfl, rfl⟩ | ⟨rfl, rfl⟩)
    · exact ⟨some parent, rfl, rfl⟩
    · exact ⟨none, rfl, rfl⟩
  · rintro ⟨_ | parent, rfl, rfl⟩
    · exact .inr ⟨rfl, rfl⟩
    · exact .inl ⟨_, rfl, parent, _, rfl, rfl, rfl⟩

/-- What follows the name of a macro, through a mark. -/
theorem obeys_noArguments_bind (p : Punct) (v : α) :
    Obeys (noArguments >>= fun _ => mark p >>= fun _ => pure v) fun symbols a =>
      symbols = [.punct .leftParen, .punct .rightParen, .punct p] ∧ a = v := by
  rw [noArguments, bind_assoc]
  refine Obeys.congr (obeys_mark_bind _ <| obeys_mark_bind _ <| obeys_mark_end p v)
    fun symbols a => ?_
  constructor
  · rintro ⟨_, rfl, _, rfl, rfl, rfl⟩
    exact ⟨rfl, rfl⟩
  · rintro ⟨rfl, rfl⟩
    exact ⟨_, rfl, _, rfl, rfl, rfl⟩

/-- A value that is assigned, made into something else. -/
theorem obeys_assigned_bind (g : Value → α) : Obeys (assigned >>= fun v => pure (g v))
    fun symbols a => ∃ v, AssignedRule symbols v ∧ a = g v := by
  refine (obeys_bind obeys_assigned fun v => obeys_pure (g v)).congr fun symbols a => ?_
  constructor
  · rintro ⟨symbols, v, _, rfl, hv, rfl, rfl⟩
    exact ⟨v, by simpa using hv, rfl⟩
  · rintro ⟨v, hv, rfl⟩
    exact ⟨symbols, v, [], by simp, hv, rfl, rfl⟩

end Reader

/-- What may follow the first token of a statement: the rest of a command, or the rest of a head
with the opening brace. -/
inductive ItemRule (t : Token) : Rule Item
  | command {symbols : List Symbol} {c : Command} : CommandRule (t.symbol :: symbols) c →
      ItemRule t symbols (.command t c)
  | opening {symbols : List Symbol} {head : Head} : HeadRule (t.symbol :: symbols) head →
      ItemRule t (symbols ++ [.punct .leftBrace]) (.opening t head)

/-- The reader of what follows the first token obeys the grammar. -/
theorem obeys_after? {t : Token} {r : Reader Item} (h : Item.after? t = some r) :
    Obeys r (ItemRule t) := by
  unfold Item.after? at h
  split at h
  case h_1 content ht =>
    cases h
    refine (obeys_pure _).congr fun symbols item => ?_
    constructor
    · rintro ⟨rfl, rfl⟩
      exact .command (ht ▸ .text content)
    · rintro (⟨hrule⟩ | ⟨hrule⟩) <;> rw [ht] at hrule <;> cases hrule
      exact ⟨rfl, rfl⟩
  case h_2 ht =>
    cases h
    refine Obeys.congr (obeys_name_bind fun name => obeys_parent_bind fun parent =>
      Item.opening t (.slide name parent)) fun symbols item => ?_
    constructor
    · rintro ⟨name, _, rfl, parent, rfl, rfl⟩
      have hhead : HeadRule (t.symbol :: .identifier name :: parentSymbols parent)
          (.slide name parent) := ht ▸ .slide name parent
      exact .opening hhead
    · rintro (⟨hrule⟩ | ⟨hrule⟩) <;> rw [ht] at hrule <;> cases hrule
      exact ⟨_, _, rfl, _, rfl, rfl⟩
  case h_3 ht =>
    cases h
    refine Obeys.congr (obeys_name_bind fun name => obeys_parent_bind fun parent =>
      Item.opening t (.block name parent)) fun symbols item => ?_
    constructor
    · rintro ⟨name, _, rfl, parent, rfl, rfl⟩
      have hhead : HeadRule (t.symbol :: .identifier name :: parentSymbols parent)
          (.block name parent) := ht ▸ .block name parent
      exact .opening hhead
    · rintro (⟨hrule⟩ | ⟨hrule⟩) <;> rw [ht] at hrule <;> cases hrule
      exact ⟨_, _, rfl, _, rfl, rfl⟩
  case h_4 ht =>
    cases h
    refine Obeys.congr (obeys_name_bind fun name => obeys_noArguments_bind .leftBrace
      (Item.opening t (.macroDef name))) fun symbols item => ?_
    constructor
    · rintro ⟨name, _, rfl, rfl, rfl⟩
      have hhead : HeadRule (t.symbol :: [.identifier name, .punct .leftParen, .punct .rightParen])
          (.macroDef name) := ht ▸ .macroDef name
      exact .opening hhead
    · rintro (⟨hrule⟩ | ⟨hrule⟩) <;> rw [ht] at hrule <;> cases hrule
      exact ⟨_, _, rfl, rfl, rfl⟩
  case h_5 ht =>
    cases h
    refine Obeys.congr (obeys_name_bind fun name => obeys_noArguments_bind .semicolon
      (Item.command t (.call name))) fun symbols item => ?_
    constructor
    · rintro ⟨name, _, rfl, rfl, rfl⟩
      exact .command (ht ▸ .call name)
    · rintro (⟨hrule⟩ | ⟨hrule⟩) <;> rw [ht] at hrule <;> cases hrule
      exact ⟨_, _, rfl, rfl, rfl⟩
  case h_6 ht =>
    cases h
    refine Obeys.congr (obeys_name_bind fun name => obeys_assigned_bind fun v =>
      Item.command t (.declare name false v)) fun symbols item => ?_
    constructor
    · rintro ⟨name, _, rfl, v, hv, rfl⟩
      exact .command (ht ▸ .declareLet name hv)
    · rintro (⟨hrule⟩ | ⟨hrule⟩) <;> rw [ht] at hrule <;> cases hrule
      exact ⟨_, _, rfl, _, ‹_›, rfl⟩
  case h_7 ht =>
    cases h
    refine Obeys.congr (obeys_name_bind fun name => obeys_assigned_bind fun v =>
      Item.command t (.declare name true v)) fun symbols item => ?_
    constructor
    · rintro ⟨name, _, rfl, v, hv, rfl⟩
      exact .command (ht ▸ .declareMut name hv)
    · rintro (⟨hrule⟩ | ⟨hrule⟩) <;> rw [ht] at hrule <;> cases hrule
      exact ⟨_, _, rfl, _, ‹_›, rfl⟩
  case h_8 ht =>
    cases h
    refine Obeys.congr (obeys_mark_bind .dot <| obeys_name_bind fun name =>
      obeys_assigned_bind fun v => Item.command t (.setAttribute name v)) fun symbols item => ?_
    constructor
    · rintro ⟨_, rfl, name, _, rfl, v, hv, rfl⟩
      exact .command (ht ▸ .setAttribute name hv)
    · rintro (⟨hrule⟩ | ⟨hrule⟩) <;> rw [ht] at hrule <;> cases hrule
      exact ⟨_, rfl, _, _, rfl, _, ‹_›, rfl⟩
  case h_9 name ht =>
    cases h
    refine (obeys_assigned_bind fun v => Item.command t (.assign name v)).congr
      fun symbols item => ?_
    constructor
    · rintro ⟨v, hv, rfl⟩
      exact .command (ht ▸ .assign name hv)
    · rintro (⟨hrule⟩ | ⟨hrule⟩) <;> rw [ht] at hrule <;> cases hrule
      exact ⟨_, ‹_›, rfl⟩
  case h_10 => cases h

/-- Where the grammar has a statement, there is a reader of what follows its first token. -/
theorem exists_after? {t : Token} {symbols : List Symbol} {item : Item}
    (h : ItemRule t symbols item) : ∃ r, Item.after? t = some r := by
  unfold Item.after?
  rcases h with ⟨hrule⟩ | ⟨hrule⟩ <;> generalize t.symbol = s at hrule
  · cases hrule <;> exact ⟨_, rfl⟩
  · cases hrule <;> exact ⟨_, rfl⟩

end SlideDeck
