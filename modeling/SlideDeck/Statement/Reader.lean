import SlideDeck.Statement.Basic
import SlideDeck.Diagnostic.Report

/-!
# Reading from a list of tokens

A reader takes tokens off the front of a list. Where it fails, the first token that it leaves is the
one that does not fit.

Results:
* `Reader.TakesFront`: what a reader leaves is a suffix of what it was given; closed under `pure`
  and `bind`.
* `Composed.takesFront`: it holds of what is put together from readers of one token.
* `composed_value`, `composed_assigned`: and that are all readers here.
-/

namespace SlideDeck

/-- Why tokens are no statement. -/
inductive ParseError where
  | expected (wanted found : SymbolKind)
  | unexpected (found : SymbolKind)
  | expectedValue
  | malformedColor (wanted found : SymbolKind)
  /-- The input ended before the body of the named declaration did. -/
  | unclosed (name : String)
deriving DecidableEq, Repr

namespace ParseError

/-- The fault in words (`ParseState::expected`, `ParseState::malformed_color`, and where the others
are found). -/
def message : ParseError → String
  | expected wanted found => "Expected " ++ wanted.name ++ ", but was " ++ found.name
  | unexpected found => "Unexpected token " ++ found.name
  | expectedValue => "Expected value"
  | malformedColor wanted found =>
    "Malformed color literal: expected " ++ wanted.name ++ ", but was " ++ found.name
  | unclosed name => "Expected RightBrace to close '" ++ name ++ "', but was EOF"

instance : Cause ParseError := ⟨.parsing, message⟩

end ParseError

/-- Takes tokens off the front; a failure keeps the tokens that were not taken (a method of
`ParseState`). -/
abbrev Reader := EStateM ParseError (List Token)

namespace Reader

/-- What the next token says, if it is a token that `says?` accepts (`ParseState::peek` and
`ParseState::advance`). -/
def next {α : Type} (says? : Symbol → Option α) (error : SymbolKind → ParseError) : Reader α
  | [] => .error (error .endOfInput) []
  | t :: rest =>
    match says? t.symbol with
    | some a => .ok a rest
    | none => .error (error t.kind) (t :: rest)

/-- Takes the next token if it is the given mark, and tells whether it did
(`ParseState::eat_if`). -/
def accept (p : Punct) : Reader Bool
  | [] => .ok false []
  | t :: rest => if t.symbol = .punct p then .ok true rest else .ok false (t :: rest)

/-- Takes the next token if it is an integer. -/
def acceptInteger : Reader (Option UInt8)
  | [] => .ok none []
  | t :: rest =>
    match t.symbol with
    | .integer n => .ok (some n) rest
    | _ => .ok none (t :: rest)

def isMark (p : Punct) (s : Symbol) : Option Unit := if s = .punct p then some () else none

def name? : Symbol → Option String
  | .identifier name => some name
  | _ => none

def integer? : Symbol → Option UInt8
  | .integer n => some n
  | _ => none

/-- The given mark (`ParseState::try_eat`). -/
def mark (p : Punct) : Reader Unit := next (isMark p) (.expected (.punct p))

/-- A name (`ParseState::expect_identifier`). -/
def name : Reader String := next name? (.expected .identifier)

/-- A mark inside a color (`ParseState::color_punctuation`). -/
def colorMark (p : Punct) : Reader Unit := next (isMark p) (.malformedColor (.punct p))

/-- A channel of a color (`ParseState::color_component`). -/
def channel : Reader UInt8 := next integer? (.malformedColor .integer)

/-- What may follow the third channel: a comma, or the alpha channel between commas, the last of
which may be missing. A color without an alpha channel is opaque. -/
def alpha : Reader UInt8 := do
  if ← accept .comma then
    match ← acceptInteger with
    | some a =>
      let _ ← accept .comma
      return a
    | none => return 255
  else return 255

/-- A color after its opening parenthesis (`ParseState::color_literal`). -/
def color : Reader Color := do
  let r ← channel
  colorMark .comma
  let g ← channel
  colorMark .comma
  let b ← channel
  let a ← alpha
  colorMark .rightParen
  return ⟨r, g, b, a⟩

/-- What a value of a single token stands for. -/
def plain? : Symbol → Option Value
  | .string s => some (.string s)
  | .integer n => some (.integer n)
  | .identifier name => some (.reference name)
  | _ => none

/-- A value; an opening parenthesis starts a color (`ParseState::value`). -/
def value : Reader Value := do
  if ← accept .leftParen then return .color (← color)
  next plain? fun _ => .expectedValue

/-- What follows the name in `name = value;` (`ParseState::assignment`). -/
def assigned : Reader Value := do
  mark .equalSign
  let v ← value
  mark .semicolon
  return v

/-- The parent in `name : parent`, if there is one (`ParseState::scoped`). -/
def parent? : Reader (Option String) := do
  if ← accept .colon then return some (← name) else return none

/-- What follows the name of a macro (`ParseState::scoped`, `ParseState::call`). -/
def noArguments : Reader Unit := do
  mark .leftParen
  mark .rightParen

/-! ## What readers leave -/

/-- The tokens left by a reader, whether it failed or not. -/
def left {α : Type} : EStateM.Result ParseError (List Token) α → List Token
  | .ok _ rest => rest
  | .error _ rest => rest

/-- Whatever the reader leaves is the end of what it was given. -/
def TakesFront {α : Type} (r : Reader α) : Prop := ∀ tokens, left (r tokens) <:+ tokens

variable {α β : Type}

theorem takesFront_pure (a : α) : TakesFront (pure a) := fun _ => List.suffix_refl _

theorem takesFront_bind {r : Reader α} {f : α → Reader β} (hr : TakesFront r)
    (hf : ∀ a, TakesFront (f a)) : TakesFront (r >>= f) := by
  intro tokens
  have h := hr tokens
  change left (EStateM.bind r f tokens) <:+ tokens
  unfold EStateM.bind
  split
  · rename_i a rest hok
    rw [hok] at h
    exact (hf a rest).trans h
  · rename_i e rest herr
    rw [herr] at h
    exact h

theorem takesFront_next (says? : Symbol → Option α) (error : SymbolKind → ParseError) :
    TakesFront (next says? error) := by
  intro tokens
  unfold next
  split
  · exact List.suffix_refl _
  · split
    · exact List.suffix_cons _ _
    · exact List.suffix_refl _

theorem takesFront_accept (p : Punct) : TakesFront (accept p) := by
  intro tokens
  unfold accept
  split
  · exact List.suffix_refl _
  · split
    · exact List.suffix_cons _ _
    · exact List.suffix_refl _

theorem takesFront_acceptInteger : TakesFront acceptInteger := by
  intro tokens
  unfold acceptInteger
  split
  · exact List.suffix_refl _
  · split
    · exact List.suffix_cons _ _
    · exact List.suffix_refl _

/-! ## Readers of more than one token

What holds of the readers of one token, and of one reader after the other, holds of all readers
here. -/

/-- The reader is put together from readers of one token, whose faults are about that token. -/
inductive Composed : {α : Type} → Reader α → Prop
  | pure {α : Type} (a : α) : Composed (pure a)
  | next {α : Type} (says? : Symbol → Option α) {error : SymbolKind → ParseError} :
      (∀ found name, error found ≠ .unclosed name) → Composed (next says? error)
  | accept (p : Punct) : Composed (accept p)
  | acceptInteger : Composed acceptInteger
  | bind {α β : Type} {r : Reader α} {f : α → Reader β} : Composed r → (∀ a, Composed (f a)) →
      Composed (r >>= f)

theorem Composed.takesFront {r : Reader α} (h : Composed r) : TakesFront r := by
  induction h with
  | pure a => exact takesFront_pure a
  | next says? => exact takesFront_next says? _
  | accept p => exact takesFront_accept p
  | acceptInteger => exact takesFront_acceptInteger
  | bind _ _ ihr ihf => exact takesFront_bind ihr ihf

theorem composed_mark (p : Punct) : Composed (mark p) := .next _ nofun

theorem composed_name : Composed name := .next _ nofun

theorem composed_colorMark (p : Punct) : Composed (colorMark p) := .next _ nofun

theorem composed_channel : Composed channel := .next _ nofun

theorem composed_alpha : Composed alpha := by
  refine .bind (.accept _) fun found => ?_
  split
  · refine .bind .acceptInteger fun a? => ?_
    split
    · exact .bind (.accept _) fun _ => .pure _
    · exact .pure _
  · exact .pure _

theorem composed_color : Composed color :=
  .bind composed_channel fun _ =>
  .bind (composed_colorMark _) fun _ =>
  .bind composed_channel fun _ =>
  .bind (composed_colorMark _) fun _ =>
  .bind composed_channel fun _ =>
  .bind composed_alpha fun _ =>
  .bind (composed_colorMark _) fun _ => .pure _

theorem composed_value : Composed value := by
  refine .bind (.accept _) fun found => ?_
  split
  · exact .bind composed_color fun _ => .pure _
  · exact .next _ nofun

theorem composed_assigned : Composed assigned :=
  .bind (composed_mark _) fun _ => .bind composed_value fun _ =>
  .bind (composed_mark _) fun _ => .pure _

theorem composed_parent? : Composed parent? := by
  refine .bind (.accept _) fun found => ?_
  split
  · exact .bind composed_name fun _ => .pure _
  · exact .pure _

theorem composed_noArguments : Composed noArguments :=
  .bind (composed_mark _) fun _ => composed_mark _

end Reader

end SlideDeck
