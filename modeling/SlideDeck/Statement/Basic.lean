import SlideDeck.Deck.Color
import SlideDeck.Token.Basic

/-!
# Statements

A statement is a command, or a declaration with statements of its own between braces. Each keeps the
token that introduced it, so that what is said about it later can point to the source.
-/

namespace SlideDeck

/-- A value as written (`Value`). -/
inductive Value where
  | string (content : String)
  | integer (n : UInt8)
  | color (c : Color)
  /-- The value that a variable has when the statement is reached. -/
  | reference (name : String)
deriving DecidableEq, Repr

/-- What a statement without a body asks for (`Statement`, its variants without a body). -/
inductive Command where
  /-- The text of the block. -/
  | text (content : String)
  /-- The statements of a macro. -/
  | call (name : String)
  | declare (name : String) (isMutable : Bool) (value : Value)
  | assign (name : String) (value : Value)
  /-- A property of the slide or block. -/
  | setAttribute (name : String) (value : Value)
deriving DecidableEq, Repr

/-- What a body belongs to (`Statement`, its variants with a body). A slide or block may start from
an earlier one, its parent. -/
inductive Head where
  | slide (name : String) (parent : Option String)
  | block (name : String) (parent : Option String)
  | macroDef (name : String)
deriving DecidableEq, Repr

def Head.name : Head → String
  | slide name _ => name
  | block name _ => name
  | macroDef name => name

/-- A statement with the token that introduced it (`Statement`). -/
inductive Statement where
  | command (token : Token) (command : Command)
  | compound (token : Token) (head : Head) (body : List Statement)
deriving Repr

namespace Statement

mutual

/-- Whether two statements are the same. -/
def decEq : (a b : Statement) → Decidable (a = b)
  | command t c, command u d =>
    if h : t = u ∧ c = d then isTrue (by rw [h.1, h.2]) else isFalse (by simpa using h)
  | compound t head body, compound u head' body' =>
    match decEqAll body body' with
    | isTrue hb =>
      if h : t = u ∧ head = head' then isTrue (by rw [h.1, h.2, hb])
      else isFalse (by simp only [compound.injEq]; exact fun e => h ⟨e.1, e.2.1⟩)
    | isFalse hb => isFalse (by simp only [compound.injEq]; exact fun e => hb e.2.2)
  | command _ _, compound _ _ _ => isFalse (by simp)
  | compound _ _ _, command _ _ => isFalse (by simp)

/-- Whether two lists of statements are the same. -/
def decEqAll : (a b : List Statement) → Decidable (a = b)
  | [], [] => isTrue rfl
  | s :: rest, s' :: rest' =>
    match decEq s s' with
    | isTrue hs =>
      match decEqAll rest rest' with
      | isTrue hr => isTrue (by rw [hs, hr])
      | isFalse hr => isFalse (by simp only [List.cons.injEq]; exact fun e => hr e.2)
    | isFalse hs => isFalse (by simp only [List.cons.injEq]; exact fun e => hs e.1)
  | [], _ :: _ => isFalse (by simp)
  | _ :: _, [] => isFalse (by simp)

end

instance : DecidableEq Statement := decEq

end Statement

/-- The token that introduced the statement (`Statement::token`). -/
def Statement.token : Statement → Token
  | command token _ => token
  | compound token _ _ => token

end SlideDeck
