import Mathlib.Data.List.Forall2
import SlideDeck.Proofs.Statement.Preorder

/-!
# Statements that differ in their tokens

Each statement keeps the token that introduced it. Two statements are alike if they are the same but
for those tokens, which correspond to each other, at any nesting.
-/

namespace SlideDeck

/-- The statements are the same but for their tokens, which correspond to each other. -/
inductive Statement.Alike (token : Token → Token → Prop) : Statement → Statement → Prop
  | command {t u : Token} {c : Command} : token t u →
      Statement.Alike token (.command t c) (.command u c)
  | compound {t u : Token} {head : Head} {body body' : List Statement} : token t u →
      List.Forall₂ (Statement.Alike token) body body' →
      Statement.Alike token (.compound t head body) (.compound u head body')

variable {corresponds : Token → Token → Prop}

theorem Statement.Alike.token {s s' : Statement} (h : s.Alike corresponds s') :
    corresponds s.token s'.token := by
  cases h with
  | command htoken => exact htoken
  | compound htoken _ => exact htoken

theorem forall₂_alike_refl (htoken : ∀ t, corresponds t t) (statements : List Statement) :
    List.Forall₂ (Statement.Alike corresponds) statements statements := by
  induction statements using Statement.listInduction with
  | nil => exact .nil
  | command t c rest ih => exact .cons (.command (htoken t)) ih
  | compound t head body rest ihbody ih => exact .cons (.compound (htoken t) ihbody) ih

end SlideDeck
