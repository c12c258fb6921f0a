import SlideDeck.Proofs.Statement.Preorder
import SlideDeck.Scope.Constant

/-!
# A constant in the place of a variable

A reference to a variable may stand wherever a value is written. If the variable always has the same
value, that constant may be written there instead.

Results:
* `Untouched.of_mem`: what leaves a variable alone does so in every body.
-/

namespace SlideDeck

/-- The constant as it is written. -/
def Constant.literal : Constant → Value
  | .integer n => .integer n
  | .string s => .string s
  | .color c => .color c

/-- The value with the constant in the place of a reference to `x`. -/
def Value.subst (x : String) (c : Constant) : Value → Value
  | .reference name => if name = x then c.literal else .reference name
  | v => v

def Command.subst (x : String) (c : Constant) : Command → Command
  | .declare name isMutable value => .declare name isMutable (value.subst x c)
  | .assign name value => .assign name (value.subst x c)
  | .setAttribute name value => .setAttribute name (value.subst x c)
  | command => command

mutual

/-- The statement with the constant in the place of every reference to `x`, those in its body
included. -/
def Statement.subst (x : String) (c : Constant) : Statement → Statement
  | .command t command => .command t (command.subst x c)
  | .compound t head body => .compound t head (substAll x c body)

/-- The statements with the constant in the place of every reference to `x`. -/
def substAll (x : String) (c : Constant) : List Statement → List Statement
  | [] => []
  | s :: rest => s.subst x c :: substAll x c rest

end

section

variable (x : String) (c : Constant)

@[simp] theorem substAll_nil : substAll x c [] = [] := by simp [substAll]

@[simp] theorem substAll_cons (s : Statement) (rest : List Statement) :
    substAll x c (s :: rest) = s.subst x c :: substAll x c rest := by simp [substAll]

@[simp] theorem Statement.subst_command (t : Token) (command : Command) :
    (Statement.command t command).subst x c = .command t (command.subst x c) := by
  simp [Statement.subst]

@[simp] theorem Statement.subst_compound (t : Token) (head : Head) (body : List Statement) :
    (Statement.compound t head body).subst x c = .compound t head (substAll x c body) := by
  simp [Statement.subst]

@[simp] theorem Statement.token_subst (s : Statement) : (s.subst x c).token = s.token := by
  cases s <;> simp [Statement.token]

end

/-! ## Statements that leave a variable alone -/

/-- Whether the statement declares the variable or assigns to it. -/
def Statement.touches (x : String) : Statement → Bool
  | .command _ (.declare name _ _) => name == x
  | .command _ (.assign name _) => name == x
  | _ => false

/-- No statement declares the variable or assigns to it, at any nesting. -/
def Untouched (x : String) (statements : List Statement) : Prop :=
  ∀ s ∈ preorder statements, s.touches x = false

namespace Untouched

variable {x : String} {s : Statement} {rest body statements : List Statement} {t : Token}
  {opening : Head}

theorem head (h : Untouched x (s :: rest)) : s.touches x = false := h s (mem_preorder_head s rest)

theorem tail (h : Untouched x (s :: rest)) : Untouched x rest :=
  fun s' hs' => h s' (preorder_subset_cons s rest hs')

theorem of_mem (h : Untouched x statements)
    (hmem : .compound t opening body ∈ preorder statements) : Untouched x body :=
  fun s hs => h s (preorder_subset_of_mem hmem hs)

theorem declaresOnly (h : Untouched x statements) : DeclaresOnly (Untouched x) statements :=
  fun _ _ _ hmem => h.of_mem hmem

end Untouched

end SlideDeck
