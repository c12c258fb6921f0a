import SlideDeck.Statement.Basic

/-!
# Statements inside statements

A statement stands in a list of statements or in the body of a declaration of the list, at any
nesting. Read in preorder, each declaration comes before the statements of its body.

Results:
* `Statement.listInduction`: what holds of the empty list, and carries over to a list with one more
  command or declaration in front, holds of every list of statements.
* `calls_command`, `calls_compound`: the macros that a list calls, statement by statement.
* `macroFree_command`, `macroFree_compound`: likewise for lists that declare no macro.
* `preorder_subset_of_mem`: what stands in a body stands wherever the declaration stands.
-/

namespace SlideDeck

/-- Induction on a list of statements, the bodies of its declarations included. -/
theorem Statement.listInduction {P : List Statement → Prop} (nil : P [])
    (command : ∀ t c rest, P rest → P (.command t c :: rest))
    (compound : ∀ t head body rest, P body → P rest → P (.compound t head body :: rest)) :
    ∀ statements, P statements := by
  refine Statement.rec_1 (motive_1 := fun s => ∀ rest, P rest → P (s :: rest)) (motive_2 := P)
    ?_ ?_ nil ?_
  · intro t c rest hrest
    exact command t c rest hrest
  · intro t head body hbody rest hrest
    exact compound t head body rest hbody hrest
  · intro s rest hs hrest
    exact hs rest hrest

mutual

/-- The statement and those of its body. -/
def Statement.withInner : Statement → List Statement
  | .command t c => [.command t c]
  | .compound t head body => .compound t head body :: preorder body

/-- The statements of the list and those of their bodies, each declaration before its body. -/
def preorder : List Statement → List Statement
  | [] => []
  | s :: rest => s.withInner ++ preorder rest

end

@[simp] theorem preorder_nil : preorder [] = [] := by simp [preorder]

@[simp] theorem preorder_command (t : Token) (c : Command) (rest : List Statement) :
    preorder (.command t c :: rest) = .command t c :: preorder rest := by
  simp [preorder, Statement.withInner]

@[simp] theorem preorder_compound (t : Token) (head : Head) (body rest : List Statement) :
    preorder (.compound t head body :: rest) =
      .compound t head body :: (preorder body ++ preorder rest) := by
  simp [preorder, Statement.withInner]

@[simp] theorem preorder_append (a b : List Statement) :
    preorder (a ++ b) = preorder a ++ preorder b := by
  induction a with
  | nil => simp
  | cons s a ih => simp [preorder, ih]

theorem mem_preorder_head (s : Statement) (rest : List Statement) : s ∈ preorder (s :: rest) := by
  cases s <;> simp

theorem preorder_subset_cons (s : Statement) (rest : List Statement) :
    preorder rest ⊆ preorder (s :: rest) := by
  rw [preorder]
  exact List.subset_append_right _ _

/-- What stands in a body stands wherever the declaration stands. -/
theorem preorder_subset_of_mem {t : Token} {head : Head} {body statements : List Statement}
    (h : .compound t head body ∈ preorder statements) : preorder body ⊆ preorder statements := by
  induction statements using Statement.listInduction with
  | nil => simp at h
  | command u c rest ih =>
    obtain h | h := List.mem_cons.1 (preorder_command u c rest ▸ h)
    · cases h
    · exact List.Subset.trans (ih h) (preorder_subset_cons _ _)
  | compound u head' body' rest ihbody ih =>
    have hbody : preorder body' ⊆ preorder (.compound u head' body' :: rest) := by
      simp +contextual [List.subset_def]
    obtain h | h := List.mem_cons.1 (preorder_compound u head' body' rest ▸ h)
    · cases h
      exact hbody
    · obtain h | h := List.mem_append.1 h
      · exact List.Subset.trans (ihbody h) hbody
      · exact List.Subset.trans (ih h) (preorder_subset_cons _ _)

/-- The value that the statement writes. -/
def Statement.value? : Statement → Option Value
  | .command _ (.declare _ _ value) => some value
  | .command _ (.assign _ value) => some value
  | .command _ (.setAttribute _ value) => some value
  | _ => none

/-- The name of the macro that the statement calls. -/
def Statement.called? : Statement → Option String
  | .command _ (.call name) => some name
  | _ => none

@[simp] theorem Statement.called?_compound (t : Token) (head : Head) (body : List Statement) :
    (Statement.compound t head body).called? = none := rfl

theorem Statement.eq_call_of_called? {s : Statement} {name : String} (h : s.called? = some name) :
    ∃ t, s = .command t (.call name) := by
  unfold called? at h
  split at h
  · cases h
    exact ⟨_, rfl⟩
  · cases h

/-- Whether the statement declares a macro. -/
def Statement.isMacro : Statement → Bool
  | .compound _ (.macroDef _) _ => true
  | _ => false

@[simp] theorem Statement.isMacro_command (t : Token) (c : Command) :
    (Statement.command t c).isMacro = false := rfl

theorem Statement.isMacro_compound {t : Token} {head : Head} {body : List Statement} :
    (Statement.compound t head body).isMacro = false ↔ ∀ name, head ≠ .macroDef name := by
  cases head <;> simp [isMacro]

/-- The names of the macros that the statements call, at any nesting. -/
def calls (statements : List Statement) : List String :=
  (preorder statements).filterMap Statement.called?

/-- No statement declares a macro, at any nesting. -/
def MacroFree (statements : List Statement) : Prop :=
  ∀ s ∈ preorder statements, s.isMacro = false

/-- Every macro that the statements declare, at any nesting, has such a body. -/
def DeclaresOnly (good : List Statement → Prop) (statements : List Statement) : Prop :=
  ∀ t name body, .compound t (.macroDef name) body ∈ preorder statements → good body

/-- Whether the statement assigns to a variable. -/
def Statement.isAssign : Statement → Bool
  | .command _ (.assign _ _) => true
  | _ => false

/-- No statement assigns to a variable, at any nesting. -/
def AssignFree (statements : List Statement) : Prop :=
  ∀ s ∈ preorder statements, s.isAssign = false

@[simp] theorem calls_nil : calls [] = [] := by simp [calls]

theorem calls_command (t : Token) (c : Command) (rest : List Statement) :
    calls (.command t c :: rest) = (Statement.command t c).called?.toList ++ calls rest := by
  cases h : (Statement.command t c).called? <;> simp [calls, h]

@[simp] theorem calls_compound (t : Token) (head : Head) (body rest : List Statement) :
    calls (.compound t head body :: rest) = calls body ++ calls rest := by
  simp [calls, List.filterMap_cons]

@[simp] theorem macroFree_nil : MacroFree [] := by simp [MacroFree]

@[simp] theorem macroFree_command {t : Token} {c : Command} {rest : List Statement} :
    MacroFree (.command t c :: rest) ↔ MacroFree rest := by
  simp [MacroFree]

@[simp] theorem macroFree_compound {t : Token} {head : Head} {body rest : List Statement} :
    MacroFree (.compound t head body :: rest) ↔
      (∀ name, head ≠ .macroDef name) ∧ MacroFree body ∧ MacroFree rest := by
  simp only [MacroFree, preorder_compound, List.forall_mem_cons, List.forall_mem_append,
    Statement.isMacro_compound]

theorem MacroFree.head {s : Statement} {rest : List Statement} (h : MacroFree (s :: rest)) :
    s.isMacro = false :=
  h s (mem_preorder_head s rest)

theorem MacroFree.tail {s : Statement} {rest : List Statement} (h : MacroFree (s :: rest)) :
    MacroFree rest :=
  fun s' hs' => h s' (preorder_subset_cons s rest hs')

theorem macroFree_append {a b : List Statement} :
    MacroFree (a ++ b) ↔ MacroFree a ∧ MacroFree b := by
  simp only [MacroFree, preorder_append, List.forall_mem_append]

@[simp] theorem calls_append (a b : List Statement) : calls (a ++ b) = calls a ++ calls b := by
  simp [calls]

/-- A list of statements calls nothing if its first statement is no call, nor any in the body of
that, and the rest calls nothing. -/
theorem called?_of_calls_eq_nil {s : Statement} {rest : List Statement}
    (h : calls (s :: rest) = []) : s.called? = none ∧ calls rest = [] := by
  cases s with
  | command t c => simpa [calls_command] using h
  | compound t head body => simp_all

/-! ## What holds at any nesting -/

section

variable {s : Statement} {rest body statements : List Statement} {t : Token} {opening : Head}

theorem DeclaresOnly.tail {good : List Statement → Prop} (h : DeclaresOnly good (s :: rest)) :
    DeclaresOnly good rest :=
  fun t name body hbody => h t name body (preorder_subset_cons s rest hbody)

theorem DeclaresOnly.of_mem {good : List Statement → Prop} (h : DeclaresOnly good statements)
    (hmem : .compound t opening body ∈ preorder statements) : DeclaresOnly good body :=
  fun t name inner hinner => h t name inner (preorder_subset_of_mem hmem hinner)

theorem AssignFree.head (h : AssignFree (s :: rest)) : s.isAssign = false :=
  h s (mem_preorder_head s rest)

theorem AssignFree.tail (h : AssignFree (s :: rest)) : AssignFree rest :=
  fun s' hs' => h s' (preorder_subset_cons s rest hs')

theorem AssignFree.of_mem (h : AssignFree statements)
    (hmem : .compound t opening body ∈ preorder statements) : AssignFree body :=
  fun s hs => h s (preorder_subset_of_mem hmem hs)

theorem AssignFree.declaresOnly (h : AssignFree statements) : DeclaresOnly AssignFree statements :=
  fun _ _ _ hmem => h.of_mem hmem

end

end SlideDeck
