import Mathlib.Logic.Embedding.Basic
import SlideDeck.Statement.Basic

/-!
# Renaming

Variables, macros, slides and blocks have a namespace each. A renaming gives the names of every
namespace new ones, and different ones if they were different. It may make names of different
namespaces the same, or cease to be the same. The names of attributes belong to no namespace.
-/

namespace SlideDeck

/-- What a name may stand for. -/
inductive Namespace where
  | bindings
  | macros
  | slides
  | blocks
deriving DecidableEq, Repr

/-- New names for those of each namespace. -/
abbrev Renaming : Type := Namespace → String ↪ String

def Value.rename (ρ : Renaming) : Value → Value
  | .string content => .string content
  | .integer n => .integer n
  | .color c => .color c
  | .reference name => .reference (ρ .bindings name)

def Command.rename (ρ : Renaming) : Command → Command
  | .text content => .text content
  | .call name => .call (ρ .macros name)
  | .declare name isMutable value => .declare (ρ .bindings name) isMutable (value.rename ρ)
  | .assign name value => .assign (ρ .bindings name) (value.rename ρ)
  | .setAttribute name value => .setAttribute name (value.rename ρ)

def Head.rename (ρ : Renaming) : Head → Head
  | .slide name parent => .slide (ρ .slides name) (parent.map (ρ .slides))
  | .block name parent => .block (ρ .blocks name) (parent.map (ρ .blocks))
  | .macroDef name => .macroDef (ρ .macros name)

mutual

/-- The statement with the names renamed, those in its body included. -/
def Statement.rename (ρ : Renaming) : Statement → Statement
  | .command t c => .command t (c.rename ρ)
  | .compound t head body => .compound t (head.rename ρ) (renameAll ρ body)

/-- The statements with the names renamed. -/
def renameAll (ρ : Renaming) : List Statement → List Statement
  | [] => []
  | s :: rest => s.rename ρ :: renameAll ρ rest

end

section

variable (ρ : Renaming)

@[simp] theorem renameAll_nil : renameAll ρ [] = [] := by simp [renameAll]

@[simp] theorem renameAll_cons (s : Statement) (rest : List Statement) :
    renameAll ρ (s :: rest) = s.rename ρ :: renameAll ρ rest := by simp [renameAll]

@[simp] theorem Statement.rename_command (t : Token) (c : Command) :
    (Statement.command t c).rename ρ = .command t (c.rename ρ) := by simp [Statement.rename]

@[simp] theorem Statement.rename_compound (t : Token) (head : Head) (body : List Statement) :
    (Statement.compound t head body).rename ρ = .compound t (head.rename ρ) (renameAll ρ body) := by
  simp [Statement.rename]

@[simp] theorem Statement.token_rename (s : Statement) : (s.rename ρ).token = s.token := by
  cases s <;> simp [Statement.token]

end

end SlideDeck
