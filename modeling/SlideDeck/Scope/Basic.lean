import SlideDeck.Scope.Setting
import SlideDeck.Scope.Table
import SlideDeck.Statement.Basic

/-!
# Scopes

A scope belongs to a file or to the body of a slide or block. It holds what is being built there,
and the variables, the macros, and the finished slides and blocks that were declared there; each
kind of name has a table of its own.

Results:
* `Scope.declareVariable_eq_ok_iff`, `Scope.declareMacro_eq_ok_iff`: what is new can be declared.
* `Scope.setText_eq_ok_iff`: a block can be given a text.
-/

namespace SlideDeck

/-- A variable (`Binding`). -/
structure Binding where
  value : Constant
  /-- Whether the value may be replaced. -/
  isMutable : Bool
  /-- The line of the declaration. -/
  line : Nat
deriving DecidableEq, Repr

/-- What was declared in one place, and what is built there (`Scope`). -/
structure Scope where
  target : Target
  bindings : Table Binding := {}
  macros : Table (List Statement) := {}
  /-- The finished slides, for later ones to start from; a new one takes the place of one of its
  name. -/
  slides : Table Slide := {}
  /-- The finished blocks, likewise. -/
  blocks : Table Block := {}
deriving DecidableEq, Repr

namespace Scope

def kind (s : Scope) : ScopeKind := s.target.kind

/-- Declares a variable; a scope has at most one of a name (`Scope::declare_variable`). -/
def declareVariable (s : Scope) (name : String) (b : Binding) : Except CompileError Scope :=
  if s.bindings.has name then .error (.variableRedeclared name)
  else .ok { s with bindings := s.bindings.insert name b }

/-- Declares a macro; a scope has at most one of a name (`Scope::declare_macro`). -/
def declareMacro (s : Scope) (name : String) (body : List Statement) : Except CompileError Scope :=
  if s.macros.has name then .error (.macroRedeclared name)
  else .ok { s with macros := s.macros.insert name body }

theorem declareVariable_eq_ok_iff {s s' : Scope} {name : String} {b : Binding} :
    s.declareVariable name b = .ok s' ↔
      s.bindings.has name = false ∧ s' = { s with bindings := s.bindings.insert name b } := by
  unfold declareVariable
  cases s.bindings.has name <;> simp [eq_comm]

theorem declareMacro_eq_ok_iff {s s' : Scope} {name : String} {body : List Statement} :
    s.declareMacro name body = .ok s' ↔
      s.macros.has name = false ∧ s' = { s with macros := s.macros.insert name body } := by
  unfold declareMacro
  cases s.macros.has name <;> simp [eq_comm]

/-- Keeps a finished slide (`Scope::register_slide`). -/
def registerSlide (s : Scope) (name : String) (slide : Slide) : Scope :=
  { s with slides := s.slides.insert name slide }

/-- Keeps a finished block (`Scope::register_block`). -/
def registerBlock (s : Scope) (name : String) (block : Block) : Scope :=
  { s with blocks := s.blocks.insert name block }

/-- Sets an attribute of what is being built (`Attribute::apply` on `Scope::target_mut`). -/
def setAttribute (s : Scope) (a : Attribute) (v : Constant) : Except CompileError Scope :=
  (s.target.set a v).map fun target => { s with target := target }

/-- Sets the text of the block that is being built (`Compiler::process`). -/
def setText (s : Scope) (text : String) : Except CompileError Scope :=
  match s.target with
  | .block b => .ok { s with target := .block { b with text := text } }
  | _ => .error .textOutsideBlock

theorem setText_eq_ok_iff {s s' : Scope} {text : String} :
    s.setText text = .ok s' ↔
      ∃ b, s.target = .block b ∧ s' = { s with target := .block { b with text := text } } := by
  unfold setText
  cases s.target <;> simp [eq_comm]

/-- Puts a block behind those of the slide that is being built (`Compiler::process`). -/
def appendBlock (s : Scope) (block : Block) : Scope :=
  match s.target with
  | .slide slide => { s with target := .slide { slide with blocks := slide.blocks ++ [block] } }
  | _ => s

end Scope

end SlideDeck
