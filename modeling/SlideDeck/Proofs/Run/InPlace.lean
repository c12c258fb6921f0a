import SlideDeck.Proofs.Scope.InPlace
import SlideDeck.Proofs.Statement.Preorder
import SlideDeck.Run.Compile

/-!
# Carrying out statements in place

Statements change the environment through methods that leave one also when they fail. Carried out
so, they come to the same answers, machines and events as where a new environment is given or none.

Results:
* `executeInPlace_eq`, `executeAllInPlace_eq`: one statement, and a list of them, for any replays.
* `replayInPlace_eq`: so do the statements of macros, however replays are nested.
-/

namespace SlideDeck

namespace Action

/-- Lets a method run on the environment. -/
def inPlace (x : Method Environment Unit) : Action Unit := fun m =>
  let left := x m.env
  { result := left.1, machine := { m with env := left.2 } }

theorem inPlace_ofWriter (f : Environment → Except CompileError Environment) :
    inPlace (Method.ofWriter f) = update f := by
  funext m
  rw [inPlace, update, Method.ofWriter]
  cases f m.env with
  | ok env => rfl
  | error e => rfl

/-- Carries out a command that the token introduced (`Compiler::process`). -/
def commandInPlace (replay : Replay) (t : Token) : Command → Action Unit
  | .text content => inPlace (Environment.onCurrent (Scope.setTextInPlace content))
  | .call name => do
    let body ← look (·.macroBody name)
    replay name body
  | .declare name isMutable value => do
    let v ← look (·.resolve value)
    tell (.variableDeclared name v isMutable)
    inPlace (Environment.onCurrent (Scope.declareVariableInPlace name ⟨v, isMutable, t.mark.line⟩))
  | .assign name value => do
    let v ← look (·.resolve value)
    inPlace (Environment.assignInPlace name v)
  | .setAttribute name value => do
    let a ← look fun _ => Attribute.find name
    let v ← look (·.resolve value)
    inPlace (Environment.onTarget (a.applyInPlace v))

theorem commandInPlace_eq (replay : Replay) (t : Token) (c : Command) :
    commandInPlace replay t c = command replay t c := by
  cases c with
  | text content =>
    rw [commandInPlace, Scope.setTextInPlace_eq, Environment.onCurrent_ofWriter, inPlace_ofWriter]
    rfl
  | call name => rfl
  | declare name isMutable value =>
    simp only [commandInPlace, Scope.declareVariableInPlace_eq, Environment.onCurrent_ofWriter,
      inPlace_ofWriter]
    rfl
  | assign name value =>
    simp only [commandInPlace, Environment.assignInPlace_eq, inPlace_ofWriter]
    rfl
  | setAttribute name value =>
    simp only [commandInPlace, Environment.onTarget_applyInPlace, inPlace_ofWriter]
    rfl

end Action

mutual

/-- Carries out a statement (`Compiler::process`). -/
def executeInPlace (replay : Replay) : Statement → Action Unit
  | .command t c => Action.commandInPlace replay t c
  | .compound _ head body =>
    match head with
    | .slide name parent => Action.build name (·.startSlide parent) (executeAllInPlace replay body)
    | .block name parent => Action.build name (·.startBlock parent) (executeAllInPlace replay body)
    | .macroDef name =>
      Action.inPlace (Environment.onCurrent (Scope.declareMacroInPlace name body))

/-- Carries out statements in order, and reports those that cannot be carried out
(`Compiler::process_all`). -/
def executeAllInPlace (replay : Replay) : List Statement → Machine → Machine × List Event
  | [], m => (m, [])
  | s :: rest, m =>
    let first := executeInPlace replay s m
    let next := match first.result with
      | .ok _ => first.machine
      | .error e => first.machine.report s.token e
    let after := executeAllInPlace replay rest next
    (after.1, first.events ++ after.2)

end

section

variable {replay : Replay} {body rest : List Statement}

/-- The step for a statement with a body, given the same for the body. -/
theorem executeInPlace_compound (t : Token) (head : Head)
    (h : executeAllInPlace replay body = executeAll replay body) :
    executeInPlace replay (.compound t head body) = execute replay (.compound t head body) := by
  cases head with
  | slide name parent => rw [executeInPlace, execute, h]
  | block name parent => rw [executeInPlace, execute, h]
  | macroDef name =>
    rw [executeInPlace, Scope.declareMacroInPlace_eq, Environment.onCurrent_ofWriter,
      Action.inPlace_ofWriter, execute]
    rfl

theorem executeAllInPlace_cons {s : Statement} (hs : executeInPlace replay s = execute replay s)
    (hrest : executeAllInPlace replay rest = executeAll replay rest) :
    executeAllInPlace replay (s :: rest) = executeAll replay (s :: rest) := by
  funext m
  rw [executeAllInPlace, hs, hrest]
  rfl

end

theorem executeAllInPlace_eq (replay : Replay) (statements : List Statement) :
    executeAllInPlace replay statements = executeAll replay statements := by
  induction statements using Statement.listInduction with
  | nil => rfl
  | command t c rest ih =>
    refine executeAllInPlace_cons ?_ ih
    rw [executeInPlace, execute, Action.commandInPlace_eq]
  | compound t head body rest ihbody ih =>
    exact executeAllInPlace_cons (executeInPlace_compound t head ihbody) ih

theorem executeInPlace_eq (replay : Replay) (s : Statement) :
    executeInPlace replay s = execute replay s := by
  cases s with
  | command t c => rw [executeInPlace, execute, Action.commandInPlace_eq]
  | compound t head body => exact executeInPlace_compound t head (executeAllInPlace_eq replay body)

/-- Replays the statements of a macro in place (a call, in `Compiler::process`). -/
def replayInPlace (limit : Nat) : (room : Nat) → Replay
  | 0 => fun _ _ => Action.fail (.macroDepthExceeded limit)
  | room + 1 => fun name body => do
    Action.tell (.macroReplayed name (limit - (room + 1)))
    Action.perform (executeAllInPlace (replayInPlace limit room) body)

theorem replayInPlace_eq (limit room : Nat) : replayInPlace limit room = replay limit room := by
  induction room with
  | zero => rfl
  | succ room ih =>
    funext name body
    simp only [replayInPlace, replay, ih, executeAllInPlace_eq]

end SlideDeck
