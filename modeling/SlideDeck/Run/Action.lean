import SlideDeck.Run.Event
import SlideDeck.Scope.Chain

/-!
# Actions on a machine

A machine holds the environment, the deck as far as it is built, and what was reported so far. An
action changes the machine and tells events; if it fails, the machine may still have changed, so
that it has to be shown where it has not.

Results:
* `Action.update_error`: an update that fails changes nothing.
-/

namespace SlideDeck

/-- What the statements of a file have come to so far (`Compiler`). -/
structure Machine where
  env : Environment := .initial
  deck : Deck := {}
  reports : List (Report CompileError) := []
deriving DecidableEq, Repr

/-- The machine after a statement could not be carried out (`CompileError::at`, in
`Compiler::process_all`). -/
def Machine.report (m : Machine) (t : Token) (e : CompileError) : Machine :=
  { m with reports := m.reports ++ [t.mark.report e] }

/-- What an action leads to. -/
structure Step (α : Type) where
  result : Except CompileError α
  machine : Machine
  /-- The events told on the way, in order. -/
  events : List Event := []
deriving Repr

/-- Something to be done on a machine (a method of `Compiler`). -/
def Action (α : Type) : Type := Machine → Step α

namespace Action

variable {α β : Type}

protected def pure (a : α) : Action α := fun m => { result := .ok a, machine := m }

/-- One action after the other, unless the first one fails. -/
protected def bind (x : Action α) (f : α → Action β) : Action β := fun m =>
  let first := x m
  match first.result with
  | .ok a =>
    let second := f a first.machine
    { second with events := first.events ++ second.events }
  | .error e => { result := .error e, machine := first.machine, events := first.events }

instance : Monad Action where
  pure := Action.pure
  bind := Action.bind

/-- Fails. -/
def fail (e : CompileError) : Action α := fun m => { result := .error e, machine := m }

/-- Tells an event. -/
def tell (e : Event) : Action Unit := fun m => { result := .ok (), machine := m, events := [e] }

/-- Finds something out about the environment. -/
def look (f : Environment → Except CompileError α) : Action α := fun m =>
  { result := f m.env, machine := m }

/-- Changes the environment, unless that fails. -/
def update (f : Environment → Except CompileError Environment) : Action Unit := fun m =>
  match f m.env with
  | .ok env => { result := .ok (), machine := { m with env := env } }
  | .error e => { result := .error e, machine := m }

/-- Lets the machine run. -/
def perform (run : Machine → Machine × List Event) : Action Unit := fun m =>
  { result := .ok (), machine := (run m).1, events := (run m).2 }

/-- Opens a scope that builds the target (`Compiler::scoped`, before the body). -/
def enter (target : Target) : Action Unit := fun m =>
  let env := m.env.push { target := target }
  { result := .ok ()
    machine := { m with env := env }
    events := [.scopeOpened target.kind env.depth] }

/-- Closes the current scope, which was opened for the given kind of target, and hands out its
target (`Compiler::scoped`, after the body). -/
def leave (kind : ScopeKind) : Action Target := fun m =>
  match m.env.pop? with
  | some (scope, env) =>
    { result := .ok scope.target
      machine := { m with env := env }
      events := [.scopeClosed kind env.depth] }
  | none => { result := .ok .file, machine := m, events := [.scopeClosed kind m.env.depth] }

theorem update_error {f : Environment → Except CompileError Environment} {m : Machine}
    {e : CompileError} (h : (update f m).result = .error e) : (update f m).machine = m := by
  unfold update at h ⊢
  split at h <;> simp_all

end Action

end SlideDeck
