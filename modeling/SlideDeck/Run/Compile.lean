import SlideDeck.Config.Basic
import SlideDeck.Run.Execute

/-!
# The deck of a list of statements

Calling a macro replays its statements, and those may call macros again. A replay is refused where
as many replays are in progress as may be. Without a bound, as many may be as the statements need;
statements that call macros without end need more than any number, and have no deck.

Results:
* `replay_zero`, `replay_succ`: a replay is refused exactly where there is no room for it.
* `compile_bounded`: with a bound there is always an outcome.
-/

namespace SlideDeck

/-- Replays a macro where `room` more replays may be nested, of the `limit` there may be in all (a
call in `Compiler::process`, at the depth `limit - room`). -/
def replay (limit : Nat) : (room : Nat) → Replay
  | 0 => fun _ _ => Action.fail (.macroDepthExceeded limit)
  | room + 1 => fun name body => do
    Action.tell (.macroReplayed name (limit - (room + 1)))
    Action.perform (executeAll (replay limit room) body)

theorem replay_zero (limit : Nat) (name : String) (body : List Statement) :
    replay limit 0 name body = Action.fail (.macroDepthExceeded limit) := rfl

theorem replay_succ (limit room : Nat) (name : String) (body : List Statement) (m : Machine) :
    replay limit (room + 1) name body m =
      { result := .ok ()
        machine := (executeAll (replay limit room) body m).1
        events := .macroReplayed name (limit - (room + 1)) ::
          (executeAll (replay limit room) body m).2 } := rfl

/-- The machine after all statements of a file where at most `limit` replays may be nested, and the
events on the way. -/
def runWithin (limit : Nat) (statements : List Statement) : Machine × List Event :=
  executeAll (replay limit limit) statements {}

/-- Whether the fault is that a replay was refused. -/
def CompileError.isRefusal : CompileError → Bool
  | macroDepthExceeded _ => true
  | _ => false

/-- Whether a replay was refused. -/
def Machine.refused (m : Machine) : Bool := m.reports.any (·.cause.isRefusal)

/-- What a search for a limit comes to here: to the next one if a replay of the statements is
refused under this one. -/
def tryLimit (statements : List Statement) (limit : Nat) : Option (Nat ⊕ Nat) :=
  some (if (runWithin limit statements).1.refused then .inl (limit + 1) else .inr limit)

/-- The first limit under which no replay of the statements is refused. The search for it never ends
if the statements call macros without end. -/
def ampleLimit (statements : List Statement) : Option Nat :=
  -- A search without end could stand for any limit; no refusal rules that out.
  (repeatM (tryLimit statements) 0).filter fun limit => !(runWithin limit statements).1.refused

/-- How many replays of the statements may be nested. -/
def Config.replayLimit (c : Config) (statements : List Statement) : Option Nat :=
  match c.maxMacroDepth with
  | some n => some n.toNat
  | none => ampleLimit statements

/-- The machine after all statements of a file, and the events on the way
(`Compiler::process_all`, from `Compiler::new` on). -/
def runFile (config : Config) (statements : List Statement) : Option (Machine × List Event) :=
  (config.replayLimit statements).map fun limit => runWithin limit statements

/-- What a machine that has come to its end makes of the statements. -/
def Machine.outcome (m : Machine) : Outcome CompileError Deck := ⟨m.deck, m.reports⟩

/-- The deck that the statements describe, if they come to an end (`compile`). -/
def compile (config : Config) (statements : List Statement) : Option (Outcome CompileError Deck) :=
  (runFile config statements).map (·.1.outcome)

theorem compile_bounded (n : UInt64) (statements : List Statement) :
    compile ⟨some n⟩ statements = some (runWithin n.toNat statements).1.outcome := rfl

end SlideDeck
