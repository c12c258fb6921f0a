import SlideDeck.Run.Action

/-!
# Carrying out statements

Statements are carried out in order. One that cannot be carried out is reported, and the next one
follows. The body of a slide or block is carried out in a scope of its own; the statements of a
macro are carried out where it is called, in the scope of the caller.

Results:
* `executeAll_append`: a list of statements is carried out part by part.
-/

namespace SlideDeck

/-- How the statements of a macro are carried out, given its name (a call in
`Compiler::process`). -/
abbrev Replay := String → List Statement → Action Unit

namespace Environment

/-- What a slide starts from: the background of its parent, or the default (a slide in
`Compiler::process`, before its body). -/
def startSlide (env : Environment) (parent : Option String) : Except CompileError Target :=
  if env.current.kind ≠ .file then .error .slideOutsideFile
  else match parent with
    | none => .ok (.slide {})
    | some name =>
      match env.findSlide? name with
      | some slide => .ok (.slide { background := slide.background })
      | none => .error (.undefinedParentSlide name)

/-- What a block starts from: the style of its parent, or the default (a block in
`Compiler::process`, before its body). -/
def startBlock (env : Environment) (parent : Option String) : Except CompileError Target :=
  if env.current.kind ≠ .slide then .error .blockOutsideSlide
  else match parent with
    | none => .ok (.block {})
    | some name =>
      match env.findBlock? name with
      | some block => .ok (.block { style := block.style })
      | none => .error (.undefinedParentBlock name)

/-- The statements of the macro to be called (a call in `Compiler::process`). -/
def macroBody (env : Environment) (name : String) : Except CompileError (List Statement) :=
  match env.findMacro? name with
  | some body => .ok body
  | none => .error (.undefinedMacro name)

end Environment

namespace Action

/-- Puts a finished slide or block where it belongs, and keeps it under its name for later ones (a
slide or block in `Compiler::process`, after its body). -/
def finish (name : String) (target : Target) : Action Unit := fun m =>
  match target with
  | .slide slide =>
    { result := .ok ()
      machine := { m with
        env := m.env.mapCurrent (·.registerSlide name slide)
        deck := ⟨m.deck.slides ++ [slide]⟩ } }
  | .block block =>
    { result := .ok ()
      machine := { m with
        env := m.env.mapCurrent fun s => (s.registerBlock name block).appendBlock block } }
  | .file => { result := .ok (), machine := m }

/-- Carries out a command that the token introduced (`Compiler::process`). -/
def command (replay : Replay) (t : Token) : Command → Action Unit
  | .text content => update (·.setText content)
  | .call name => do
    let body ← look (·.macroBody name)
    replay name body
  | .declare name isMutable value => do
    let v ← look (·.resolve value)
    tell (.variableDeclared name v isMutable)
    update (·.declareVariable name ⟨v, isMutable, t.mark.line⟩)
  | .assign name value => do
    let v ← look (·.resolve value)
    update (·.assign name v)
  | .setAttribute name value => do
    let a ← look fun _ => Attribute.find name
    let v ← look (·.resolve value)
    update (·.setAttribute a v)

/-- Builds a slide or block in a scope of its own, from what it starts from (a slide or block in
`Compiler::process`, with `Compiler::scoped`). -/
def build (name : String) (start : Environment → Except CompileError Target)
    (body : Machine → Machine × List Event) : Action Unit := do
  let target ← look start
  enter target
  perform body
  finish name (← leave target.kind)

end Action

mutual

/-- Carries out a statement (`Compiler::process`). -/
def execute (replay : Replay) : Statement → Action Unit
  | .command t c => Action.command replay t c
  | .compound _ head body =>
    match head with
    | .slide name parent => Action.build name (·.startSlide parent) (executeAll replay body)
    | .block name parent => Action.build name (·.startBlock parent) (executeAll replay body)
    | .macroDef name => Action.update (·.declareMacro name body)

/-- Carries out statements in order, and reports those that cannot be carried out
(`Compiler::process_all`). -/
def executeAll (replay : Replay) : List Statement → Machine → Machine × List Event
  | [], m => (m, [])
  | s :: rest, m =>
    let first := execute replay s m
    let next := match first.result with
      | .ok _ => first.machine
      | .error e => first.machine.report s.token e
    let after := executeAll replay rest next
    (after.1, first.events ++ after.2)

end

theorem executeAll_append (replay : Replay) (a b : List Statement) (m : Machine) :
    executeAll replay (a ++ b) m =
      ((executeAll replay b (executeAll replay a m).1).1,
        (executeAll replay a m).2 ++ (executeAll replay b (executeAll replay a m).1).2) := by
  induction a generalizing m with
  | nil => simp [executeAll]
  | cons s a ih => simp [executeAll, ih]

end SlideDeck
