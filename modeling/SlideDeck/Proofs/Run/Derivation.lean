import SlideDeck.Run.Compile
import SlideDeck.Proofs.Statement.Preorder

/-!
# Runs as derivations

A statement is first looked at in its environment: it fails there, or it has an effect. The effect
is a changed environment, a slide or block to be built from a body, or the statements of a macro to
be replayed. A run of a list of statements is a derivation with one rule for each of these.

Results:
* `Statement.effect_eq_build_iff`, `Statement.effect_eq_replay_iff`, `Statement.change_cases`: which
  statements have which effect.
* `execute_follows`: carrying out a statement is finding out its effect and performing it.
* `runs_iff`: the derivable runs are those of `executeAll`.
-/

namespace SlideDeck

/-! ## The effect of a statement -/

/-- What carrying out a statement comes to. -/
inductive Effect where
  | change (env : Environment)
  /-- A slide or block of the name is built from the target by the statements of its body. -/
  | build (name : String) (target : Target) (body : List Statement)
  /-- The statements of a macro are carried out in place of the call. -/
  | replay (body : List Statement)

/-- The effect of a command where `room` more replays may be nested, of `limit` in all. -/
def Command.effect (limit room : Nat) (t : Token) (env : Environment) :
    Command → Except CompileError Effect
  | .text content => (env.setText content).map .change
  | .call name => (env.macroBody name).bind fun body =>
      if room = 0 then .error (.macroDepthExceeded limit) else .ok (.replay body)
  | .declare name isMutable value => (env.resolve value).bind fun v =>
      (env.declareVariable name ⟨v, isMutable, t.mark.line⟩).map .change
  | .assign name value => (env.resolve value).bind fun v => (env.assign name v).map .change
  | .setAttribute name value => (Attribute.find name).bind fun a =>
      (env.resolve value).bind fun v => (env.setAttribute a v).map .change

/-- The effect of a statement. -/
def Statement.effect (limit room : Nat) (env : Environment) :
    Statement → Except CompileError Effect
  | .command t c => c.effect limit room t env
  | .compound _ (.slide name parent) body => (env.startSlide parent).map (.build name · body)
  | .compound _ (.block name parent) body => (env.startBlock parent).map (.build name · body)
  | .compound _ (.macroDef name) body => (env.declareMacro name body).map .change

namespace Machine

/-- The machine in a new scope that builds the target. -/
def enter (m : Machine) (target : Target) : Machine :=
  { m with env := m.env.push { target := target } }

/-- The machine after the current scope is closed, and what was built there is in its place. -/
def close (m : Machine) (name : String) : Machine :=
  match m.env.pop? with
  | some (scope, env) => (Action.finish name scope.target { m with env := env }).machine
  | none => m

end Machine

/-! ## Which statements have which effect -/

theorem map_eq_ok_iff {ε α β : Type} {x : Except ε α} {f : α → β} {b : β} :
    x.map f = .ok b ↔ ∃ a, x = .ok a ∧ f a = b := by
  cases x <;> simp [Except.map]

theorem bind_eq_ok_iff {ε α β : Type} {x : Except ε α} {f : α → Except ε β} {b : β} :
    x.bind f = .ok b ↔ ∃ a, x = .ok a ∧ f a = .ok b := by
  cases x <;> simp [Except.bind]

section

variable {limit room : Nat} {env : Environment} {s : Statement}

theorem Command.effect_ne_build (t : Token) (c : Command) (name : String) (target : Target)
    (body : List Statement) : c.effect limit room t env ≠ .ok (.build name target body) := by
  cases c <;> simp only [Command.effect, ne_eq, map_eq_ok_iff, bind_eq_ok_iff] <;> grind

/-- Slides and blocks are built from their bodies, and nothing else is. -/
theorem Statement.effect_eq_build_iff {name : String} {target : Target} {body : List Statement} :
    s.effect limit room env = .ok (.build name target body) ↔ ∃ t parent,
      (s = .compound t (.slide name parent) body ∧ env.startSlide parent = .ok target) ∨
      (s = .compound t (.block name parent) body ∧ env.startBlock parent = .ok target) := by
  constructor
  · intro h
    cases s with
    | command t c => exact absurd h (c.effect_ne_build t name target body)
    | compound t head body' =>
      cases head with
      | slide name' parent =>
        obtain ⟨target', hstart, heq⟩ := map_eq_ok_iff.1 h
        cases heq
        exact ⟨t, parent, .inl ⟨rfl, hstart⟩⟩
      | block name' parent =>
        obtain ⟨target', hstart, heq⟩ := map_eq_ok_iff.1 h
        cases heq
        exact ⟨t, parent, .inr ⟨rfl, hstart⟩⟩
      | macroDef name' =>
        obtain ⟨env', -, heq⟩ := map_eq_ok_iff.1 h
        cases heq
  · rintro ⟨t, parent, ⟨rfl, hstart⟩ | ⟨rfl, hstart⟩⟩
    · exact map_eq_ok_iff.2 ⟨target, hstart, rfl⟩
    · exact map_eq_ok_iff.2 ⟨target, hstart, rfl⟩

theorem Statement.eq_compound_of_build {name : String} {target : Target} {body : List Statement}
    (h : s.effect limit room env = .ok (.build name target body)) :
    ∃ t head, s = .compound t head body := by
  obtain ⟨t, parent, ⟨rfl, -⟩ | ⟨rfl, -⟩⟩ := effect_eq_build_iff.1 h
  · exact ⟨t, _, rfl⟩
  · exact ⟨t, _, rfl⟩

/-- Whether a slide or block can be started does not depend on its body. -/
theorem Statement.effect_compound {head : Head} (hhead : ∀ name, head ≠ .macroDef name)
    (t : Token) : ∃ start : Except CompileError Target, ∀ body,
      (Statement.compound t head body).effect limit room env =
        start.map (.build head.name · body) := by
  cases head with
  | slide name parent => exact ⟨env.startSlide parent, fun _ => rfl⟩
  | block name parent => exact ⟨env.startBlock parent, fun _ => rfl⟩
  | macroDef name => exact absurd rfl (hhead name)

/-- Calls of known macros replay them where there is room, and nothing else does. -/
theorem Statement.effect_eq_replay_iff {body : List Statement} :
    s.effect limit room env = .ok (.replay body) ↔ room ≠ 0 ∧ ∃ t name,
      s = .command t (.call name) ∧ env.findMacro? name = some body := by
  cases s with
  | command t c =>
    cases c with
    | call name =>
      simp only [Statement.effect, Command.effect, Environment.macroBody, bind_eq_ok_iff]
      cases h : env.findMacro? name <;> grind
    | text | declare | assign | setAttribute =>
      simp only [Statement.effect, Command.effect, map_eq_ok_iff, bind_eq_ok_iff]
      grind
  | compound t head body' =>
    cases head <;> simp only [Statement.effect, map_eq_ok_iff] <;> grind

theorem calls_ne_nil_of_replay {body rest : List Statement}
    (h : s.effect limit room env = .ok (.replay body)) : calls (s :: rest) ≠ [] := by
  obtain ⟨-, t, name, rfl, -⟩ := Statement.effect_eq_replay_iff.1 h
  simp [calls_command, Statement.called?]

/-- A statement that changes the environment sets a text or an attribute, declares or assigns a
variable, or declares a macro. -/
theorem Statement.change_cases {env' : Environment}
    (h : s.effect limit room env = .ok (.change env')) :
    (∃ text, env.setText text = .ok env') ∨
    (∃ name b, env.declareVariable name b = .ok env') ∨
    (∃ t name value v, s = .command t (.assign name value) ∧ env.assign name v = .ok env') ∨
    (∃ a v, env.setAttribute a v = .ok env') ∨
    (∃ t name body, s = .compound t (.macroDef name) body ∧
      env.declareMacro name body = .ok env') := by
  cases s with
  | command t c =>
    cases c with
    | text content =>
      obtain ⟨_, henv, ⟨⟩⟩ := map_eq_ok_iff.1 h
      exact .inl ⟨content, henv⟩
    | call name =>
      obtain ⟨body, -, hbody⟩ := bind_eq_ok_iff.1 h
      split at hbody <;> cases hbody
    | declare name isMutable value =>
      obtain ⟨v, -, hv⟩ := bind_eq_ok_iff.1 h
      obtain ⟨_, henv, ⟨⟩⟩ := map_eq_ok_iff.1 hv
      exact .inr (.inl ⟨name, _, henv⟩)
    | assign name value =>
      obtain ⟨v, -, hv⟩ := bind_eq_ok_iff.1 h
      obtain ⟨_, henv, ⟨⟩⟩ := map_eq_ok_iff.1 hv
      exact .inr (.inr (.inl ⟨t, name, value, v, rfl, henv⟩))
    | setAttribute name value =>
      obtain ⟨a, -, ha⟩ := bind_eq_ok_iff.1 h
      obtain ⟨v, -, hv⟩ := bind_eq_ok_iff.1 ha
      obtain ⟨_, henv, ⟨⟩⟩ := map_eq_ok_iff.1 hv
      exact .inr (.inr (.inr (.inl ⟨a, v, henv⟩)))
  | compound t head body =>
    cases head with
    | slide name parent | block name parent =>
      obtain ⟨_, -, heq⟩ := map_eq_ok_iff.1 h
      cases heq
    | macroDef name =>
      obtain ⟨_, henv, ⟨⟩⟩ := map_eq_ok_iff.1 h
      exact .inr (.inr (.inr (.inr ⟨t, name, body, rfl, henv⟩)))

/-- Only calls depend on the room for replays. -/
theorem Statement.effect_of_called?_eq_none (limit' room' : Nat) (h : s.called? = none) :
    s.effect limit room env = s.effect limit' room' env := by
  cases s with
  | command t c =>
    cases c with
    | call name => simp [Statement.called?] at h
    | text | declare | assign | setAttribute => rfl
  | compound t head body => cases head <;> rfl

end

/-- The machine after an effect, where the statements of a body and of a macro run as given. -/
def Effect.perform (run replayed : List Statement → Machine → Machine) (m : Machine) :
    Effect → Machine
  | .change env => { m with env := env }
  | .build name target body => (run body (m.enter target)).close name
  | .replay body => replayed body m

/-- The machine after the statements are carried out where `room` more replays may be nested. -/
def runFrom (limit room : Nat) (statements : List Statement) (m : Machine) : Machine :=
  (executeAll (replay limit room) statements m).1

/-- A step leads to what the outcome of looking at the statement says: on a failure the machine is
as before. -/
def Follows (limit room : Nat) (m : Machine) (outcome : Except CompileError Effect)
    (step : Step Unit) : Prop :=
  step.result = outcome.map (fun _ => ()) ∧
    step.machine = match outcome with
      | .ok effect => effect.perform (runFrom limit room) (runFrom limit (room - 1)) m
      | .error _ => m

theorem command_follows (limit room : Nat) (t : Token) (c : Command) (m : Machine) :
    Follows limit room m (c.effect limit room t m.env)
      (Action.command (replay limit room) t c m) := by
  cases c with
  | text content =>
    simp only [Action.command, Action.update, Command.effect]
    cases m.env.setText content <;> exact ⟨rfl, rfl⟩
  | call name =>
    simp only [Action.command, Action.look, Command.effect, bind, Action.bind]
    cases m.env.macroBody name with
    | error e => exact ⟨rfl, rfl⟩
    | ok body => cases room <;> exact ⟨rfl, rfl⟩
  | declare name isMutable value =>
    simp only [Action.command, Action.look, Action.tell, Action.update, Command.effect, bind,
      Action.bind]
    cases m.env.resolve value with
    | error e => exact ⟨rfl, rfl⟩
    | ok v =>
      simp only [Except.bind]
      cases m.env.declareVariable name ⟨v, isMutable, t.mark.line⟩ <;> exact ⟨rfl, rfl⟩
  | assign name value =>
    simp only [Action.command, Action.look, Action.update, Command.effect, bind, Action.bind]
    cases m.env.resolve value with
    | error e => exact ⟨rfl, rfl⟩
    | ok v =>
      simp only [Except.bind]
      cases m.env.assign name v <;> exact ⟨rfl, rfl⟩
  | setAttribute name value =>
    simp only [Action.command, Action.look, Action.update, Command.effect, bind, Action.bind]
    cases Attribute.find name with
    | error e => exact ⟨rfl, rfl⟩
    | ok a =>
      simp only [Except.bind]
      cases m.env.resolve value with
      | error e => exact ⟨rfl, rfl⟩
      | ok v =>
        simp only
        cases m.env.setAttribute a v <;> exact ⟨rfl, rfl⟩

@[simp] theorem result_finish (name : String) (target : Target) (m : Machine) :
    (Action.finish name target m).result = .ok () := by
  cases target <;> rfl

theorem build_follows (limit room : Nat) (name : String)
    (start : Environment → Except CompileError Target) (body : List Statement) (m : Machine) :
    Follows limit room m ((start m.env).map (.build name · body))
      (Action.build name start (executeAll (replay limit room) body) m) := by
  simp only [Action.build, Action.look, Action.enter, Action.perform, Action.leave, bind,
    Action.bind]
  cases start m.env with
  | error e => exact ⟨rfl, rfl⟩
  | ok target =>
    simp only [Follows, Except.map, Effect.perform, runFrom, Machine.enter, Machine.close]
    cases (executeAll (replay limit room) body
        { m with env := m.env.push { target := target } }).1.env.pop? with
    | none => exact ⟨rfl, rfl⟩
    | some closed => exact ⟨result_finish name closed.1.target _, rfl⟩

/-- Carrying out a statement is finding out its effect and performing it. -/
theorem execute_follows (limit room : Nat) (s : Statement) (m : Machine) :
    Follows limit room m (s.effect limit room m.env) (execute (replay limit room) s m) := by
  cases s with
  | command t c => exact command_follows limit room t c m
  | compound t head body =>
    cases head with
    | slide name parent => exact build_follows limit room name (·.startSlide parent) body m
    | block name parent => exact build_follows limit room name (·.startBlock parent) body m
    | macroDef name =>
      simp only [execute, Action.update, Statement.effect]
      cases m.env.declareMacro name body <;> exact ⟨rfl, rfl⟩

/-! ## Runs -/

@[simp] theorem runFrom_nil (limit room : Nat) (m : Machine) : runFrom limit room [] m = m := by
  simp [runFrom, executeAll]

theorem runFrom_cons (limit room : Nat) (s : Statement) (rest : List Statement) (m : Machine) :
    runFrom limit room (s :: rest) m =
      match s.effect limit room m.env with
      | .ok effect => runFrom limit room rest
          (effect.perform (runFrom limit room) (runFrom limit (room - 1)) m)
      | .error e => runFrom limit room rest (m.report s.token e) := by
  obtain ⟨hresult, hmachine⟩ := execute_follows limit room s m
  rw [runFrom, executeAll]
  cases h : s.effect limit room m.env with
  | ok effect => simp [runFrom, hresult, hmachine, h, Except.map]
  | error e => simp [runFrom, hresult, hmachine, h, Except.map]

theorem runFrom_append (limit room : Nat) (a b : List Statement) (m : Machine) :
    runFrom limit room (a ++ b) m = runFrom limit room b (runFrom limit room a m) := by
  simp only [runFrom, executeAll_append]

/-- A run of a list of statements from one machine to another, where `room` more replays may be
nested, of `limit` in all. -/
inductive Runs (limit : Nat) : Nat → List Statement → Machine → Machine → Prop
  | done {room : Nat} {m : Machine} : Runs limit room [] m m
  | fault {room : Nat} {s : Statement} {rest : List Statement} {m m' : Machine}
      {e : CompileError} : s.effect limit room m.env = .error e →
      Runs limit room rest (m.report s.token e) m' → Runs limit room (s :: rest) m m'
  | change {room : Nat} {s : Statement} {rest : List Statement} {m m' : Machine}
      {env : Environment} : s.effect limit room m.env = .ok (.change env) →
      Runs limit room rest { m with env := env } m' → Runs limit room (s :: rest) m m'
  | build {room : Nat} {s : Statement} {rest body : List Statement} {m inner m' : Machine}
      {name : String} {target : Target} :
      s.effect limit room m.env = .ok (.build name target body) →
      Runs limit room body (m.enter target) inner → Runs limit room rest (inner.close name) m' →
      Runs limit room (s :: rest) m m'
  | replay {room : Nat} {s : Statement} {rest body : List Statement} {m inner m' : Machine} :
      s.effect limit (room + 1) m.env = .ok (.replay body) →
      Runs limit room body m inner → Runs limit (room + 1) rest inner m' →
      Runs limit (room + 1) (s :: rest) m m'

theorem Runs.eq {limit room : Nat} {statements : List Statement} {m m' : Machine}
    (h : Runs limit room statements m m') : runFrom limit room statements m = m' := by
  induction h with
  | done => simp
  | fault h _ ih => rw [runFrom_cons, h]; exact ih
  | change h _ ih => rw [runFrom_cons, h]; exact ih
  | build h _ _ ihbody ih =>
    rw [runFrom_cons, h]
    simp only [Effect.perform, ihbody]
    exact ih
  | replay h _ _ ihbody ih =>
    rw [runFrom_cons, h]
    simp only [Effect.perform, Nat.add_sub_cancel, ihbody]
    exact ih

theorem runs_runFrom (limit room : Nat) (statements : List Statement) (m : Machine) :
    Runs limit room statements m (runFrom limit room statements m) := by
  induction room using Nat.strongRecOn generalizing statements m with
  | ind room ihroom =>
  induction statements using Statement.listInduction generalizing m with
  | nil => simpa using Runs.done
  | command t c rest ih =>
    rw [runFrom_cons]
    cases h : (Statement.command t c).effect limit room m.env with
    | error e => exact .fault h (ih _)
    | ok effect =>
      cases effect with
      | change env => exact .change h (ih _)
      | build name target body => exact absurd h (c.effect_ne_build t name target body)
      | replay body =>
        obtain ⟨hroom, -⟩ := Statement.effect_eq_replay_iff.1 h
        obtain ⟨room, rfl⟩ := Nat.exists_eq_succ_of_ne_zero hroom
        exact .replay h (ihroom room (Nat.lt_succ_self room) body m) (ih _)
  | compound t head body rest ihbody ih =>
    rw [runFrom_cons]
    cases h : (Statement.compound t head body).effect limit room m.env with
    | error e => exact .fault h (ih _)
    | ok effect =>
      cases effect with
      | change env => exact .change h (ih _)
      | build name target body' =>
        obtain ⟨t', head', heq⟩ := Statement.eq_compound_of_build h
        cases heq
        exact .build h (ihbody _) (ih _)
      | replay body' =>
        obtain ⟨-, t', name, heq, -⟩ := Statement.effect_eq_replay_iff.1 h
        cases heq

/-- The derivable runs are those of `executeAll`. -/
theorem runs_iff {limit room : Nat} {statements : List Statement} {m m' : Machine} :
    Runs limit room statements m m' ↔ (executeAll (replay limit room) statements m).1 = m' :=
  ⟨Runs.eq, fun h => h ▸ runs_runFrom limit room statements m⟩

end SlideDeck
