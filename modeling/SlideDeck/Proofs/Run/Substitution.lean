import SlideDeck.Proofs.Run.Limit
import SlideDeck.Proofs.Scope.Substitution

/-!
# Constants carry over

A variable that is declared first in a file, with a constant, and that is neither declared again nor
assigned to anywhere else, has that constant wherever it is looked up: in every scope, and in every
macro wherever it is replayed. So the constant may stand there itself, and the declaration may be
left out: what is built is the same, and so is what is reported.

Results:
* `Statement.effect_subst`: with the constant in the place of the variable, a statement has the same
  effect in an environment without the variable.
* `Runs.subst`: a run in which the variable is left alone is a run without it.
* `constant_propagates`: the outcome of a file is that of the file without the variable.
-/

namespace SlideDeck

def Effect.subst (x : String) (c : Constant) : Effect → Effect
  | .change env => .change (env.subst x c)
  | .build name target body => .build name target (substAll x c body)
  | .replay body => .replay (substAll x c body)

def Machine.subst (x : String) (c : Constant) (m : Machine) : Machine :=
  { m with env := m.env.subst x c }

section

variable {x : String} {c : Constant} {limit room : Nat}

/-! ## Effects -/

/-- An effect that is a change commutes with leaving out the variable if the change does. -/
theorem map_change_subst (y : Except CompileError Environment) :
    (y.map (Environment.subst x c)).map .change = (y.map .change).map (Effect.subst x c) := by
  cases y <;> rfl

theorem bind_map_subst {α : Type} (y : Except CompileError α)
    {f g : α → Except CompileError Effect} (h : ∀ a, f a = (g a).map (Effect.subst x c)) :
    y.bind f = (y.bind g).map (Effect.subst x c) := by
  cases y with
  | error e => rfl
  | ok a => exact h a

theorem Command.effect_subst {env : Environment} (hx : env.HasValue x c) (t : Token)
    {command : Command} (h : (Statement.command t command).touches x = false) :
    (command.subst x c).effect limit room t (env.subst x c) =
      (command.effect limit room t env).map (Effect.subst x c) := by
  cases command with
  | text content =>
    simp only [subst, effect, Environment.setText_subst]
    exact map_change_subst _
  | call name =>
    simp only [subst, effect, Environment.macroBody_subst]
    cases env.macroBody name with
    | error e => rfl
    | ok body =>
      simp only [Except.map, Except.bind]
      split <;> rfl
  | declare name isMutable value =>
    have hname : name ≠ x := fun heq => by simp [Statement.touches, heq] at h
    simp only [subst, effect, Environment.resolve_subst hx]
    refine bind_map_subst _ fun v => ?_
    rw [Environment.declareVariable_subst hname]
    exact map_change_subst _
  | assign name value =>
    have hname : name ≠ x := fun heq => by simp [Statement.touches, heq] at h
    simp only [subst, effect, Environment.resolve_subst hx]
    refine bind_map_subst _ fun v => ?_
    rw [Environment.assign_subst hname]
    exact map_change_subst _
  | setAttribute name value =>
    simp only [subst, effect, Environment.resolve_subst hx]
    refine bind_map_subst _ fun a => bind_map_subst _ fun v => ?_
    rw [Environment.setAttribute_subst]
    exact map_change_subst _

/-- With the constant in the place of the variable, a statement has the same effect in an
environment without the variable. -/
theorem Statement.effect_subst {env : Environment} (hx : env.HasValue x c) {s : Statement}
    (h : s.touches x = false) :
    (s.subst x c).effect limit room (env.subst x c) =
      (s.effect limit room env).map (Effect.subst x c) := by
  cases s with
  | command t command =>
    rw [subst_command]
    exact Command.effect_subst hx t h
  | compound t head body =>
    rw [subst_compound]
    cases head with
    | slide name parent =>
      simp only [effect, Environment.startSlide_subst]
      cases env.startSlide parent <;> rfl
    | block name parent =>
      simp only [effect, Environment.startBlock_subst]
      cases env.startBlock parent <;> rfl
    | macroDef name =>
      simp only [effect, Environment.declareMacro_subst]
      exact map_change_subst _

/-! ## Runs -/

namespace Machine

theorem report_subst (m : Machine) (t : Token) (e : CompileError) :
    (m.subst x c).report t e = (m.report t e).subst x c := rfl

theorem close_subst (m : Machine) (name : String) :
    (m.subst x c).close name = (m.close name).subst x c := by
  obtain ⟨⟨current, outer⟩, deck, reports⟩ := m
  cases outer with
  | nil => rfl
  | cons s rest =>
    show (Action.finish name current.target ⟨⟨s.subst x c, rest.map _⟩, deck, reports⟩).machine =
      (Action.finish name current.target ⟨⟨s, rest⟩, deck, reports⟩).machine.subst x c
    cases current.target with
    | file | slide slide => rfl
    | block block =>
      have hcurrent := @Scope.receive_subst x c s name (.block block)
      exact congrArg (fun s' : Scope => Machine.mk ⟨s', rest.map (Scope.subst x c)⟩ deck reports)
        hcurrent

end Machine

/-- A run in which the variable is left alone makes no macro known that does not leave it alone. -/
theorem Runs.knowsUntouched {statements : List Statement} {m m' : Machine}
    (h : Runs limit room statements m m') (hstatements : Untouched x statements)
    (hmacros : m.env.KnowsOnly (Untouched x)) : m'.env.KnowsOnly (Untouched x) :=
  h.knowsOnly (fun _ hbody => hbody.declaresOnly) hstatements.declaresOnly hmacros

/-- A run in which the variable is left alone keeps its bindings. -/
theorem Runs.bindingsOf {statements : List Statement} {m m' : Machine}
    (h : Runs limit room statements m m') (hstatements : Untouched x statements)
    (hmacros : m.env.KnowsOnly (Untouched x)) :
    m'.env.bindingsOf x = m.env.bindingsOf x := by
  induction h with
  | done => rfl
  | fault _ _ ih => exact ih hstatements.tail hmacros
  | change h _ ih =>
    have hnext := Statement.knowsOnly_of_change hmacros hstatements.declaresOnly h
    exact (ih hstatements.tail hnext).trans (Statement.bindingsOf_of_change hstatements.head h)
  | @build room s rest body m inner m' name target h hbody _ ihbody ih =>
    obtain ⟨t, head, rfl⟩ := Statement.eq_compound_of_build h
    have huntouched := hstatements.of_mem (mem_preorder_head _ _)
    have hinner := ihbody huntouched (hmacros.push target)
    have hclosed :=
      Machine.knowsOnly_close (hbody.knowsUntouched huntouched (hmacros.push target)) name
    exact (ih hstatements.tail hclosed).trans (Machine.bindingsOf_close hinner name)
  | replay h hbody _ ihbody ih =>
    obtain ⟨-, t, name, -, hfound⟩ := Statement.effect_eq_replay_iff.1 h
    have huntouched := hmacros.findMacro? hfound
    have hinner := hbody.knowsUntouched huntouched hmacros
    exact (ih hstatements.tail hinner).trans (ihbody huntouched hmacros)

/-- A run in which the variable is left alone, and has the value of the constant, is a run without
the variable, with the constant in its place. -/
theorem Runs.subst {statements : List Statement} {m m' : Machine}
    (h : Runs limit room statements m m') (hstatements : Untouched x statements)
    (hmacros : m.env.KnowsOnly (Untouched x)) (hx : m.env.HasValue x c) :
    Runs limit room (substAll x c statements) (m.subst x c) (m'.subst x c) := by
  have heffect {s : Statement} {rest : List Statement} {room : Nat} {m : Machine}
      {y : Except CompileError Effect} (hs : Untouched x (s :: rest)) (hx : m.env.HasValue x c)
      (h : s.effect limit room m.env = y) : (s.subst x c).effect limit room (m.subst x c).env =
        y.map (Effect.subst x c) :=
    h ▸ Statement.effect_subst hx hs.head
  induction h with
  | done =>
    rw [substAll_nil]
    exact .done
  | fault h _ ih =>
    have hrest := ih hstatements.tail hmacros hx
    rw [← Machine.report_subst, ← Statement.token_subst x c] at hrest
    rw [substAll_cons]
    exact .fault (heffect hstatements hx h) hrest
  | change h _ ih =>
    have hnext := Statement.knowsOnly_of_change hmacros hstatements.declaresOnly h
    have hvalue := hx.congr (Statement.bindingsOf_of_change hstatements.head h)
    rw [substAll_cons]
    exact .change (heffect hstatements hx h) (ih hstatements.tail hnext hvalue)
  | @build room s rest body m inner m' name target h hbody _ ihbody ih =>
    have hbuild := heffect hstatements hx h
    obtain ⟨t, head, rfl⟩ := Statement.eq_compound_of_build h
    have huntouched := hstatements.of_mem (mem_preorder_head _ _)
    have hentered := hmacros.push target
    have hinner := hbody.bindingsOf huntouched hentered
    have hclosed := Machine.knowsOnly_close (hbody.knowsUntouched huntouched hentered) name
    have hrest := ih hstatements.tail hclosed (hx.congr (Machine.bindingsOf_close hinner name))
    rw [← Machine.close_subst] at hrest
    rw [substAll_cons]
    exact .build hbuild (ihbody huntouched hentered hx) hrest
  | replay h hbody _ ihbody ih =>
    obtain ⟨-, t, name, -, hfound⟩ := Statement.effect_eq_replay_iff.1 h
    have huntouched := hmacros.findMacro? hfound
    have hinner := hbody.knowsUntouched huntouched hmacros
    have hvalue := hx.congr (hbody.bindingsOf huntouched hmacros)
    rw [substAll_cons]
    exact .replay (heffect hstatements hx h) (ihbody huntouched hmacros hx)
      (ih hstatements.tail hinner hvalue)

end

/-! ## Files -/

/-- At the start of a file a constant can be declared. -/
theorem runFrom_declare_initial (limit room : Nat) (x : String) (c : Constant) (t : Token)
    (isMutable : Bool) : ∃ m, m.env.KnowsOnly (Untouched x) ∧ m.env.HasValue x c ∧
      m.subst x c = {} ∧ ∀ statements,
        runFrom limit room (.command t (.declare x isMutable c.literal) :: statements) {} =
          runFrom limit room statements m := by
  let b : Binding := ⟨c, isMutable, t.mark.line⟩
  let env : Environment := ⟨{ target := .file, bindings := ⟨[(x, b)]⟩ }, []⟩
  have heffect : (Statement.command t (.declare x isMutable c.literal)).effect limit room
      ({} : Machine).env = .ok (.change env) := by
    simp only [Statement.effect, Command.effect, Environment.resolve_literal]
    rfl
  refine ⟨{ env := env }, ?_, ⟨b, ?_, rfl⟩, ?_, fun statements => ?_⟩
  · exact Environment.knowsOnly_initial _
  · simp [env, Environment.findVariable?, Environment.chain, Table.get?, Table.getFrom?]
  · simp [env, Machine.subst, Environment.subst, Scope.subst, Table.erase]
    rfl
  · rw [runFrom_cons, heffect]
    rfl

/-- The outcome of a file that declares a variable first and then leaves it alone is that of the
file without the variable, where the constant stands in the place of every reference. -/
theorem constant_propagates (config : Config) (x : String) (c : Constant) (t : Token)
    (isMutable : Bool) {statements : List Statement} (h : Untouched x statements) :
    compile config (.command t (.declare x isMutable c.literal) :: statements) =
      compile config (substAll x c statements) := by
  refine compile_congr config fun limit => ?_
  obtain ⟨m, hmacros, hx, hinitial, hrun⟩ :=
    runFrom_declare_initial limit limit x c t isMutable
  have hsubst := (runs_runFrom limit limit statements m).subst h hmacros hx
  rw [hinitial] at hsubst
  show (runFrom limit limit _ {}).outcome = (runFrom limit limit _ {}).outcome
  rw [hrun, hsubst.eq]
  rfl

/-- A macro uses the variable as a color, in a slide where another one was declared as its copy. -/
theorem constant_propagates_macro :
    let t : Token := ⟨.endOfInput, ⟨1, 'a', ⟨0, 1⟩⟩⟩
    let paint (value : Value) :=
      Statement.compound t (.macroDef "m") [.command t (.setAttribute "backgroundColor" value)]
    let slide (value : Value) := Statement.compound t (.slide "s" none) [
      .command t (.declare "y" true value), .command t (.call "m"),
      .compound t (.block "b" none) [.command t (.setAttribute "font" (.reference "y"))]]
    let statements := [paint (.reference "x"), slide (.reference "x")]
    Untouched "x" statements ∧
      substAll "x" (.string "pink") statements = [paint (.string "pink"), slide (.string "pink")] ∧
      compile ⟨some 1⟩ (.command t (.declare "x" true (.string "pink")) :: statements) =
        compile ⟨some 1⟩ (substAll "x" (.string "pink") statements) ∧
      compile ⟨some 1⟩ (substAll "x" (.string "pink") statements) =
        some ⟨⟨[{ blocks := [{ style.font := "pink" }] }]⟩,
          [t.mark.report (.unknownColor "pink")]⟩ := by
  intro t paint slide statements
  have huntouched : Untouched "x" statements := by
    unfold Untouched
    decide
  exact ⟨huntouched, by decide, constant_propagates ⟨some 1⟩ "x" (.string "pink") t true huntouched,
    by decide +kernel⟩

end SlideDeck
