import SlideDeck.Proofs.Run.Walk
import SlideDeck.Proofs.Scope.Frame

/-!
# Scopes are closed in order

Scopes are opened inside one another and closed from the inside to the outside, whatever fails on
the way: slides stand in the file, blocks stand in slides, and nothing stands in blocks. What was
opened for a slide is closed as one, so that every slide or block that is started is put into its
place.

Results:
* `kinds_executeAll`: the scopes after a list of statements are of the kinds of those before it.
* `pop?_executeAll_enter`: the scope that is closed after a body is the one that was opened for it.
* `execute_slide_of_start`, `execute_block_of_start`: what is started is put into its place, once.
* `inPlace_of_walk`: which scopes can be open at a point of a run.
* `bracketed_executeAll`: the events tell of scopes that are opened and closed in pairs.
* `scopes_bracketed`: all of these.
-/

namespace SlideDeck

open Relation (ReflTransGen)

/-! ## Kinds of scopes -/

namespace Environment

variable {env env' : Environment}

/-- The kinds of the scopes, from that of the file inwards. -/
def kinds (env : Environment) : List ScopeKind := env.chain.reverse.map Scope.kind

theorem kinds_push (env : Environment) (s : Scope) :
    (env.push s).kinds = env.kinds ++ [s.kind] := by
  simp [kinds, push, chain]

theorem kinds_of_pop? {s : Scope} (h : env.pop? = some (s, env')) :
    env.kinds = env'.kinds ++ [s.kind] := by
  obtain ⟨current, _ | ⟨outer, rest⟩⟩ := env
  · cases h
  · cases h
    exact kinds_push ⟨outer, rest⟩ current

/-- The kind of the current scope is the last one. -/
theorem getLast?_kinds (env : Environment) : env.kinds.getLast? = some env.current.kind := by
  simp [kinds, chain]

theorem kinds_of_forall₂ (h : List.Forall₂ Scope.Grows env.chain env'.chain) :
    env'.kinds = env.kinds := by
  have hkinds : env'.chain.map Scope.kind = env.chain.map Scope.kind := by
    generalize env.chain = scopes, env'.chain = scopes' at h
    induction h with
    | nil => rfl
    | cons hgrows _ ih => rw [List.map_cons, List.map_cons, hgrows.kind, ih]
  rw [kinds, kinds, List.map_reverse, List.map_reverse, hkinds]

theorem Grows.kinds (h : env.Grows env') : env'.kinds = env.kinds :=
  kinds_of_forall₂ (.cons h.current (h.outer.imp fun _ _ => Scope.Keeps.grows))

theorem Grows.depth (h : env.Grows env') : env'.depth = env.depth := h.outer.length_eq.symm

end Environment

/-- The scopes after a list of statements are of the kinds of those before it, whatever fails. -/
theorem kinds_executeAll (limit room : Nat) (statements : List Statement) (m : Machine) :
    (executeAll (replay limit room) statements m).1.env.kinds = m.env.kinds :=
  (runs_runFrom limit room statements m).grows.kinds

/-- The scope that is closed after a body is the one that was opened for it, and those around it
are kept. -/
theorem pop?_executeAll_enter (limit room : Nat) (body : List Statement) (m : Machine)
    (target : Target) : ∃ scope env,
      (executeAll (replay limit room) body (m.enter target)).1.env.pop? = some (scope, env) ∧
        scope.kind = target.kind ∧ m.env.current.Keeps env.current ∧
        List.Forall₂ Scope.Keeps m.env.outer env.outer := by
  have hgrows := (runs_runFrom limit room body (m.enter target)).grows
  obtain ⟨outer, rest, hcurrent, hrest, houter⟩ := List.forall₂_cons_left_iff.1 hgrows.outer
  refine ⟨_, ⟨outer, rest⟩, ?_, hgrows.current.kind, hcurrent, hrest⟩
  show (runFrom limit room body (m.enter target)).env.pop? = _
  rw [Environment.pop?, houter]

/-! ## What is started is put into its place -/

theorem Machine.close_of_pop? {m : Machine} {scope : Scope} {env : Environment}
    (h : m.env.pop? = some (scope, env)) (name : String) :
    m.close name = (Action.finish name scope.target { m with env := env }).machine := by
  rw [Machine.close, h]

/-- Only the statements of the file put slides into the deck. -/
theorem Runs.deck_eq {limit room : Nat} {statements : List Statement} {m m' : Machine}
    (h : Runs limit room statements m m') (hkind : m.env.current.kind ≠ .file) :
    m'.deck = m.deck := by
  induction h with
  | done => rfl
  | fault _ _ ih => exact ih hkind
  | change heffect _ ih =>
    have hcurrent := (Statement.changes_of_change heffect).current.kind
    exact ih (hcurrent ▸ hkind)
  | @build room s rest body m inner m' name target heffect hbody _ ihbody ih =>
    obtain ⟨t, parent, ⟨-, hstart⟩ | ⟨-, hstart⟩⟩ := Statement.effect_eq_build_iff.1 heffect
    · exact absurd (kind_of_startSlide hstart).1 hkind
    · have htarget := (kind_of_startBlock hstart).2
      have hpop := pop?_executeAll_enter limit room body m target
      rw [runs_iff.1 hbody] at hpop
      obtain ⟨scope, env, hpop, hscope, hcurrent, -⟩ := hpop
      obtain ⟨block, hblock⟩ := exists_of_kind_eq_block (hscope.trans htarget)
      rw [Machine.close_of_pop? hpop, hblock] at ih
      have hreceive : (env.current.receive name (.block block)).kind ≠ .file := by
        rw [(env.current.grows_receive name (.block block)).kind, hcurrent.kind]
        exact hkind
      exact (ih hreceive).trans (ihbody (kind_ne_file_of_startBlock hstart))
  | replay _ hbody _ ihbody ih =>
    have hcurrent := hbody.grows.current.kind
    rw [ih (hcurrent ▸ hkind), ihbody hkind]

/-- A declaration puts into its place what is in the scope that is closed behind its body. -/
theorem execute_of_pop? {limit room : Nat} {m : Machine} {s : Statement} {name : String}
    {target : Target} {body : List Statement} {scope : Scope} {env : Environment}
    (heffect : s.effect limit room m.env = .ok (.build name target body))
    (hpop : (executeAll (replay limit room) body (m.enter target)).1.env.pop? =
      some (scope, env)) :
    (execute (replay limit room) s m).result = .ok () ∧
      (execute (replay limit room) s m).machine = (Action.finish name scope.target
        { (executeAll (replay limit room) body (m.enter target)).1 with env := env }).machine := by
  obtain ⟨hresult, hmachine⟩ := execute_follows limit room s m
  rw [heffect] at hresult hmachine
  refine ⟨hresult, ?_⟩
  rw [hmachine]
  exact Machine.close_of_pop? hpop name

section

variable (limit room : Nat) (t : Token) (name : String) {parent : Option String}
  (body : List Statement) {m : Machine} {target : Target}

/-- A slide that is started is put behind those of the deck, and under its name. -/
theorem execute_slide_of_start (hstart : m.env.startSlide parent = .ok target) :
    let inner := (executeAll (replay limit room) body (m.enter target)).1
    let step := execute (replay limit room) (.compound t (.slide name parent) body) m
    ∃ scope env slide, inner.env.pop? = some (scope, env) ∧ scope.target = .slide slide ∧
      step.result = .ok () ∧ step.machine.env = env.mapCurrent (·.registerSlide name slide) ∧
      step.machine.deck.slides = m.deck.slides ++ [slide] := by
  intro inner step
  have htarget := (kind_of_startSlide hstart).2
  obtain ⟨scope, env, hpop, hscope, -, -⟩ := pop?_executeAll_enter limit room body m target
  obtain ⟨slide, hslide⟩ := exists_of_kind_eq_slide (hscope.trans htarget)
  have hdeck : inner.deck = m.deck :=
    (runs_runFrom limit room body (m.enter target)).deck_eq (kind_ne_file_of_startSlide hstart)
  have heffect : (Statement.compound t (.slide name parent) body).effect limit room m.env =
      .ok (.build name target body) :=
    Statement.effect_eq_build_iff.2 ⟨t, parent, .inl ⟨rfl, hstart⟩⟩
  obtain ⟨hresult, hmachine⟩ := execute_of_pop? heffect hpop
  rw [hslide] at hmachine
  refine ⟨scope, env, slide, hpop, hslide, hresult, ?_, ?_⟩
  · show (execute _ _ m).machine.env = _
    rw [hmachine]
    rfl
  · show (execute _ _ m).machine.deck.slides = _
    rw [hmachine, ← hdeck]
    rfl

/-- A block that is started is put behind those of its slide, and under its name. -/
theorem execute_block_of_start (hstart : m.env.startBlock parent = .ok target) :
    let inner := (executeAll (replay limit room) body (m.enter target)).1
    let step := execute (replay limit room) (.compound t (.block name parent) body) m
    ∃ scope env block slide, inner.env.pop? = some (scope, env) ∧ scope.target = .block block ∧
      m.env.current.target = .slide slide ∧ env.current.target = .slide slide ∧
      step.result = .ok () ∧ step.machine.deck = m.deck ∧
      step.machine.env = env.mapCurrent fun s =>
        { s.registerBlock name block with
          target := .slide { slide with blocks := slide.blocks ++ [block] } } := by
  intro inner step
  obtain ⟨hkind, htarget⟩ := kind_of_startBlock hstart
  obtain ⟨scope, env, hpop, hscope, hcurrent, -⟩ := pop?_executeAll_enter limit room body m target
  obtain ⟨block, hblock⟩ := exists_of_kind_eq_block (hscope.trans htarget)
  obtain ⟨slide, hslide⟩ := exists_of_kind_eq_slide hkind
  have houter : env.current.target = .slide slide := hcurrent.target.trans hslide
  have hdeck : inner.deck = m.deck :=
    (runs_runFrom limit room body (m.enter target)).deck_eq (kind_ne_file_of_startBlock hstart)
  have heffect : (Statement.compound t (.block name parent) body).effect limit room m.env =
      .ok (.build name target body) :=
    Statement.effect_eq_build_iff.2 ⟨t, parent, .inr ⟨rfl, hstart⟩⟩
  obtain ⟨hresult, hmachine⟩ := execute_of_pop? heffect hpop
  rw [hblock] at hmachine
  refine ⟨scope, env, block, slide, hpop, hblock, hslide, houter, hresult, ?_, ?_⟩
  · show (execute _ _ m).machine.deck = _
    rw [hmachine, ← hdeck]
    rfl
  · show (execute _ _ m).machine.env = _
    rw [hmachine]
    show env.mapCurrent (fun s => (s.registerBlock name block).appendBlock block) = _
    simp only [Environment.mapCurrent, Scope.appendBlock, Scope.registerBlock, houter]

end

/-! ## Which scopes are open -/

namespace Environment

variable {env env' : Environment}

/-- In the file, in a slide or in a block of a slide. -/
def InPlace (env : Environment) : Prop :=
  env.kinds ∈ [[.file], [.file, .slide], [.file, .slide, .block]]

theorem inPlace_iff : env.InPlace ↔ env.kinds = [.file] ∨ env.kinds = [.file, .slide] ∨
    env.kinds = [.file, .slide, .block] := by
  simp [InPlace]

theorem InPlace.of_kinds (h : env.InPlace) (hkinds : env'.kinds = env.kinds) : env'.InPlace := by
  rw [InPlace, hkinds]
  exact h

/-- A slide is opened in the file, and a block in a slide. -/
theorem InPlace.push {limit room : Nat} {s : Statement} {name : String} {target : Target}
    {body : List Statement} (h : env.InPlace)
    (heffect : s.effect limit room env = .ok (.build name target body)) :
    (env.push { target := target }).InPlace := by
  have hkinds : (env.push { target := target }).kinds = env.kinds ++ [target.kind] :=
    env.kinds_push { target := target }
  have hlast := env.getLast?_kinds
  rw [inPlace_iff, hkinds]
  obtain ⟨t, parent, ⟨-, hstart⟩ | ⟨-, hstart⟩⟩ := Statement.effect_eq_build_iff.1 heffect
  · obtain ⟨hkind, htarget⟩ := kind_of_startSlide hstart
    rw [hkind] at hlast
    rcases inPlace_iff.1 h with hfile | hslide | hblock
    · rw [hfile, htarget]
      exact .inr (.inl rfl)
    · rw [hslide] at hlast
      cases hlast
    · rw [hblock] at hlast
      cases hlast
  · obtain ⟨hkind, htarget⟩ := kind_of_startBlock hstart
    rw [hkind] at hlast
    rcases inPlace_iff.1 h with hfile | hslide | hblock
    · rw [hfile] at hlast
      cases hlast
    · rw [hslide, htarget]
      exact .inr (.inr rfl)
    · rw [hblock] at hlast
      cases hlast

/-- The scopes that are left when one is closed were open before. -/
theorem InPlace.of_pop? {s : Scope} (h : env.InPlace) (hpop : env.pop? = some (s, env')) :
    env'.InPlace := by
  have hkinds := kinds_of_pop? hpop
  have hlast := env'.getLast?_kinds
  rw [inPlace_iff, hkinds] at h
  rw [inPlace_iff]
  generalize env'.kinds = kinds at h hlast
  rcases kinds with _ | ⟨k₁, _ | ⟨k₂, _ | ⟨k₃, kinds⟩⟩⟩
  · cases hlast
  · simp_all
  · simp_all
  · simp at h

end Environment

theorem Machine.inPlace_close {m : Machine} (h : m.env.InPlace) (name : String) :
    (m.close name).env.InPlace := by
  cases houter : m.env.outer with
  | nil =>
    have hclose : m.close name = m := by simp [Machine.close, Environment.pop?, houter]
    rw [hclose]
    exact h
  | cons outer rest =>
    have hpop : m.env.pop? = some (m.env.current, ⟨outer, rest⟩) := by
      rw [Environment.pop?, houter]
    rw [Machine.env_close houter]
    have hgrows : Environment.Grows ⟨outer, rest⟩
        ⟨outer.receive name m.env.current.target, rest⟩ :=
      ⟨Scope.grows_receive _ _ _, Scope.forall₂_keeps_refl _⟩
    exact (h.of_pop? hpop).of_kinds hgrows.kinds

/-- At every point of a run, what is open is the file, a slide, or a block of a slide. -/
theorem inPlace_of_walk {limit : Nat} {statements : List Statement} {p : Point}
    (h : ReflTransGen (Point.Next limit) (.start limit statements) p) : p.machine.env.InPlace := by
  induction h with
  | refl => exact Environment.inPlace_iff.2 (.inl rfl)
  | tail _ hnext ih =>
    cases hnext with
    | fault _ => exact ih
    | change heffect => exact ih.of_kinds (Statement.changes_of_change heffect).kinds
    | enter heffect => exact ih.push heffect
    | replay _ => exact ih
    | close => exact Machine.inPlace_close ih _
    | replayed => exact ih

/-! ## Events of scopes -/

/-- Whether the event tells of a scope that is opened or closed. -/
def Event.isScope : Event → Bool
  | scopeOpened _ _ | scopeClosed _ _ => true
  | _ => false

/-- At the depth, scopes are opened and closed in pairs: both events of a pair tell the same kind,
the first one the depth inside of the scope and the second one that outside of it. Other events may
stand anywhere. -/
inductive Bracketed : Nat → List Event → Prop
  | nil {depth : Nat} : Bracketed depth []
  | other {depth : Nat} {e : Event} {rest : List Event} : e.isScope = false →
      Bracketed depth rest → Bracketed depth (e :: rest)
  | scope {depth : Nat} {kind : ScopeKind} {inner rest : List Event} :
      Bracketed (depth + 1) inner → Bracketed depth rest →
      Bracketed depth (.scopeOpened kind (depth + 1) :: (inner ++ .scopeClosed kind depth :: rest))

theorem Bracketed.append {depth : Nat} {a b : List Event} (ha : Bracketed depth a)
    (hb : Bracketed depth b) : Bracketed depth (a ++ b) := by
  induction ha with
  | nil => exact hb
  | other he _ ih => exact .other he (ih hb)
  | scope hinner _ _ ih =>
    rw [List.cons_append, List.append_assoc, List.cons_append]
    exact .scope hinner (ih hb)

section

variable {limit room : Nat} {m : Machine}

/-- A command tells of scopes only where it replays a macro. -/
theorem bracketed_command (t : Token) (c : Command)
    (hreplay : ∀ room', room = room' + 1 → ∀ body,
      Bracketed m.env.depth (executeAll (replay limit room') body m).2) :
    Bracketed m.env.depth (Action.command (replay limit room) t c m).events := by
  cases c with
  | text content =>
    simp only [Action.command, Action.update]
    cases m.env.setText content <;> exact .nil
  | call name =>
    simp only [Action.command, Action.look, bind, Action.bind]
    cases m.env.macroBody name with
    | error e => exact .nil
    | ok body =>
      cases room with
      | zero => exact .nil
      | succ room' =>
        simp only [replay_succ]
        exact .other rfl (hreplay room' rfl body)
  | declare name isMutable value =>
    simp only [Action.command, Action.look, Action.tell, Action.update, bind, Action.bind]
    cases m.env.resolve value with
    | error e => exact .nil
    | ok v =>
      simp only
      cases m.env.declareVariable name ⟨v, isMutable, t.mark.line⟩ <;> exact .other rfl .nil
  | assign name value =>
    simp only [Action.command, Action.look, Action.update, bind, Action.bind]
    cases m.env.resolve value with
    | error e => exact .nil
    | ok v =>
      simp only
      cases m.env.assign name v <;> exact .nil
  | setAttribute name value =>
    simp only [Action.command, Action.look, Action.update, bind, Action.bind]
    cases Attribute.find name with
    | error e => exact .nil
    | ok a =>
      simp only
      cases m.env.resolve value with
      | error e => exact .nil
      | ok v =>
        simp only
        cases m.env.setAttribute a v <;> exact .nil

@[simp] theorem events_finish (name : String) (target : Target) (m : Machine) :
    (Action.finish name target m).events = [] := by
  cases target <;> rfl

/-- The scope of a body is closed behind the events of the body. -/
theorem events_build_of_start {name : String} {start : Environment → Except CompileError Target}
    {target : Target} (hstart : start m.env = .ok target) (body : List Statement) :
    (Action.build name start (executeAll (replay limit room) body) m).events =
      .scopeOpened target.kind (m.env.depth + 1) ::
        ((executeAll (replay limit room) body (m.enter target)).2 ++
          .scopeClosed target.kind m.env.depth :: []) := by
  obtain ⟨scope, env, hpop, -, -, houter⟩ := pop?_executeAll_enter limit room body m target
  have hdepth : env.depth = m.env.depth := houter.length_eq.symm
  simp only [Machine.enter] at hpop ⊢
  simp only [Action.build, Action.look, Action.enter, Action.perform, Action.leave, bind,
    Action.bind, hstart, hpop, hdepth, events_finish, Environment.depth_push]
  simp

theorem bracketed_build {name : String} {start : Environment → Except CompileError Target}
    {body : List Statement} (hbody : ∀ target,
      Bracketed (m.env.depth + 1) (executeAll (replay limit room) body (m.enter target)).2) :
    Bracketed m.env.depth
      (Action.build name start (executeAll (replay limit room) body) m).events := by
  cases hstart : start m.env with
  | error e =>
    simp only [Action.build, Action.look, bind, Action.bind, hstart]
    exact .nil
  | ok target =>
    rw [events_build_of_start hstart]
    exact .scope (hbody target) .nil

theorem depth_execute (s : Statement) (m : Machine) :
    (execute (replay limit room) s m).machine.env.depth = m.env.depth := by
  have hgrows := (runs_runFrom limit room [s] m).grows
  rw [← hgrows.depth, runFrom, executeAll, executeAll]
  cases (execute (replay limit room) s m).result <;> rfl

theorem bracketed_cons {s : Statement} {rest : List Statement}
    (hs : Bracketed m.env.depth (execute (replay limit room) s m).events)
    (hrest : ∀ m' : Machine, Bracketed m'.env.depth (executeAll (replay limit room) rest m').2) :
    Bracketed m.env.depth (executeAll (replay limit room) (s :: rest) m).2 := by
  have hdepth : (execute (replay limit room) s m).machine.env.depth = m.env.depth :=
    depth_execute s m
  rw [executeAll]
  refine hs.append ?_
  cases (execute (replay limit room) s m).result with
  | ok _ =>
    rw [← hdepth]
    exact hrest _
  | error e =>
    have hreport := hrest ((execute (replay limit room) s m).machine.report s.token e)
    rw [← hdepth]
    exact hreport

end

/-- The events of a run tell of scopes that are opened and closed in pairs. -/
theorem bracketed_executeAll (limit room : Nat) (statements : List Statement) (m : Machine) :
    Bracketed m.env.depth (executeAll (replay limit room) statements m).2 := by
  -- A replay runs other statements with less room; a body is a part of the statement.
  induction room using Nat.strongRecOn generalizing statements m with
  | ind room ihroom =>
  induction statements using Statement.listInduction generalizing m with
  | nil =>
    rw [executeAll]
    exact .nil
  | command t c rest ih =>
    refine bracketed_cons ?_ ih
    rw [execute]
    refine bracketed_command t c fun room' hroom body => ihroom room' ?_ body m
    omega
  | compound t head body rest ihbody ih =>
    refine bracketed_cons ?_ ih
    have hbody : ∀ target, Bracketed (m.env.depth + 1)
        (executeAll (replay limit room) body (m.enter target)).2 :=
      fun target => ihbody (m.enter target)
    cases head with
    | slide name parent =>
      rw [execute]
      exact bracketed_build hbody
    | block name parent =>
      rw [execute]
      exact bracketed_build hbody
    | macroDef name =>
      rw [execute, Action.update]
      split <;> exact .nil

/-- Scopes are opened inside one another and closed in order, whatever fails. A run leaves as many
open as there were, of the same kinds; at every point these are the file, a slide or a block of a
slide; the slide or block that is started by a declaration is the one that is closed behind its
body, and it is put into its place once; and the events tell of scopes in pairs. -/
theorem scopes_bracketed (limit : Nat) :
    (∀ statements p, ReflTransGen (Point.Next limit) (.start limit statements) p →
      p.machine.env.kinds ∈ [[.file], [.file, .slide], [.file, .slide, .block]]) ∧
    (∀ room statements m,
      (executeAll (replay limit room) statements m).1.env.kinds = m.env.kinds) ∧
    (∀ room t name parent body m target, m.env.startSlide parent = .ok target →
      let inner := (executeAll (replay limit room) body (m.enter target)).1
      let step := execute (replay limit room) (.compound t (.slide name parent) body) m
      ∃ scope env slide, inner.env.pop? = some (scope, env) ∧ scope.target = .slide slide ∧
        step.result = .ok () ∧ step.machine.env = env.mapCurrent (·.registerSlide name slide) ∧
        step.machine.deck.slides = m.deck.slides ++ [slide]) ∧
    (∀ room t name parent body m target, m.env.startBlock parent = .ok target →
      let inner := (executeAll (replay limit room) body (m.enter target)).1
      let step := execute (replay limit room) (.compound t (.block name parent) body) m
      ∃ scope env block slide, inner.env.pop? = some (scope, env) ∧ scope.target = .block block ∧
        m.env.current.target = .slide slide ∧ env.current.target = .slide slide ∧
        step.result = .ok () ∧ step.machine.deck = m.deck ∧
        step.machine.env = env.mapCurrent fun s =>
          { s.registerBlock name block with
            target := .slide { slide with blocks := slide.blocks ++ [block] } }) ∧
    ∀ statements, Bracketed 0 (runWithin limit statements).2 :=
  ⟨fun _ _ h => inPlace_of_walk h, kinds_executeAll limit,
    fun room t name _ body _ _ => execute_slide_of_start limit room t name body,
    fun room t name _ body _ _ => execute_block_of_start limit room t name body,
    fun statements => bracketed_executeAll limit limit statements {}⟩

/-- A text that stands in no block and a block that stands in a block are reported, and a macro is
replayed in the block around it. -/
theorem scopes_bracketed_nested :
    let t : Token := ⟨.endOfInput, ⟨1, 'a', ⟨0, 1⟩⟩⟩
    let text := Statement.command t (.text "x")
    let block := Statement.compound t (.block "b" none)
      [.command t (.call "m"), .compound t (.block "c" none) []]
    let slide := Statement.compound t (.slide "a" none) [text, block]
    let statements := [.compound t (.macroDef "m") [text], slide]
    let run := runWithin 1 statements
    (∃ p, ReflTransGen (Point.Next 1) (.start 1 statements) p ∧
      p.machine.env.kinds = [.file, .slide, .block] ∧
      p.machine.env.kinds ∈ [[.file], [.file, .slide], [.file, .slide, .block]] ∧
      p.machine.reports.length = 1) ∧
    ({} : Machine).env.startSlide none = .ok (.slide {}) ∧
    (∃ slide', (execute (replay 1 1) slide {}).machine.deck.slides = [slide']) ∧
    (({} : Machine).enter (.slide {})).env.startBlock none = .ok (.block {}) ∧
    (∃ block' : Block, (execute (replay 1 1) block (({} : Machine).enter (.slide {}))).machine.env =
      ⟨{ target := .slide { blocks := [block'] }, blocks := ⟨[("b", block')]⟩ },
        [{ target := .file }]⟩) ∧
    run.2 = [.scopeOpened .slide 1, .scopeOpened .block 2, .macroReplayed "m" 0,
      .scopeClosed .block 1, .scopeClosed .slide 0] ∧ Bracketed 0 run.2 := by
  intro t text block slide statements run
  obtain ⟨hpoints, -, hslides, hblocks, hevents⟩ := scopes_bracketed 1
  have hwalk : ReflTransGen (Point.Next 1) (.start 1 statements) _ :=
    .head (.change rfl) (.head (.enter rfl) (.head (.fault rfl) (.head (.enter rfl) .refl)))
  obtain ⟨-, -, slide', -, -, -, -, hdeck⟩ :=
    hslides 1 t "a" none [text, block] {} (.slide {}) rfl
  obtain ⟨scope, env, block', slide'', hpop, -, hslide, -, -, -, henv⟩ :=
    hblocks 1 t "b" none [.command t (.call "m"), .compound t (.block "c" none) []]
      (({} : Machine).enter (.slide {})) (.block {}) rfl
  cases hslide
  cases hpop
  refine ⟨⟨_, hwalk, rfl, hpoints statements _ hwalk, by decide⟩, rfl, ⟨slide', hdeck⟩, rfl,
    ⟨block', henv⟩, by decide, hevents statements⟩

end SlideDeck
