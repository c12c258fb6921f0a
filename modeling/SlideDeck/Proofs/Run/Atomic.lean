import SlideDeck.Proofs.Run.InPlace
import SlideDeck.Proofs.Run.Unbounded

/-!
# Statements that fail

A statement finds out all that it can fail for before it changes anything. What fails in a body or
in a macro is reported there, and does not make the declaration or the call fail. So a statement
that fails leaves everything as it was, at whatever nesting it stands and inside of however many
replays.

Results:
* `Action.Idle.bind_atomic`, `Action.Atomic.bind`: what is looked up comes before what is changed,
  and nothing fails after that.
* `atomic_execute`: a statement that fails changes nothing, if that holds of replays.
* `result_slide`, `result_block`, `result_call`: whether a declaration or a call fails does not
  depend on what goes on inside of it.
* `Config.replayAt_of_lt`, `Config.replayAt_of_le`: what a call comes to inside of some replays.
* `result_execute_carryOut`: without a bound, statements fail where their effect does.
* `Config.replayInPlaceAt_eq`: macros carried out in place come to the same.
* `failed_unchanged`: all of these, with a bound on replays and without one, and in place.
-/

namespace SlideDeck

namespace Action

variable {α β : Type} {x : Action α} {f : α → Action β} {m : Machine}

/-! ## Kinds of actions -/

/-- The action changes nothing if it fails. -/
def Atomic (x : Action α) : Prop := ∀ m e, (x m).result = .error e → (x m).machine = m

/-- The action changes nothing. -/
def Idle (x : Action α) : Prop := ∀ m, (x m).machine = m

/-- The action does not fail. -/
def Sure (x : Action α) : Prop := ∀ m, ∃ a, (x m).result = .ok a

theorem Idle.atomic (h : x.Idle) : x.Atomic := fun m _ _ => h m

theorem Sure.atomic (h : x.Sure) : x.Atomic := by
  intro m e he
  obtain ⟨a, ha⟩ := h m
  cases ha.symm.trans he

theorem Sure.result_eq {x : Action Unit} (h : x.Sure) (m : Machine) : (x m).result = .ok () :=
  (h m).choose_spec

/-! ## One action after the other -/

theorem bind_of_ok {a : α} (h : (x m).result = .ok a) :
    ((x >>= f) m).result = (f a (x m).machine).result ∧
      ((x >>= f) m).machine = (f a (x m).machine).machine := by
  simp only [bind, Action.bind, h, and_self]

theorem bind_of_error {e : CompileError} (h : (x m).result = .error e) :
    ((x >>= f) m).result = .error e ∧ ((x >>= f) m).machine = (x m).machine := by
  simp only [bind, Action.bind, h, and_self]

theorem Sure.bind (hx : x.Sure) (hf : ∀ a, (f a).Sure) : (x >>= f).Sure := by
  intro m
  obtain ⟨a, ha⟩ := hx m
  rw [(bind_of_ok ha).1]
  exact hf a _

/-- Before the machine is changed, the first action may fail for any reason. -/
theorem Idle.bind_atomic (hx : x.Idle) (hf : ∀ a, (f a).Atomic) : (x >>= f).Atomic := by
  intro m e he
  cases h : (x m).result with
  | error e' => rw [(bind_of_error h).2, hx]
  | ok a =>
    obtain ⟨hresult, hmachine⟩ := bind_of_ok (f := f) h
    rw [hresult, hx] at he
    rw [hmachine, hx]
    exact hf a m e he

/-- After it is changed, nothing may fail. -/
theorem Atomic.bind (hx : x.Atomic) (hf : ∀ a, (f a).Sure) : (x >>= f).Atomic := by
  intro m e he
  cases h : (x m).result with
  | error e' =>
    rw [(bind_of_error h).2]
    exact hx m e' h
  | ok a =>
    obtain ⟨b, hb⟩ := hf a (x m).machine
    rw [(bind_of_ok h).1, hb] at he
    cases he

/-! ## The basic actions -/

theorem idle_fail (e : CompileError) : (fail e : Action α).Idle := fun _ => rfl

theorem idle_look (g : Environment → Except CompileError α) : (look g).Idle := fun _ => rfl

theorem idle_tell (e : Event) : (tell e).Idle := fun _ => rfl

theorem sure_tell (e : Event) : (tell e).Sure := fun _ => ⟨(), rfl⟩

theorem sure_perform (run : Machine → Machine × List Event) : (perform run).Sure :=
  fun _ => ⟨(), rfl⟩

theorem sure_enter (target : Target) : (enter target).Sure := fun _ => ⟨(), rfl⟩

theorem sure_leave (kind : ScopeKind) : (leave kind).Sure := by
  intro m
  unfold leave
  cases m.env.pop? with
  | none => exact ⟨_, rfl⟩
  | some closed => exact ⟨_, rfl⟩

theorem sure_finish (name : String) (target : Target) : (finish name target).Sure :=
  fun m => ⟨(), result_finish name target m⟩

theorem atomic_update (g : Environment → Except CompileError Environment) : (update g).Atomic :=
  fun _ _ => update_error

/-- What comes after looking something up decides whether both fail. -/
theorem result_look_bind (g : Environment → Except CompileError α) (f : α → Action β)
    (m : Machine) : ((look g >>= f) m).result = (g m.env).bind fun a => (f a m).result := by
  cases h : g m.env with
  | error e => exact (bind_of_error (x := look g) h).1
  | ok a => exact (bind_of_ok (x := look g) h).1

/-! ## Statements -/

/-- From the start that was found on, building a slide or block does not fail. -/
theorem sure_build_from (name : String) (target : Target) (body : Machine → Machine × List Event) :
    (do enter target; perform body; finish name (← leave target.kind) : Action Unit).Sure :=
  (sure_enter target).bind fun _ => (sure_perform body).bind fun _ =>
    (sure_leave target.kind).bind fun built => sure_finish name built

theorem atomic_build (name : String) (start : Environment → Except CompileError Target)
    (body : Machine → Machine × List Event) : (build name start body).Atomic :=
  (idle_look start).atomic.bind fun target => sure_build_from name target body

theorem result_build (name : String) (start : Environment → Except CompileError Target)
    (body : Machine → Machine × List Event) (m : Machine) :
    (build name start body m).result = (start m.env).map fun _ => () := by
  rw [build, result_look_bind]
  cases start m.env with
  | error e => rfl
  | ok target => exact (sure_build_from name target body).result_eq m

theorem atomic_command {replay : Replay} (hreplay : ∀ name body, (replay name body).Atomic)
    (t : Token) (c : Command) : (command replay t c).Atomic := by
  cases c with
  | text content => exact atomic_update _
  | call name => exact (idle_look _).bind_atomic fun body => hreplay name body
  | declare name isMutable value =>
    exact (idle_look _).bind_atomic fun v => (idle_tell _).bind_atomic fun _ => atomic_update _
  | assign name value => exact (idle_look _).bind_atomic fun v => atomic_update _
  | setAttribute name value =>
    exact (idle_look _).bind_atomic fun a => (idle_look _).bind_atomic fun v => atomic_update _

end Action

/-- A statement that fails changes nothing, if that holds of replays. -/
theorem atomic_execute {replay : Replay} (hreplay : ∀ name body, (replay name body).Atomic)
    (s : Statement) : (execute replay s).Atomic := by
  cases s with
  | command t c => exact Action.atomic_command hreplay t c
  | compound t head body =>
    cases head with
    | slide name parent => exact Action.atomic_build name _ _
    | block name parent => exact Action.atomic_build name _ _
    | macroDef name => exact Action.atomic_update _

section

variable (replay : Replay) (t : Token) (name : String) (parent : Option String)
  (body : List Statement) (m : Machine)

/-- A slide fails exactly where it cannot be started, whatever fails in its body. -/
theorem result_slide : (execute replay (.compound t (.slide name parent) body) m).result =
    (m.env.startSlide parent).map fun _ => () :=
  Action.result_build name _ _ m

/-- A block fails exactly where it cannot be started, whatever fails in its body. -/
theorem result_block : (execute replay (.compound t (.block name parent) body) m).result =
    (m.env.startBlock parent).map fun _ => () :=
  Action.result_build name _ _ m

/-- A call fails where there is no macro of the name, and where its replay does. -/
theorem result_call : (execute replay (.command t (.call name)) m).result =
    (m.env.macroBody name).bind fun body => (replay name body m).result :=
  Action.result_look_bind _ _ m

end

/-! ## Replays -/

/-- Carries out the statements of macros inside of `depth` replays. -/
def carryOut (run : List Statement → Machine → Machine × List Event) (depth : Nat) : Replay :=
  fun name body => do
    Action.tell (.macroReplayed name depth)
    Action.perform (run body)

/-- What calls come to inside of `depth` replays. Where nothing bounds these, `run` says what the
statements of a macro come to. -/
def Config.replayAt (config : Config) (run : List Statement → Machine → Machine × List Event)
    (depth : Nat) : Replay :=
  match config.maxMacroDepth with
  | some n => replay n.toNat (n.toNat - depth)
  | none => carryOut run depth

/-- What calls come to inside of `depth` replays if everything is carried out in place. -/
def Config.replayInPlaceAt (config : Config) (run : List Statement → Machine → Machine × List Event)
    (depth : Nat) : Replay :=
  match config.maxMacroDepth with
  | some n => replayInPlace n.toNat (n.toNat - depth)
  | none => carryOut run depth

theorem Config.replayInPlaceAt_eq (config : Config)
    (run : List Statement → Machine → Machine × List Event) (depth : Nat) :
    config.replayInPlaceAt run depth = config.replayAt run depth := by
  obtain ⟨_ | n⟩ := config
  · rfl
  · exact replayInPlace_eq n.toNat (n.toNat - depth)

/-- Whether one more replay may be nested inside of `depth` replays. -/
def Config.permit (config : Config) (depth : Nat) : Except CompileError Unit :=
  match config.maxMacroDepth with
  | some n => if n.toNat ≤ depth then .error (.macroDepthExceeded n.toNat) else .ok ()
  | none => .ok ()

section

variable (run : List Statement → Machine → Machine × List Event) (depth : Nat) (name : String)
  (body : List Statement)

/-- Below the limit, the statements of a macro are carried out inside of one more replay. -/
theorem Config.replayAt_of_lt {n : UInt64} (h : depth < n.toNat) :
    Config.replayAt ⟨some n⟩ run depth =
      carryOut (executeAll (Config.replayAt ⟨some n⟩ run (depth + 1))) depth := by
  obtain ⟨room, hroom⟩ : ∃ room, n.toNat - depth = room + 1 := ⟨n.toNat - depth - 1, by omega⟩
  have hinner : n.toNat - (depth + 1) = room := by omega
  have hdepth : n.toNat - (room + 1) = depth := by omega
  simp only [Config.replayAt, hroom, hinner]
  rw [← hdepth]
  rfl

/-- From the limit on, replays are refused. -/
theorem Config.replayAt_of_le {n : UInt64} (h : n.toNat ≤ depth) :
    Config.replayAt ⟨some n⟩ run depth =
      fun _ _ => Action.fail (.macroDepthExceeded n.toNat) := by
  simp only [Config.replayAt, Nat.sub_eq_zero_of_le h]
  rfl

/-- Replays are refused, or the statements of the macro are carried out. -/
theorem Config.replayAt_cases (config : Config) :
    (∃ e, config.permit depth = .error e ∧
      config.replayAt run depth = fun _ _ => Action.fail e) ∨
    (config.permit depth = .ok () ∧ ∃ inner, config.replayAt run depth = carryOut inner depth) := by
  obtain ⟨_ | n⟩ := config
  · exact .inr ⟨rfl, run, rfl⟩
  · by_cases h : n.toNat ≤ depth
    · exact .inl ⟨_, if_pos h, Config.replayAt_of_le run depth h⟩
    · exact .inr ⟨if_neg h, _, Config.replayAt_of_lt run depth (Nat.lt_of_not_le h)⟩

theorem sure_carryOut : (carryOut run depth name body).Sure :=
  (Action.sure_tell _).bind fun _ => Action.sure_perform _

/-- A replay fails where it is refused, whatever fails in the macro. -/
theorem result_replayAt (config : Config) (m : Machine) :
    (config.replayAt run depth name body m).result = config.permit depth := by
  obtain ⟨e, hpermit, hreplay⟩ | ⟨hpermit, inner, hreplay⟩ := config.replayAt_cases run depth
  · rw [hpermit, hreplay]
    rfl
  · rw [hpermit, hreplay]
    exact (sure_carryOut inner depth name body).result_eq m

theorem atomic_replayAt (config : Config) : (config.replayAt run depth name body).Atomic := by
  obtain ⟨e, -, hreplay⟩ | ⟨-, inner, hreplay⟩ := config.replayAt_cases run depth
  · rw [hreplay]
    exact (Action.idle_fail e).atomic
  · rw [hreplay]
    exact (sure_carryOut inner depth name body).atomic

/-- Without a bound, statements fail where their effect does. -/
theorem result_execute_carryOut (s : Statement) (m : Machine) :
    (execute (carryOut run depth) s m).result = (s.effectUnbounded m.env).map fun _ => () := by
  cases s with
  | compound t head body =>
    cases head with
    | slide name parent =>
      rw [result_slide, Statement.effectUnbounded, Statement.effect]
      cases m.env.startSlide parent <;> rfl
    | block name parent =>
      rw [result_block, Statement.effectUnbounded, Statement.effect]
      cases m.env.startBlock parent <;> rfl
    | macroDef name => exact (execute_follows 1 1 (.compound t (.macroDef name) body) m).1
  | command t c =>
    cases c with
    | call name =>
      rw [result_call, Statement.effectUnbounded, Statement.effect, Command.effect]
      cases m.env.macroBody name with
      | error e => rfl
      | ok body => exact (sure_carryOut run depth name body).result_eq m
    | text content => exact (execute_follows 1 1 (.command t (.text content)) m).1
    | declare name isMutable value =>
      exact (execute_follows 1 1 (.command t (.declare name isMutable value)) m).1
    | assign name value => exact (execute_follows 1 1 (.command t (.assign name value)) m).1
    | setAttribute name value =>
      exact (execute_follows 1 1 (.command t (.setAttribute name value)) m).1

end

/-- A statement that fails changes nothing: its error is reported, and what follows is carried out
as if it were not there. Whether a slide or block fails is decided by its start, and whether a call
does by the macros that are known and the number of replays it stands in; what fails in a body or in
a macro makes none of them fail. All this holds of the methods that write in place and leave behind
what they have written: they come to the same. -/
theorem failed_unchanged (config : Config)
    (run : List Statement → Machine → Machine × List Event) (depth : Nat) (m : Machine) :
    let replay := config.replayAt run depth
    (∀ s e, (execute replay s m).result = .error e → (execute replay s m).machine = m ∧
      ∀ rest, (executeAll replay (s :: rest) m).1 =
        (executeAll replay rest (m.report s.token e)).1) ∧
    (∀ t name parent body, (execute replay (.compound t (.slide name parent) body) m).result =
      (m.env.startSlide parent).map fun _ => ()) ∧
    (∀ t name parent body, (execute replay (.compound t (.block name parent) body) m).result =
      (m.env.startBlock parent).map fun _ => ()) ∧
    (∀ t name, (execute replay (.command t (.call name)) m).result =
      (m.env.macroBody name).bind fun _ => config.permit depth) ∧
    ∀ s, executeInPlace (config.replayInPlaceAt run depth) s m = execute replay s m := by
  intro replay
  refine ⟨fun s e he => ?_, fun t name parent body => ?_, fun t name parent body => ?_,
    fun t name => ?_, fun s => ?_⟩
  · have hunchanged : (execute replay s m).machine = m :=
      atomic_execute (fun name body => atomic_replayAt run depth name body config) s m e he
    refine ⟨hunchanged, fun rest => ?_⟩
    simp only [executeAll, he, hunchanged]
  · exact result_slide replay t name parent body m
  · exact result_block replay t name parent body m
  · rw [result_call]
    congr 1
    funext body
    exact result_replayAt run depth name body config m
  · rw [Config.replayInPlaceAt_eq, executeInPlace_eq]

/-- In a slide, a variable of the file is assigned to that may not change; a slide was built and a
fault reported before. A block of which every statement fails does not fail. -/
theorem failed_unchanged_immutable :
    let t : Token := ⟨.endOfInput, ⟨1, 'a', ⟨0, 1⟩⟩⟩
    let file : Scope := { target := .file, bindings := ⟨[("a", ⟨.integer 1, false, 7⟩)]⟩ }
    let m : Machine :=
      ⟨⟨{ target := .slide {} }, [file]⟩, ⟨[{}]⟩, [t.mark.report .textOutsideBlock]⟩
    let assign := Statement.command t (.assign "a" (.integer 2))
    let block := Statement.compound t (.block "b" none) [assign, .command t (.call "missing")]
    let replay := Config.replayAt ⟨none⟩ (fun _ m => (m, [])) 3
    (execute replay assign m).result = .error (.immutableAssignment "a" 7) ∧
      (execute replay assign m).machine = m ∧
      (execute replay block m).result = .ok () ∧
      (execute replay block m).machine.reports.length = 3 := by
  intro t file m assign block replay
  obtain ⟨hfails, -, hblock, -⟩ := failed_unchanged ⟨none⟩ (fun _ m => (m, [])) 3 m
  have he : (execute replay assign m).result = .error (.immutableAssignment "a" 7) := rfl
  exact ⟨he, (hfails assign _ he).1, hblock t "b" none _, rfl⟩

end SlideDeck
