import SlideDeck.Proofs.Run.Limit
import SlideDeck.Proofs.Scope.Frame
import SlideDeck.Proofs.Scope.Renaming

/-!
# Names carry no meaning

A run of renamed statements is the run of the statements with everything renamed that came up on the
way. What it builds holds no names, so the deck is the same. The faults are found at the same
places; where one quotes a name, it quotes the new one.

Results:
* `Statement.effect_rename`: a renamed statement has the renamed effect in the renamed environment.
* `Runs.rename`: a run with everything renamed is a run of the renamed statements.
* `compile_renameAll`: the outcome of renamed statements, with or without a limit on replays.
* `namespaces_independent`: under a limit, the deck is the same, and so are the diagnostics but for
  the names that they quote.
-/

namespace SlideDeck

/-- The name of something that a scope of the kind has built. -/
def Renaming.built (ρ : Renaming) (kind : ScopeKind) (name : String) : String :=
  match kind with
  | .file => name
  | .slide => ρ .slides name
  | .block => ρ .blocks name

def Effect.rename (ρ : Renaming) : Effect → Effect
  | .change env => .change (env.rename ρ)
  | .build name target body => .build (ρ.built target.kind name) target (renameAll ρ body)
  | .replay body => .replay (renameAll ρ body)

def Report.rename (ρ : Renaming) (r : Report CompileError) : Report CompileError :=
  { r with cause := r.cause.rename ρ }

def Outcome.rename (ρ : Renaming) (o : Outcome CompileError Deck) : Outcome CompileError Deck :=
  { o with reports := o.reports.map (Report.rename ρ) }

def Machine.rename (ρ : Renaming) (m : Machine) : Machine where
  env := m.env.rename ρ
  deck := m.deck
  reports := m.reports.map (Report.rename ρ)

section

variable (ρ : Renaming)

/-! ## Effects -/

theorem Command.effect_rename (limit room : Nat) (t : Token) (env : Environment) (c : Command) :
    (c.rename ρ).effect limit room t (env.rename ρ) =
      ρ.result (Effect.rename ρ) (c.effect limit room t env) := by
  cases c with
  | text content =>
    simp only [rename, effect, Environment.setText_rename]
    exact ρ.result_map (fun _ => by rfl) _
  | call name =>
    simp only [rename, effect, Environment.macroBody_rename]
    refine ρ.result_bind (fun body => ?_) _
    split <;> rfl
  | declare name isMutable value =>
    simp only [rename, effect, Environment.resolve_rename]
    refine ρ.result_bind (fun v => ?_) _
    simp only [id, Environment.declareVariable_rename]
    exact ρ.result_map (fun _ => by rfl) _
  | assign name value =>
    simp only [rename, effect, Environment.resolve_rename]
    refine ρ.result_bind (fun v => ?_) _
    simp only [id, Environment.assign_rename]
    exact ρ.result_map (fun _ => by rfl) _
  | setAttribute name value =>
    simp only [rename, effect, Environment.resolve_rename]
    conv_lhs => rw [← Attribute.result_find ρ]
    refine ρ.result_bind (fun a => ?_) _
    refine ρ.result_bind (fun v => ?_) _
    simp only [id, Environment.setAttribute_rename]
    exact ρ.result_map (fun _ => by rfl) _

theorem Effect.result_build {start : Except CompileError Target} {name name' : String}
    (hname : ∀ target, start = .ok target → ρ.built target.kind name = name')
    (body : List Statement) : (ρ.result id start).map (.build name' · (renameAll ρ body)) =
      ρ.result (Effect.rename ρ) (start.map (.build name · body)) := by
  cases start with
  | error e => rfl
  | ok target => simp only [Renaming.result, Except.map, Effect.rename, hname target rfl, id]

/-- A renamed statement has the renamed effect in the renamed environment. -/
theorem Statement.effect_rename (limit room : Nat) (env : Environment) (s : Statement) :
    (s.rename ρ).effect limit room (env.rename ρ) =
      ρ.result (Effect.rename ρ) (s.effect limit room env) := by
  cases s with
  | command t c =>
    rw [rename_command]
    exact c.effect_rename ρ limit room t env
  | compound t head body =>
    rw [rename_compound]
    cases head with
    | slide name parent =>
      simp only [Head.rename, effect, Environment.startSlide_rename]
      refine Effect.result_build ρ (fun target hstart => ?_) body
      rw [(kind_of_startSlide hstart).2, Renaming.built]
    | block name parent =>
      simp only [Head.rename, effect, Environment.startBlock_rename]
      refine Effect.result_build ρ (fun target hstart => ?_) body
      rw [(kind_of_startBlock hstart).2, Renaming.built]
    | macroDef name =>
      simp only [Head.rename, effect, Environment.declareMacro_rename]
      exact ρ.result_map (fun _ => by rfl) _

/-! ## Runs -/

namespace Machine

theorem enter_rename (m : Machine) (target : Target) :
    (m.rename ρ).enter target = (m.enter target).rename ρ := rfl

theorem report_rename (m : Machine) (t : Token) (e : CompileError) :
    (m.rename ρ).report t (e.rename ρ) = (m.report t e).rename ρ := by
  simp only [report, rename, List.map_append]
  rfl

theorem finish_rename (m : Machine) (name : String) (target : Target) :
    (Action.finish (ρ.built target.kind name) target (m.rename ρ)).machine =
      (Action.finish name target m).machine.rename ρ := by
  cases target with
  | file => rfl
  | slide slide =>
    simp only [Action.finish, rename, Environment.rename, Environment.mapCurrent,
      Scope.rename_registerSlide]
    rfl
  | block block =>
    simp only [Action.finish, rename, Environment.rename, Environment.mapCurrent,
      Scope.rename_appendBlock, Scope.rename_registerBlock]
    rfl

theorem close_rename (m : Machine) (name : String) :
    (m.rename ρ).close (ρ.built m.env.current.kind name) = (m.close name).rename ρ := by
  obtain ⟨⟨current, outer⟩, deck, reports⟩ := m
  cases outer with
  | nil => rfl
  | cons s rest => exact finish_rename ρ ⟨⟨s, rest⟩, deck, reports⟩ name current.target

@[simp] theorem refused_rename (m : Machine) : (m.rename ρ).refused = m.refused := by
  simp [refused, rename, List.any_map, Report.rename, Function.comp_def]

end Machine

variable {ρ}

/-- A run with everything renamed is a run of the renamed statements. -/
theorem Runs.rename {limit room : Nat} {statements : List Statement} {m m' : Machine}
    (h : Runs limit room statements m m') :
    Runs limit room (renameAll ρ statements) (m.rename ρ) (m'.rename ρ) := by
  have heffect {s : Statement} {room : Nat} {env : Environment} {x : Except CompileError Effect}
      (hs : s.effect limit room env = x) :
      (s.rename ρ).effect limit room (env.rename ρ) = ρ.result (Effect.rename ρ) x :=
    hs ▸ s.effect_rename ρ limit room env
  induction h with
  | done =>
    rw [renameAll_nil]
    exact .done
  | @fault room s rest m m' e h _ ih =>
    rw [← Machine.report_rename, ← s.token_rename ρ] at ih
    rw [renameAll_cons]
    exact .fault (heffect h) ih
  | change h _ ih =>
    rw [renameAll_cons]
    exact .change (heffect h) ih
  | @build room s rest body m inner m' name target h hbody _ ihbody ih =>
    -- The scope is still of the kind that was opened, so the namespace of the name is the same.
    have hkind : inner.env.current.kind = target.kind := hbody.grows.current.kind
    rw [← Machine.enter_rename] at ihbody
    rw [← Machine.close_rename, hkind] at ih
    rw [renameAll_cons]
    exact .build (heffect h) ihbody ih
  | replay h _ _ ihbody ih =>
    rw [renameAll_cons]
    exact .replay (heffect h) ihbody ih

variable (ρ)

theorem runWithin_renameAll (limit : Nat) (statements : List Statement) :
    (runWithin limit (renameAll ρ statements)).1 = (runWithin limit statements).1.rename ρ :=
  runs_iff.1 (runs_runWithin limit statements).rename

/-! ## Outcomes -/

/-- Renaming makes no difference to what limit on replays is needed. -/
theorem ampleLimit_renameAll (statements : List Statement) :
    ampleLimit (renameAll ρ statements) = ampleLimit statements := by
  refine ampleLimit_congr fun limit => ?_
  rw [runWithin_renameAll, Machine.refused_rename]

/-- The outcome of renamed statements, with or without a limit on replays. -/
theorem compile_renameAll (config : Config) (statements : List Statement) :
    compile config (renameAll ρ statements) =
      (compile config statements).map (Outcome.rename ρ) := by
  have hlimit : config.replayLimit (renameAll ρ statements) = config.replayLimit statements := by
    simp only [Config.replayLimit, ampleLimit_renameAll]
  simp only [compile, runFile, hlimit, Option.map_map]
  congr 1
  funext limit
  simp only [Function.comp, runWithin_renameAll]
  rfl

end

/-- Under a limit, the deck of renamed statements is the same, and so are the diagnostics but for
the names that they quote. -/
theorem namespaces_independent (limit : UInt64) (ρ : Renaming) (statements : List Statement) :
    ∃ deck reports, compile ⟨some limit⟩ statements = some ⟨deck, reports⟩ ∧
      compile ⟨some limit⟩ (renameAll ρ statements) = some ⟨deck, reports.map (Report.rename ρ)⟩ ∧
      ∀ r ∈ reports, match r.cause.quoted? with
        | none => (r.rename ρ).diagnostic = r.diagnostic
        | some (space, name) => ∃ before after,
            r.diagnostic.message = before ++ name ++ after ∧
            (r.rename ρ).diagnostic =
              { r.diagnostic with message := before ++ ρ space name ++ after } := by
  refine ⟨_, _, compile_bounded limit statements, ?_, ?_⟩
  · rw [compile_renameAll, compile_bounded]
    rfl
  · intro r _
    split
    · rename_i hquoted
      rw [Report.rename, CompileError.rename_of_quoted?_eq_none ρ hquoted]
    · rename_i space name hquoted
      obtain ⟨before, after, hmessage, hrenamed⟩ := CompileError.message_rename ρ hquoted
      refine ⟨before, after, hmessage, ?_⟩
      rw [← hrenamed]
      rfl

/-- A macro that was not declared stays unknown if a variable and a slide get the same name. -/
example :
    let t : Token := ⟨.endOfInput, ⟨1, 'a', ⟨0, 1⟩⟩⟩
    let old : Namespace → String
      | .bindings => "v"
      | .macros => "m"
      | .slides => "s"
      | .blocks => "b"
    let ρ : Renaming := fun space => (Equiv.swap (old space) "x").toEmbedding
    compile ⟨some 1⟩ (renameAll ρ
      [.command t (.declare "v" false (.string "red")),
        .compound t (.slide "s" none)
          [.command t (.setAttribute "backgroundColor" (.reference "v"))],
        .command t (.call "m")]) =
      some ⟨⟨[{ background := .red }]⟩, [t.mark.report (.undefinedMacro "x")]⟩ := by
  decide +kernel

end SlideDeck
