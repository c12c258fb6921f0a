import SlideDeck.Proofs.Run.Refusal

/-!
# Recovery from failed statements

A statement that fails is reported and skipped, and the next one is carried out. What is built is
what the statements build from which the failed ones are left out, at whatever nesting they stand; a
slide or block that cannot be started is left out with its body.

Results:
* `runs_keepAll`: without its failed statements, a run leads to the same machine, less the reports.
* `exists_leavesOut`: what a run reports are the statements that are left out, one report each.
* `compile_keepAll`: without the failed statements there is nothing to report, and the deck is that
  which recovery builds; what recovery reports are the failed statements.
-/

namespace SlideDeck

/-- What the declaration builds, if it starts a slide or block in the environment. -/
def Head.opens? (env : Environment) : Head → Option Target
  | .slide _ parent => (env.startSlide parent).toOption
  | .block _ parent => (env.startBlock parent).toOption
  | .macroDef _ => none

mutual

/-- The statement, carried out on a machine, without the statements that fail in its body. -/
def Statement.trim (replay : Replay) : Statement → Machine → Statement
  | .command t c, _ => .command t c
  | .compound t head body, m =>
    match head.opens? m.env with
    | some target => .compound t head (keepAll replay body (m.enter target))
    | none => .compound t head body

/-- The statements, carried out from a machine on, without those that fail, at any nesting. -/
def keepAll (replay : Replay) : List Statement → Machine → List Statement
  | [], _ => []
  | s :: rest, m =>
    let next := keepAll replay rest (executeAll replay [s] m).1
    match (execute replay s m).result with
    | .ok _ => s.trim replay m :: next
    | .error _ => next

end

/-- The machine as if nothing had been reported. -/
def Machine.unreported (m : Machine) : Machine := { m with reports := [] }

namespace Machine

@[simp] theorem env_unreported (m : Machine) : m.unreported.env = m.env := rfl

theorem unreported_close (m : Machine) (name : String) :
    (m.close name).unreported = m.unreported.close name := by
  simp only [close, env_unreported]
  split
  · rename_i scope env h
    cases scope.target <;> rfl
  · rfl

end Machine

section

variable {limit room : Nat} {s : Statement} {rest : List Statement} {m : Machine}

/-! ## What is kept, by the effect of the statement -/

theorem keepAll_cons_of_error {e : CompileError} (h : s.effect limit room m.env = .error e) :
    keepAll (replay limit room) (s :: rest) m =
      keepAll (replay limit room) rest (m.report s.token e) := by
  have hresult := (execute_follows limit room s m).1
  have hnext : runFrom limit room [s] m = m.report s.token e := by
    simp only [runFrom_cons, h, runFrom_nil]
  rw [keepAll, hresult, h]
  exact congrArg _ hnext

theorem keepAll_cons_of_ok {effect : Effect} (h : s.effect limit room m.env = .ok effect) :
    keepAll (replay limit room) (s :: rest) m =
      s.trim (replay limit room) m :: keepAll (replay limit room) rest
        (effect.perform (runFrom limit room) (runFrom limit (room - 1)) m) := by
  have hresult := (execute_follows limit room s m).1
  have hnext : runFrom limit room [s] m =
      effect.perform (runFrom limit room) (runFrom limit (room - 1)) m := by
    simp only [runFrom_cons, h, runFrom_nil]
  rw [keepAll, hresult, h]
  exact congrArg _ (congrArg _ hnext)

theorem Statement.trim_of_change {replay : Replay} {env : Environment}
    (h : s.effect limit room m.env = .ok (.change env)) : s.trim replay m = s := by
  cases s with
  | command t c => rw [trim]
  | compound t head body =>
    have hopens : head.opens? m.env = none := by
      cases head with
      | slide name parent =>
        obtain ⟨target, -, heq⟩ := map_eq_ok_iff.1 h
        cases heq
      | block name parent =>
        obtain ⟨target, -, heq⟩ := map_eq_ok_iff.1 h
        cases heq
      | macroDef name => rfl
    rw [trim, hopens]

/-- Of a slide or block that is started, no more is left out than of its body. -/
theorem Statement.trim_of_build {replay : Replay} {t : Token} {head : Head} {name : String}
    {target : Target} {body inner : List Statement}
    (h : (Statement.compound t head body).effect limit room m.env =
      .ok (.build name target inner)) :
    (Statement.compound t head body).trim replay m =
      .compound t head (keepAll replay body (m.enter target)) := by
  obtain ⟨t, parent, ⟨heq, hstart⟩ | ⟨heq, hstart⟩⟩ := effect_eq_build_iff.1 h
  all_goals
    cases heq
    simp only [trim, Head.opens?, hstart, Except.toOption]

/-- A slide or block that is started keeps its start, whatever is left out of its body. -/
theorem Statement.effect_trim_of_build {replay : Replay} {name : String} {target : Target}
    {body : List Statement} (h : s.effect limit room m.env = .ok (.build name target body)) :
    (s.trim replay m).effect limit room m.env =
      .ok (.build name target (keepAll replay body (m.enter target))) := by
  obtain ⟨t, parent, ⟨rfl, hstart⟩ | ⟨rfl, hstart⟩⟩ := effect_eq_build_iff.1 h
  all_goals
    rw [trim_of_build h]
    exact effect_eq_build_iff.2 ⟨t, parent, by simp [hstart]⟩

end

/-! ## Running what is kept -/

/-- Without its failed statements, a run leads to the same machine, less the reports. -/
theorem runs_keepAll {limit room : Nat} {statements : List Statement} {m m' : Machine}
    (h : Runs limit room statements m m') (hcalls : calls statements = []) :
    Runs limit room (keepAll (replay limit room) statements m) m.unreported
      m'.unreported := by
  induction h with
  | done =>
    rw [keepAll]
    exact .done
  | fault h _ ih =>
    rw [keepAll_cons_of_error h]
    exact ih (called?_of_calls_eq_nil hcalls).2
  | change h _ ih =>
    rw [keepAll_cons_of_ok h, Statement.trim_of_change h]
    exact .change h (ih (called?_of_calls_eq_nil hcalls).2)
  | @build room s rest body m inner m' name target h hbody _ ihbody ih =>
    have hbodycalls : calls body = [] := by
      obtain ⟨t, head, rfl⟩ := Statement.eq_compound_of_build h
      rw [calls_compound, List.append_eq_nil_iff] at hcalls
      exact hcalls.1
    have hrest := ih (called?_of_calls_eq_nil hcalls).2
    rw [keepAll_cons_of_ok h, Effect.perform, hbody.eq]
    rw [Machine.unreported_close] at hrest
    exact .build (Statement.effect_trim_of_build h) (ihbody hbodycalls) hrest
  | replay h => exact absurd hcalls (calls_ne_nil_of_replay h)

theorem runWithin_keepAll (limit : Nat) {statements : List Statement}
    (hcalls : calls statements = []) :
    (runWithin limit (keepAll (replay limit limit) statements {})).1 =
      (runWithin limit statements).1.unreported :=
  (runs_keepAll (runs_runWithin limit statements) hcalls).eq

/-- What is kept calls no other macros than the statements do. -/
theorem calls_keepAll_subset (replay : Replay) (statements : List Statement) (m : Machine) :
    calls (keepAll replay statements m) ⊆ calls statements := by
  induction statements using Statement.listInduction generalizing m with
  | nil => simp [keepAll]
  | command t c rest ih =>
    have hrest := List.subset_append_of_subset_right (Statement.command t c).called?.toList
      (ih (executeAll replay [.command t c] m).1)
    rw [keepAll, calls_command]
    split
    · rw [Statement.trim, calls_command]
      exact List.append_subset.2 ⟨List.subset_append_left _ _, hrest⟩
    · exact hrest
  | compound t head body rest ihbody ih =>
    have hrest := List.subset_append_of_subset_right (calls body)
      (ih (executeAll replay [.compound t head body] m).1)
    rw [keepAll, calls_compound]
    split
    · rw [Statement.trim]
      split
      · rw [calls_compound]
        exact List.append_subset.2 ⟨List.subset_append_of_subset_left _ (ihbody _), hrest⟩
      · rw [calls_compound]
        exact List.append_subset.2 ⟨List.subset_append_left _ _, hrest⟩
    · exact hrest

/-! ## What is reported -/

/-- What is kept of the statements when some of them are left out, at any nesting, and those that
are left out, each with an error, in the order in which they stand. -/
inductive LeavesOut :
    List Statement → (kept : List Statement) → (left : List (Statement × CompileError)) → Prop
  | done : LeavesOut [] [] []
  | fault {s : Statement} {rest kept : List Statement} {left : List (Statement × CompileError)}
      {e : CompileError} : LeavesOut rest kept left → LeavesOut (s :: rest) kept ((s, e) :: left)
  | keep {s : Statement} {rest kept : List Statement} {left : List (Statement × CompileError)} :
      LeavesOut rest kept left → LeavesOut (s :: rest) (s :: kept) left
  | build {t : Token} {head : Head} {body keptBody rest kept : List Statement}
      {inner left : List (Statement × CompileError)} :
      LeavesOut body keptBody inner → LeavesOut rest kept left →
      LeavesOut (.compound t head body :: rest) (.compound t head keptBody :: kept) (inner ++ left)

/-- What a run reports are the statements that are left out, one report each. -/
theorem exists_leavesOut {limit room : Nat} {statements : List Statement} {m m' : Machine}
    (h : Runs limit room statements m m') (hcalls : calls statements = []) :
    ∃ left, LeavesOut statements (keepAll (replay limit room) statements m) left ∧
      m'.reports = m.reports ++ left.map fun f => f.1.token.mark.report f.2 := by
  induction h with
  | done =>
    rw [keepAll]
    exact ⟨[], .done, (List.append_nil _).symm⟩
  | @fault room s rest m m' e heffect _ ih =>
    obtain ⟨left, hleft, hreports⟩ := ih (called?_of_calls_eq_nil hcalls).2
    rw [keepAll_cons_of_error heffect]
    refine ⟨(s, e) :: left, .fault hleft, ?_⟩
    rw [hreports, Machine.report, List.append_assoc]
    rfl
  | change heffect _ ih =>
    obtain ⟨left, hleft, hreports⟩ := ih (called?_of_calls_eq_nil hcalls).2
    rw [keepAll_cons_of_ok heffect, Statement.trim_of_change heffect]
    exact ⟨left, .keep hleft, hreports⟩
  | @build room s rest body m inner m' name target heffect hbody _ ihbody ih =>
    obtain ⟨t, head, rfl⟩ := Statement.eq_compound_of_build heffect
    rw [calls_compound, List.append_eq_nil_iff] at hcalls
    obtain ⟨within, hwithin, hreportsBody⟩ := ihbody hcalls.1
    obtain ⟨left, hleft, hreports⟩ := ih hcalls.2
    rw [keepAll_cons_of_ok heffect, Statement.trim_of_build heffect, Effect.perform, hbody.eq]
    refine ⟨within ++ left, .build hwithin hleft, ?_⟩
    rw [hreports, Machine.reports_close, hreportsBody, List.map_append, List.append_assoc]
    rfl
  | replay heffect => exact absurd hcalls (calls_ne_nil_of_replay heffect)

/-- Without the failed statements there is nothing to report, and the deck is that which recovery
builds. What recovery reports are the statements that are left out, one report each at the token
that introduced it. Statements that call nothing fail in the same places under every limit. -/
theorem compile_keepAll (config : Config) (limit : Nat) (statements : List Statement)
    (hcalls : calls statements = []) :
    ∃ o o', compile config statements = some o ∧
      compile config (keepAll (replay limit limit) statements {}) = some o' ∧
        o'.result = .ok o.value ∧
          ∃ left, LeavesOut statements (keepAll (replay limit limit) statements {}) left ∧
            o.reports = left.map fun f => f.1.token.mark.report f.2 := by
  have hkeptcalls : calls (keepAll (replay limit limit) statements {}) = [] := by
    have hsub := calls_keepAll_subset (replay limit limit) statements {}
    rw [hcalls] at hsub
    exact List.subset_nil.1 hsub
  refine ⟨_, _, compile_of_calls_eq_nil config limit hcalls,
    compile_of_calls_eq_nil config limit hkeptcalls, ?_,
    exists_leavesOut (runs_runWithin limit statements) hcalls⟩
  rw [runWithin_keepAll limit hcalls, Outcome.result_eq_ok_iff]
  exact ⟨rfl, rfl⟩

/-- A text and a block of the file are left out, and a text of the slide; its block is kept. -/
theorem compile_keepAll_textOutsideBlock :
    let t : Token := ⟨.endOfInput, ⟨1, 'a', ⟨0, 1⟩⟩⟩
    let block := Statement.compound t (.block "b" none) [.command t (.text "c")]
    let statements := [.command t (.text "a"), block,
      .compound t (.slide "s" none) [.command t (.text "b"), block]]
    keepAll (replay 0 0) statements {} = [.compound t (.slide "s" none) [block]] ∧
      ∃ o o', compile ⟨none⟩ statements = some o ∧
        compile ⟨none⟩ (keepAll (replay 0 0) statements {}) = some o' ∧
          o'.result = .ok o.value ∧
            ∃ left, LeavesOut statements (keepAll (replay 0 0) statements {}) left ∧
              o.reports = left.map fun f => f.1.token.mark.report f.2 :=
  ⟨by decide, compile_keepAll ⟨none⟩ 0 _ (by decide)⟩

end SlideDeck
