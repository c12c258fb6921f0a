import SlideDeck.Proofs.Run.Refusal

/-!
# Runs without a bound

Where nothing bounds the replays, every macro that is known is replayed where it is called. A limit
only refuses: a run in which it refuses nothing is the run without it, and statements that come to
an end without a bound come to the same end under every limit that is large enough.

Results:
* `Statement.effect_succ`: where there is room for a replay, it does not matter for how many.
* `Runs.unbounded`: a run without a refusal is the run without a bound.
* `RunsUnbounded.exists_room`: a run without a bound is the run wherever there is enough room.
* `compile_unbounded_eq_some_iff`: the outcome without a bound is that of the run without a bound.
* `compile_of_not_refused`: an outcome without a refusal is that under every larger limit, and that
  without a bound.
-/

namespace SlideDeck

/-! ## Effects -/

/-- The effect of a statement where nothing bounds the replays: there is room for one more. -/
def Statement.effectUnbounded (env : Environment) (s : Statement) : Except CompileError Effect :=
  s.effect 1 1 env

section

variable {limit room : Nat} {env : Environment} {s : Statement}

/-- Where there is room for a replay, it does not matter for how many. -/
theorem Statement.effect_succ (limit room : Nat) (env : Environment) (s : Statement) :
    s.effect limit (room + 1) env = s.effectUnbounded env := by
  cases hs : s.called? with
  | none => exact s.effect_of_called?_eq_none _ _ hs
  | some name =>
    obtain ⟨t, rfl⟩ := s.eq_call_of_called? hs
    simp only [Statement.effectUnbounded, Statement.effect, Command.effect, Nat.succ_ne_zero,
      if_false]

/-- A statement that is not refused has the effect that it has without a bound. -/
theorem Statement.effect_of_unrefused (h : Unrefused (s.effect limit room env)) :
    s.effect limit room env = s.effectUnbounded env :=
  (Statement.effect_add_limit h 1).symm.trans (Statement.effect_succ _ _ env s)

/-- Without a bound, no statement is refused. -/
theorem Statement.effectUnbounded_unrefused (env : Environment) (s : Statement) :
    Unrefused (s.effectUnbounded env) := by
  cases hs : s.called? with
  | none => exact Statement.effect_unrefused hs
  | some name =>
    obtain ⟨t, rfl⟩ := s.eq_call_of_called? hs
    refine Unrefused.bind ?_ fun body => Unrefused.ok _
    unfold Environment.macroBody
    split
    · exact Unrefused.ok _
    · exact Unrefused.error rfl

end

/-! ## Runs -/

/-- A run of a list of statements from one machine to another where nothing bounds the replays. -/
inductive RunsUnbounded : List Statement → Machine → Machine → Prop
  | done {m : Machine} : RunsUnbounded [] m m
  | fault {s : Statement} {rest : List Statement} {m m' : Machine} {e : CompileError} :
      s.effectUnbounded m.env = .error e → RunsUnbounded rest (m.report s.token e) m' →
      RunsUnbounded (s :: rest) m m'
  | change {s : Statement} {rest : List Statement} {m m' : Machine} {env : Environment} :
      s.effectUnbounded m.env = .ok (.change env) → RunsUnbounded rest { m with env := env } m' →
      RunsUnbounded (s :: rest) m m'
  | build {s : Statement} {rest body : List Statement} {m inner m' : Machine} {name : String}
      {target : Target} : s.effectUnbounded m.env = .ok (.build name target body) →
      RunsUnbounded body (m.enter target) inner → RunsUnbounded rest (inner.close name) m' →
      RunsUnbounded (s :: rest) m m'
  | replay {s : Statement} {rest body : List Statement} {m inner m' : Machine} :
      s.effectUnbounded m.env = .ok (.replay body) → RunsUnbounded body m inner →
      RunsUnbounded rest inner m' → RunsUnbounded (s :: rest) m m'

section

variable {statements : List Statement} {m m' : Machine}

/-- A run without a refusal is the run without a bound. -/
theorem Runs.unbounded {limit room : Nat} (h : Runs limit room statements m m')
    (hm : m'.refused = false) : RunsUnbounded statements m m' := by
  have heffect {s : Statement} {room : Nat} {env : Environment} {effect : Effect}
      (hs : s.effect limit room env = .ok effect) : s.effectUnbounded env = .ok effect :=
    (Statement.effect_of_unrefused (hs ▸ Unrefused.ok effect)).symm.trans hs
  induction h with
  | done => exact .done
  | @fault room s rest m m' e h hrest ih =>
    have he : e.isRefusal = false := by
      have := Machine.not_refused_of_prefix hrest.reports_prefix hm
      simp_all [Machine.refused, Mark.report]
    have heq := Statement.effect_of_unrefused (h ▸ Unrefused.error he)
    exact .fault (heq.symm.trans h) (ih hm)
  | change h _ ih => exact .change (heffect h) (ih hm)
  | build h _ hrest ihbody ih =>
    have hinner := Machine.not_refused_of_prefix hrest.reports_prefix hm
    rw [Machine.refused, Machine.reports_close] at hinner
    exact .build (heffect h) (ihbody hinner) (ih hm)
  | replay h _ hrest ihbody ih =>
    have hinner := Machine.not_refused_of_prefix hrest.reports_prefix hm
    exact .replay (heffect h) (ihbody hinner) (ih hm)

/-- A run without a bound is the run wherever there is enough room for its replays. -/
theorem RunsUnbounded.exists_room (h : RunsUnbounded statements m m') :
    ∃ least, ∀ limit room, least ≤ room → Runs limit (room + 1) statements m m' := by
  induction h with
  | done => exact ⟨0, fun _ _ _ => .done⟩
  | @fault s rest m m' e h _ ih =>
    obtain ⟨least, ih⟩ := ih
    refine ⟨least, fun limit room hroom => ?_⟩
    exact .fault ((s.effect_succ limit room m.env).trans h) (ih limit room hroom)
  | @change s rest m m' env h _ ih =>
    obtain ⟨least, ih⟩ := ih
    refine ⟨least, fun limit room hroom => ?_⟩
    exact .change ((s.effect_succ limit room m.env).trans h) (ih limit room hroom)
  | @build s rest body m inner m' name target h _ _ ihbody ih =>
    obtain ⟨least, ih⟩ := ih
    obtain ⟨leastInner, ihbody⟩ := ihbody
    refine ⟨max leastInner least, fun limit room hroom => ?_⟩
    obtain ⟨hinner, hrest⟩ := Nat.max_le.1 hroom
    exact .build ((s.effect_succ limit room m.env).trans h) (ihbody limit room hinner)
      (ih limit room hrest)
  | @replay s rest body m inner m' h _ _ ihbody ih =>
    obtain ⟨least, ih⟩ := ih
    obtain ⟨leastInner, ihbody⟩ := ihbody
    refine ⟨max (leastInner + 1) least, fun limit room hroom => ?_⟩
    obtain ⟨hinner, hrest⟩ := Nat.max_le.1 hroom
    -- The replay takes up one of the places.
    obtain ⟨room, rfl⟩ := Nat.exists_eq_add_of_le' hinner
    exact .replay ((s.effect_succ limit _ m.env).trans h)
      (ihbody limit (room + leastInner) (Nat.le_add_left _ _)) (ih limit _ hrest)

/-- Without a bound, nothing is refused. -/
theorem RunsUnbounded.not_refused (h : RunsUnbounded statements m m') (hm : m.refused = false) :
    m'.refused = false := by
  induction h with
  | done => exact hm
  | @fault s rest m m' e h _ ih =>
    have he := s.effectUnbounded_unrefused m.env e h
    exact ih (by simp_all [Machine.refused, Mark.report])
  | change _ _ ih => exact ih hm
  | build _ _ _ ihbody ih =>
    refine ih ?_
    rw [Machine.refused, Machine.reports_close]
    exact ihbody hm
  | replay _ _ _ ihbody ih => exact ih (ihbody hm)

end

/-! ## Outcomes -/

theorem not_refused_of_ampleLimit {limit : Nat} {statements : List Statement}
    (h : ampleLimit statements = some limit) : (runWithin limit statements).1.refused = false := by
  simpa using (Option.filter_eq_some_iff.1 h).2

/-- The outcome without a bound is that of the run without a bound; there is none exactly if there
is no such run. -/
theorem compile_unbounded_eq_some_iff {statements : List Statement}
    {o : Outcome CompileError Deck} :
    compile .unbounded statements = some o ↔
      ∃ m, RunsUnbounded statements {} m ∧ m.outcome = o := by
  constructor
  · intro h
    obtain ⟨_, hrun, rfl⟩ := Option.map_eq_some_iff.1 h
    obtain ⟨limit, hlimit, rfl⟩ := Option.map_eq_some_iff.1 hrun
    exact ⟨_, (runs_runWithin limit statements).unbounded (not_refused_of_ampleLimit hlimit), rfl⟩
  · rintro ⟨m, hm, rfl⟩
    obtain ⟨least, hleast⟩ := hm.exists_room
    have hrun : (runWithin (least + 1) statements).1 = m := (hleast _ least (Nat.le_refl _)).eq
    rw [← hrun]
    exact compile_unbounded (hrun ▸ hm.not_refused rfl)

/-- If a limit refuses nothing, the outcome is the same under every larger limit and without a
bound, and without a bound the statements come to an end. -/
theorem compile_of_not_refused {n m : UInt64} (hle : n ≤ m) {statements : List Statement}
    {o : Outcome CompileError Deck} (h : compile ⟨some n⟩ statements = some o)
    (hrefused : ∀ r ∈ o.reports, ∀ depth, r.cause ≠ .macroDepthExceeded depth) :
    compile ⟨some m⟩ statements = some o ∧ compile .unbounded statements = some o ∧
      ∃ m', RunsUnbounded statements {} m' ∧ m'.outcome = o := by
  rw [compile_bounded, Option.some.injEq] at h
  have hrun : (runWithin n.toNat statements).1.refused = false := by
    rw [Machine.refused, List.any_eq_false]
    intro r hr
    have hcause := hrefused r (h ▸ hr)
    cases hr : r.cause <;> simp_all [CompileError.isRefusal]
  have hunbounded := compile_unbounded hrun
  rw [h] at hunbounded
  refine ⟨?_, hunbounded, compile_unbounded_eq_some_iff.1 hunbounded⟩
  obtain ⟨more, hmore⟩ := Nat.exists_eq_add_of_le (UInt64.le_iff_toNat_le.1 hle)
  rw [compile_bounded, hmore, runWithin_add hrun, h]

/-- Two replays are nested, and the text of the inner macro is reported. -/
theorem compile_of_not_refused_nested :
    let t : Token := ⟨.endOfInput, ⟨1, 'a', ⟨0, 1⟩⟩⟩
    let statements := [.compound t (.macroDef "inner") [.command t (.text "x")],
      .compound t (.macroDef "outer") [.command t (.call "inner")],
      .compound t (.slide "s" none) [.command t (.call "outer")]]
    let o : Outcome CompileError Deck := ⟨⟨[{}]⟩, [t.mark.report .textOutsideBlock]⟩
    compile ⟨some 2⟩ statements = some o ∧ compile ⟨some 3⟩ statements = some o ∧
      compile .unbounded statements = some o := by
  intro t statements o
  have h : compile ⟨some 2⟩ statements = some o := by decide +kernel
  have hrefused : ∀ r ∈ o.reports, ∀ depth, r.cause ≠ .macroDepthExceeded depth := by
    simp [o, Mark.report]
  obtain ⟨hlarger, hunbounded, -⟩ := compile_of_not_refused (m := 3) (by decide) h hrefused
  exact ⟨h, hlarger, hunbounded⟩

end SlideDeck
