import SlideDeck.Proofs.Run.Derivation

/-!
# The limit on replays

The limit only refuses replays: a run in which none is refused is the same run under every larger
limit. A run without a bound is therefore any run under a limit that refuses nothing.

Results:
* `Runs.reports_prefix`: reports are only added, behind those that are there.
* `Runs.add_limit`: a run without a refusal is a run under every larger limit.
* `compile_congr`: what is the same under every limit is the same without one.
* `compile_unbounded`: without a bound, the outcome is that under any limit that refuses nothing.
-/

namespace SlideDeck

namespace Machine

@[simp] theorem reports_close (m : Machine) (name : String) :
    (m.close name).reports = m.reports := by
  unfold close
  split
  · rename_i scope env h
    cases scope.target <;> rfl
  · rfl

@[simp] theorem reports_report (m : Machine) (t : Token) (e : CompileError) :
    (m.report t e).reports = m.reports ++ [t.mark.report e] := rfl

theorem not_refused_of_prefix {m m' : Machine} (h : m.reports <+: m'.reports)
    (hm : m'.refused = false) : m.refused = false := by
  rw [refused, List.any_eq_false] at hm ⊢
  exact fun r hr => hm r (h.subset hr)

end Machine

/-- Reports are only added, behind those that are there. -/
theorem Runs.reports_prefix {limit room : Nat} {statements : List Statement} {m m' : Machine}
    (h : Runs limit room statements m m') : m.reports <+: m'.reports := by
  induction h with
  | done => exact List.prefix_rfl
  | fault _ _ ih => exact (List.prefix_append _ _).trans ih
  | change _ _ ih => exact ih
  | build _ _ _ ihbody ih =>
    rw [Machine.reports_close] at ih
    exact ihbody.trans ih
  | replay _ _ _ ihbody ih => exact ihbody.trans ih

/-! ## Larger limits -/

/-- Unless a replay is refused, a statement has the same effect under every larger limit. -/
theorem Statement.effect_add_limit {limit room : Nat} {env : Environment} {s : Statement}
    (h : ∀ e, s.effect limit room env = .error e → e.isRefusal = false) (more : Nat) :
    s.effect (limit + more) (room + more) env = s.effect limit room env := by
  cases hs : s.called? with
  | none => exact s.effect_of_called?_eq_none _ _ hs
  | some name =>
    obtain ⟨t, rfl⟩ := s.eq_call_of_called? hs
    simp only [Statement.effect, Command.effect, Environment.macroBody] at h ⊢
    cases hfound : env.findMacro? name with
    | none => rfl
    | some body =>
      have hroom : room ≠ 0 := by
        rintro rfl
        have := h (.macroDepthExceeded limit) (by simp [hfound, Except.bind])
        cases this
      simp [Except.bind, hroom]

/-- A run without a refusal is a run under every larger limit. -/
theorem Runs.add_limit {limit room : Nat} {statements : List Statement} {m m' : Machine}
    (h : Runs limit room statements m m') (hm : m'.refused = false) (more : Nat) :
    Runs (limit + more) (room + more) statements m m' := by
  induction h with
  | done => exact .done
  | @fault room s rest m m' e h hrest ih =>
    have he : e.isRefusal = false := by
      have := Machine.not_refused_of_prefix hrest.reports_prefix hm
      simp_all [Machine.refused, Mark.report]
    have heq := Statement.effect_add_limit (fun e' h' => by cases h.symm.trans h'; exact he) more
    exact .fault (heq.trans h) (ih hm)
  | change h _ ih =>
    have heq := Statement.effect_add_limit (fun e' h' => by cases h.symm.trans h') more
    exact .change (heq.trans h) (ih hm)
  | build h _ hrest ihbody ih =>
    have heq := Statement.effect_add_limit (fun e' h' => by cases h.symm.trans h') more
    have hinner := Machine.not_refused_of_prefix hrest.reports_prefix hm
    rw [Machine.refused, Machine.reports_close] at hinner
    exact .build (heq.trans h) (ihbody hinner) (ih hm)
  | @replay room s rest body m inner m' h _ hrest ihbody ih =>
    have heq := Statement.effect_add_limit (fun e' h' => by cases h.symm.trans h') more
    have hinner := Machine.not_refused_of_prefix hrest.reports_prefix hm
    rw [Nat.add_right_comm] at heq ih ⊢
    exact .replay (heq.trans h) (ihbody hinner) (ih hm)

/-! ## No limit -/

theorem runs_runWithin (limit : Nat) (statements : List Statement) :
    Runs limit limit statements {} (runWithin limit statements).1 :=
  runs_runFrom limit limit statements {}

theorem runWithin_add {limit : Nat} {statements : List Statement}
    (h : (runWithin limit statements).1.refused = false) (more : Nat) :
    (runWithin (limit + more) statements).1 = (runWithin limit statements).1 :=
  runs_iff.1 ((runs_runWithin limit statements).add_limit h more)

theorem repeatM_tryLimit (statements : List Statement) (limit : Nat) :
    repeatM (tryLimit statements) limit =
      if (runWithin limit statements).1.refused then repeatM (tryLimit statements) (limit + 1)
      else some limit := by
  rw [repeatM_eq_of_monadTail]
  simp only [repeatM.body, tryLimit]
  split <;> rfl

/-- The search for a limit that refuses nothing ends at the first one from where it starts. -/
theorem exists_repeatM_tryLimit {limit : Nat} {statements : List Statement}
    (h : (runWithin limit statements).1.refused = false) {start : Nat} (hstart : start ≤ limit) :
    ∃ ample ≤ limit, repeatM (tryLimit statements) start = some ample ∧
      (runWithin ample statements).1.refused = false := by
  induction hd : limit - start generalizing start with
  | zero =>
    obtain rfl : start = limit := by omega
    exact ⟨start, Nat.le_refl _, by rw [repeatM_tryLimit]; simp [h], h⟩
  | succ d ih =>
    rw [repeatM_tryLimit]
    cases hs : (runWithin start statements).1.refused with
    | false => exact ⟨start, hstart, by simp, hs⟩
    | true =>
      have hne : start ≠ limit := by
        rintro rfl
        rw [h] at hs
        cases hs
      simpa using @ih (start + 1) (by omega) (by omega)

/-- If a limit refuses nothing, one that is no larger is found, and refuses nothing either. -/
theorem exists_ampleLimit {limit : Nat} {statements : List Statement}
    (h : (runWithin limit statements).1.refused = false) :
    ∃ ample ≤ limit, ampleLimit statements = some ample ∧
      (runWithin ample statements).1.refused = false := by
  obtain ⟨ample, hle, hfind, hample⟩ := exists_repeatM_tryLimit h (Nat.zero_le limit)
  exact ⟨ample, hle, by simp [ampleLimit, hfind, hample], hample⟩

/-- No limit is found exactly if all of them refuse something. -/
theorem ampleLimit_eq_none_iff {statements : List Statement} :
    ampleLimit statements = none ↔ ∀ limit, (runWithin limit statements).1.refused = true := by
  constructor
  · intro h limit
    rw [← Bool.not_eq_false]
    intro hlimit
    obtain ⟨ample, -, hample, -⟩ := exists_ampleLimit hlimit
    rw [h] at hample
    cases hample
  · intro h
    rw [ampleLimit, Option.filter_eq_none_iff]
    intro limit _
    simp [h limit]

/-- What limit is needed depends only on which limits refuse something. -/
theorem ampleLimit_congr {a b : List Statement}
    (h : ∀ limit, (runWithin limit a).1.refused = (runWithin limit b).1.refused) :
    ampleLimit a = ampleLimit b := by
  have htry : tryLimit a = tryLimit b := by
    funext limit
    rw [tryLimit, tryLimit, h]
  simp only [ampleLimit, htry, h]

/-- Statements that have the same outcome under every limit have it without one as well. -/
theorem compile_congr (config : Config) {a b : List Statement}
    (h : ∀ limit, (runWithin limit a).1.outcome = (runWithin limit b).1.outcome) :
    compile config a = compile config b := by
  have hrefused (limit : Nat) : (runWithin limit a).1.refused = (runWithin limit b).1.refused :=
    congrArg (fun o : Outcome CompileError Deck => o.reports.any (·.cause.isRefusal)) (h limit)
  have hlimit : config.replayLimit a = config.replayLimit b := by
    simp only [Config.replayLimit, ampleLimit_congr hrefused]
  simp only [compile, runFile, hlimit, Option.map_map]
  congr 1
  funext limit
  exact h limit

/-- Without a bound, the outcome is that under any limit that refuses nothing. -/
theorem compile_unbounded {limit : Nat} {statements : List Statement}
    (h : (runWithin limit statements).1.refused = false) :
    compile .unbounded statements = some (runWithin limit statements).1.outcome := by
  obtain ⟨ample, hle, hfind, hample⟩ := exists_ampleLimit h
  obtain ⟨more, rfl⟩ := Nat.exists_eq_add_of_le hle
  simp [compile, runFile, Config.replayLimit, Config.unbounded, hfind, runWithin_add hample]

end SlideDeck
