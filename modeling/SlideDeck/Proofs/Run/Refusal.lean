import SlideDeck.Proofs.Run.Fault
import SlideDeck.Proofs.Run.Limit

/-!
# Refusals

A replay can be refused only where a macro is called. Statements that call nothing are carried out
without a refusal, whatever the limit, and so they have an outcome without a bound as well.

Results:
* `Statement.effect_unrefused`: a statement that is no call does not fail with a refusal.
* `Runs.not_refused`: in a run of statements that call nothing, no replay is refused.
* `Runs.change_limit`: the limit makes no difference to such a run.
* `compile_of_calls_eq_nil`: nor does it make one to the outcome.
-/

namespace SlideDeck

/-- If the computation fails, it is not because a replay was refused. -/
def Unrefused {α : Type} (x : Except CompileError α) : Prop :=
  ∀ e, x = .error e → e.isRefusal = false

namespace Unrefused

variable {α β : Type}

theorem ok (a : α) : Unrefused (.ok a) := by
  intro e h
  cases h

theorem error {e : CompileError} (he : e.isRefusal = false) :
    Unrefused (.error e : Except CompileError α) := by
  intro e' h
  cases h
  exact he

theorem bind {x : Except CompileError α} {f : α → Except CompileError β} (hx : Unrefused x)
    (hf : ∀ a, Unrefused (f a)) : Unrefused (x.bind f) := by
  cases x with
  | ok a => exact hf a
  | error e => exact error (hx e rfl)

end Unrefused

/-- A statement that is no call does not fail with a refusal. -/
theorem Statement.effect_unrefused {limit room : Nat} {env : Environment} {s : Statement}
    (h : s.called? = none) : Unrefused (s.effect limit room env) := by
  intro e he
  cases Statement.faults_of_effect he with
  | undefinedMacro | refused => cases h
  | setting hfault => cases hfault <;> rfl
  | _ => rfl

/-! ## Statements that call nothing -/

/-- In a run of statements that call nothing, no replay is refused. -/
theorem Runs.not_refused {limit room : Nat} {statements : List Statement} {m m' : Machine}
    (h : Runs limit room statements m m') (hcalls : calls statements = [])
    (hm : m.refused = false) : m'.refused = false := by
  induction h with
  | done => exact hm
  | @fault room s rest m m' e h _ ih =>
    obtain ⟨hs, hrest⟩ := called?_of_calls_eq_nil hcalls
    refine ih hrest ?_
    have he := Statement.effect_unrefused hs e h
    simp_all [Machine.refused, Mark.report]
  | change _ _ ih => exact ih (called?_of_calls_eq_nil hcalls).2 hm
  | build h _ _ ihbody ih =>
    obtain ⟨t, head, rfl⟩ := Statement.eq_compound_of_build h
    rw [calls_compound, List.append_eq_nil_iff] at hcalls
    refine ih hcalls.2 ?_
    rw [Machine.refused, Machine.reports_close]
    exact ihbody hcalls.1 hm
  | replay h => exact absurd hcalls (calls_ne_nil_of_replay h)

/-- A run of statements that call nothing is one under every limit. -/
theorem Runs.change_limit {limit room : Nat} {statements : List Statement} {m m' : Machine}
    (h : Runs limit room statements m m') (hcalls : calls statements = []) (limit' room' : Nat) :
    Runs limit' room' statements m m' := by
  induction h generalizing room' with
  | done => exact .done
  | fault h _ ih =>
    obtain ⟨hs, hrest⟩ := called?_of_calls_eq_nil hcalls
    exact .fault ((Statement.effect_of_called?_eq_none _ _ hs).symm.trans h) (ih hrest room')
  | change h _ ih =>
    obtain ⟨hs, hrest⟩ := called?_of_calls_eq_nil hcalls
    exact .change ((Statement.effect_of_called?_eq_none _ _ hs).symm.trans h) (ih hrest room')
  | build h _ _ ihbody ih =>
    obtain ⟨t, head, rfl⟩ := Statement.eq_compound_of_build h
    rw [calls_compound, List.append_eq_nil_iff] at hcalls
    exact .build ((Statement.effect_of_called?_eq_none _ _ rfl).symm.trans h)
      (ihbody hcalls.1 room') (ih hcalls.2 room')
  | replay h => exact absurd hcalls (calls_ne_nil_of_replay h)

/-- Statements that call nothing have the same outcome under every limit and without one. -/
theorem compile_of_calls_eq_nil (config : Config) (limit : Nat) {statements : List Statement}
    (h : calls statements = []) :
    compile config statements = some (runWithin limit statements).1.outcome := by
  have hruns := runs_runWithin limit statements
  obtain ⟨_ | n⟩ := config
  · exact compile_unbounded (hruns.not_refused h rfl)
  · have hsame : (runWithin n.toNat statements).1 = (runWithin limit statements).1 :=
      (hruns.change_limit h n.toNat n.toNat).eq
    rw [compile_bounded, hsame]

end SlideDeck
