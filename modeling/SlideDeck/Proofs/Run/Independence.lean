import SlideDeck.Proofs.Scope.Frame
import SlideDeck.Proofs.Scope.Macros

/-!
# What a run leaves alone

A run neither reads nor changes the slides that are in the deck and what was reported: it only adds
to them. The scopes around the current one are changed by assignments only.

Results:
* `runFrom_behind`: a run is the same behind other slides and reports.
* `Runs.outer_eq`: a run without assignments leaves the scopes around the current one.
-/

namespace SlideDeck

/-! ## Slides and reports -/

namespace Machine

/-- The machine with its slides and reports behind those. -/
def behind (slides : List Slide) (reports : List (Report CompileError)) (m : Machine) :
    Machine where
  env := m.env
  deck := ⟨slides ++ m.deck.slides⟩
  reports := reports ++ m.reports

variable (slides : List Slide) (reports : List (Report CompileError)) (m : Machine)

theorem behind_report (t : Token) (e : CompileError) :
    (m.behind slides reports).report t e = (m.report t e).behind slides reports := by
  simp [behind, report]

theorem behind_close (name : String) :
    (m.behind slides reports).close name = (m.close name).behind slides reports := by
  obtain ⟨⟨current, outer⟩, deck, reported⟩ := m
  cases outer with
  | nil => rfl
  | cons s rest =>
    simp only [close, behind, Environment.pop?, Action.finish]
    cases current.target <;> simp

end Machine

section

variable {limit room : Nat} {statements : List Statement} {m m' : Machine}

theorem Runs.behind (h : Runs limit room statements m m') (slides : List Slide)
    (reports : List (Report CompileError)) :
    Runs limit room statements (m.behind slides reports) (m'.behind slides reports) := by
  induction h with
  | done => exact .done
  | fault h _ ih =>
    rw [← Machine.behind_report] at ih
    exact .fault h ih
  | change h _ ih => exact .change h ih
  | build h _ _ ihbody ih =>
    rw [← Machine.behind_close] at ih
    exact .build h ihbody ih
  | replay h _ _ ihbody ih => exact .replay h ihbody ih

/-- A run is the same behind other slides and reports. -/
theorem runFrom_behind (limit room : Nat) (statements : List Statement) (slides : List Slide)
    (reports : List (Report CompileError)) (m : Machine) :
    runFrom limit room statements (m.behind slides reports) =
      (runFrom limit room statements m).behind slides reports :=
  ((runs_runFrom limit room statements m).behind slides reports).eq

/-- What a run makes of the environment, and what it adds, does not depend on the rest. -/
theorem runFrom_eq_behind (limit room : Nat) (statements : List Statement) (m : Machine) :
    runFrom limit room statements m =
      (runFrom limit room statements { env := m.env }).behind m.deck.slides m.reports := by
  rw [← runFrom_behind]
  simp [Machine.behind]

/-! ## Scopes around the current one -/

theorem Environment.outer_tryCurrent {env env' : Environment}
    {f : Scope → Except CompileError Scope} (h : env.tryCurrent f = .ok env') :
    env'.outer = env.outer := by
  obtain ⟨s, -, rfl⟩ := map_eq_ok_iff.1 h
  rfl

/-- Only assignments change the scopes around the current one. -/
theorem Statement.outer_of_change {env env' : Environment} {s : Statement}
    (hs : s.isAssign = false) (h : s.effect limit room env = .ok (.change env')) :
    env'.outer = env.outer := by
  obtain ⟨text, henv⟩ | ⟨name, b, henv⟩ | ⟨t, name, value, v, rfl, -⟩ | ⟨a, v, henv⟩ |
    ⟨t, name, body, -, henv⟩ := Statement.change_cases h
  · exact Environment.outer_tryCurrent henv
  · exact Environment.outer_tryCurrent henv
  · cases hs
  · exact Environment.outer_tryCurrent henv
  · exact Environment.outer_tryCurrent henv

/-- A run without assignments, in its statements and in the macros that are known, leaves the scopes
around the current one. -/
theorem Runs.outer_eq (h : Runs limit room statements m m') (hfree : AssignFree statements)
    (hknown : m.env.KnowsOnly AssignFree) : m'.env.outer = m.env.outer := by
  have hgood : ∀ body, AssignFree body → DeclaresOnly AssignFree body :=
    fun _ => AssignFree.declaresOnly
  induction h with
  | done => rfl
  | fault _ _ ih => exact ih hfree.tail hknown
  | change h _ ih =>
    rw [ih hfree.tail (Statement.knowsOnly_of_change hknown hfree.declaresOnly h)]
    exact Statement.outer_of_change hfree.head h
  | @build room s rest body m inner m' name target h hbody _ ihbody ih =>
    obtain ⟨t, head, rfl⟩ := Statement.eq_compound_of_build h
    have hfreeBody := hfree.of_mem (mem_preorder_head _ _)
    have hinner := hbody.knowsOnly hgood hfreeBody.declaresOnly (hknown.push target)
    -- The scope that takes in what was built is the current one, and those around it are kept.
    have houter : inner.env.outer = m.env.current :: m.env.outer :=
      ihbody hfreeBody (hknown.push target)
    rw [ih hfree.tail (Machine.knowsOnly_close hinner name), Machine.env_close houter]
  | replay h hbody _ ihbody ih =>
    obtain ⟨-, t, name, -, hfound⟩ := Statement.effect_eq_replay_iff.1 h
    have hfreeBody := hknown.findMacro? hfound
    have hinner := hbody.knowsOnly hgood hfreeBody.declaresOnly hknown
    rw [ih hfree.tail hinner, ihbody hfreeBody hknown]

end

end SlideDeck
