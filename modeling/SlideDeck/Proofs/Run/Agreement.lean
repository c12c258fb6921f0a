import SlideDeck.Proofs.Run.Limit
import SlideDeck.Proofs.Scope.Agreement

/-!
# Runs that agree

Statements that are alike have effects that agree, in environments that do. So they run alike: from
machines that agree to machines that agree, with the same deck, and with reports at tokens that
correspond to each other.

Results:
* `Statement.effect_agree`: statements that are alike have effects that agree.
* `Runs.agree`: runs of statements that are alike lead to machines that agree.
-/

namespace SlideDeck

variable {a : Aspect}

/-! ## Effects -/

/-- The effects are of the same kind, and what they are about agrees. -/
inductive Effect.Agree (a : Aspect) : Effect → Effect → Prop
  | change {env env' : Environment} : env.Agree a env' → Effect.Agree a (.change env) (.change env')
  | build {name : String} {target : Target} {body body' : List Statement} :
      List.Forall₂ (Statement.Alike a.token) body body' →
      Effect.Agree a (.build name target body) (.build name target body')
  | replay {body body' : List Statement} : List.Forall₂ (Statement.Alike a.token) body body' →
      Effect.Agree a (.replay body) (.replay body')

section

variable {env env' : Environment}

theorem Command.effect_agree (h : env.Agree a env') {t u : Token} (htoken : a.token t u)
    (limit room : Nat) (c : Command) :
    a.Results (Effect.Agree a) (c.effect limit room t env) (c.effect limit room u env') := by
  have hresolve (value : Value) : a.Results Eq (env.resolve value) (env'.resolve value) :=
    .of_eq (fun _ => rfl) (h.resolve value)
  cases c with
  | text content => exact (h.tryCurrent (h.current.setText content)).map fun _ _ => .change
  | call name =>
    refine (h.macroBody name).bind fun body body' hbody => ?_
    split
    · exact .error (.refl _)
    · exact .ok (.replay hbody)
  | declare name isMutable value =>
    refine (hresolve value).bind ?_
    rintro v _ rfl
    have hbinding : Binding.Agree a ⟨v, isMutable, t.mark.line⟩ ⟨v, isMutable, u.mark.line⟩ :=
      ⟨rfl, rfl, a.line_of_token htoken⟩
    exact (h.tryCurrent (h.current.declareVariable hbinding name)).map fun _ _ => .change
  | assign name value =>
    refine (hresolve value).bind ?_
    rintro v _ rfl
    exact (h.assign name v).map fun _ _ => .change
  | setAttribute name value =>
    have hfind : a.Results Eq (Attribute.find name) (Attribute.find name) :=
      .of_eq (fun _ => rfl) rfl
    refine hfind.bind ?_
    rintro x _ rfl
    refine (hresolve value).bind ?_
    rintro v _ rfl
    exact (h.tryCurrent (h.current.setAttribute x v)).map fun _ _ => .change

/-- Statements that are alike have effects that agree, in environments that do. -/
theorem Statement.effect_agree (h : env.Agree a env')
    (hslides : a.slides ∨ env.current.kind ≠ .file) {s s' : Statement} (hs : s.Alike a.token s')
    (limit room : Nat) :
    a.Results (Effect.Agree a) (s.effect limit room env) (s'.effect limit room env') := by
  cases hs with
  | @command t u c htoken => exact c.effect_agree h htoken limit room
  | @compound t u head body body' htoken hbody =>
    cases head with
    | slide name parent =>
      have hstart : a.Results Eq (env.startSlide parent) (env'.startSlide parent) :=
        .of_eq (fun _ => rfl) (h.startSlide hslides parent)
      refine hstart.map ?_
      rintro target _ rfl
      exact .build hbody
    | block name parent =>
      have hstart : a.Results Eq (env.startBlock parent) (env'.startBlock parent) :=
        .of_eq (fun _ => rfl) (h.startBlock parent)
      refine hstart.map ?_
      rintro target _ rfl
      exact .build hbody
    | macroDef name =>
      exact (h.tryCurrent (h.current.declareMacro hbody name)).map fun _ _ => .change

end

/-- What is built is a slide or a block. -/
theorem Statement.kind_ne_file_of_build {limit room : Nat} {env : Environment} {s : Statement}
    {name : String} {target : Target} {body : List Statement}
    (h : s.effect limit room env = .ok (.build name target body)) : target.kind ≠ .file := by
  obtain ⟨t, parent, ⟨-, hstart⟩ | ⟨-, hstart⟩⟩ := effect_eq_build_iff.1 h
  · exact kind_ne_file_of_startSlide hstart
  · exact kind_ne_file_of_startBlock hstart

/-! ## Runs -/

/-- The reports stand at tokens that correspond to each other, and their causes agree. -/
inductive Report.Agree (a : Aspect) : Report CompileError → Report CompileError → Prop
  | intro {t u : Token} {e e' : CompileError} : a.token t u → e.Agree a e' →
      Report.Agree a (t.mark.report e) (u.mark.report e')

structure Machine.Agree (a : Aspect) (m m' : Machine) : Prop where
  env : m.env.Agree a m'.env
  deck : m.deck = m'.deck
  reports : List.Forall₂ (Report.Agree a) m.reports m'.reports

namespace Machine.Agree

variable {m n : Machine}

theorem enter (h : m.Agree a n) (target : Target) : (m.enter target).Agree a (n.enter target) :=
  ⟨.cons (.new a target) h.env, h.deck, h.reports⟩

theorem report (h : m.Agree a n) {t u : Token} (htoken : a.token t u) {e e' : CompileError}
    (he : e.Agree a e') : (m.report t e).Agree a (n.report u e') :=
  ⟨h.env, h.deck, List.rel_append h.reports (.cons (.intro htoken he) .nil)⟩

theorem close (h : m.Agree a n) (name : String) : (m.close name).Agree a (n.close name) := by
  obtain ⟨⟨current, outer⟩, deck, reports⟩ := m
  obtain ⟨⟨current', outer'⟩, deck', reports'⟩ := n
  have htarget : current.target = current'.target := h.env.current.target
  have hdeck : deck = deck' := h.deck
  obtain _ | ⟨hs, hrest⟩ := h.env.outer
  · exact h
  · refine ⟨?_, ?_, by simpa using h.reports⟩
    · rw [Machine.env_close rfl, Machine.env_close rfl]
      simp only [htarget]
      exact .cons (hs.receive name current'.target) hrest
    · simp only [Machine.close, Environment.pop?, htarget, hdeck]
      cases current'.target <;> rfl

end Machine.Agree

/-- Runs of statements that are alike lead from machines that agree to machines that agree. -/
theorem Runs.agree {limit room : Nat} {statements statements' : List Statement} {m m' n : Machine}
    (h : Runs limit room statements m m')
    (hstatements : List.Forall₂ (Statement.Alike a.token) statements statements')
    (hm : m.Agree a n) (hslides : a.slides ∨ m.env.current.kind ≠ .file) :
    m'.Agree a (runFrom limit room statements' n) := by
  induction h generalizing statements' n with
  | done =>
    cases hstatements
    simpa using hm
  | @fault room s rest m m' e h _ ih =>
    obtain _ | ⟨hs, hrest⟩ := hstatements
    obtain ⟨e', heffect, he⟩ :=
      (h ▸ Statement.effect_agree hm.env hslides hs limit room).exists_of_error
    rw [runFrom_cons, heffect]
    exact ih hrest (hm.report hs.token he) hslides
  | @change room s rest m m' env h hrun ih =>
    obtain _ | ⟨hs, hrest⟩ := hstatements
    obtain ⟨effect, heffect, hagree⟩ :=
      (h ▸ Statement.effect_agree hm.env hslides hs limit room).exists_of_ok
    obtain ⟨henv⟩ := hagree
    have hkind := (Statement.changes_of_change h).current.kind
    rw [runFrom_cons, heffect]
    exact ih hrest ⟨henv, hm.deck, hm.reports⟩ (hkind ▸ hslides)
  | @build room s rest body m inner m' name target h hbody hrun ihbody ih =>
    obtain _ | ⟨hs, hrest⟩ := hstatements
    obtain ⟨effect, heffect, hagree⟩ :=
      (h ▸ Statement.effect_agree hm.env hslides hs limit room).exists_of_ok
    obtain _ | ⟨hbodies⟩ := hagree
    -- No slide can be started in the body, so it does not matter there which ones are known.
    have hinner := ihbody hbodies (hm.enter target) (.inr (Statement.kind_ne_file_of_build h))
    have hkind := (Runs.build h hbody .done).grows.current.kind
    rw [runFrom_cons, heffect]
    exact ih hrest (hinner.close name) (hkind ▸ hslides)
  | @replay room s rest body m inner m' h hbody hrun ihbody ih =>
    obtain _ | ⟨hs, hrest⟩ := hstatements
    obtain ⟨effect, heffect, hagree⟩ :=
      (h ▸ Statement.effect_agree hm.env hslides hs limit (room + 1)).exists_of_ok
    obtain _ | _ | ⟨hbodies⟩ := hagree
    have hinner := ihbody hbodies hm hslides
    have hkind := hbody.grows.current.kind
    rw [runFrom_cons, heffect]
    exact ih hrest hinner (hkind ▸ hslides)

end SlideDeck
