import SlideDeck.Proofs.Scope.Macros
import SlideDeck.Proofs.Statement.Expansion

/-!
# Replaying is expanding

The statements of a macro are carried out in the scope of the caller, with what is known there. So
it makes no difference whether a macro is replayed where it is called or its statements stand there
themselves: what is built is the same, and so is what is reported, in the same order and at the same
places.

Results:
* `runFrom_declarations`: declarations of different macros make all of them known.
* `Expands.runFrom_eq`: where the macros are known, a run of statements is one of their expansion.
* `compile_expands`: a file that declares macros first has the outcome of its expansion.
-/

namespace SlideDeck

/-- All of the macros are known in the environment. -/
def Environment.Knows (env : Environment) (defs : List MacroDef) : Prop :=
  ∀ d ∈ defs, env.findMacro? d.name = some d.body

section

variable {defs : List MacroDef} {limit room : Nat} {statements : List Statement}

theorem Environment.Knows.congr {env env' : Environment} (h : env.Knows defs)
    (htables : env'.macroTables = env.macroTables) : env'.Knows defs := by
  intro d hd
  rw [Environment.findMacro?_congr htables]
  exact h d hd

theorem Environment.Knows.enter {m : Machine} (h : m.env.Knows defs) (target : Target) :
    (m.enter target).env.Knows defs :=
  fun d hd => h d hd

/-! ## Runs -/

/-- A run of an expansion keeps the macros known. -/
theorem Expands.knows {expanded : List Statement} (h : Expands defs statements expanded)
    (hbodies : ∀ d ∈ defs, MacroFree d.body) (hfree : MacroFree statements) {m : Machine}
    (hknows : m.env.Knows defs) : (runFrom limit room expanded m).env.Knows defs :=
  hknows.congr
    ((runs_runFrom limit room expanded m).macroTables h.calls_eq_nil (h.macroFree hbodies hfree))

/-- Where the macros are known, a run of statements is one of their expansion. -/
theorem Expands.runFrom_eq {expanded : List Statement} (h : Expands defs statements expanded)
    (hbodies : ∀ d ∈ defs, MacroFree d.body) (hfree : MacroFree statements)
    (hchains : ChainsWithin defs room statements) {m : Machine} (hknows : m.env.Knows defs) :
    runFrom limit room statements m = runFrom limit room expanded m := by
  induction h generalizing room m with
  | nil => rfl
  | @command t c rest rest' hcalled _ ih =>
    have hrest : ChainsWithin defs room rest := hchains.of_subset (by simp [calls_command])
    rw [runFrom_cons, runFrom_cons]
    cases heffect : (Statement.command t c).effect limit room m.env with
    | error e => exact ih hfree.tail hrest hknows
    | ok effect =>
      cases effect with
      | change env =>
        exact ih hfree.tail hrest
          (hknows.congr (Statement.macroTables_of_change hfree.head heffect))
      | build name target body => exact absurd heffect (c.effect_ne_build t name target body)
      | replay body =>
        obtain ⟨-, t', name, heq, -⟩ := Statement.effect_eq_replay_iff.1 heffect
        rw [heq] at hcalled
        cases hcalled
  | @call t d body rest rest' hd hbody hrest ihbody ih =>
    have hcall : d.name ∈ calls (.command t (.call d.name) :: rest) := by
      simp [calls_command, Statement.called?]
    obtain ⟨room, rfl, hinner⟩ := hchains.body hd hcall
    have heffect : (Statement.command t (.call d.name)).effect limit (room + 1) m.env =
        .ok (.replay d.body) :=
      Statement.effect_eq_replay_iff.2 ⟨Nat.succ_ne_zero room, t, d.name, rfl, hknows d hd⟩
    have hreplay : runFrom limit room d.body m = runFrom limit (room + 1) body m := by
      rw [ihbody (hbodies d hd) hinner hknows]
      exact ((runs_runFrom limit (room + 1) body m).change_limit hbody.calls_eq_nil limit room).eq
    rw [runFrom_cons, heffect, runFrom_append]
    simp only [Effect.perform, Nat.add_sub_cancel, hreplay]
    exact ih hfree.tail (hchains.of_subset (by simp [calls_command]))
      (hbody.knows hbodies (hbodies d hd) hknows)
  | @compound t head body body' rest rest' hbody hrest ihbody ih =>
    obtain ⟨hhead, hfreebody, hfreerest⟩ := macroFree_compound.1 hfree
    have hrestchains : ChainsWithin defs room rest := hchains.of_subset (by simp)
    obtain ⟨start, hstart⟩ := @Statement.effect_compound limit room m.env head hhead t
    rw [runFrom_cons, runFrom_cons, hstart body, hstart body']
    cases start with
    | error e => exact ih hfreerest hrestchains hknows
    | ok target =>
      have hinner := ihbody hfreebody (hchains.of_subset (by simp)) (hknows.enter target)
      have hkept := (runs_runFrom limit room body' (m.enter target)).macroTables
        hbody.calls_eq_nil (hbody.macroFree hbodies hfreebody)
      simp only [Except.map, Effect.perform, hinner]
      exact ih hfreerest hrestchains (hknows.congr (Machine.macroTables_close hkept))

/-! ## Declarations -/

/-- Declarations of different macros make all of them known, and change nothing else. -/
theorem runFrom_declarations (hnames : (defs.map MacroDef.name).Nodup) {m : Machine}
    (hfresh : ∀ d ∈ defs, m.env.current.macros.get? d.name = none) :
    ∃ macros, (∀ d ∈ defs, macros.get? d.name = some d.body) ∧
      (∀ name, name ∉ defs.map MacroDef.name →
        macros.get? name = m.env.current.macros.get? name) ∧
      ∀ limit room, runFrom limit room (defs.map MacroDef.statement) m =
        { m with env := m.env.mapCurrent fun s => { s with macros := macros } } := by
  induction defs generalizing m with
  | nil => exact ⟨m.env.current.macros, by simp, fun _ _ => rfl, fun _ _ => runFrom_nil _ _ _⟩
  | cons d defs ih =>
    obtain ⟨hd, hnames⟩ := List.nodup_cons.1 hnames
    obtain ⟨hfirst, hfresh⟩ := List.forall_mem_cons.1 hfresh
    let next : Machine := { m with env := m.env.mapCurrent fun s =>
      { s with macros := s.macros.insert d.name d.body } }
    have heffect (limit room : Nat) :
        d.statement.effect limit room m.env = .ok (.change next.env) := by
      simp [MacroDef.statement, Statement.effect, Environment.declareMacro, Environment.tryCurrent,
        Scope.declareMacro, Table.has, hfirst, Except.map, next, Environment.mapCurrent]
    have hnext : ∀ d' ∈ defs, next.env.current.macros.get? d'.name = none := by
      intro d' hd'
      have hne : d'.name ≠ d.name := fun h => hd (h ▸ List.mem_map_of_mem hd')
      show (m.env.current.macros.insert d.name d.body).get? d'.name = none
      rw [Table.get?_insert, if_neg hne]
      exact hfresh d' hd'
    obtain ⟨macros, hmacros, hothers, hrun⟩ := ih hnames hnext
    refine ⟨macros, List.forall_mem_cons.2 ⟨?_, hmacros⟩, ?_, ?_⟩
    · rw [hothers d.name hd]
      exact Table.get?_insert_self _ _ _
    · intro name hname
      obtain ⟨hne, hname⟩ := not_or.1 (mt List.mem_cons.2 hname)
      rw [hothers name hname]
      show (m.env.current.macros.insert d.name d.body).get? name = _
      rw [Table.get?_insert, if_neg hne]
    · intro limit room
      rw [List.map_cons, runFrom_cons, heffect]
      exact hrun limit room

/-- A file that declares macros first has the outcome of its expansion. -/
theorem compile_expands (config : Config) (defs : List MacroDef) (statements : List Statement)
    (hnames : (defs.map MacroDef.name).Nodup)
    (hbodies : ∀ d ∈ defs, MacroFree d.body ∧ Declared defs d.body)
    (hfree : MacroFree statements) (hdeclared : Declared defs statements)
    (hacyclic : ∀ name, ¬ Relation.TransGen (Calls defs) name name)
    (hchains : ∀ n, config.maxMacroDepth = some n → ChainsWithin defs n.toNat statements) :
    ∃ expanded, (∀ other, Expands defs statements other ↔ other = expanded) ∧
      ∃ o, compile config (defs.map MacroDef.statement ++ statements) = some o ∧
        compile config (defs.map MacroDef.statement ++ expanded) = some o := by
  have hlength := chainsWithin_length (fun d hd => (hbodies d hd).2) hdeclared hacyclic
  obtain ⟨expanded, hexpanded⟩ := exists_expands (fun d hd => (hbodies d hd).2) hdeclared hlength
  have hunique : ∀ other, Expands defs statements other ↔ other = expanded :=
    fun other => ⟨fun h => h.unique hnames hexpanded, fun h => h ▸ hexpanded⟩
  obtain ⟨macros, hmacros, -, hdeclare⟩ := @runFrom_declarations defs hnames {} (fun _ _ => rfl)
  have hknows :
      (Environment.initial.mapCurrent fun s => { s with macros := macros }).Knows defs := by
    intro d hd
    simp [Environment.findMacro?, Environment.chain, Environment.mapCurrent, hmacros d hd]
  have hrun {limit : Nat} (h : ChainsWithin defs limit statements) :
      (runWithin limit (defs.map MacroDef.statement ++ statements)).1 =
        (runWithin limit (defs.map MacroDef.statement ++ expanded)).1 := by
    show runFrom limit limit (_ ++ _) {} = runFrom limit limit (_ ++ _) {}
    rw [runFrom_append, runFrom_append, hdeclare]
    exact hexpanded.runFrom_eq (fun d hd => (hbodies d hd).1) hfree h hknows
  refine ⟨expanded, hunique, ?_⟩
  obtain ⟨_ | n⟩ := config
  · have hrefused : (runWithin defs.length (defs.map MacroDef.statement ++ expanded)).1.refused =
        false := by
      show (runFrom _ _ (_ ++ _) {}).refused = false
      rw [runFrom_append, hdeclare]
      exact (runs_runFrom _ _ _ _).not_refused hexpanded.calls_eq_nil rfl
    refine ⟨_, ?_, compile_unbounded hrefused⟩
    rw [← hrun hlength] at hrefused ⊢
    exact compile_unbounded hrefused
  · refine ⟨_, compile_bounded n _, ?_⟩
    rw [hrun (hchains n rfl)]
    exact compile_bounded n _

end

/-- A chain of two calls is expanded where the bound is two. -/
theorem compile_expands_chain :
    let t : Token := ⟨.endOfInput, ⟨1, 'a', ⟨0, 1⟩⟩⟩
    let inner : MacroDef := ⟨t, "inner", [.command t (.text "x")]⟩
    let outer : MacroDef := ⟨t, "outer", [.command t (.call "inner")]⟩
    let page (body : List Statement) : List Statement :=
      [.compound t (.slide "s" none) [.compound t (.block "b" none) body]]
    let call := Statement.command t (.call "outer")
    ∃ expanded, (∀ other, Expands [inner, outer] (page [call]) other ↔ other = expanded) ∧
      ∃ o, compile ⟨some 2⟩ ([inner, outer].map MacroDef.statement ++ page [call]) = some o ∧
        compile ⟨some 2⟩ ([inner, outer].map MacroDef.statement ++ expanded) = some o := by
  intro t inner outer page call
  have hcalls : ∀ caller called, Calls [inner, outer] caller called →
      caller = "outer" ∧ called = "inner" := by
    rintro caller called ⟨d, hd, rfl, hcalled⟩
    rcases List.mem_pair.1 hd with rfl | rfl
    · simp [inner, calls_command, Statement.called?] at hcalled
    · simpa [outer, calls_command, Statement.called?] using hcalled
  have hacyclic : ∀ name, ¬ Relation.TransGen (Calls [inner, outer]) name name := by
    intro name h
    obtain ⟨called, hfirst, -⟩ := Relation.TransGen.head'_iff.1 h
    obtain ⟨caller, -, hlast⟩ := Relation.TransGen.tail'_iff.1 h
    exact absurd ((hcalls _ _ hfirst).1.symm.trans (hcalls _ _ hlast).2) (by decide)
  have hbodies : ∀ d ∈ [inner, outer], MacroFree d.body ∧ Declared [inner, outer] d.body := by
    intro d hd
    rcases List.mem_pair.1 hd with rfl | rfl
    all_goals simp [inner, outer, Declared, calls_command, Statement.called?]
  have hdeclared : Declared [inner, outer] (page [call]) := by
    simp [page, call, outer, Declared, calls_command, Statement.called?]
  have hchains := chainsWithin_length (fun d hd => (hbodies d hd).2) hdeclared hacyclic
  refine compile_expands ⟨some 2⟩ [inner, outer] (page [call]) (by simp [inner, outer]) hbodies
    (by simp [page, call]) hdeclared hacyclic ?_
  rintro n ⟨⟩
  exact hchains

end SlideDeck
