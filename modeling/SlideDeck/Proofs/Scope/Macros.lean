import SlideDeck.Proofs.Run.Refusal

/-!
# Where macros are known

Only the declaration of a macro changes the table of macros of a scope. A run that declares none
ends with the tables with which it began, and every macro is known there as before.

Results:
* `Environment.findMacro?_congr`: the tables of macros decide which macros are known.
* `Statement.macroTables_of_change`: a statement that declares no macro keeps the tables.
* `Runs.macroTables`: a run of statements that neither declare nor call a macro keeps the tables.
* `Runs.knowsOnly`: the macros that are known after a run were known before or declared in it.
-/

namespace SlideDeck

/-- The tables of macros, from the inside to the outside. -/
def Environment.macroTables (env : Environment) : List (Table (List Statement)) :=
  env.chain.map (·.macros)

namespace Environment

theorem findMacro?_congr {env env' : Environment} (h : env.macroTables = env'.macroTables) :
    env.findMacro? = env'.findMacro? := by
  have hfind (env : Environment) (name : String) :
      env.findMacro? name = env.macroTables.findSome? (·.get? name) := by
    rw [macroTables, List.findSome?_map]
    rfl
  funext name
  rw [hfind, hfind, h]

theorem macroTables_tryCurrent {env env' : Environment} {f : Scope → Except CompileError Scope}
    (hf : ∀ s s', f s = .ok s' → s'.macros = s.macros) (h : env.tryCurrent f = .ok env') :
    env'.macroTables = env.macroTables := by
  obtain ⟨s, hs, rfl⟩ := map_eq_ok_iff.1 h
  simp only [macroTables, chain, List.map_cons, hf _ _ hs]

theorem macros_of_setText {s s' : Scope} {text : String} (h : s.setText text = .ok s') :
    s'.macros = s.macros := by
  obtain ⟨b, -, rfl⟩ := Scope.setText_eq_ok_iff.1 h
  rfl

theorem macros_of_declareVariable {s s' : Scope} {name : String} {b : Binding}
    (h : s.declareVariable name b = .ok s') : s'.macros = s.macros := by
  obtain ⟨-, rfl⟩ := Scope.declareVariable_eq_ok_iff.1 h
  rfl

theorem macros_of_setAttribute {s s' : Scope} {a : Attribute} {v : Constant}
    (h : s.setAttribute a v = .ok s') : s'.macros = s.macros := by
  obtain ⟨target, -, rfl⟩ := map_eq_ok_iff.1 h
  rfl

theorem map_macros_rebind (name : String) (b : Binding) (scopes : List Scope) :
    (rebind name b scopes).map (·.macros) = scopes.map (·.macros) := by
  induction scopes with
  | nil => rfl
  | cons s scopes ih =>
    rw [rebind]
    split
    · rfl
    · rw [List.map_cons, List.map_cons, ih]

theorem macroTables_of_assign {env env' : Environment} {name : String} {v : Constant}
    (h : env.assign name v = .ok env') : env'.macroTables = env.macroTables := by
  obtain ⟨b, -, -, rfl⟩ := assign_eq_ok_iff.1 h
  rw [macroTables, chain_rebindNearest, map_macros_rebind, macroTables]

end Environment

/-- A statement that declares no macro keeps the tables. -/
theorem Statement.macroTables_of_change {limit room : Nat} {env env' : Environment} {s : Statement}
    (hs : s.isMacro = false) (h : s.effect limit room env = .ok (.change env')) :
    env'.macroTables = env.macroTables := by
  obtain ⟨text, henv⟩ | ⟨name, b, henv⟩ | ⟨-, name, -, v, -, henv⟩ | ⟨a, v, henv⟩ |
    ⟨t, name, body, rfl, -⟩ := Statement.change_cases h
  · exact Environment.macroTables_tryCurrent (fun _ _ => Environment.macros_of_setText) henv
  · exact Environment.macroTables_tryCurrent (fun _ _ => Environment.macros_of_declareVariable) henv
  · exact Environment.macroTables_of_assign henv
  · exact Environment.macroTables_tryCurrent (fun _ _ => Environment.macros_of_setAttribute) henv
  · cases hs

/-- A finished slide or block is put in its place without a macro being declared. -/
theorem macroTables_finish (name : String) (target : Target) (m : Machine) :
    (Action.finish name target m).machine.env.macroTables = m.env.macroTables := by
  cases target with
  | slide slide => rfl
  | block block =>
    have happend (s : Scope) : (s.appendBlock block).macros = s.macros := by
      unfold Scope.appendBlock
      split <;> rfl
    simp only [Action.finish, Environment.mapCurrent, Environment.macroTables, Environment.chain,
      List.map_cons, happend]
    rfl
  | file => rfl

/-- Closing a scope leaves the tables around it. -/
theorem Machine.macroTables_close {m : Machine} {name : String} {table : Table (List Statement)}
    {env : Environment} (h : m.env.macroTables = table :: env.macroTables) :
    (m.close name).env.macroTables = env.macroTables := by
  obtain ⟨⟨current, outer⟩, deck, reports⟩ := m
  obtain ⟨-, houter⟩ := List.cons.inj h
  cases outer with
  | nil => cases houter
  | cons s rest =>
    exact (macroTables_finish name current.target _).trans houter

/-- A run of statements that neither declare nor call a macro keeps the tables. -/
theorem Runs.macroTables {limit room : Nat} {statements : List Statement} {m m' : Machine}
    (h : Runs limit room statements m m') (hcalls : calls statements = [])
    (hfree : MacroFree statements) : m'.env.macroTables = m.env.macroTables := by
  induction h with
  | done => rfl
  | fault _ _ ih => exact ih (called?_of_calls_eq_nil hcalls).2 hfree.tail
  | change h _ ih =>
    rw [ih (called?_of_calls_eq_nil hcalls).2 hfree.tail]
    exact Statement.macroTables_of_change hfree.head h
  | @build room s rest body m inner m' name target h _ _ ihbody ih =>
    rw [ih (called?_of_calls_eq_nil hcalls).2 hfree.tail]
    obtain ⟨t, head, rfl⟩ := Statement.eq_compound_of_build h
    rw [calls_compound, List.append_eq_nil_iff] at hcalls
    exact Machine.macroTables_close (ihbody hcalls.1 (macroFree_compound.1 hfree).2.1)
  | replay h => exact absurd hcalls (calls_ne_nil_of_replay h)

/-! ## Which macros are known -/

/-- Every macro that is known has such a body. -/
def Environment.KnowsOnly (good : List Statement → Prop) (env : Environment) : Prop :=
  ∀ table ∈ env.macroTables, ∀ name body, table.get? name = some body → good body

variable {good : List Statement → Prop}

namespace Environment

variable {env env' : Environment}

theorem KnowsOnly.of_subset (h : env.KnowsOnly good) (hsub : env'.macroTables ⊆ env.macroTables) :
    env'.KnowsOnly good :=
  fun table htable => h table (hsub htable)

theorem knowsOnly_initial (good : List Statement → Prop) : Environment.initial.KnowsOnly good := by
  intro table htable name body hbody
  rw [List.mem_singleton.1 htable] at hbody
  cases hbody

theorem KnowsOnly.push (h : env.KnowsOnly good) (target : Target) :
    (env.push { target := target }).KnowsOnly good := by
  intro table htable name body hbody
  cases htable with
  | head => cases hbody
  | tail _ htable => exact h table htable name body hbody

theorem KnowsOnly.declareMacro (h : env.KnowsOnly good) {name : String} {body : List Statement}
    (hbody : good body) (hdeclare : env.declareMacro name body = .ok env') :
    env'.KnowsOnly good := by
  obtain ⟨s, hs, rfl⟩ := map_eq_ok_iff.1 hdeclare
  obtain ⟨-, rfl⟩ := Scope.declareMacro_eq_ok_iff.1 hs
  intro table htable other body' hfound
  cases htable with
  | head =>
    rw [Table.get?_insert] at hfound
    split at hfound
    · cases hfound
      exact hbody
    · exact h _ (.head _) other body' hfound
  | tail _ htable => exact h table (.tail _ htable) other body' hfound

theorem KnowsOnly.findMacro? (h : env.KnowsOnly good) {name : String} {body : List Statement}
    (hfound : env.findMacro? name = some body) : good body := by
  obtain ⟨s, hs, hbody⟩ := List.exists_of_findSome?_eq_some hfound
  exact h s.macros (List.mem_map_of_mem hs) name body hbody

end Environment

/-- A statement that changes the environment declares its body as a macro, or no macro at all. -/
theorem Statement.knowsOnly_of_change {limit room : Nat} {env env' : Environment} {s : Statement}
    {rest : List Statement} (h : env.KnowsOnly good) (hs : DeclaresOnly good (s :: rest))
    (hchange : s.effect limit room env = .ok (.change env')) : env'.KnowsOnly good := by
  by_cases hmacro : s.isMacro = false
  · refine h.of_subset ?_
    rw [Statement.macroTables_of_change hmacro hchange]
    exact List.Subset.refl _
  · cases s with
    | command t c => exact absurd rfl hmacro
    | compound t head body =>
      cases head with
      | macroDef name =>
        obtain ⟨env', hdeclare, ⟨⟩⟩ := map_eq_ok_iff.1 hchange
        exact h.declareMacro (hs t name body (mem_preorder_head _ _)) hdeclare
      | slide | block => exact absurd rfl hmacro

/-- Closing a scope makes no macro known. -/
theorem Machine.knowsOnly_close {m : Machine} (h : m.env.KnowsOnly good) (name : String) :
    (m.close name).env.KnowsOnly good := by
  refine h.of_subset ?_
  obtain ⟨⟨current, outer⟩, deck, reports⟩ := m
  cases outer with
  | nil => exact List.Subset.refl _
  | cons s rest =>
    have htables : (Machine.close ⟨⟨current, s :: rest⟩, deck, reports⟩ name).env.macroTables =
        (⟨s, rest⟩ : Environment).macroTables := Machine.macroTables_close rfl
    rw [htables]
    exact List.subset_cons_self _ _

/-- The macros that are known after a run were known before, or were declared by its statements or
by those of a macro. -/
theorem Runs.knowsOnly (hgood : ∀ body, good body → DeclaresOnly good body) {limit room : Nat}
    {statements : List Statement} {m m' : Machine} (h : Runs limit room statements m m')
    (hstatements : DeclaresOnly good statements) (hm : m.env.KnowsOnly good) :
    m'.env.KnowsOnly good := by
  induction h with
  | done => exact hm
  | fault _ _ ih => exact ih hstatements.tail hm
  | change h _ ih => exact ih hstatements.tail (Statement.knowsOnly_of_change hm hstatements h)
  | build h _ _ ihbody ih =>
    obtain ⟨t, head, rfl⟩ := Statement.eq_compound_of_build h
    have hbody := hstatements.of_mem (mem_preorder_head _ _)
    exact ih hstatements.tail (Machine.knowsOnly_close (ihbody hbody (hm.push _)) _)
  | replay h _ _ ihbody ih =>
    obtain ⟨-, t, name, -, hfound⟩ := Statement.effect_eq_replay_iff.1 h
    exact ih hstatements.tail (ihbody (hgood _ (hm.findMacro? hfound)) hm)

end SlideDeck
