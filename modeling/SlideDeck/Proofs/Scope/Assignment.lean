import SlideDeck.Run.Compile

/-!
# Assigning to variables

What is assigned to is the variable that looking up finds: the nearest one of the name, whatever the
scopes further out hold. If it may change, it gets the value and all else stays; if it may not, or
there is none, nothing changes.

Results:
* `Environment.findVariable?_eq_some_iff`: what is found is the nearest variable of the name.
* `Environment.rebind_of_hidden`: what is rebound is the nearest variable too.
* `Environment.map_chain_assign`: a single walk over the scopes assigns to the same variable.
* `Environment.closed?_eq_of_drop`: scopes that stay are there again when those inside are closed.
* `assigned_where_found`: how assigning and looking up agree.
-/

namespace SlideDeck

namespace Environment

/-! ## The nearest variable -/

/-- The scope has the variable, and none of those inside of it has one of the name. -/
structure Nearest (env : Environment) (name : String) (inside : List Scope) (s : Scope)
    (outside : List Scope) (b : Binding) : Prop where
  chain : env.chain = inside ++ s :: outside
  hidden : ∀ t ∈ inside, t.bindings.get? name = none
  found : s.bindings.get? name = some b

end Environment

/-- The scope has the variable under the name, and is else the same as before. -/
structure Scope.Gets (s s' : Scope) (name : String) (b : Binding) : Prop where
  found : s'.bindings.get? name = some b
  others : ∀ other, other ≠ name → s'.bindings.get? other = s.bindings.get? other
  macros : s'.macros = s.macros
  slides : s'.slides = s.slides
  blocks : s'.blocks = s.blocks
  target : s'.target = s.target

theorem Scope.gets_insert (s : Scope) (name : String) (b : Binding) :
    s.Gets { s with bindings := s.bindings.insert name b } name b where
  found := Table.get?_insert_self _ _ _
  others := fun other hother => by rw [Table.get?_insert, if_neg hother]
  macros := rfl
  slides := rfl
  blocks := rfl
  target := rfl

namespace Environment

section

variable {env : Environment} {name : String} {inside outside : List Scope} {s : Scope}
  {b : Binding}

/-- What is found is the nearest variable of the name. -/
theorem findVariable?_eq_some_iff :
    env.findVariable? name = some b ↔ ∃ inside s outside, env.Nearest name inside s outside b := by
  rw [findVariable?, List.findSome?_eq_some_iff]
  constructor
  · rintro ⟨inside, s, outside, hchain, hfound, hhidden⟩
    exact ⟨inside, s, outside, hchain, hhidden, hfound⟩
  · rintro ⟨inside, s, outside, hchain, hhidden, hfound⟩
    exact ⟨inside, s, outside, hchain, hfound, hhidden⟩

/-- Rebinding goes past the scopes that have no variable of the name. -/
theorem rebind_of_hidden (hhidden : ∀ t ∈ inside, t.bindings.get? name = none)
    (hfound : s.bindings.get? name = some b) (b' : Binding) :
    rebind name b' (inside ++ s :: outside) =
      inside ++ { s with bindings := s.bindings.insert name b' } :: outside := by
  induction inside with
  | nil => rw [List.nil_append, rebind, Table.has, hfound]; rfl
  | cons t inside ih =>
    obtain ⟨ht, hinside⟩ := List.forall_mem_cons.1 hhidden
    rw [List.cons_append, rebind, Table.has, ht, ih hinside]
    rfl

theorem depth_add_one (env : Environment) : env.depth + 1 = env.chain.length := rfl

/-- The nearest variable is the one that is rebound, in its place. -/
theorem Nearest.rebindNearest (h : env.Nearest name inside s outside b) (b' : Binding) :
    (env.rebindNearest name b').Nearest name inside
      { s with bindings := s.bindings.insert name b' } outside b' where
  chain := by rw [chain_rebindNearest, h.chain, rebind_of_hidden h.hidden h.found]
  hidden := h.hidden
  found := Table.get?_insert_self _ _ _

end

/-- Assigning fails if there is no variable of the name, and if the nearest one may not change. -/
theorem assign_eq_error_iff {env : Environment} {name : String} {v : Constant} {e : CompileError} :
    env.assign name v = .error e ↔
      (env.findVariable? name = none ∧ e = .undeclaredAssignment name) ∨
      ∃ b, env.findVariable? name = some b ∧ b.isMutable = false ∧
        e = .immutableAssignment name b.line := by
  rw [assign]
  cases env.findVariable? name with
  | none => grind
  | some b => cases hmutable : b.isMutable <;> grind

/-! ## One walk over the scopes -/

/-- Assigns in a single walk from the inside to the outside. The first scope that has a variable of
the name decides. -/
def assignOutwards (name : String) (v : Constant) :
    List Scope → Except CompileError (List Scope)
  | [] => .error (.undeclaredAssignment name)
  | s :: rest =>
    match s.bindings.get? name with
    | some b =>
      if b.isMutable then
        .ok ({ s with bindings := s.bindings.insert name { b with value := v } } :: rest)
      else .error (.immutableAssignment name b.line)
    | none => (assignOutwards name v rest).map (s :: ·)

/-- The walk goes past the scopes that have no variable of the name. -/
theorem assignOutwards_append {name : String} {inside : List Scope}
    (h : ∀ t ∈ inside, t.bindings.get? name = none) (v : Constant) (rest : List Scope) :
    assignOutwards name v (inside ++ rest) = (assignOutwards name v rest).map (inside ++ ·) := by
  induction inside with
  | nil =>
    rw [List.nil_append]
    cases assignOutwards name v rest <;> rfl
  | cons t inside ih =>
    obtain ⟨ht, hinside⟩ := List.forall_mem_cons.1 h
    rw [List.cons_append, assignOutwards, ht, ih hinside]
    cases assignOutwards name v rest <;> rfl

/-- Looking up first and then rebinding assigns to the same variable as a single walk. -/
theorem map_chain_assign (env : Environment) (name : String) (v : Constant) :
    (env.assign name v).map chain = assignOutwards name v env.chain := by
  rw [assign]
  cases hfound : env.findVariable? name with
  | none =>
    have hhidden := List.findSome?_eq_none_iff.1 hfound
    rw [← List.append_nil env.chain, assignOutwards_append hhidden]
    rfl
  | some b =>
    obtain ⟨inside, s, outside, h⟩ := findVariable?_eq_some_iff.1 hfound
    rw [h.chain, assignOutwards_append h.hidden, assignOutwards, h.found]
    cases hmutable : b.isMutable with
    | false => simp [Except.map, hmutable]
    | true => simp [Except.map, hmutable, (h.rebindNearest _).chain]

/-! ## Closing scopes -/

/-- The environment after so many scopes are closed. -/
def closed? : Nat → Environment → Option Environment
  | 0, env => some env
  | n + 1, env => env.pop?.bind fun closed => closed? n closed.2

/-- The environment of a chain of scopes. -/
def ofChain? : List Scope → Option Environment
  | [] => none
  | s :: rest => some ⟨s, rest⟩

/-- Closing scopes leaves those further out. -/
theorem closed?_eq_ofChain? (n : Nat) (env : Environment) :
    closed? n env = ofChain? (env.chain.drop n) := by
  induction n generalizing env with
  | zero => rfl
  | succ n ih =>
    obtain ⟨current, _ | ⟨s, rest⟩⟩ := env
    · simp [closed?, pop?, chain, ofChain?]
    · exact ih ⟨s, rest⟩

/-- Scopes that stay are there again when those inside of them are closed. -/
theorem closed?_eq_of_drop {n : Nat} {env env' : Environment}
    (h : env'.chain.drop n = env.chain.drop n) : closed? n env' = closed? n env := by
  rw [closed?_eq_ofChain?, closed?_eq_ofChain?, h]

end Environment

/-! ## How assigning and looking up agree -/

section

variable {replay : Replay} {t : Token} {name : String} {value : Value} {v : Constant} {m : Machine}

/-- Carrying out an assignment is assigning, and changes nothing if that fails. -/
theorem execute_assign (h : m.env.resolve value = .ok v) :
    execute replay (.command t (.assign name value)) m =
      match m.env.assign name v with
      | .ok env' => { result := .ok (), machine := { m with env := env' } }
      | .error e => { result := .error e, machine := m } := by
  simp only [execute, Action.command, bind, Action.bind, Action.look, h, Action.update]
  cases m.env.assign name v <;> rfl

end

/-- Assigning and looking up mean the same variable. Assigning fails exactly if none is found or the
one that is found may not change, whatever is further out, and then it leaves everything as it was.
Otherwise the variable that was found has the value, and all others in all scopes are the same; so
scopes further out are as before when those inside are closed. A single walk over the scopes does
the same. -/
theorem assigned_where_found (env : Environment) (name : String) (v : Constant) :
    let found := env.findVariable? name
    (env.assign name v = .error (.undeclaredAssignment name) ↔ found = none) ∧
    (∀ line, env.assign name v = .error (.immutableAssignment name line) ↔
      ∃ b, found = some b ∧ b.isMutable = false ∧ b.line = line) ∧
    ((∃ env', env.assign name v = .ok env') ↔ ∃ b, found = some b ∧ b.isMutable = true) ∧
    (∀ env', env.assign name v = .ok env' → ∃ b inside s s' outside,
      found = some b ∧ env.Nearest name inside s outside b ∧
      env'.chain = inside ++ s' :: outside ∧ s.Gets s' name { b with value := v } ∧
      env'.findVariable? name = some { b with value := v } ∧ env'.depth = env.depth ∧
      ∀ n, inside.length < n → Environment.closed? n env' = Environment.closed? n env) ∧
    (∀ e, env.assign name v = .error e → ∀ replay t value m, m.env = env →
      env.resolve value = .ok v →
      execute replay (.command t (.assign name value)) m = { result := .error e, machine := m }) ∧
    (env.assign name v).map Environment.chain = Environment.assignOutwards name v env.chain := by
  intro found
  refine ⟨?_, fun line => ?_, ?_, fun env' hassign => ?_, ?_,
    Environment.map_chain_assign env name v⟩
  · simp [Environment.assign_eq_error_iff, found]
  · rw [Environment.assign_eq_error_iff]
    grind
  · simp only [Environment.assign_eq_ok_iff, found]
    constructor
    · rintro ⟨env', b, hb, hmutable, -⟩
      exact ⟨b, hb, hmutable⟩
    · rintro ⟨b, hb, hmutable⟩
      exact ⟨_, b, hb, hmutable, rfl⟩
  · obtain ⟨b, hb, -, rfl⟩ := Environment.assign_eq_ok_iff.1 hassign
    obtain ⟨inside, s, outside, hnearest⟩ := Environment.findVariable?_eq_some_iff.1 hb
    have hafter := hnearest.rebindNearest { b with value := v }
    refine ⟨b, inside, s, _, outside, hb, hnearest, hafter.chain, s.gets_insert name _,
      Environment.findVariable?_eq_some_iff.2 ⟨_, _, _, hafter⟩, ?_, fun n hn => ?_⟩
    · have hbefore := env.depth_add_one
      have hdepth := (env.rebindNearest name { b with value := v }).depth_add_one
      rw [hnearest.chain, List.length_append, List.length_cons] at hbefore
      rw [hafter.chain, List.length_append, List.length_cons] at hdepth
      omega
    · obtain ⟨k, rfl⟩ : ∃ k, n = inside.length + (k + 1) := ⟨n - inside.length - 1, by omega⟩
      refine Environment.closed?_eq_of_drop ?_
      rw [hafter.chain, hnearest.chain, List.drop_append, List.drop_append]
      simp
  · rintro e hassign replay t value m rfl hvalue
    rw [execute_assign hvalue, hassign]

/-- In a block without the variable, that of the slide hides that of the file. It may change, so it
does, and the one of the file is found again behind the slide; or it may not, and nothing changes,
though the one of the file may. -/
theorem assigned_where_found_hidden :
    let t : Token := ⟨.identifier "x", ⟨9, 'x', ⟨0, 1⟩⟩⟩
    let slide (isMutable : Bool) : Scope :=
      { target := .slide {}, bindings := ⟨[("y", ⟨.integer 5, true, 2⟩),
        ("x", ⟨.integer 1, isMutable, 7⟩)]⟩ }
    let file : Scope := { target := .file, bindings := ⟨[("x", ⟨.integer 0, true, 1⟩)]⟩ }
    let env (isMutable : Bool) : Environment := ⟨{ target := .block {} }, [slide isMutable, file]⟩
    let m : Machine := ⟨env false, ⟨[{}]⟩, [t.mark.report .textOutsideBlock]⟩
    (∃ env', (env true).assign "x" (.integer 2) = .ok env' ∧
      env'.findVariable? "x" = some ⟨.integer 2, true, 7⟩ ∧
      Environment.closed? 2 env' = some ⟨file, []⟩) ∧
    (env false).assign "x" (.integer 2) = .error (.immutableAssignment "x" 7) ∧
    execute (replay 0 0) (.command t (.assign "x" (.integer 2))) m =
      { result := .error (.immutableAssignment "x" 7), machine := m } := by
  intro t slide file env m
  obtain ⟨-, -, -, hchanged, -⟩ := assigned_where_found (env true) "x" (.integer 2)
  obtain ⟨b, _, _, _, _, hb, -, -, -, hfound, -⟩ := hchanged _ rfl
  obtain rfl : ⟨.integer 1, true, 7⟩ = b := Option.some.inj hb
  obtain ⟨-, hfixed, -, -, hunchanged, -⟩ := assigned_where_found (env false) "x" (.integer 2)
  have herror := (hfixed 7).2 ⟨⟨.integer 1, false, 7⟩, rfl, rfl, rfl⟩
  exact ⟨⟨_, rfl, hfound, rfl⟩, herror, hunchanged _ herror _ t _ m rfl rfl⟩

end SlideDeck
