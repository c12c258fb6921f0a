import SlideDeck.Proofs.Scope.Frame
import SlideDeck.Proofs.Scope.Macros
import SlideDeck.Proofs.Scope.Renaming
import SlideDeck.Proofs.Statement.Substitution

/-!
# Environments without a variable

Where a constant stands in the place of a variable, the variable is not needed. An environment
without it, and with the constant in the statements of its macros, answers every question about
other names as before, and changes as before.

Results:
* `Table.insert_erase`: a table without one name is extended by the others.
* `Environment.resolve_subst`: a value is what it was, if the variable has that constant.
* `Environment.macroBody_subst`, `Environment.startSlide_subst`, `Environment.startBlock_subst`:
  what is looked up.
* `Environment.declareVariable_subst`, `Environment.declareMacro_subst`, `Environment.assign_subst`:
  what is changed.
* `Statement.bindingsOf_of_change`: a statement that leaves a variable alone keeps its bindings.
-/

namespace SlideDeck

/-! ## Tables -/

namespace Table

variable {α : Type} {x name : String}

/-- The table without the entry of the name. -/
def erase (t : Table α) (x : String) : Table α := ⟨t.entries.filter fun entry => entry.1 ≠ x⟩

theorem getFrom?_filter (h : name ≠ x) (entries : List (String × α)) :
    getFrom? name (entries.filter fun entry => entry.1 ≠ x) = getFrom? name entries := by
  induction entries with
  | nil => rfl
  | cons entry rest ih =>
    obtain ⟨key, a⟩ := entry
    by_cases hkey : key = x
    · subst hkey
      simpa [getFrom?, h] using ih
    · simp_all [getFrom?]

theorem insertInto_filter (h : name ≠ x) (a : α) (entries : List (String × α)) :
    (insertInto name a entries).filter (fun entry => entry.1 ≠ x) =
      insertInto name a (entries.filter fun entry => entry.1 ≠ x) := by
  induction entries with
  | nil => simp [insertInto, h]
  | cons entry rest ih =>
    obtain ⟨key, b⟩ := entry
    by_cases hkey : name = key
    · subst hkey
      simp [insertInto, h]
    · by_cases hx : key = x <;> simp_all [insertInto]

theorem get?_erase (t : Table α) (h : name ≠ x) : (t.erase x).get? name = t.get? name :=
  getFrom?_filter h t.entries

theorem has_erase (t : Table α) (h : name ≠ x) : (t.erase x).has name = t.has name :=
  congrArg Option.isSome (t.get?_erase h)

/-- A table without one name is extended by the others. -/
theorem insert_erase (t : Table α) (h : name ≠ x) (a : α) :
    (t.insert name a).erase x = (t.erase x).insert name a :=
  congrArg Table.mk (insertInto_filter h a t.entries)

end Table

/-! ## Scopes -/

namespace Scope

/-- The scope without the variable, and with the constant in its place in the statements of its
macros. -/
def subst (x : String) (c : Constant) (s : Scope) : Scope :=
  { s with bindings := s.bindings.erase x, macros := s.macros.rename (.refl _) (substAll x c) }

variable {x name : String} (c : Constant)

theorem declareVariable_subst (s : Scope) (h : name ≠ x) (b : Binding) :
    (s.subst x c).declareVariable name b = (s.declareVariable name b).map (subst x c) := by
  simp only [declareVariable, subst, s.bindings.has_erase h]
  split
  · rfl
  · simp only [Except.map, subst, s.bindings.insert_erase h]

theorem declareMacro_subst (s : Scope) (name : String) (body : List Statement) :
    (s.subst x c).declareMacro name (substAll x c body) =
      (s.declareMacro name body).map (subst x c) := by
  have hhas := s.macros.has_rename (.refl _) (substAll x c) name
  have hinsert := s.macros.rename_insert (.refl _) (substAll x c) name body
  simp only [Function.Embedding.refl_apply] at hhas hinsert
  simp only [declareMacro, subst, hhas]
  split
  · rfl
  · simp only [Except.map, subst, hinsert]

theorem setText_subst (s : Scope) (text : String) :
    (s.subst x c).setText text = (s.setText text).map (subst x c) := by
  unfold setText
  cases htarget : s.target <;> simp only [subst, htarget] <;> rfl

theorem setAttribute_subst (s : Scope) (a : Attribute) (v : Constant) :
    (s.subst x c).setAttribute a v = (s.setAttribute a v).map (subst x c) := by
  have htarget : (s.subst x c).target = s.target := rfl
  simp only [setAttribute, htarget]
  cases s.target.set a v <;> rfl

theorem receive_subst (s : Scope) (name : String) (target : Target) :
    (s.subst x c).receive name target = (s.receive name target).subst x c := by
  cases target with
  | file | slide slide => rfl
  | block block =>
    simp only [receive, appendBlock, registerBlock, subst]
    cases s.target <;> rfl

end Scope

/-! ## Environments -/

namespace Environment

def subst (x : String) (c : Constant) (env : Environment) : Environment :=
  ⟨env.current.subst x c, env.outer.map (Scope.subst x c)⟩

/-- The nearest variable of the name has the value. -/
def HasValue (env : Environment) (x : String) (c : Constant) : Prop :=
  ∃ b, env.findVariable? x = some b ∧ b.value = c

variable {x name : String} {c : Constant} {env : Environment}

/-! ### Looking up -/

theorem findVariable?_subst (h : name ≠ x) :
    (env.subst x c).findVariable? name = env.findVariable? name := by
  have hchain : (env.subst x c).chain = env.chain.map (Scope.subst x c) := rfl
  rw [findVariable?, hchain, List.findSome?_map, findVariable?]
  congr 1
  funext s
  exact s.bindings.get?_erase h

theorem findMacro?_subst (name : String) :
    (env.subst x c).findMacro? name = (env.findMacro? name).map (substAll x c) := by
  have hchain : (env.subst x c).chain = env.chain.map (Scope.subst x c) := rfl
  rw [findMacro?, hchain, List.findSome?_map, findMacro?, List.map_findSome?]
  congr 1
  funext s
  exact s.macros.get?_rename (.refl _) (substAll x c) name

theorem findSlide?_subst (name : String) :
    (env.subst x c).findSlide? name = env.findSlide? name := by
  have hchain : (env.subst x c).chain = env.chain.map (Scope.subst x c) := rfl
  rw [findSlide?, hchain, List.findSome?_map]
  rfl

theorem findBlock?_subst (name : String) :
    (env.subst x c).findBlock? name = env.findBlock? name := by
  have hchain : (env.subst x c).chain = env.chain.map (Scope.subst x c) := rfl
  rw [findBlock?, hchain, List.findSome?_map]
  rfl

theorem resolve_literal (env : Environment) (c : Constant) : env.resolve c.literal = .ok c := by
  cases c <;> rfl

/-- With the constant in the place of the variable, a value is what it was. -/
theorem resolve_subst (hx : env.HasValue x c) (v : Value) :
    (env.subst x c).resolve (v.subst x c) = env.resolve v := by
  cases v with
  | string | integer | color => rfl
  | reference name =>
    by_cases hname : name = x
    · subst hname
      obtain ⟨b, hb, rfl⟩ := hx
      rw [Value.subst, if_pos rfl, resolve_literal, resolve, hb]
    · simp only [Value.subst, if_neg hname, resolve, findVariable?_subst hname]

theorem macroBody_subst (name : String) :
    (env.subst x c).macroBody name = (env.macroBody name).map (substAll x c) := by
  simp only [macroBody, findMacro?_subst]
  cases env.findMacro? name <;> rfl

theorem startSlide_subst (parent : Option String) :
    (env.subst x c).startSlide parent = env.startSlide parent := by
  have hkind : (env.subst x c).current.kind = env.current.kind := rfl
  simp only [startSlide, hkind, findSlide?_subst]

theorem startBlock_subst (parent : Option String) :
    (env.subst x c).startBlock parent = env.startBlock parent := by
  have hkind : (env.subst x c).current.kind = env.current.kind := rfl
  simp only [startBlock, hkind, findBlock?_subst]

/-! ### Changes -/

theorem tryCurrent_subst {f f' : Scope → Except CompileError Scope}
    (h : f' (env.current.subst x c) = (f env.current).map (Scope.subst x c)) :
    (env.subst x c).tryCurrent f' = (env.tryCurrent f).map (subst x c) := by
  show (f' (env.current.subst x c)).map _ = ((f env.current).map _).map _
  rw [h]
  cases f env.current <;> rfl

theorem declareVariable_subst (h : name ≠ x) (b : Binding) :
    (env.subst x c).declareVariable name b = (env.declareVariable name b).map (subst x c) :=
  tryCurrent_subst (env.current.declareVariable_subst c h b)

theorem declareMacro_subst (name : String) (body : List Statement) :
    (env.subst x c).declareMacro name (substAll x c body) =
      (env.declareMacro name body).map (subst x c) :=
  tryCurrent_subst (env.current.declareMacro_subst c name body)

theorem setText_subst (text : String) :
    (env.subst x c).setText text = (env.setText text).map (subst x c) :=
  tryCurrent_subst (env.current.setText_subst c text)

theorem setAttribute_subst (a : Attribute) (v : Constant) :
    (env.subst x c).setAttribute a v = (env.setAttribute a v).map (subst x c) :=
  tryCurrent_subst (env.current.setAttribute_subst c a v)

theorem rebind_subst (h : name ≠ x) (b : Binding) (scopes : List Scope) :
    rebind name b (scopes.map (Scope.subst x c)) =
      (rebind name b scopes).map (Scope.subst x c) := by
  induction scopes with
  | nil => rfl
  | cons s scopes ih =>
    have hhas : (s.subst x c).bindings.has name = s.bindings.has name := s.bindings.has_erase h
    simp only [List.map_cons, rebind, hhas, ih]
    split
    · simp only [List.map_cons, Scope.subst, s.bindings.insert_erase h]
    · rfl

theorem rebindNearest_subst (h : name ≠ x) (b : Binding) :
    (env.subst x c).rebindNearest name b = (env.rebindNearest name b).subst x c := by
  have hhas : (env.subst x c).current.bindings.has name = env.current.bindings.has name :=
    env.current.bindings.has_erase h
  simp only [rebindNearest, hhas]
  split
  · simp only [mapCurrent, subst, Scope.subst, env.current.bindings.insert_erase h]
  · simp only [subst, rebind_subst h]

theorem assign_subst (h : name ≠ x) (v : Constant) :
    (env.subst x c).assign name v = (env.assign name v).map (subst x c) := by
  simp only [assign, findVariable?_subst h]
  cases env.findVariable? name with
  | none => rfl
  | some b =>
    simp only [rebindNearest_subst h]
    split <;> rfl

end Environment

/-! ## The bindings of a variable -/

/-- What the scopes have under the name, from the inside to the outside. -/
def Environment.bindingsOf (x : String) (env : Environment) : List (Option Binding) :=
  env.chain.map (·.bindings.get? x)

namespace Environment

variable {x : String} {env env' : Environment}

theorem HasValue.congr {c : Constant} (h : env.HasValue x c)
    (hbindings : env'.bindingsOf x = env.bindingsOf x) : env'.HasValue x c := by
  have hfind (env : Environment) : env.findVariable? x = (env.bindingsOf x).findSome? id := by
    rw [bindingsOf, List.findSome?_map]
    rfl
  rw [HasValue, hfind] at h ⊢
  rwa [hbindings]

theorem bindingsOf_tryCurrent {f : Scope → Except CompileError Scope}
    (hf : ∀ s s', f s = .ok s' → s'.bindings.get? x = s.bindings.get? x)
    (h : env.tryCurrent f = .ok env') : env'.bindingsOf x = env.bindingsOf x := by
  obtain ⟨s, hs, rfl⟩ := map_eq_ok_iff.1 h
  simp only [bindingsOf, chain, List.map_cons, hf _ _ hs]

theorem bindingsOf_rebind {name : String} (hname : name ≠ x) (b : Binding) (scopes : List Scope) :
    (rebind name b scopes).map (·.bindings.get? x) = scopes.map (·.bindings.get? x) := by
  induction scopes with
  | nil => rfl
  | cons s scopes ih =>
    rw [rebind]
    split
    · simp only [List.map_cons, Table.get?_insert, if_neg hname.symm]
    · rw [List.map_cons, List.map_cons, ih]

end Environment

/-- A statement that leaves a variable alone keeps its bindings. -/
theorem Statement.bindingsOf_of_change {x : String} {limit room : Nat} {env env' : Environment}
    {s : Statement} (hs : s.touches x = false) (h : s.effect limit room env = .ok (.change env')) :
    env'.bindingsOf x = env.bindingsOf x := by
  cases s with
  | command t command =>
    cases command with
    | text content =>
      obtain ⟨_, henv, ⟨⟩⟩ := map_eq_ok_iff.1 h
      refine Environment.bindingsOf_tryCurrent (fun s s' hs' => ?_) henv
      obtain ⟨b, -, rfl⟩ := Scope.setText_eq_ok_iff.1 hs'
      rfl
    | call name =>
      obtain ⟨body, -, hbody⟩ := bind_eq_ok_iff.1 h
      split at hbody <;> cases hbody
    | declare name isMutable value =>
      obtain ⟨v, -, hv⟩ := bind_eq_ok_iff.1 h
      obtain ⟨_, henv, ⟨⟩⟩ := map_eq_ok_iff.1 hv
      have hname : x ≠ name := fun heq => by simp [touches, heq] at hs
      refine Environment.bindingsOf_tryCurrent (fun s s' hs' => ?_) henv
      obtain ⟨-, rfl⟩ := Scope.declareVariable_eq_ok_iff.1 hs'
      rw [Table.get?_insert, if_neg hname]
    | assign name value =>
      obtain ⟨v, -, hv⟩ := bind_eq_ok_iff.1 h
      obtain ⟨_, henv, ⟨⟩⟩ := map_eq_ok_iff.1 hv
      have hname : name ≠ x := fun heq => by simp [touches, heq] at hs
      obtain ⟨b, -, -, rfl⟩ := Environment.assign_eq_ok_iff.1 henv
      rw [Environment.bindingsOf, Environment.chain_rebindNearest,
        Environment.bindingsOf_rebind hname, Environment.bindingsOf]
    | setAttribute name value =>
      obtain ⟨a, -, ha⟩ := bind_eq_ok_iff.1 h
      obtain ⟨v, -, hv⟩ := bind_eq_ok_iff.1 ha
      obtain ⟨_, henv, ⟨⟩⟩ := map_eq_ok_iff.1 hv
      refine Environment.bindingsOf_tryCurrent (fun s s' hs' => ?_) henv
      obtain ⟨target, -, rfl⟩ := map_eq_ok_iff.1 hs'
      rfl
  | compound t head body =>
    cases head with
    | slide name parent | block name parent =>
      obtain ⟨_, -, heq⟩ := map_eq_ok_iff.1 h
      cases heq
    | macroDef name =>
      obtain ⟨_, henv, ⟨⟩⟩ := map_eq_ok_iff.1 h
      refine Environment.bindingsOf_tryCurrent (fun s s' hs' => ?_) henv
      obtain ⟨-, rfl⟩ := Scope.declareMacro_eq_ok_iff.1 hs'
      rfl

theorem Scope.bindings_receive (s : Scope) (name : String) (target : Target) :
    (s.receive name target).bindings = s.bindings := by
  cases target with
  | file | slide slide => rfl
  | block block =>
    simp only [receive, appendBlock]
    split <;> rfl

/-- Closing a scope leaves the bindings around it. -/
theorem Machine.bindingsOf_close {x : String} {m : Machine} {binding : Option Binding}
    {env : Environment} (h : m.env.bindingsOf x = binding :: env.bindingsOf x) (name : String) :
    (m.close name).env.bindingsOf x = env.bindingsOf x := by
  obtain ⟨⟨current, outer⟩, deck, reports⟩ := m
  obtain ⟨-, houter⟩ := List.cons.inj h
  cases outer with
  | nil => cases houter
  | cons s rest =>
    rw [Machine.env_close rfl]
    simp only [Environment.bindingsOf, Environment.chain, List.map_cons, Scope.bindings_receive]
    exact houter

end SlideDeck
