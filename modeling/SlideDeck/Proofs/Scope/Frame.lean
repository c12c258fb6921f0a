import Mathlib.Data.List.Forall2
import SlideDeck.Proofs.Run.Derivation

/-!
# What becomes of a scope

A statement works in the current scope. Of the scopes around it only variables get other values, and
only those that may change; in the current one variables stay what they are too, but new ones may
come. A scope that is closed leaves behind what it built, in the scope around it.

Results:
* `Environment.changes_of_assign`: assigning changes the value of a variable that may change.
* `Statement.changes_of_change`: what a statement that builds nothing may change.
* `Machine.env_close`: what closing a scope does to the one around it.
* `Runs.grows`: a run keeps the scopes around the current one, and the variables of all of them.
-/

namespace SlideDeck

/-- The variable is the same one, and has another value only if it may change. -/
structure Binding.Updates (b b' : Binding) : Prop where
  isMutable : b'.isMutable = b.isMutable
  line : b'.line = b.line
  value : b.isMutable = false → b'.value = b.value

namespace Scope

/-- Of the scope, only variables have other values, and only those that may change. -/
structure Keeps (s s' : Scope) : Prop where
  target : s'.target = s.target
  bindings : ∀ name, Option.Rel Binding.Updates (s.bindings.get? name) (s'.bindings.get? name)
  macros : s'.macros = s.macros
  slides : s'.slides = s.slides
  blocks : s'.blocks = s.blocks

/-- The scope is of the same kind as before, and has all of its variables still. -/
structure Grows (s s' : Scope) : Prop where
  kind : s'.kind = s.kind
  bindings : ∀ name b, s.bindings.get? name = some b →
    ∃ b', s'.bindings.get? name = some b' ∧ b.Updates b'

end Scope

namespace Environment

/-- The current scope grows, and those around it are kept. -/
structure Grows (env env' : Environment) : Prop where
  current : env.current.Grows env'.current
  outer : List.Forall₂ Scope.Keeps env.outer env'.outer

/-- Nothing was finished, and the environment is else as after some statements. -/
structure Changes (env env' : Environment) : Prop extends env.Grows env' where
  slides : env'.current.slides = env.current.slides
  blocks : env'.current.blocks = env.current.blocks

end Environment

/-! ## Variables -/

theorem rel_self {α : Type} {R : α → α → Prop} (h : ∀ a, R a a) :
    ∀ found : Option α, Option.Rel R found found
  | none => .none
  | some a => .some (h a)

namespace Binding

theorem Updates.refl (b : Binding) : b.Updates b := ⟨rfl, rfl, fun _ => rfl⟩

theorem Updates.trans {a b c : Binding} (hab : a.Updates b) (hbc : b.Updates c) : a.Updates c where
  isMutable := hbc.isMutable.trans hab.isMutable
  line := hbc.line.trans hab.line
  value := fun ha => (hbc.value (hab.isMutable.trans ha)).trans (hab.value ha)

theorem updates_of_isMutable {b : Binding} (hb : b.isMutable = true) (v : Constant) :
    b.Updates { b with value := v } where
  isMutable := rfl
  line := rfl
  value := by simp [hb]

/-- A variable that may not change is the same in every respect. -/
theorem Updates.eq {b b' : Binding} (h : b.Updates b') (hb : b.isMutable = false) : b' = b := by
  obtain ⟨value, isMutable, line⟩ := b'
  obtain ⟨rfl, rfl, hvalue⟩ := h
  obtain rfl := hvalue hb
  rfl

theorem rel_updates_trans {a b c : Option Binding} (hab : Option.Rel Updates a b)
    (hbc : Option.Rel Updates b c) : Option.Rel Updates a c := by
  cases hab with
  | none => exact hbc
  | some hab =>
    cases hbc with
    | some hbc => exact .some (hab.trans hbc)

end Binding

/-! ## Scopes -/

namespace Scope

variable {s s' s'' : Scope}

theorem Keeps.refl (s : Scope) : s.Keeps s :=
  ⟨rfl, fun _ => rel_self .refl _, rfl, rfl, rfl⟩

theorem Keeps.trans (h : s.Keeps s') (h' : s'.Keeps s'') : s.Keeps s'' where
  target := h'.target.trans h.target
  bindings := fun name => Binding.rel_updates_trans (h.bindings name) (h'.bindings name)
  macros := h'.macros.trans h.macros
  slides := h'.slides.trans h.slides
  blocks := h'.blocks.trans h.blocks

theorem Keeps.kind (h : s.Keeps s') : s'.kind = s.kind := congrArg Target.kind h.target

theorem Keeps.grows (h : s.Keeps s') : s.Grows s' where
  kind := h.kind
  bindings := by
    intro name b hb
    have hrel := h.bindings name
    rw [hb] at hrel
    generalize s'.bindings.get? name = found at hrel ⊢
    cases hrel with
    | some hupdates => exact ⟨_, rfl, hupdates⟩

theorem Grows.trans (h : s.Grows s') (h' : s'.Grows s'') : s.Grows s'' where
  kind := h'.kind.trans h.kind
  bindings := by
    intro name b hb
    obtain ⟨b', hb', hupdates⟩ := h.bindings name b hb
    obtain ⟨b'', hb'', hupdates'⟩ := h'.bindings name b' hb'
    exact ⟨b'', hb'', hupdates.trans hupdates'⟩

theorem grows_of_bindings (hkind : s'.kind = s.kind) (hbindings : s'.bindings = s.bindings) :
    s.Grows s' where
  kind := hkind
  bindings := by
    intro name b hb
    exact ⟨b, hbindings ▸ hb, .refl b⟩

/-- A variable that may not change keeps its value while its scope grows. -/
theorem Grows.get?_eq (h : s.Grows s') {name : String} {b : Binding}
    (hb : s.bindings.get? name = some b) (himmutable : b.isMutable = false) :
    s'.bindings.get? name = some b := by
  obtain ⟨b', hb', hupdates⟩ := h.bindings name b hb
  rw [hb', hupdates.eq himmutable]

theorem forall₂_keeps_refl (scopes : List Scope) : List.Forall₂ Keeps scopes scopes :=
  List.forall₂_same.2 fun s _ => .refl s

theorem forall₂_keeps_trans {a b c : List Scope} (hab : List.Forall₂ Keeps a b)
    (hbc : List.Forall₂ Keeps b c) : List.Forall₂ Keeps a c := by
  induction hab generalizing c with
  | nil => exact hbc
  | cons h _ ih =>
    cases hbc with
    | cons h' htail => exact .cons (h.trans h') (ih htail)

theorem keeps_insert {name : String} {b : Binding} (hb : s.bindings.get? name = some b)
    (hmutable : b.isMutable = true) (v : Constant) :
    s.Keeps { s with bindings := s.bindings.insert name { b with value := v } } where
  target := rfl
  bindings := by
    intro other
    rw [Table.get?_insert]
    split
    · rename_i heq
      rw [heq, hb]
      exact .some (Binding.updates_of_isMutable hmutable v)
    · exact rel_self .refl _
  macros := rfl
  slides := rfl
  blocks := rfl

/-- Rebinding the nearest variable of the name keeps every scope. -/
theorem forall₂_keeps_rebind {name : String} {b : Binding} {scopes : List Scope}
    (hb : scopes.findSome? (·.bindings.get? name) = some b) (hmutable : b.isMutable = true)
    (v : Constant) :
    List.Forall₂ Keeps scopes (Environment.rebind name { b with value := v } scopes) := by
  induction scopes with
  | nil => cases hb
  | cons s scopes ih =>
    rw [List.findSome?_cons] at hb
    rw [Environment.rebind, Table.has]
    cases hs : s.bindings.get? name with
    | none =>
      rw [hs] at hb
      exact .cons (.refl s) (ih hb)
    | some found =>
      rw [hs] at hb
      cases hb
      exact .cons (keeps_insert hs hmutable v) (forall₂_keeps_refl scopes)

end Scope

/-! ## Statements that build nothing -/

namespace Environment

variable {env env' env'' : Environment}

theorem Grows.refl (env : Environment) : env.Grows env :=
  ⟨(Scope.Keeps.refl _).grows, Scope.forall₂_keeps_refl _⟩

theorem Grows.trans (h : env.Grows env') (h' : env'.Grows env'') : env.Grows env'' :=
  ⟨h.current.trans h'.current, Scope.forall₂_keeps_trans h.outer h'.outer⟩

theorem changes_of_tryCurrent {f : Scope → Except CompileError Scope}
    (hf : ∀ s s', f s = .ok s' → s.Grows s' ∧ s'.slides = s.slides ∧ s'.blocks = s.blocks)
    (h : env.tryCurrent f = .ok env') : env.Changes env' := by
  obtain ⟨s, hs, rfl⟩ := map_eq_ok_iff.1 h
  obtain ⟨hgrows, hslides, hblocks⟩ := hf _ _ hs
  exact ⟨⟨hgrows, Scope.forall₂_keeps_refl _⟩, hslides, hblocks⟩

theorem changes_of_setText {text : String} (h : env.setText text = .ok env') :
    env.Changes env' := by
  refine changes_of_tryCurrent (fun s s' hs => ?_) h
  obtain ⟨b, hb, rfl⟩ := Scope.setText_eq_ok_iff.1 hs
  exact ⟨Scope.grows_of_bindings (congrArg Target.kind hb).symm rfl, rfl, rfl⟩

theorem changes_of_declareVariable {name : String} {b : Binding}
    (h : env.declareVariable name b = .ok env') : env.Changes env' := by
  refine changes_of_tryCurrent (fun s s' hs => ?_) h
  obtain ⟨hnew, rfl⟩ := Scope.declareVariable_eq_ok_iff.1 hs
  refine ⟨⟨rfl, fun other b' hb' => ⟨b', ?_, .refl b'⟩⟩, rfl, rfl⟩
  have hne : other ≠ name := by
    rintro rfl
    simp [Table.has, hb'] at hnew
  rw [Table.get?_insert, if_neg hne, hb']

theorem changes_of_declareMacro {name : String} {body : List Statement}
    (h : env.declareMacro name body = .ok env') : env.Changes env' := by
  refine changes_of_tryCurrent (fun s s' hs => ?_) h
  obtain ⟨-, rfl⟩ := Scope.declareMacro_eq_ok_iff.1 hs
  exact ⟨Scope.grows_of_bindings rfl rfl, rfl, rfl⟩

theorem changes_of_setAttribute {a : Attribute} {v : Constant}
    (h : env.setAttribute a v = .ok env') : env.Changes env' := by
  refine changes_of_tryCurrent (fun s s' hs => ?_) h
  obtain ⟨target, htarget, rfl⟩ := map_eq_ok_iff.1 hs
  exact ⟨Scope.grows_of_bindings (Target.kind_set htarget) rfl, rfl, rfl⟩

/-- Assigning keeps all scopes. -/
theorem keeps_of_assign {name : String} {v : Constant} (h : env.assign name v = .ok env') :
    List.Forall₂ Scope.Keeps env.chain env'.chain := by
  obtain ⟨b, hb, hmutable, rfl⟩ := assign_eq_ok_iff.1 h
  rw [chain_rebindNearest]
  exact Scope.forall₂_keeps_rebind hb hmutable v

/-- Assigning changes the value of a variable that may change. -/
theorem changes_of_assign {name : String} {v : Constant} (h : env.assign name v = .ok env') :
    env.Changes env' := by
  obtain ⟨hcurrent, houter⟩ := List.forall₂_cons.1 (keeps_of_assign h)
  exact ⟨⟨hcurrent.grows, houter⟩, hcurrent.slides, hcurrent.blocks⟩

end Environment

/-- What a statement that builds nothing may change. -/
theorem Statement.changes_of_change {limit room : Nat} {env env' : Environment} {s : Statement}
    (h : s.effect limit room env = .ok (.change env')) : env.Changes env' := by
  obtain ⟨text, henv⟩ | ⟨name, b, henv⟩ | ⟨-, name, -, v, -, henv⟩ | ⟨a, v, henv⟩ |
    ⟨t, name, body, -, henv⟩ := Statement.change_cases h
  · exact Environment.changes_of_setText henv
  · exact Environment.changes_of_declareVariable henv
  · exact Environment.changes_of_assign henv
  · exact Environment.changes_of_setAttribute henv
  · exact Environment.changes_of_declareMacro henv

/-! ## Opening a scope -/

theorem kind_of_startSlide {env : Environment} {parent : Option String} {target : Target}
    (h : env.startSlide parent = .ok target) :
    env.current.kind = .file ∧ target.kind = .slide := by
  unfold Environment.startSlide at h
  split at h
  · cases h
  · rename_i hkind
    refine ⟨not_not.1 hkind, ?_⟩
    repeat' split at h
    all_goals cases h
    all_goals rfl

theorem kind_of_startBlock {env : Environment} {parent : Option String} {target : Target}
    (h : env.startBlock parent = .ok target) :
    env.current.kind = .slide ∧ target.kind = .block := by
  unfold Environment.startBlock at h
  split at h
  · cases h
  · rename_i hkind
    refine ⟨not_not.1 hkind, ?_⟩
    repeat' split at h
    all_goals cases h
    all_goals rfl

theorem kind_ne_file_of_startSlide {env : Environment} {parent : Option String} {target : Target}
    (h : env.startSlide parent = .ok target) : target.kind ≠ .file := by
  rw [(kind_of_startSlide h).2]
  decide

theorem kind_ne_file_of_startBlock {env : Environment} {parent : Option String} {target : Target}
    (h : env.startBlock parent = .ok target) : target.kind ≠ .file := by
  rw [(kind_of_startBlock h).2]
  decide

theorem eq_of_kind_eq_file {t : Target} (h : t.kind = .file) : t = .file := by
  cases t <;> cases h
  rfl

theorem exists_of_kind_eq_slide {t : Target} (h : t.kind = .slide) : ∃ slide, t = .slide slide := by
  cases t <;> cases h
  exact ⟨_, rfl⟩

theorem exists_of_kind_eq_block {t : Target} (h : t.kind = .block) : ∃ block, t = .block block := by
  cases t <;> cases h
  exact ⟨_, rfl⟩

/-! ## Closing a scope -/

namespace Scope

/-- The scope when a slide or block of the name was finished in it. -/
def receive (s : Scope) (name : String) : Target → Scope
  | .file => s
  | .slide slide => s.registerSlide name slide
  | .block block => (s.registerBlock name block).appendBlock block

theorem grows_receive (s : Scope) (name : String) (target : Target) :
    s.Grows (s.receive name target) := by
  cases target with
  | file => exact (Keeps.refl s).grows
  | slide slide => exact grows_of_bindings rfl rfl
  | block block =>
    simp only [receive, appendBlock]
    split
    · rename_i slide hslide
      refine grows_of_bindings ?_ rfl
      exact (congrArg Target.kind hslide).symm
    · exact grows_of_bindings rfl rfl

end Scope

/-- Closing a scope leaves in the scope around it what was built. -/
theorem Machine.env_close {m : Machine} {outer : Scope} {rest : List Scope}
    (h : m.env.outer = outer :: rest) (name : String) :
    (m.close name).env = ⟨outer.receive name m.env.current.target, rest⟩ := by
  obtain ⟨⟨current, scopes⟩, deck, reports⟩ := m
  cases h
  simp only [Machine.close, Environment.pop?, Action.finish]
  cases current.target <;> rfl

/-! ## Runs -/

/-- What is left of the scopes once the run of a body is over and its scope is closed. -/
theorem Machine.grows_enter {m inner : Machine} {target : Target}
    (h : (m.enter target).env.Grows inner.env) (name : String) : ∃ outer rest,
      m.env.current.Keeps outer ∧ List.Forall₂ Scope.Keeps m.env.outer rest ∧
      inner.env.current.kind = target.kind ∧
      (inner.close name).env = ⟨outer.receive name inner.env.current.target, rest⟩ := by
  obtain ⟨outer, rest, hcurrent, hrest, houter⟩ := List.forall₂_cons_left_iff.1 h.outer
  exact ⟨outer, rest, hcurrent, hrest, h.current.kind, Machine.env_close houter name⟩

/-- A run keeps the scopes around the current one, and the variables of all of them. -/
theorem Runs.grows {limit room : Nat} {statements : List Statement} {m m' : Machine}
    (h : Runs limit room statements m m') : m.env.Grows m'.env := by
  induction h with
  | done => exact .refl _
  | fault _ _ ih => exact ih
  | change h _ ih => exact (Statement.changes_of_change h).toGrows.trans ih
  | @build room s rest body m inner m' name target _ _ _ ihbody ih =>
    obtain ⟨outer, scopes, hcurrent, houter, -, hclose⟩ := Machine.grows_enter ihbody name
    have hbuilt : m.env.Grows (inner.close name).env := by
      rw [hclose]
      exact ⟨hcurrent.grows.trans (Scope.grows_receive _ _ _), houter⟩
    exact hbuilt.trans ih
  | replay _ _ _ ihbody ih => exact ihbody.trans ih

end SlideDeck
