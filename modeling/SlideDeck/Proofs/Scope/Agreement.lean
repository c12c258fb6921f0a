import SlideDeck.Proofs.Scope.Frame
import SlideDeck.Proofs.Statement.Likeness

/-!
# Environments that agree

Two environments agree if what matters of them is the same. What does not matter is chosen by an
aspect: which tokens correspond to each other, on which lines variables are declared, and whether
finished slides are known. What is looked up, declared or assigned in both comes to the same: it
fails for the same reason, or it leads to environments that agree.

Results:
* `Environment.Agree.findVariable?`, `Environment.Agree.findMacro?`: what is found in both.
* `Environment.Agree.resolve`, `Environment.Agree.startSlide`, `Environment.Agree.startBlock`: what
  is the same in both.
* `Environment.Agree.tryCurrent`, `Environment.Agree.assign`: what is changed in both.
-/

namespace SlideDeck

/-- What is the same in two runs. -/
structure Aspect where
  /-- Which tokens correspond to each other. -/
  token : Token → Token → Prop
  /-- Which lines of declarations correspond to each other. -/
  line : Nat → Nat → Prop
  /-- Whether the same finished slides are known. -/
  slides : Prop
  line_of_token : ∀ {t u : Token}, token t u → line t.mark.line u.mark.line

variable {a : Aspect}

/-! ## What agrees -/

/-- The faults are the same, but for the line that one may quote. -/
inductive CompileError.Agree (a : Aspect) : CompileError → CompileError → Prop
  | refl (e : CompileError) : CompileError.Agree a e e
  | immutableAssignment {name : String} {line line' : Nat} : a.line line line' →
      CompileError.Agree a (.immutableAssignment name line) (.immutableAssignment name line')

/-- Both computations fail for the same reason, or the results of both are related. -/
inductive Aspect.Results (a : Aspect) {α : Type} (R : α → α → Prop) :
    Except CompileError α → Except CompileError α → Prop
  | ok {x y : α} : R x y → a.Results R (.ok x) (.ok y)
  | error {e e' : CompileError} : e.Agree a e' → a.Results R (.error e) (.error e')

structure Binding.Agree (a : Aspect) (b b' : Binding) : Prop where
  value : b.value = b'.value
  isMutable : b.isMutable = b'.isMutable
  line : a.line b.line b'.line

structure Scope.Agree (a : Aspect) (s s' : Scope) : Prop where
  target : s.target = s'.target
  bindings : ∀ name,
    Option.Rel (Binding.Agree a) (s.bindings.get? name) (s'.bindings.get? name)
  macros : ∀ name, Option.Rel (List.Forall₂ (Statement.Alike a.token))
    (s.macros.get? name) (s'.macros.get? name)
  slides : a.slides → ∀ name, s.slides.get? name = s'.slides.get? name
  blocks : ∀ name, s.blocks.get? name = s'.blocks.get? name

def Environment.Agree (a : Aspect) (env env' : Environment) : Prop :=
  List.Forall₂ (Scope.Agree a) env.chain env'.chain

/-! ## Computations that may fail -/

namespace Aspect.Results

variable {α β : Type} {R : α → α → Prop} {S : β → β → Prop} {x y : Except CompileError α}

theorem of_eq (hR : ∀ x, R x x) (h : x = y) : a.Results R x y := by
  subst h
  cases x with
  | ok x => exact .ok (hR x)
  | error e => exact .error (.refl e)

theorem map {f g : α → β} (h : a.Results R x y) (hfg : ∀ x y, R x y → S (f x) (g y)) :
    a.Results S (x.map f) (y.map g) := by
  cases h with
  | ok hxy => exact .ok (hfg _ _ hxy)
  | error he => exact .error he

theorem bind {f g : α → Except CompileError β} (h : a.Results R x y)
    (hfg : ∀ x y, R x y → a.Results S (f x) (g y)) : a.Results S (x.bind f) (y.bind g) := by
  cases h with
  | ok hxy => exact hfg _ _ hxy
  | error he => exact .error he

theorem exists_of_ok {x : α} (h : a.Results R (.ok x) y) : ∃ z, y = .ok z ∧ R x z := by
  cases h with
  | ok hxz => exact ⟨_, rfl, hxz⟩

theorem exists_of_error {e : CompileError} (h : a.Results R (.error e) y) :
    ∃ e', y = .error e' ∧ e.Agree a e' := by
  cases h with
  | error he => exact ⟨_, rfl, he⟩

end Aspect.Results

/-! ## Tables -/

section

variable {α β : Type} {R : α → β → Prop}

theorem isSome_eq_of_rel {x : Option α} {y : Option β} (h : Option.Rel R x y) :
    x.isSome = y.isSome := by
  cases h <;> rfl

theorem Table.rel_insert {R : α → α → Prop} {t t' : Table α}
    (h : ∀ name, Option.Rel R (t.get? name) (t'.get? name)) {x y : α} (hxy : R x y)
    (name other : String) :
    Option.Rel R ((t.insert name x).get? other) ((t'.insert name y).get? other) := by
  rw [Table.get?_insert, Table.get?_insert]
  split
  · exact .some hxy
  · exact h other

theorem rel_findSome? {γ δ : Type} {T : γ → δ → Prop} {f : γ → Option α} {g : δ → Option β}
    {xs : List γ} {ys : List δ} (h : List.Forall₂ T xs ys)
    (hfg : ∀ x y, T x y → Option.Rel R (f x) (g y)) :
    Option.Rel R (xs.findSome? f) (ys.findSome? g) := by
  induction h with
  | nil => exact .none
  | @cons x y xs ys hxy _ ih =>
    have hfirst := hfg x y hxy
    rw [List.findSome?_cons, List.findSome?_cons]
    generalize f x = found, g y = found' at hfirst
    cases hfirst with
    | none => exact ih
    | some hab => exact .some hab

theorem findSome?_eq_of_forall₂ {γ δ : Type} {T : γ → δ → Prop} {f : γ → Option α}
    {g : δ → Option α} {xs : List γ} {ys : List δ} (h : List.Forall₂ T xs ys)
    (hfg : ∀ x y, T x y → f x = g y) : xs.findSome? f = ys.findSome? g := by
  induction h with
  | nil => rfl
  | @cons x y xs ys hxy _ ih => rw [List.findSome?_cons, List.findSome?_cons, hfg x y hxy, ih]

end

/-! ## Scopes -/

namespace Scope.Agree

variable {s s' : Scope}

theorem kind (h : s.Agree a s') : s.kind = s'.kind := congrArg Target.kind h.target

theorem has_bindings (h : s.Agree a s') (name : String) :
    s.bindings.has name = s'.bindings.has name :=
  isSome_eq_of_rel (h.bindings name)

/-- New scopes for the same target agree. -/
theorem new (a : Aspect) (target : Target) :
    Scope.Agree a { target := target } { target := target } where
  target := rfl
  bindings := fun _ => .none
  macros := fun _ => .none
  slides := fun _ _ => rfl
  blocks := fun _ => rfl

theorem withTarget (h : s.Agree a s') (target : Target) :
    Scope.Agree a { s with target := target } { s' with target := target } :=
  { h with target := rfl }

theorem bind (h : s.Agree a s') {b b' : Binding} (hb : b.Agree a b') (name : String) :
    Scope.Agree a { s with bindings := s.bindings.insert name b }
      { s' with bindings := s'.bindings.insert name b' } :=
  { h with bindings := Table.rel_insert h.bindings hb name }

theorem declareVariable (h : s.Agree a s') {b b' : Binding} (hb : b.Agree a b') (name : String) :
    a.Results (Scope.Agree a) (s.declareVariable name b) (s'.declareVariable name b') := by
  simp only [Scope.declareVariable, h.has_bindings]
  split
  · exact .error (.refl _)
  · exact .ok (h.bind hb name)

theorem declareMacro (h : s.Agree a s') {body body' : List Statement}
    (hbody : List.Forall₂ (Statement.Alike a.token) body body') (name : String) :
    a.Results (Scope.Agree a) (s.declareMacro name body) (s'.declareMacro name body') := by
  have hhas : s.macros.has name = s'.macros.has name := isSome_eq_of_rel (h.macros name)
  simp only [Scope.declareMacro, hhas]
  split
  · exact .error (.refl _)
  · exact .ok { h with macros := Table.rel_insert h.macros hbody name }

theorem setText (h : s.Agree a s') (text : String) :
    a.Results (Scope.Agree a) (s.setText text) (s'.setText text) := by
  simp only [Scope.setText, h.target]
  split
  · exact .ok (h.withTarget _)
  · exact .error (.refl _)

theorem setAttribute (h : s.Agree a s') (x : Attribute) (v : Constant) :
    a.Results (Scope.Agree a) (s.setAttribute x v) (s'.setAttribute x v) := by
  have hset : a.Results Eq (s.target.set x v) (s'.target.set x v) :=
    .of_eq (fun _ => rfl) (by rw [h.target])
  refine hset.map ?_
  rintro target _ rfl
  exact h.withTarget target

theorem receive (h : s.Agree a s') (name : String) (target : Target) :
    (s.receive name target).Agree a (s'.receive name target) := by
  cases target with
  | file => exact h
  | slide slide =>
    refine { h with slides := fun hslides other => ?_ }
    simp only [Scope.receive, Scope.registerSlide, Table.get?_insert, h.slides hslides other]
  | block block =>
    have hregister : (s.registerBlock name block).Agree a (s'.registerBlock name block) := by
      refine { h with blocks := fun other => ?_ }
      simp only [Scope.registerBlock, Table.get?_insert, h.blocks other]
    simp only [Scope.receive, Scope.appendBlock, hregister.target]
    split
    · exact hregister.withTarget _
    · exact hregister

end Scope.Agree

/-! ## Environments -/

namespace Environment.Agree

variable {env env' : Environment}

theorem current (h : env.Agree a env') : env.current.Agree a env'.current :=
  (List.forall₂_cons.1 h).1

theorem outer (h : env.Agree a env') : List.Forall₂ (Scope.Agree a) env.outer env'.outer :=
  (List.forall₂_cons.1 h).2

theorem kind (h : env.Agree a env') : env.current.kind = env'.current.kind := h.current.kind

theorem findVariable? (h : env.Agree a env') (name : String) :
    Option.Rel (Binding.Agree a) (env.findVariable? name) (env'.findVariable? name) :=
  rel_findSome? h fun _ _ hs => hs.bindings name

theorem findMacro? (h : env.Agree a env') (name : String) :
    Option.Rel (List.Forall₂ (Statement.Alike a.token)) (env.findMacro? name)
      (env'.findMacro? name) :=
  rel_findSome? h fun _ _ hs => hs.macros name

theorem resolve (h : env.Agree a env') (v : Value) : env.resolve v = env'.resolve v := by
  cases v with
  | string | integer | color => rfl
  | reference name =>
    have hrel := h.findVariable? name
    simp only [Environment.resolve]
    generalize env.findVariable? name = found, env'.findVariable? name = found' at hrel
    cases hrel with
    | none => rfl
    | some hb => simp only [hb.value]

theorem macroBody (h : env.Agree a env') (name : String) :
    a.Results (List.Forall₂ (Statement.Alike a.token)) (env.macroBody name)
      (env'.macroBody name) := by
  have hrel := h.findMacro? name
  simp only [Environment.macroBody]
  generalize env.findMacro? name = found, env'.findMacro? name = found' at hrel
  cases hrel with
  | none => exact .error (.refl _)
  | some hbody => exact .ok hbody

/-- Slides start from the same, if finished slides are known to both or no slide can stand here. -/
theorem startSlide (h : env.Agree a env') (hslides : a.slides ∨ env.current.kind ≠ .file)
    (parent : Option String) : env.startSlide parent = env'.startSlide parent := by
  simp only [Environment.startSlide, ← h.kind]
  split
  · rfl
  · rename_i hkind
    have hfind (name : String) : env.findSlide? name = env'.findSlide? name :=
      findSome?_eq_of_forall₂ h fun _ _ hs => hs.slides (hslides.resolve_right hkind) name
    simp only [hfind]

theorem startBlock (h : env.Agree a env') (parent : Option String) :
    env.startBlock parent = env'.startBlock parent := by
  have hfind (name : String) : env.findBlock? name = env'.findBlock? name :=
    findSome?_eq_of_forall₂ h fun _ _ hs => hs.blocks name
  simp only [Environment.startBlock, h.kind, hfind]

theorem tryCurrent (h : env.Agree a env') {f f' : Scope → Except CompileError Scope}
    (hf : a.Results (Scope.Agree a) (f env.current) (f' env'.current)) :
    a.Results (Environment.Agree a) (env.tryCurrent f) (env'.tryCurrent f') :=
  hf.map fun _ _ hs => .cons hs h.outer

theorem rebind {scopes scopes' : List Scope} (h : List.Forall₂ (Scope.Agree a) scopes scopes')
    {b b' : Binding} (hb : b.Agree a b') (name : String) :
    List.Forall₂ (Scope.Agree a) (Environment.rebind name b scopes)
      (Environment.rebind name b' scopes') := by
  induction h with
  | nil => exact .nil
  | @cons s s' scopes scopes' hs hscopes ih =>
    simp only [Environment.rebind, hs.has_bindings]
    split
    · exact .cons (hs.bind hb name) hscopes
    · exact .cons hs ih

theorem assign (h : env.Agree a env') (name : String) (v : Constant) :
    a.Results (Environment.Agree a) (env.assign name v) (env'.assign name v) := by
  have hrel := h.findVariable? name
  simp only [Environment.assign]
  generalize env.findVariable? name = found, env'.findVariable? name = found' at hrel
  cases hrel with
  | none => exact .error (.refl _)
  | @some b b' hb =>
    simp only [hb.isMutable]
    split
    · refine .ok ?_
      have hvalue : Binding.Agree a ⟨v, b'.isMutable, b.line⟩ ⟨v, b'.isMutable, b'.line⟩ :=
        ⟨rfl, rfl, hb.line⟩
      rw [Environment.Agree, chain_rebindNearest, chain_rebindNearest]
      exact rebind h hvalue name
    · exact .error (.immutableAssignment hb.line)

end Environment.Agree

end SlideDeck
