import SlideDeck.Proofs.Run.Walk
import SlideDeck.Proofs.Scope.Frame

/-!
# Isolation of scopes

Whatever the body of a slide or block does, it leaves the scopes around it as they are. What it can
do to them is assigning to variables that may change, and what comes of it is the slide or block
that was built. A variable that may not change keeps its value as long as its scope is open.

Results:
* `execute_of_build`: a declaration hands what it builds to the scope in which it stands.
* `slide_isolated`, `block_isolated`: what a declaration leaves of the scopes around its body.
* `Scope.Lasting.exists_of_open`: what holds of every step on a scope holds as long as it is open.
* `Point.get?_of_open`: a variable that may not change keeps its value until its scope is closed.
* `scopes_isolated`: all of these.
-/

namespace SlideDeck

open Relation (ReflTransGen)

/-- All scopes, from that of the file inwards. -/
def Environment.fromFile (env : Environment) : List Scope := env.chain.reverse

/-! ## Declarations -/

section

variable {limit room : Nat} {s : Statement} {m : Machine}

/-- A statement that cannot be carried out changes nothing. -/
theorem execute_of_error {e : CompileError} (h : s.effect limit room m.env = .error e) :
    (execute (replay limit room) s m).result = .error e ∧
      (execute (replay limit room) s m).machine = m := by
  obtain ⟨hresult, hmachine⟩ := execute_follows limit room s m
  rw [h] at hresult hmachine
  exact ⟨hresult, hmachine⟩

/-- A declaration hands what it builds to the scope in which it stands. The scopes that were there
before the body are there after it. -/
theorem execute_of_build {name : String} {target : Target} {body : List Statement}
    (h : s.effect limit room m.env = .ok (.build name target body)) :
    (execute (replay limit room) s m).result = .ok () ∧ ∃ outer rest built,
      m.env.current.Keeps outer ∧ List.Forall₂ Scope.Keeps m.env.outer rest ∧
      built.kind = target.kind ∧
      (execute (replay limit room) s m).machine.env = ⟨outer.receive name built, rest⟩ := by
  obtain ⟨hresult, hmachine⟩ := execute_follows limit room s m
  rw [h] at hresult hmachine
  obtain ⟨outer, rest, hcurrent, houter, hkind, hclose⟩ :=
    Machine.grows_enter (runs_runFrom limit room body (m.enter target)).grows name
  refine ⟨hresult, outer, rest, _, hcurrent, houter, hkind, ?_⟩
  rw [hmachine]
  exact hclose

end

section

variable (limit room : Nat) (t : Token) (name : String) (parent : Option String)
  (body : List Statement) (m : Machine)

/-- A slide leaves the scopes around its body as they are, apart from its own name among the slides
of the scope in which it stands. -/
theorem slide_isolated :
    let after := (execute (replay limit room) (.compound t (.slide name parent) body) m).machine.env
    List.Forall₂ Scope.Keeps m.env.outer after.outer ∧
      m.env.current.Keeps { after.current with slides := m.env.current.slides } ∧
      ∀ other, other ≠ name →
        after.current.slides.get? other = m.env.current.slides.get? other := by
  intro after
  have heffect : (Statement.compound t (.slide name parent) body).effect limit room m.env =
    (m.env.startSlide parent).map (.build name · body) := rfl
  cases hstart : m.env.startSlide parent with
  | error e =>
    rw [hstart] at heffect
    have hafter : after = m.env := congrArg Machine.env (execute_of_error heffect).2
    rw [hafter]
    exact ⟨Scope.forall₂_keeps_refl _, .refl _, fun _ _ => rfl⟩
  | ok target =>
    rw [hstart] at heffect
    obtain ⟨-, outer, rest, built, hcurrent, houter, hkind, hafter⟩ := execute_of_build heffect
    obtain ⟨slide, rfl⟩ := exists_of_kind_eq_slide (hkind.trans (kind_of_startSlide hstart).2)
    rw [show after = _ from hafter]
    refine ⟨houter, { hcurrent with slides := rfl }, fun other hother => ?_⟩
    simp only [Scope.receive, Scope.registerSlide, Table.get?_insert, if_neg hother,
      hcurrent.slides]

/-- A block leaves the scopes around its body as they are, apart from its own name among the blocks
of the scope in which it stands, and one more block behind those of the slide that is built there
unless it fails. -/
theorem block_isolated :
    let step := execute (replay limit room) (.compound t (.block name parent) body) m
    let after := step.machine.env
    List.Forall₂ Scope.Keeps m.env.outer after.outer ∧
      m.env.current.Keeps
        { after.current with blocks := m.env.current.blocks, target := m.env.current.target } ∧
      (∀ other, other ≠ name →
        after.current.blocks.get? other = m.env.current.blocks.get? other) ∧
      (step.result = .ok () → ∃ slide block, m.env.current.target = .slide slide ∧
        after.current.target = .slide { slide with blocks := slide.blocks ++ [block] }) ∧
      ∀ e, step.result = .error e → after.current.target = m.env.current.target := by
  intro step after
  have heffect : (Statement.compound t (.block name parent) body).effect limit room m.env =
    (m.env.startBlock parent).map (.build name · body) := rfl
  cases hstart : m.env.startBlock parent with
  | error e =>
    rw [hstart] at heffect
    obtain ⟨hresult, hmachine⟩ := execute_of_error heffect
    have hafter : after = m.env := congrArg Machine.env hmachine
    rw [hafter]
    refine ⟨Scope.forall₂_keeps_refl _, .refl _, fun _ _ => rfl, fun hok => ?_, fun _ _ => rfl⟩
    cases hresult.symm.trans hok
  | ok target =>
    rw [hstart] at heffect
    obtain ⟨hresult, outer, rest, built, hcurrent, houter, hbuilt, hafter⟩ :=
      execute_of_build heffect
    obtain ⟨hkind, htarget⟩ := kind_of_startBlock hstart
    obtain ⟨slide, hslide⟩ := exists_of_kind_eq_slide hkind
    obtain ⟨block, rfl⟩ := exists_of_kind_eq_block (hbuilt.trans htarget)
    have hreceive := hcurrent.target.trans hslide
    simp only [Scope.receive, Scope.appendBlock, Scope.registerBlock, hreceive] at hafter
    rw [show after = _ from hafter]
    refine ⟨houter, { hcurrent with blocks := rfl, target := rfl }, fun other hother => ?_,
      fun _ => ⟨slide, block, hslide, rfl⟩, fun e herror => ?_⟩
    · simp only [Table.get?_insert, if_neg hother, hcurrent.blocks]
    · cases hresult.symm.trans herror

end

/-! ## Steps -/

theorem exists_getElem?_of_forall₂ {α β : Type} {R : α → β → Prop} {as : List α} {bs : List β}
    (h : List.Forall₂ R as bs) {k : Nat} {a : α} (ha : as[k]? = some a) :
    ∃ b, bs[k]? = some b ∧ R a b := by
  induction h generalizing k with
  | nil => cases ha
  | cons hab _ ih =>
    cases k with
    | zero =>
      cases ha
      exact ⟨_, rfl, hab⟩
    | succ k => exact ih ha

/-- The relation holds between a scope and what any steps leave of it, as long as it is open. -/
structure Scope.Lasting (R : Scope → Scope → Prop) : Prop where
  keeps : ∀ {s s' : Scope}, s.Keeps s' → R s s'
  change : ∀ {limit room : Nat} {env env' : Environment} {s : Statement},
    s.effect limit room env = .ok (.change env') → R env.current env'.current
  receive : ∀ (s : Scope) (name : String) (target : Target), R s (s.receive name target)
  trans : ∀ {s s' s'' : Scope}, R s s' → R s' s'' → R s s''

theorem Scope.lasting_grows : Scope.Lasting Scope.Grows where
  keeps := Scope.Keeps.grows
  change := fun heffect => (Statement.changes_of_change heffect).current
  receive := Scope.grows_receive
  trans := Scope.Grows.trans

/-- What is left of each scope has the same place, counted from the file. -/
theorem Environment.exists_getElem?_fromFile {R : Scope → Scope → Prop} {env env' : Environment}
    (h : List.Forall₂ R env.chain env'.chain) {k : Nat} {s : Scope}
    (hs : env.fromFile[k]? = some s) : ∃ s', env'.fromFile[k]? = some s' ∧ R s s' :=
  exists_getElem?_of_forall₂ (List.forall₂_reverse_iff.2 h) hs

namespace Scope.Lasting

variable {R : Scope → Scope → Prop} {limit : Nat} {p q : Point}

/-- Closing a scope leaves the others open. -/
theorem exists_getElem?_close (hR : Scope.Lasting R) {m : Machine} {name : String} {k : Nat}
    {s : Scope} (hs : m.env.fromFile[k]? = some s) (hk : k ≤ (m.close name).env.depth) :
    ∃ s', (m.close name).env.fromFile[k]? = some s' ∧ R s s' := by
  cases houter : m.env.outer with
  | nil =>
    have hclose : m.close name = m := by simp [Machine.close, Environment.pop?, houter]
    rw [hclose]
    exact ⟨s, hs, hR.keeps (Scope.Keeps.refl s)⟩
  | cons outer rest =>
    rw [Machine.env_close houter] at hk ⊢
    have hchain : List.Forall₂ R (Environment.chain ⟨outer, rest⟩)
        (Environment.chain ⟨outer.receive name m.env.current.target, rest⟩) :=
      .cons (hR.receive _ _ _) (List.forall₂_same.2 fun s _ => hR.keeps (Scope.Keeps.refl s))
    refine Environment.exists_getElem?_fromFile hchain ?_
    rw [Environment.fromFile, Environment.chain, houter, List.reverse_cons,
      List.getElem?_append_left (by simpa [Environment.depth] using Nat.lt_succ_of_le hk)] at hs
    exact hs

/-- One step is in the relation on every scope that it leaves open. -/
theorem exists_of_next (hR : Scope.Lasting R) (h : Point.Next limit p q) {k : Nat} {s : Scope}
    (hs : p.machine.env.fromFile[k]? = some s) (hk : k ≤ q.machine.env.depth) :
    ∃ s', q.machine.env.fromFile[k]? = some s' ∧ R s s' := by
  cases h with
  | fault _ => exact ⟨s, hs, hR.keeps (Scope.Keeps.refl s)⟩
  | change heffect =>
    have houter := (Statement.changes_of_change heffect).outer
    have hchain := List.Forall₂.cons (hR.change heffect) (houter.imp fun _ _ => hR.keeps)
    exact Environment.exists_getElem?_fromFile hchain hs
  | enter _ =>
    refine ⟨s, ?_, hR.keeps (Scope.Keeps.refl s)⟩
    simp only [Environment.fromFile, Machine.enter, Environment.push, Environment.chain] at hs ⊢
    rw [List.reverse_cons, List.getElem?_append_left (List.getElem?_eq_some_iff.1 hs).1]
    exact hs
  | replay _ => exact ⟨s, hs, hR.keeps (Scope.Keeps.refl s)⟩
  | close => exact hR.exists_getElem?_close hs hk
  | replayed => exact ⟨s, hs, hR.keeps (Scope.Keeps.refl s)⟩

/-- All steps are, until the scope is closed. -/
theorem exists_of_open (hR : Scope.Lasting R) {k : Nat}
    (h : ReflTransGen (fun p q => Point.Next limit p q ∧ k ≤ q.machine.env.depth) p q) {s : Scope}
    (hs : p.machine.env.fromFile[k]? = some s) :
    ∃ s', q.machine.env.fromFile[k]? = some s' ∧ R s s' := by
  induction h with
  | refl => exact ⟨s, hs, hR.keeps (Scope.Keeps.refl s)⟩
  | tail _ hstep ih =>
    obtain ⟨s', hs', hfirst⟩ := ih
    obtain ⟨s'', hs'', hnext⟩ := hR.exists_of_next hstep.1 hs' hstep.2
    exact ⟨s'', hs'', hR.trans hfirst hnext⟩

end Scope.Lasting

/-- A variable that may not change keeps its value over all steps, until its scope is closed. -/
theorem Point.get?_of_open {limit : Nat} {p q : Point} {k : Nat}
    (h : ReflTransGen (fun p q => Next limit p q ∧ k ≤ q.machine.env.depth) p q) {s : Scope}
    {name : String} {b : Binding} (hs : p.machine.env.fromFile[k]? = some s)
    (hb : s.bindings.get? name = some b) (himmutable : b.isMutable = false) :
    ∃ s', q.machine.env.fromFile[k]? = some s' ∧ s'.bindings.get? name = some b := by
  obtain ⟨s', hs', hgrows⟩ := Scope.lasting_grows.exists_of_open h hs
  exact ⟨s', hs', hgrows.get?_eq hb himmutable⟩

/-- A slide or block leaves the scopes around its body as they are, apart from what is registered
under its own name, from the block that a slide gets, and from the values of variables that may
change; and a variable that may not change keeps its value until its scope is closed. -/
theorem scopes_isolated (limit : Nat) :
    (∀ room t name parent body m,
      let after :=
        (execute (replay limit room) (.compound t (.slide name parent) body) m).machine.env
      List.Forall₂ Scope.Keeps m.env.outer after.outer ∧
        m.env.current.Keeps { after.current with slides := m.env.current.slides } ∧
        ∀ other, other ≠ name →
          after.current.slides.get? other = m.env.current.slides.get? other) ∧
    (∀ room t name parent body m,
      let step := execute (replay limit room) (.compound t (.block name parent) body) m
      let after := step.machine.env
      List.Forall₂ Scope.Keeps m.env.outer after.outer ∧
        m.env.current.Keeps
          { after.current with blocks := m.env.current.blocks, target := m.env.current.target } ∧
        (∀ other, other ≠ name →
          after.current.blocks.get? other = m.env.current.blocks.get? other) ∧
        (step.result = .ok () → ∃ slide block, m.env.current.target = .slide slide ∧
          after.current.target = .slide { slide with blocks := slide.blocks ++ [block] }) ∧
        ∀ e, step.result = .error e → after.current.target = m.env.current.target) ∧
    ∀ p q k s name b,
      ReflTransGen (fun p q => Point.Next limit p q ∧ k ≤ q.machine.env.depth) p q →
      p.machine.env.fromFile[k]? = some s → s.bindings.get? name = some b → b.isMutable = false →
      ∃ s', q.machine.env.fromFile[k]? = some s' ∧ s'.bindings.get? name = some b :=
  ⟨slide_isolated limit, block_isolated limit,
    fun _ _ _ _ _ _ h hs hb himmutable => Point.get?_of_open h hs hb himmutable⟩

/-- A variable of the file is shadowed in a block, which is put behind those of its slide. -/
theorem scopes_isolated_shadowed :
    let t : Token := ⟨.endOfInput, ⟨1, 'a', ⟨0, 1⟩⟩⟩
    let b : Binding := ⟨.integer 1, false, 1⟩
    let file : Scope := { target := .file, bindings := ⟨[("a", b)]⟩ }
    let m : Machine := { env := ⟨{ target := .slide { blocks := [{}] } }, [file]⟩ }
    let shadowing := Statement.command t (.declare "a" false (.integer 2))
    let block := Statement.compound t (.block "b" none) [shadowing]
    let step := execute (replay 0 0) block m
    step.result = .ok () ∧ (∃ slide block, m.env.current.target = .slide slide ∧
      step.machine.env.current.target = .slide { slide with blocks := slide.blocks ++ [block] }) ∧
    ∃ s', step.machine.env.fromFile[0]? = some s' ∧ s'.bindings.get? "a" = some b := by
  intro t b file m shadowing block step
  have hstep : step.result = .ok () := rfl
  have hwalk : ReflTransGen (fun p q => Point.Next 0 p q ∧ 0 ≤ q.machine.env.depth)
      ⟨[block], m, 0, []⟩ ⟨[], step.machine, 0, []⟩ :=
    .head ⟨.enter rfl, Nat.zero_le _⟩ (.head ⟨.change rfl, Nat.zero_le _⟩
      (.head ⟨.close, Nat.zero_le _⟩ .refl))
  obtain ⟨-, hblocks, hsteps⟩ := scopes_isolated 0
  exact ⟨hstep, (hblocks 0 t "b" none [shadowing] m).2.2.2.1 hstep,
    hsteps _ _ 0 file "a" b hwalk rfl rfl rfl⟩

end SlideDeck
