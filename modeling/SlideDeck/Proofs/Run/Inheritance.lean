import SlideDeck.Proofs.Run.Walk
import SlideDeck.Proofs.Scope.Frame

/-!
# Inheriting from a parent

A slide or block with a parent starts from a copy of what was finished last under the name of the
parent: a slide from the background, a block from the style. It comes to the same to start from the
default and to set the attributes first. The parent of a slide is any slide that is finished by
then; the parent of a block is a block of the same slide.

Results:
* `executeAll_setAttribute`: setting an attribute at the start of a body is starting from another
  target.
* `executeAll_inherit_slide`, `executeAll_inherit_block`: inheriting is setting the attributes.
* `Reaches.recorded`: the tables of slides and blocks hold what was finished last under each name.
* `inherits_finished`: at every point of a run, a declaration inherits from what was finished last.
-/

namespace SlideDeck

/-! ## What was finished -/

/-- What was finished so far, the latest first: all slides, and the blocks of the slide that is
open. -/
structure History where
  slides : List (String × Slide) := []
  blocks : List (String × Block) := []

/-- The history after the next step from the point. A slide or block is finished by the step that
closes its scope; with a slide, its blocks are no longer those of an open one. -/
def History.after (h : History) (p : Point) : History :=
  match p.statements, p.pending with
  | [], .build name _ :: _ =>
    match p.machine.env.current.target with
    | .slide slide => { slides := (name, slide) :: h.slides, blocks := [] }
    | .block block => { h with blocks := (name, block) :: h.blocks }
    | .file => h
  | _, _ => h

/-- The run from the start comes to the point, with the history. -/
inductive Reaches (limit : Nat) (start : Point) : Point → History → Prop
  | start : Reaches limit start start {}
  | next {p q : Point} {h : History} : Reaches limit start p h → p.Next limit q →
      Reaches limit start q (h.after p)

/-! ## Copying is setting attributes -/

section

variable {replay : Replay} {m : Machine}

theorem execute_slide (t : Token) (name : String) (parent : Option String)
    (body : List Statement) : execute replay (.compound t (.slide name parent) body) =
      Action.build name (·.startSlide parent) (executeAll replay body) := by
  rw [execute]

theorem execute_block (t : Token) (name : String) (parent : Option String)
    (body : List Statement) : execute replay (.compound t (.block name parent) body) =
      Action.build name (·.startBlock parent) (executeAll replay body) := by
  rw [execute]

/-- What is built depends on the target that the body starts from and on what the body does. -/
theorem build_congr {start start' : Environment → Except CompileError Target}
    {run run' : Machine → Machine × List Event} {target target' : Target} (name : String)
    (hstart : start m.env = .ok target) (hstart' : start' m.env = .ok target')
    (hkind : target.kind = target'.kind) (hrun : run (m.enter target) = run' (m.enter target')) :
    Action.build name start run m = Action.build name start' run' m := by
  simp only [Machine.enter] at hrun
  simp only [Action.build, Action.look, Action.enter, Action.perform, Action.leave, bind,
    Action.bind, hstart, hstart', hkind, hrun]
  rfl

/-- Setting an attribute at the start of a body is starting from another target. -/
theorem executeAll_setAttribute (a : Attribute) {value : Value} {v : Constant}
    {target target' : Target} (hvalue : ∀ env : Environment, env.resolve value = .ok v)
    (hset : target.set a v = .ok target') (t : Token) (rest : List Statement) :
    executeAll replay (.command t (.setAttribute a.name value) :: rest) (m.enter target) =
      executeAll replay rest (m.enter target') := by
  have hfind : Attribute.find a.name = .ok a := by
    rw [Attribute.find, Attribute.named?_eq_some_iff.2 rfl]
  simp only [executeAll, execute, Action.command, Action.look, Action.update, bind, Action.bind,
    hfind, hvalue, Environment.setAttribute, Environment.tryCurrent, Machine.enter,
    Environment.push, Scope.setAttribute, hset, Except.map]
  rfl

theorem executeAll_singleton_congr {s s' : Statement} (htoken : s.token = s'.token)
    (h : execute replay s m = execute replay s' m) :
    executeAll replay [s] m = executeAll replay [s'] m := by
  simp only [executeAll, h, htoken]

/-- Inheriting from a slide is setting the background first. -/
theorem executeAll_inherit_slide {parent : String} {slide : Slide}
    (hkind : m.env.current.kind = .file) (hparent : m.env.findSlide? parent = some slide)
    (t u : Token) (name : String) (body : List Statement) :
    executeAll replay [.compound t (.slide name (some parent)) body] m =
      executeAll replay [.compound t (.slide name none)
        (.command u (.setAttribute "backgroundColor" (.color slide.background)) :: body)] m := by
  refine executeAll_singleton_congr rfl ?_
  have hstart : m.env.startSlide (some parent) =
      .ok (.slide { background := slide.background }) := by
    simp [Environment.startSlide, hkind, hparent]
  have hdefault : m.env.startSlide none = .ok (.slide {}) := by
    simp [Environment.startSlide, hkind]
  rw [execute_slide, execute_slide]
  refine build_congr name hstart hdefault rfl (Eq.symm ?_)
  exact executeAll_setAttribute .backgroundColor (fun _ => rfl) rfl u body

/-- Inheriting from a block is setting the attributes of its style first. -/
theorem executeAll_inherit_block {parent : String} {block : Block}
    (hkind : m.env.current.kind = .slide) (hparent : m.env.findBlock? parent = some block)
    (t u₁ u₂ u₃ u₄ : Token) (name : String) (body : List Statement) :
    executeAll replay [.compound t (.block name (some parent)) body] m =
      executeAll replay [.compound t (.block name none)
        (.command u₁ (.setAttribute "font" (.string block.style.font)) ::
          .command u₂ (.setAttribute "fontSize" (.integer block.style.size)) ::
          .command u₃ (.setAttribute "fontColor" (.color block.style.color)) ::
          .command u₄ (.setAttribute "justify" (.string block.style.justification.name)) ::
          body)] m := by
  refine executeAll_singleton_congr rfl ?_
  have hstart : m.env.startBlock (some parent) = .ok (.block { style := block.style }) := by
    simp [Environment.startBlock, hkind, hparent]
  have hdefault : m.env.startBlock none = .ok (.block {}) := by
    simp [Environment.startBlock, hkind]
  have hjustify : (Constant.string block.style.justification.name).toJustification =
      .ok block.style.justification := by
    rw [Constant.toJustification, Justification.named?_name]
  rw [execute_block, execute_block]
  refine build_congr name hstart hdefault rfl (Eq.symm ?_)
  refine (executeAll_setAttribute .font (fun _ => rfl) rfl u₁ _).trans ?_
  refine (executeAll_setAttribute .fontSize (fun _ => rfl) rfl u₂ _).trans ?_
  refine (executeAll_setAttribute .fontColor (fun _ => rfl) rfl u₃ _).trans ?_
  refine (executeAll_setAttribute .justify (fun _ => rfl) ?_ u₄ _)
  simp only [Target.set, hjustify, Except.map]

/-- A declaration that cannot be started is reported, and nothing else happens. -/
theorem executeAll_of_start_error {start : Environment → Except CompileError Target}
    {e : CompileError} {s : Statement} {name : String} {run : Machine → Machine × List Event}
    (hs : execute replay s = Action.build name start run) (hstart : start m.env = .error e) :
    executeAll replay [s] m = (m.report s.token e, []) := by
  simp only [executeAll, hs, Action.build, Action.look, bind, Action.bind, hstart,
    List.append_nil]

end

/-! ## The tables hold what was finished -/

/-- The scope is of the kind, and under each name it has the slide and the block that were finished
last. -/
structure Scope.Holds (s : Scope) (kind : ScopeKind) (slides : List (String × Slide))
    (blocks : List (String × Block)) : Prop where
  kind : s.kind = kind
  slides : ∀ name, s.slides.get? name = slides.lookup name
  blocks : ∀ name, s.blocks.get? name = blocks.lookup name

/-- The scopes, from the inside to the outside, hold what was finished: slides stand in the file,
and blocks in slides. -/
inductive Recorded (h : History) : List Scope → Prop
  | file {f : Scope} : f.Holds .file h.slides [] → h.blocks = [] → Recorded h [f]
  | slide {s f : Scope} : s.Holds .slide [] h.blocks → f.Holds .file h.slides [] →
      Recorded h [s, f]
  | block {b s f : Scope} : b.Holds .block [] [] → s.Holds .slide [] h.blocks →
      f.Holds .file h.slides [] → Recorded h [b, s, f]

theorem Table.get?_insert_eq_lookup {α : Type} {t : Table α} {entries : List (String × α)}
    (h : ∀ name, t.get? name = entries.lookup name) (name : String) (a : α) (other : String) :
    (t.insert name a).get? other = ((name, a) :: entries).lookup other := by
  rw [Table.get?_insert, List.lookup_cons, h]
  by_cases hname : other = name
  · simp [hname]
  · have hbeq : (other == name) = false := beq_eq_false_iff_ne.2 hname
    simp only [hname, hbeq, if_false]

namespace Scope

variable {s s' : Scope} {kind : ScopeKind} {slides : List (String × Slide)}
  {blocks : List (String × Block)}

theorem Holds.congr (h : s.Holds kind slides blocks) (hkind : s'.kind = s.kind)
    (hslides : s'.slides = s.slides) (hblocks : s'.blocks = s.blocks) :
    s'.Holds kind slides blocks where
  kind := hkind.trans h.kind
  slides := hslides ▸ h.slides
  blocks := hblocks ▸ h.blocks

theorem Holds.keeps (h : s.Holds kind slides blocks) (hkeeps : s.Keeps s') :
    s'.Holds kind slides blocks :=
  h.congr hkeeps.kind hkeeps.slides hkeeps.blocks

theorem holds_new (target : Target) : Scope.Holds { target := target } target.kind [] [] where
  kind := rfl
  slides := fun _ => rfl
  blocks := fun _ => rfl

theorem Holds.receive_slide (h : s.Holds kind slides blocks) (name : String) (slide : Slide) :
    (s.receive name (.slide slide)).Holds kind ((name, slide) :: slides) blocks where
  kind := h.kind
  slides := Table.get?_insert_eq_lookup h.slides name slide
  blocks := h.blocks

theorem Holds.receive_block (h : s.Holds kind slides blocks) (name : String) (block : Block) :
    (s.receive name (.block block)).Holds kind slides ((name, block) :: blocks) := by
  have hregister : (s.registerBlock name block).Holds kind slides ((name, block) :: blocks) :=
    ⟨h.kind, h.slides, Table.get?_insert_eq_lookup h.blocks name block⟩
  refine hregister.congr (s.grows_receive name (.block block)).kind ?_ ?_
  all_goals
    simp only [receive, appendBlock]
    split <;> rfl

end Scope

namespace Recorded

variable {h : History} {env env' : Environment} {m : Machine}

theorem of_start : Recorded {} Environment.initial.chain :=
  .file (Scope.holds_new .file) rfl

/-- What builds nothing leaves what is held. -/
theorem congr (hrecorded : Recorded h env.chain) (hchanges : env.Changes env') :
    Recorded h env'.chain := by
  obtain ⟨current, outer⟩ := env
  obtain ⟨current', outer'⟩ := env'
  obtain ⟨⟨hcurrent, houter⟩, hslides, hblocks⟩ := hchanges
  simp only [Environment.chain] at *
  cases hrecorded with
  | file hf hnone =>
    cases houter
    exact .file (hf.congr hcurrent.kind hslides hblocks) hnone
  | slide hs hf =>
    obtain _ | ⟨hkeeps, ⟨⟩⟩ := houter
    exact .slide (hs.congr hcurrent.kind hslides hblocks) (hf.keeps hkeeps)
  | block hb hs hf =>
    obtain _ | ⟨hkeeps, _ | ⟨hkeeps', ⟨⟩⟩⟩ := houter
    exact .block (hb.congr hcurrent.kind hslides hblocks) (hs.keeps hkeeps) (hf.keeps hkeeps')

theorem of_file (hrecorded : Recorded h env.chain) (hkind : env.current.kind = .file) :
    env.current.Holds .file h.slides [] ∧ h.blocks = [] ∧ env.outer = [] := by
  obtain ⟨current, outer⟩ := env
  simp only [Environment.chain] at hrecorded
  cases hrecorded with
  | file hf hnone => exact ⟨hf, hnone, rfl⟩
  | slide hs _ => cases hs.kind.symm.trans hkind
  | block hb _ _ => cases hb.kind.symm.trans hkind

theorem of_slide (hrecorded : Recorded h env.chain) (hkind : env.current.kind = .slide) :
    env.current.Holds .slide [] h.blocks ∧
      ∃ f, env.outer = [f] ∧ f.Holds .file h.slides [] := by
  obtain ⟨current, outer⟩ := env
  simp only [Environment.chain] at hrecorded
  cases hrecorded with
  | file hf _ => cases hf.kind.symm.trans hkind
  | slide hs hf => exact ⟨hs, _, rfl, hf⟩
  | block hb _ _ => cases hb.kind.symm.trans hkind

/-- A slide is opened in the file, and a block in a slide. -/
theorem enter (hrecorded : Recorded h m.env.chain) {limit room : Nat} {s : Statement}
    {name : String} {target : Target} {body : List Statement}
    (heffect : s.effect limit room m.env = .ok (.build name target body)) :
    Recorded h (m.enter target).env.chain := by
  have hnew := Scope.holds_new target
  have hchain : (m.enter target).env.chain =
    { target := target } :: m.env.current :: m.env.outer := rfl
  obtain ⟨t, parent, ⟨-, hstart⟩ | ⟨-, hstart⟩⟩ := Statement.effect_eq_build_iff.1 heffect
  · obtain ⟨hkind, htarget⟩ := kind_of_startSlide hstart
    obtain ⟨hf, hnone, houter⟩ := hrecorded.of_file hkind
    rw [htarget] at hnew
    rw [hchain, houter]
    exact .slide (hnone ▸ hnew) hf
  · obtain ⟨hkind, htarget⟩ := kind_of_startBlock hstart
    obtain ⟨hs, f, houter, hf⟩ := hrecorded.of_slide hkind
    rw [htarget] at hnew
    rw [hchain, houter]
    exact .block hnew hs hf

/-- When a scope is closed, what was built there is what was finished last. -/
theorem close (hrecorded : Recorded h m.env.chain) (room : Nat) (name : String)
    (rest : List Statement) (pending : List Pending) :
    Recorded (h.after ⟨[], m, room, .build name rest :: pending⟩) (m.close name).env.chain := by
  obtain ⟨⟨current, outer⟩, deck, reports⟩ := m
  simp only [Environment.chain] at hrecorded
  simp only [History.after]
  cases hrecorded with
  | file hf hnone =>
    rw [eq_of_kind_eq_file hf.kind]
    exact .file hf hnone
  | slide hs hf =>
    obtain ⟨slide, hslide⟩ := exists_of_kind_eq_slide hs.kind
    rw [Machine.env_close rfl, hslide]
    exact .file (hf.receive_slide name slide) rfl
  | block hb hs hf =>
    obtain ⟨block, hblock⟩ := exists_of_kind_eq_block hb.kind
    rw [Machine.env_close rfl, hblock]
    exact .slide (hs.receive_block name block) hf

/-- In the file, the slide of a name is the one that was finished last. -/
theorem findSlide?_eq (hrecorded : Recorded h env.chain) (hkind : env.current.kind = .file)
    (name : String) : env.findSlide? name = h.slides.lookup name := by
  obtain ⟨hf, -, houter⟩ := hrecorded.of_file hkind
  simp [Environment.findSlide?, Environment.chain, houter, hf.slides]

/-- In a slide, the block of a name is the one of that slide that was finished last. -/
theorem findBlock?_eq (hrecorded : Recorded h env.chain) (hkind : env.current.kind = .slide)
    (name : String) : env.findBlock? name = h.blocks.lookup name := by
  obtain ⟨hs, f, houter, hf⟩ := hrecorded.of_slide hkind
  simp only [Environment.findBlock?, Environment.chain, houter, List.findSome?_cons, hs.blocks,
    hf.blocks]
  cases h.blocks.lookup name <;> rfl

end Recorded

/-- The tables of slides and blocks hold what was finished last under each name. -/
theorem Reaches.recorded {limit : Nat} {statements : List Statement} {p : Point} {h : History}
    (hp : Reaches limit (.start limit statements) p h) : Recorded h p.machine.env.chain := by
  induction hp with
  | start => exact .of_start
  | next _ hnext ih =>
    cases hnext with
    | fault _ => exact ih
    | change heffect => exact ih.congr (Statement.changes_of_change heffect)
    | enter heffect => exact ih.enter heffect
    | replay _ => exact ih
    | close => exact ih.close _ _ _ _
    | replayed => exact ih

/-- At every point of a run, a declaration inherits from what was finished last under the name of
its parent: it comes to the same as setting the attributes first. Where nothing was finished under
the name, the declaration is reported and nothing else happens. -/
theorem inherits_finished {limit : Nat} {statements : List Statement} {p : Point} {h : History}
    (hp : Reaches limit (.start limit statements) p h) (t : Token) (name parent : String)
    (body : List Statement) :
    let run := executeAll (replay limit p.room)
    (p.machine.env.current.kind = .file →
      (∀ slide, h.slides.lookup parent = some slide → ∀ u,
        run [.compound t (.slide name (some parent)) body] p.machine =
          run [.compound t (.slide name none)
            (.command u (.setAttribute "backgroundColor" (.color slide.background)) :: body)]
            p.machine) ∧
      (h.slides.lookup parent = none →
        run [.compound t (.slide name (some parent)) body] p.machine =
          (p.machine.report t (.undefinedParentSlide parent), []))) ∧
    (p.machine.env.current.kind = .slide →
      (∀ block, h.blocks.lookup parent = some block → ∀ u₁ u₂ u₃ u₄,
        run [.compound t (.block name (some parent)) body] p.machine =
          run [.compound t (.block name none)
            (.command u₁ (.setAttribute "font" (.string block.style.font)) ::
              .command u₂ (.setAttribute "fontSize" (.integer block.style.size)) ::
              .command u₃ (.setAttribute "fontColor" (.color block.style.color)) ::
              .command u₄ (.setAttribute "justify" (.string block.style.justification.name)) ::
              body)]
            p.machine) ∧
      (h.blocks.lookup parent = none →
        run [.compound t (.block name (some parent)) body] p.machine =
          (p.machine.report t (.undefinedParentBlock parent), []))) := by
  intro run
  have hrecorded := hp.recorded
  constructor
  · intro hkind
    have hfind := hrecorded.findSlide?_eq hkind parent
    constructor
    · intro slide hslide u
      exact executeAll_inherit_slide hkind (hfind.trans hslide) t u name body
    · intro hnone
      refine executeAll_of_start_error (execute_slide t name (some parent) body) ?_
      simp [Environment.startSlide, hkind, hfind.trans hnone]
  · intro hkind
    have hfind := hrecorded.findBlock?_eq hkind parent
    constructor
    · intro block hblock u₁ u₂ u₃ u₄
      exact executeAll_inherit_block hkind (hfind.trans hblock) t u₁ u₂ u₃ u₄ name body
    · intro hnone
      refine executeAll_of_start_error (execute_block t name (some parent) body) ?_
      simp [Environment.startBlock, hkind, hfind.trans hnone]

/-- A slide of a name that was finished before is built anew: within it a block was finished, and
after it the slide is the latest of its name. -/
theorem inherits_finished_again :
    let t : Token := ⟨.endOfInput, ⟨1, 'a', ⟨0, 1⟩⟩⟩
    let block := Statement.compound t (.block "b" none)
      [.command t (.setAttribute "fontSize" (.integer 20))]
    let statements := [.compound t (.slide "a" none) [], .compound t (.slide "a" none)
      [.command t (.setAttribute "backgroundColor" (.string "red")), block]]
    let run := executeAll (replay 0 0)
    (∃ p h, Reaches 0 (.start 0 statements) p h ∧
      p.machine.env.current.kind = .slide ∧ h.blocks.lookup "b" = some { style := { size := 20 } } ∧
      run [.compound t (.block "c" (some "b")) []] p.machine =
        run [.compound t (.block "c" none)
          [.command t (.setAttribute "font" (.string "Times New Roman")),
            .command t (.setAttribute "fontSize" (.integer 20)),
            .command t (.setAttribute "fontColor" (.color .black)),
            .command t (.setAttribute "justify" (.string "left"))]] p.machine) ∧
    ∃ p h slide, Reaches 0 (.start 0 statements) p h ∧
      p.machine.env.current.kind = .file ∧ h.slides.lookup "a" = some slide ∧
      slide.background = .red ∧ run [.compound t (.slide "c" (some "a")) []] p.machine =
        run [.compound t (.slide "c" none)
          [.command t (.setAttribute "backgroundColor" (.color .red))]] p.machine := by
  intro t block statements run
  have hblock : Reaches 0 (.start 0 statements) _ _ :=
    .next (.next (.next (.next (.next (.next (.next .start (.enter rfl)) .close) (.enter rfl))
      (.change rfl)) (.enter rfl)) (.change rfl)) .close
  have hslide := hblock.next .close
  obtain ⟨-, hinblock⟩ := inherits_finished hblock t "c" "b" []
  obtain ⟨hinslide, -⟩ := inherits_finished hslide t "c" "a" []
  exact ⟨⟨_, _, hblock, rfl, rfl, (hinblock rfl).1 _ rfl t t t t⟩,
    ⟨_, _, _, hslide, rfl, rfl, rfl, (hinslide rfl).1 _ rfl t⟩⟩

end SlideDeck
