import SlideDeck.Proofs.Run.Agreement
import SlideDeck.Proofs.Run.Bracketing
import SlideDeck.Proofs.Run.Independence

/-!
# Slides in another order

A slide leaves nothing behind but itself, under its name, unless it assigns to a variable. So if no
slide starts from another one of a list, each comes to the same wherever it stands in the list.

Results:
* `SlideDef.runFrom_statement`: what one slide adds, and what it leaves behind.
* `runFrom_slides`: a list of slides adds what each of them adds alone.
* `slides_reordered`: in another order, the slides of a list and their reports are in that order.
-/

namespace SlideDeck

/-- The declaration of a slide. -/
structure SlideDef where
  token : Token
  name : String
  parent : Option String
  body : List Statement

namespace SlideDef

/-- The statement that declares the slide. -/
def statement (d : SlideDef) : Statement := .compound d.token (.slide d.name d.parent) d.body

/-- The slide that the declaration adds to a deck in the environment, if it adds one, and what it
reports. -/
def alone (limit : Nat) (env : Environment) (d : SlideDef) :
    Option Slide × List (Report CompileError) :=
  let after := runFrom limit limit [d.statement] { env := env }
  (after.deck.slides.head?, after.reports)

end SlideDef

/-! ## Environments that know other slides -/

/-- The environments are the same but for the finished slides of these names. -/
def Environment.SameButSlides (env : Environment) (names : List String) (env' : Environment) :
    Prop :=
  ∃ slides : Table Slide, (∀ name ∉ names, slides.get? name = env.current.slides.get? name) ∧
    env' = ⟨{ env.current with slides := slides }, env.outer⟩

namespace Environment.SameButSlides

variable {env env' : Environment} {names : List String}

theorem refl (env : Environment) (names : List String) : env.SameButSlides names env :=
  ⟨env.current.slides, fun _ _ => rfl, rfl⟩

theorem registerSlide (h : env.SameButSlides names env') {name : String} (hname : name ∈ names)
    (slide : Slide) : env.SameButSlides names (env'.mapCurrent (·.registerSlide name slide)) := by
  obtain ⟨slides, hslides, rfl⟩ := h
  refine ⟨slides.insert name slide, fun other hother => ?_, rfl⟩
  have hne : other ≠ name := fun heq => hother (heq ▸ hname)
  rw [Table.get?_insert, if_neg hne, hslides other hother]

theorem startSlide (h : env.SameButSlides names env') {parent : Option String}
    (hparent : ∀ name ∈ parent, name ∉ names) : env'.startSlide parent = env.startSlide parent := by
  have hkind : env'.current.kind = env.current.kind := by
    obtain ⟨slides, -, rfl⟩ := h
    rfl
  have hfind : ∀ name ∈ parent, env'.findSlide? name = env.findSlide? name := by
    intro name hname
    obtain ⟨slides, hslides, rfl⟩ := h
    simp only [findSlide?, chain, List.findSome?_cons, hslides name (hparent name hname)]
  cases parent with
  | none => simp only [Environment.startSlide, hkind]
  | some name => simp only [Environment.startSlide, hkind, hfind name rfl]

theorem knowsOnly (h : env.SameButSlides names env') {good : List Statement → Prop}
    (hknown : env.KnowsOnly good) : env'.KnowsOnly good := by
  obtain ⟨slides, -, rfl⟩ := h
  exact hknown

end Environment.SameButSlides

/-! ## Inside of a slide -/

/-- What matters inside of a slide, where no other slide can be started. -/
def Aspect.inSlide : Aspect where
  token := Eq
  line := Eq
  slides := False
  line_of_token := by rintro t _ rfl; rfl

theorem Scope.agree_inSlide (s : Scope) (slides : Table Slide) :
    Scope.Agree .inSlide { s with slides := slides } s where
  target := rfl
  bindings := fun _ => rel_self (fun _ => ⟨rfl, rfl, rfl⟩) _
  macros := fun _ => rel_self (forall₂_alike_refl fun _ => rfl) _
  slides := False.elim
  blocks := fun _ => rfl

theorem Environment.SameButSlides.agree {env env' : Environment} {names : List String}
    (h : env.SameButSlides names env') : env'.Agree .inSlide env := by
  obtain ⟨slides, -, rfl⟩ := h
  exact .cons (env.current.agree_inSlide slides)
    (List.forall₂_same.2 fun s _ => s.agree_inSlide s.slides)

theorem Report.eq_of_agree_inSlide {r r' : Report CompileError} (h : r.Agree .inSlide r') :
    r = r' := by
  obtain ⟨rfl, he⟩ := h
  cases he with
  | refl => rfl
  | immutableAssignment hline =>
    cases hline
    rfl

/-- A body builds the same, with the same reports, whatever other slides are known. -/
theorem Environment.SameButSlides.runFrom_body {env env' : Environment} {names : List String}
    (h : env.SameButSlides names env') (limit room : Nat) (body : List Statement) {target : Target}
    (hkind : target.kind ≠ .file) :
    let inner := runFrom limit room body (Machine.enter { env := env } target)
    let inner' := runFrom limit room body (Machine.enter { env := env' } target)
    inner'.env.current.target = inner.env.current.target ∧ inner'.reports = inner.reports := by
  intro inner inner'
  have hstart : Machine.Agree .inSlide { env := env' } { env := env } := ⟨h.agree, rfl, .nil⟩
  have hrun : inner'.Agree .inSlide inner :=
    (runs_runFrom limit room body _).agree (forall₂_alike_refl (fun _ => rfl) body)
      (hstart.enter target) (.inr hkind)
  refine ⟨hrun.env.current.target, List.forall₂_eq_eq_eq ▸ hrun.reports.imp fun _ _ hr => ?_⟩
  exact Report.eq_of_agree_inSlide hr

/-! ## One slide -/

/-- In the file, a slide cannot be started exactly if its parent is not known. -/
theorem Environment.startSlide_eq_error_iff {env : Environment} {parent : Option String}
    (hfile : env.current.kind = .file) : (∃ e, env.startSlide parent = .error e) ↔
      ∃ name, parent = some name ∧ env.findSlide? name = none := by
  simp only [startSlide, hfile]
  cases parent with
  | none => simp
  | some name => cases h : env.findSlide? name <;> simp [h]

namespace SlideDef

variable (limit room : Nat) {env env' : Environment} {names : List String} {d : SlideDef}

theorem runFrom_of_error {e : CompileError} (hstart : env.startSlide d.parent = .error e) :
    runFrom limit room [d.statement] { env := env } =
      { env := env, reports := [d.token.mark.report e] } := by
  have heffect : d.statement.effect limit room env = .error e := by
    simp only [statement, Statement.effect, hstart, Except.map]
  simp only [runFrom_cons, heffect, runFrom_nil]
  rfl

/-- A slide that does not assign to variables is put under its name, and changes nothing else. -/
theorem runFrom_of_start {target : Target} (hstart : env.startSlide d.parent = .ok target)
    (hfree : AssignFree d.body) (hknown : env.KnowsOnly AssignFree) :
    let inner := runFrom limit room d.body (Machine.enter { env := env } target)
    ∃ slide, inner.env.current.target = .slide slide ∧
      runFrom limit room [d.statement] { env := env } =
        { env := env.mapCurrent (·.registerSlide d.name slide), deck := ⟨[slide]⟩,
          reports := inner.reports } := by
  intro inner
  have hrun : Runs limit room d.body (Machine.enter { env := env } target) inner :=
    runs_runFrom limit room d.body _
  have houter : inner.env.outer = env.current :: env.outer :=
    hrun.outer_eq hfree (hknown.push target)
  have hkind : inner.env.current.target.kind = .slide :=
    hrun.grows.current.kind.trans (kind_of_startSlide hstart).2
  obtain ⟨slide, hslide⟩ := exists_of_kind_eq_slide hkind
  have hdeck : inner.deck = {} := hrun.deck_eq (kind_ne_file_of_startSlide hstart)
  have heffect : d.statement.effect limit room env = .ok (.build d.name target d.body) :=
    map_eq_ok_iff.2 ⟨target, hstart, rfl⟩
  refine ⟨slide, hslide, ?_⟩
  simp only [runFrom_cons, heffect, runFrom_nil]
  have hpop : inner.env.pop? = some (inner.env.current, env) := by
    rw [Environment.pop?, houter]
  show inner.close d.name = _
  rw [Machine.close_of_pop? hpop, hslide]
  simp only [Action.finish, hdeck]
  rfl

/-- What one slide adds is the same whatever other slides are known, unless it starts from one of
them; and it leaves the environment as it was but for itself. -/
theorem runFrom_statement (henv : env.SameButSlides names env') (hname : d.name ∈ names)
    (hparent : ∀ name ∈ d.parent, name ∉ names) (hfree : AssignFree d.body)
    (hknown : env.KnowsOnly AssignFree) : ∃ after, env.SameButSlides names after ∧
      runFrom limit limit [d.statement] { env := env' } =
        { env := after, deck := ⟨(d.alone limit env).1.toList⟩,
          reports := (d.alone limit env).2 } := by
  cases hstart : env.startSlide d.parent with
  | error e =>
    have hstart' := (henv.startSlide hparent).trans hstart
    refine ⟨env', henv, ?_⟩
    rw [alone, runFrom_of_error limit limit hstart, runFrom_of_error limit limit hstart']
    rfl
  | ok target =>
    have hstart' := (henv.startSlide hparent).trans hstart
    obtain ⟨slide, hslide, hrun⟩ := runFrom_of_start limit limit hstart hfree hknown
    obtain ⟨slide', hslide', hrun'⟩ :=
      runFrom_of_start limit limit hstart' hfree (henv.knowsOnly hknown)
    obtain ⟨htarget, hreports⟩ :=
      henv.runFrom_body limit limit d.body (kind_ne_file_of_startSlide hstart)
    obtain rfl : slide' = slide := by
      cases hslide'.symm.trans (htarget.trans hslide)
      rfl
    refine ⟨_, henv.registerSlide hname slide', ?_⟩
    rw [alone, hrun, hrun', hreports]
    rfl

/-- A declaration in the file adds no slide exactly if its parent is not known. -/
theorem alone_eq_none_iff (hfile : env.current.kind = .file) (hfree : AssignFree d.body)
    (hknown : env.KnowsOnly AssignFree) :
    (d.alone limit env).1 = none ↔ ∃ name, d.parent = some name ∧ env.findSlide? name = none := by
  rw [← Environment.startSlide_eq_error_iff hfile]
  cases hstart : env.startSlide d.parent with
  | error e => simp [alone, runFrom_of_error limit limit hstart]
  | ok target =>
    obtain ⟨slide, -, hrun⟩ := runFrom_of_start limit limit hstart hfree hknown
    simp [alone, hrun]

end SlideDef

/-! ## A list of slides -/

/-- A list of slides adds what each of them adds alone, if all are under these names and none starts
from one of them. -/
theorem runFrom_slides (limit : Nat) {env : Environment} {names : List String}
    (hknown : env.KnowsOnly AssignFree) {slides : List SlideDef}
    (hslides : ∀ d ∈ slides, d.name ∈ names ∧ (∀ name ∈ d.parent, name ∉ names) ∧ AssignFree d.body)
    {m : Machine} (henv : env.SameButSlides names m.env) : ∃ after,
      runFrom limit limit (slides.map SlideDef.statement) m =
        { env := after
          deck := ⟨m.deck.slides ++ slides.filterMap fun d => (d.alone limit env).1⟩
          reports := m.reports ++ slides.flatMap fun d => (d.alone limit env).2 } := by
  -- What carries the induction is that the environment stays as it was but for slides of the names.
  induction slides generalizing m with
  | nil => exact ⟨m.env, by simp⟩
  | cons d slides ih =>
    obtain ⟨⟨hname, hparent, hfree⟩, hrest⟩ := List.forall_mem_cons.1 hslides
    obtain ⟨between, hbetween, hrun⟩ :=
      SlideDef.runFrom_statement limit henv hname hparent hfree hknown
    have hfirst : runFrom limit limit [d.statement] m =
        { env := between
          deck := ⟨m.deck.slides ++ (d.alone limit env).1.toList⟩
          reports := m.reports ++ (d.alone limit env).2 } := by
      rw [runFrom_eq_behind, hrun]
      rfl
    have hthere : env.SameButSlides names (runFrom limit limit [d.statement] m).env :=
      hfirst ▸ hbetween
    obtain ⟨after, hafter⟩ := ih hrest hthere
    refine ⟨after, ?_⟩
    rw [List.map_cons, ← List.singleton_append, runFrom_append, hafter, hfirst]
    cases h : (d.alone limit env).1 <;> simp [h]

/-- Slides that assign to no variable, nor through a macro, and do not start from each other can be
put in any order behind a prelude: each adds the same slide to the deck, or none if its parent is
not known, and the same reports. -/
theorem slides_reordered (limit : UInt64) {prelude : List Statement} {slides : List SlideDef}
    (hprelude : DeclaresOnly AssignFree prelude) (hbodies : ∀ d ∈ slides, AssignFree d.body)
    (hparents : ∀ d ∈ slides, ∀ d' ∈ slides, d.parent ≠ some d'.name) :
    let env := (runWithin limit.toNat prelude).1.env
    let own := SlideDef.alone limit.toNat env
    ∃ o, compile ⟨some limit⟩ prelude = some o ∧
      (∀ d ∈ slides, (own d).1 = none ↔ ∃ name, d.parent = some name ∧ env.findSlide? name = none) ∧
      ∀ reordered : List SlideDef, reordered.Perm slides →
        compile ⟨some limit⟩ (prelude ++ reordered.map SlideDef.statement) =
          some ⟨⟨o.value.slides ++ reordered.filterMap fun d => (own d).1⟩,
            o.reports ++ reordered.flatMap fun d => (own d).2⟩ := by
  intro env own
  have hrun := runs_runWithin limit.toNat prelude
  have hknown : env.KnowsOnly AssignFree :=
    hrun.knowsOnly (fun _ => AssignFree.declaresOnly) hprelude (Environment.knowsOnly_initial _)
  refine ⟨_, compile_bounded limit prelude, fun d hd => ?_, fun reordered hperm => ?_⟩
  · exact SlideDef.alone_eq_none_iff _ hrun.grows.current.kind (hbodies d hd) hknown
  · have hslides : ∀ d ∈ reordered, d.name ∈ slides.map SlideDef.name ∧
        (∀ name ∈ d.parent, name ∉ slides.map SlideDef.name) ∧ AssignFree d.body := by
      intro d hd
      have hmem := hperm.subset hd
      refine ⟨List.mem_map_of_mem hmem, fun name hname hname' => ?_, hbodies d hmem⟩
      obtain ⟨d', hd', rfl⟩ := List.mem_map.1 hname'
      exact hparents d hmem d' hd' hname
    have hthere : env.SameButSlides (slides.map SlideDef.name) env := .refl env _
    obtain ⟨after, hafter⟩ := runFrom_slides limit.toNat hknown hslides hthere
    have hrun : (runWithin limit.toNat (prelude ++ reordered.map SlideDef.statement)).1 =
        runFrom limit.toNat limit.toNat (reordered.map SlideDef.statement)
          (runWithin limit.toNat prelude).1 :=
      runFrom_append _ _ _ _ _
    rw [compile_bounded, hrun, hafter]
    rfl

/-- A slide that starts from one of the prelude and calls a macro, one without a parent to start
from, and one with a text in the wrong place. -/
theorem slides_reordered_three :
    let t : Token := ⟨.endOfInput, ⟨1, 'a', ⟨0, 1⟩⟩⟩
    let text := Statement.command t (.text "x")
    let call := Statement.command t (.call "m")
    let prelude := [.compound t (.slide "a" none)
        [.command t (.setAttribute "backgroundColor" (.string "red"))],
      .compound t (.macroDef "m") [text]]
    let b : SlideDef := ⟨t, "b", some "a", [.compound t (.block "c" none) [call]]⟩
    let d : SlideDef := ⟨t, "d", some "x", []⟩
    let e : SlideDef := ⟨t, "b", none, [call]⟩
    let own := SlideDef.alone 1 (runWithin 1 prelude).1.env
    DeclaresOnly AssignFree prelude ∧ (∀ s ∈ [b, d, e], AssignFree s.body) ∧
      (∀ s ∈ [b, d, e], ∀ s' ∈ [b, d, e], s.parent ≠ some s'.name) ∧
      own b = (some ⟨.red, [{ text := "x" }]⟩, []) ∧
      own d = (none, [t.mark.report (.undefinedParentSlide "x")]) ∧
      own e = (some {}, [t.mark.report .textOutsideBlock]) ∧
      [e, d, b].Perm [b, d, e] ∧
      compile ⟨some 1⟩ (prelude ++ [e, d, b].map SlideDef.statement) =
        some ⟨⟨[⟨.red, []⟩, {}, ⟨.red, [{ text := "x" }]⟩]⟩,
          [t.mark.report .textOutsideBlock, t.mark.report (.undefinedParentSlide "x")]⟩ := by
  intro t text call prelude b d e own
  have hprelude : DeclaresOnly AssignFree prelude :=
    AssignFree.declaresOnly (by simp [AssignFree, prelude, text, Statement.isAssign])
  have hbodies : ∀ s ∈ [b, d, e], AssignFree s.body := by
    simp [AssignFree, b, d, e, call, Statement.isAssign]
  have hparents : ∀ s ∈ [b, d, e], ∀ s' ∈ [b, d, e], s.parent ≠ some s'.name := by
    simp [b, d, e]
  have hperm : [e, d, b].Perm [b, d, e] := List.reverse_perm [b, d, e]
  have hb : own b = (some ⟨.red, [{ text := "x" }]⟩, []) := by decide +kernel
  have hd : own d = (none, [t.mark.report (.undefinedParentSlide "x")]) := by decide +kernel
  have he : own e = (some {}, [t.mark.report .textOutsideBlock]) := by decide +kernel
  refine ⟨hprelude, hbodies, hparents, hb, hd, he, hperm, ?_⟩
  obtain ⟨o, ho, -, hcompile⟩ := slides_reordered 1 hprelude hbodies hparents
  cases ho
  rw [hcompile _ hperm]
  decide +kernel

end SlideDeck
