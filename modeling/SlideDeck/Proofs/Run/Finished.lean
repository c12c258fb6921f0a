import SlideDeck.Proofs.Run.Bracketing
import SlideDeck.Proofs.Run.Description
import SlideDeck.Proofs.Run.Order
import SlideDeck.Proofs.Scope.Isolation

/-!
# What is finished stays

A run only adds to what it has made: slides are put behind those of the deck, blocks behind those of
the slide that is being built, and reports behind those that are there. Nothing that follows takes
back or changes what is finished, not even a slide or block of the same name.

Results:
* `Scope.lasting_keepsBlocks`: the blocks of a slide stay in front while it is being built.
* `Point.Next.deck_cases`: a step leaves the deck, or puts the slide that it closes behind it.
* `Point.Next.hasBlocks`: the blocks of a slide stay in front when the slide is finished, too.
* `finished_kept`: what is finished at a point of a run is the front of what the run comes to, and
  what some statements come to is the front of what they come to when others follow.
-/

namespace SlideDeck

open Relation (ReflTransGen)

/-! ## Blocks of a slide that is being built -/

/-- A scope that builds a slide builds one still, and the blocks that it had are in front. -/
def Scope.KeepsBlocks (s s' : Scope) : Prop :=
  ∀ slide, s.target = .slide slide →
    ∃ slide', s'.target = .slide slide' ∧ slide.blocks <+: slide'.blocks

namespace Scope

variable {s s' s'' : Scope}

theorem keepsBlocks_of_target (h : s'.target = s.target) : s.KeepsBlocks s' :=
  fun slide hslide => ⟨slide, h.trans hslide, List.prefix_rfl⟩

theorem KeepsBlocks.trans (h : s.KeepsBlocks s') (h' : s'.KeepsBlocks s'') :
    s.KeepsBlocks s'' := by
  intro slide hslide
  obtain ⟨slide', hslide', hprefix⟩ := h slide hslide
  obtain ⟨slide'', hslide'', hprefix'⟩ := h' slide' hslide'
  exact ⟨slide'', hslide'', hprefix.trans hprefix'⟩

/-- What is finished in a scope is put behind what was finished there before. -/
theorem keepsBlocks_receive (s : Scope) (name : String) (target : Target) :
    s.KeepsBlocks (s.receive name target) := by
  cases target with
  | file => exact keepsBlocks_of_target rfl
  | slide built => exact keepsBlocks_of_target rfl
  | block built =>
    intro slide hslide
    refine ⟨{ slide with blocks := slide.blocks ++ [built] }, ?_, List.prefix_append _ _⟩
    simp only [receive, registerBlock, appendBlock, hslide]

end Scope

/-- A statement that builds nothing leaves the blocks as they are. -/
theorem Statement.keepsBlocks_of_change {limit room : Nat} {env env' : Environment} {s : Statement}
    (h : s.effect limit room env = .ok (.change env')) :
    env.current.KeepsBlocks env'.current := by
  obtain ⟨text, henv⟩ | ⟨name, b, henv⟩ | ⟨-, name, -, v, -, henv⟩ | ⟨a, v, henv⟩ |
    ⟨-, name, body, -, henv⟩ := Statement.change_cases h
  · intro slide hslide
    obtain ⟨scope, hscope, rfl⟩ := map_eq_ok_iff.1 henv
    obtain ⟨b, hb, rfl⟩ := Scope.setText_eq_ok_iff.1 hscope
    cases hslide.symm.trans hb
  · obtain ⟨scope, hscope, rfl⟩ := map_eq_ok_iff.1 henv
    obtain ⟨-, rfl⟩ := Scope.declareVariable_eq_ok_iff.1 hscope
    exact Scope.keepsBlocks_of_target rfl
  · have hchain := Environment.keeps_of_assign henv
    exact Scope.keepsBlocks_of_target (List.forall₂_cons.1 hchain).1.target
  · intro slide hslide
    obtain ⟨scope, hscope, rfl⟩ := map_eq_ok_iff.1 henv
    obtain ⟨target, hset, rfl⟩ := map_eq_ok_iff.1 hscope
    rw [hslide] at hset
    obtain ⟨slide', rfl, hblocks, -⟩ := Target.slide_set hset
    exact ⟨slide', rfl, hblocks ▸ List.prefix_rfl⟩
  · obtain ⟨scope, hscope, rfl⟩ := map_eq_ok_iff.1 henv
    obtain ⟨-, rfl⟩ := Scope.declareMacro_eq_ok_iff.1 hscope
    exact Scope.keepsBlocks_of_target rfl

/-- The blocks of a slide stay in front while it is being built. -/
theorem Scope.lasting_keepsBlocks : Scope.Lasting Scope.KeepsBlocks where
  keeps := fun h => keepsBlocks_of_target h.target
  change := Statement.keepsBlocks_of_change
  receive := keepsBlocks_receive
  trans := KeepsBlocks.trans

/-! ## Slides of the deck -/

/-- How deep the current scope lies tells what it builds. -/
theorem Environment.InPlace.cases {env : Environment} (h : env.InPlace) :
    (env.depth = 0 ∧ env.current.kind = .file) ∨ (env.depth = 1 ∧ env.current.kind = .slide) ∨
      (env.depth = 2 ∧ env.current.kind = .block) := by
  have hlength : env.kinds.length = env.depth + 1 := by
    simp [Environment.kinds, Environment.chain, Environment.depth]
  have hlast := env.getLast?_kinds
  rcases Environment.inPlace_iff.1 h with hkinds | hkinds | hkinds
  all_goals
    rw [hkinds] at hlength hlast
    obtain hkind := Option.some.inj hlast
    simp only [List.length_cons, List.length_nil] at hlength
  · exact .inl ⟨by omega, hkind.symm⟩
  · exact .inr (.inl ⟨by omega, hkind.symm⟩)
  · exact .inr (.inr ⟨by omega, hkind.symm⟩)

/-- Closing a scope puts nothing in front of the slides of the deck. -/
theorem Machine.slides_prefix_close (m : Machine) (name : String) :
    m.deck.slides <+: (m.close name).deck.slides := by
  unfold Machine.close
  split
  · rename_i scope env hpop
    cases scope.target with
    | slide built => exact List.prefix_append _ _
    | file => exact List.prefix_rfl
    | block built => exact List.prefix_rfl
  · exact List.prefix_rfl

namespace Point

variable {limit : Nat} {p q : Point}

theorem Next.slides_prefix (h : Next limit p q) :
    p.machine.deck.slides <+: q.machine.deck.slides := by
  cases h with
  | fault _ | change _ | enter _ | replay _ | replayed => exact List.prefix_rfl
  | close => exact Machine.slides_prefix_close _ _

theorem slides_prefix_of_walk (h : ReflTransGen (Next limit) p q) :
    p.machine.deck.slides <+: q.machine.deck.slides := by
  induction h with
  | refl => exact List.prefix_rfl
  | tail _ hnext ih => exact ih.trans hnext.slides_prefix

/-- A step leaves the deck and does not close a slide, or it closes one and puts it behind those of
the deck. -/
theorem Next.deck_cases (h : Next limit p q) (hplace : p.machine.env.InPlace) :
    (q.machine.deck = p.machine.deck ∧
      (1 ≤ p.machine.env.depth → 1 ≤ q.machine.env.depth)) ∨
    ∃ f slide, p.machine.env.outer = [f] ∧ p.machine.env.current.target = .slide slide ∧
      q.machine.deck.slides = p.machine.deck.slides ++ [slide] := by
  cases h with
  | fault _ => exact .inl ⟨rfl, id⟩
  | change heffect =>
    refine .inl ⟨rfl, fun hopen => ?_⟩
    rw [(Statement.changes_of_change heffect).depth]
    exact hopen
  | enter _ => exact .inl ⟨rfl, fun _ => Nat.le_add_left 1 _⟩
  | replay _ => exact .inl ⟨rfl, id⟩
  | replayed => exact .inl ⟨rfl, id⟩
  | @close rest m room pending name =>
    have hplace : m.env.InPlace := hplace
    rcases hplace.cases with ⟨hdepth, -⟩ | ⟨hdepth, hkind⟩ | ⟨hdepth, hkind⟩
    · have hnone : m.env.outer = [] := List.length_eq_zero_iff.1 hdepth
      refine .inl ⟨?_, fun hopen => absurd hopen (by simp [hdepth])⟩
      simp [Machine.close, Environment.pop?, hnone]
    · obtain ⟨f, houter⟩ := List.length_eq_one_iff.1 hdepth
      obtain ⟨slide, hslide⟩ := exists_of_kind_eq_slide hkind
      have hpop : m.env.pop? = some (m.env.current, ⟨f, []⟩) := by rw [Environment.pop?, houter]
      refine .inr ⟨f, slide, houter, hslide, ?_⟩
      rw [Machine.close_of_pop? hpop, hslide]
      rfl
    · obtain ⟨s, f, houter⟩ := List.length_eq_two.1 hdepth
      obtain ⟨block, hblock⟩ := exists_of_kind_eq_block hkind
      have hpop : m.env.pop? = some (m.env.current, ⟨s, [f]⟩) := by rw [Environment.pop?, houter]
      have hclose := Machine.close_of_pop? hpop name
      rw [hblock] at hclose
      rw [hclose]
      exact .inl ⟨rfl, fun _ => Nat.le_refl 1⟩

end Point

/-! ## Blocks of a finished slide -/

/-- The slide behind the first `n` of the deck has the blocks in front, whether it is still being
built or is in the deck. -/
def Machine.HasBlocks (n : Nat) (blocks : List Block) (m : Machine) : Prop :=
  (m.deck.slides.length = n ∧
    ∃ s slide, m.env.fromFile[1]? = some s ∧ s.target = .slide slide ∧ blocks <+: slide.blocks) ∨
  ∃ slide, m.deck.slides[n]? = some slide ∧ blocks <+: slide.blocks

namespace Point

variable {limit n : Nat} {blocks : List Block} {p q : Point}

/-- Each step keeps the blocks in front: while the slide is being built, when its scope is closed,
and when the slide is in the deck. -/
theorem Next.hasBlocks (h : Next limit p q) (hplace : p.machine.env.InPlace)
    (hp : p.machine.HasBlocks n blocks) : q.machine.HasBlocks n blocks := by
  rcases h.deck_cases hplace with ⟨hdeck, hdepth⟩ | ⟨f, built, houter, hbuilt, hslides⟩
  · rcases hp with ⟨hn, s, slide, hs, hslide, hblocks⟩ | hfinished
    · have hopen : 1 ≤ p.machine.env.depth := by
        obtain ⟨hlt, -⟩ := List.getElem?_eq_some_iff.1 hs
        simp only [Environment.fromFile, Environment.chain, List.length_reverse,
          List.length_cons] at hlt
        exact Nat.le_of_lt_succ hlt
      obtain ⟨s', hs', hkeeps⟩ :=
        Scope.lasting_keepsBlocks.exists_of_next h hs (hdepth hopen)
      obtain ⟨slide', hslide', hprefix⟩ := hkeeps slide hslide
      exact .inl ⟨hdeck ▸ hn, s', slide', hs', hslide', hblocks.trans hprefix⟩
    · exact .inr (hdeck ▸ hfinished)
  · rcases hp with ⟨rfl, s, slide, hs, hslide, hblocks⟩ | ⟨slide, hget, hblocks⟩
    · -- The slide that is being built is the one that is closed.
      have hcurrent : p.machine.env.fromFile[1]? = some p.machine.env.current := by
        simp [Environment.fromFile, Environment.chain, houter]
      obtain rfl := Option.some.inj (hcurrent.symm.trans hs)
      obtain rfl := Target.slide.inj (hbuilt.symm.trans hslide)
      refine .inr ⟨built, ?_, hblocks⟩
      rw [hslides, List.getElem?_append_right (Nat.le_refl _), Nat.sub_self]
      rfl
    · refine .inr ⟨slide, ?_, hblocks⟩
      rw [hslides, List.getElem?_append_left (List.getElem?_eq_some_iff.1 hget).1]
      exact hget

/-- The blocks that a slide has at a point of a run are in front of those that it has in the end. -/
theorem exists_slide_of_walk {statements : List Statement} {s : Scope} {slide : Slide}
    (hp : ReflTransGen (Next limit) (.start limit statements) p)
    (hs : p.machine.env.fromFile[1]? = some s) (hslide : s.target = .slide slide) :
    ∃ slide', (runWithin limit statements).1.deck.slides[p.machine.deck.slides.length]? =
      some slide' ∧ slide.blocks <+: slide'.blocks := by
  have hkept : ∀ q, ReflTransGen (Next limit) p q →
      q.machine.HasBlocks p.machine.deck.slides.length slide.blocks := by
    intro q hq
    induction hq with
    | refl => exact .inl ⟨rfl, s, slide, hs, hslide, List.prefix_rfl⟩
    | tail hwalk hnext ih => exact hnext.hasBlocks (inPlace_of_walk (hp.trans hwalk)) ih
  rcases hkept _ (walk_of_walk_start hp) with ⟨-, s', -, hs', -, -⟩ | hfinished
  · -- In the end only the scope of the file is open.
    have hkinds : (runWithin limit statements).1.env.kinds = [.file] :=
      kinds_executeAll limit limit statements {}
    have hkind : (runWithin limit statements).1.env.kinds[1]? = some s'.kind := by
      rw [Environment.kinds, List.getElem?_map]
      exact congrArg (Option.map Scope.kind) hs'
    rw [hkinds] at hkind
    cases hkind
  · exact hfinished

end Point

/-- What is finished stays. The slides and the reports that some statements come to are in front of
those that they come to when others follow. While a slide is being built, the blocks that it has are
in front of those that are put into it later. At every point of a run, the slides and the reports
that there are, are in front of those in the end, and the slide that is being built comes next, with
its blocks in front. -/
theorem finished_kept (limit : UInt64) :
    (∀ before after, ∃ o o', compile ⟨some limit⟩ before = some o ∧
      compile ⟨some limit⟩ (before ++ after) = some o' ∧
      o.value.slides <+: o'.value.slides ∧ o.diagnostics <+: o'.diagnostics) ∧
    (∀ k p q s slide,
      ReflTransGen (fun p q => Point.Next limit.toNat p q ∧ k ≤ q.machine.env.depth) p q →
      p.machine.env.fromFile[k]? = some s → s.target = .slide slide →
      ∃ s' slide', q.machine.env.fromFile[k]? = some s' ∧ s'.target = .slide slide' ∧
        slide.blocks <+: slide'.blocks) ∧
    ∀ statements p,
      ReflTransGen (Point.Next limit.toNat) (.start limit.toNat statements) p →
      ∃ o, compile ⟨some limit⟩ statements = some o ∧
        p.machine.deck.slides <+: o.value.slides ∧ p.machine.reports <+: o.reports ∧
        ∀ s slide, p.machine.env.fromFile[1]? = some s → s.target = .slide slide →
          ∃ slide', o.value.slides[p.machine.deck.slides.length]? = some slide' ∧
            slide.blocks <+: slide'.blocks := by
  refine ⟨fun before after => ?_, fun k p q s slide hwalk hs hslide => ?_,
    fun statements p hp => ?_⟩
  · refine ⟨_, _, compile_bounded limit before, compile_bounded limit (before ++ after), ?_⟩
    have hwalk := walk_runWithin_append limit.toNat before after
    exact ⟨Point.slides_prefix_of_walk hwalk, (reports_prefix_of_walk hwalk).map _⟩
  · obtain ⟨s', hs', hkeeps⟩ := Scope.lasting_keepsBlocks.exists_of_open hwalk hs
    obtain ⟨slide', hslide', hprefix⟩ := hkeeps slide hslide
    exact ⟨s', slide', hs', hslide', hprefix⟩
  · have hend := walk_of_walk_start hp
    exact ⟨_, compile_bounded limit statements, Point.slides_prefix_of_walk hend,
      reports_prefix_of_walk hend, fun s slide hs hslide => Point.exists_slide_of_walk hp hs hslide⟩

/-- A slide with two blocks of one name is declared again after a fault. Between the blocks, the
first one is in front already. -/
theorem finished_kept_again :
    let t : Token := ⟨.endOfInput, ⟨1, 'a', ⟨0, 1⟩⟩⟩
    let one : Block := { text := "one" }
    let two : Block := { text := "two" }
    let first := Statement.compound t (.block "b" none) [.command t (.text "one")]
    let second := Statement.compound t (.block "b" none) [.command t (.text "two")]
    let fault := Statement.command t (.call "missing")
    let before := [Statement.compound t (.slide "a" none) [first, second], fault]
    let after := [Statement.compound t (.slide "a" none) []]
    let file : Scope := { target := .file }
    let s : Scope := { target := .slide { blocks := [one] }, blocks := ⟨[("b", one)]⟩ }
    let s' : Scope :=
      { target := .slide { blocks := [one, two] }, blocks := s.blocks.insert "b" two }
    let p : Point := ⟨[second], { env := ⟨s, [file]⟩ }, 0, [.build "a" (fault :: after)]⟩
    let q : Point := ⟨[], { env := ⟨s', [file]⟩ }, 0, [.build "a" (fault :: after)]⟩
    ReflTransGen (Point.Next 0) (.start 0 (before ++ after)) p ∧
    ReflTransGen (fun p q => Point.Next 0 p q ∧ 1 ≤ q.machine.env.depth) p q ∧
    (∃ o o', compile ⟨some 0⟩ before = some o ∧ compile ⟨some 0⟩ (before ++ after) = some o' ∧
      o.value.slides <+: o'.value.slides ∧ o.diagnostics <+: o'.diagnostics) ∧
    (∃ s' slide', q.machine.env.fromFile[1]? = some s' ∧ s'.target = .slide slide' ∧
      [one] <+: slide'.blocks) ∧
    ∃ o, compile ⟨some 0⟩ (before ++ after) = some o ∧
      ∃ slide', o.value.slides[0]? = some slide' ∧ [one] <+: slide'.blocks := by
  intro t one two first second fault before after file s s' p q
  have hp : ReflTransGen (Point.Next 0) (.start 0 (before ++ after)) p :=
    .head (.enter rfl) (.head (.enter rfl) (.head (.change rfl) (.head .close .refl)))
  have hq : ReflTransGen (fun p q => Point.Next 0 p q ∧ 1 ≤ q.machine.env.depth) p q :=
    .head ⟨.enter rfl, Nat.le_add_left 1 1⟩ (.head ⟨.change rfl, Nat.le_add_left 1 1⟩
      (.head ⟨.close, Nat.le_refl 1⟩ .refl))
  obtain ⟨hcompile, hopen, hpoint⟩ := finished_kept 0
  obtain ⟨o, ho, -, -, hslide⟩ := hpoint (before ++ after) p hp
  exact ⟨hp, hq, hcompile before after, hopen 1 p q s { blocks := [one] } hq rfl rfl,
    o, ho, hslide s { blocks := [one] } rfl rfl⟩

end SlideDeck
