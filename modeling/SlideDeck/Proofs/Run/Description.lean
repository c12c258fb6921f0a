import SlideDeck.Proofs.Run.Bracketing
import SlideDeck.Proofs.Run.Inheritance
import SlideDeck.Proofs.Run.Refusal
import SlideDeck.Proofs.Statement.Description
import SlideDeck.Proofs.Statement.Substitution

/-!
# Carrying out statements builds what they describe

Statements that call no macro and write only literals, and that are carried out without a fault,
build the deck that they describe. In a block every statement does to the text and to each attribute
what it says of them; in a slide the blocks that were described so far are those that can be found
under their names; and in the file, likewise, the slides.

Results:
* `Runs.cases_of_reports_eq`: what a statement can do in a run without a fault and without calls.
* `Runs.block_follows`, `Runs.slide_follows`, `Runs.deck_follows`: what the statements of a block,
  of a slide and of a file build.
* `deck_described`: the deck is the one that the statements describe.
-/

namespace SlideDeck

/-! ## What a statement does -/

theorem Attribute.eq_name_of_find {name : String} {a : Attribute} (h : find name = .ok a) :
    name = a.name := by
  unfold find at h
  split at h
  · rename_i ha
    cases h
    exact named?_eq_some_iff.1 ha
  · cases h

section

variable {limit room : Nat} {env env' : Environment} {s : Statement}

/-- A statement that changes the environment does to the target what it says, or nothing. -/
theorem Statement.target_of_change (hliteral : ∀ v, s.value? = some v → v.isLiteral = true)
    (h : s.effect limit room env = .ok (.change env')) :
    (∃ t text, s = .command t (.text text) ∧ env.setText text = .ok env') ∨
    (∃ t a v c, s = .command t (.setAttribute a.name v) ∧ v.isLiteral = true ∧
      env.resolve v = .ok c ∧ env.setAttribute a c = .ok env') ∨
    (s.text? = none ∧ (∀ a, s.valueOf? a = none) ∧ env'.current.target = env.current.target) := by
  cases s with
  | command t c =>
    cases c with
    | text content =>
      obtain ⟨_, henv, ⟨⟩⟩ := map_eq_ok_iff.1 h
      exact .inl ⟨t, content, rfl, henv⟩
    | call name =>
      obtain ⟨body, -, hbody⟩ := bind_eq_ok_iff.1 h
      split at hbody <;> cases hbody
    | declare name isMutable value =>
      obtain ⟨v, -, hv⟩ := bind_eq_ok_iff.1 h
      obtain ⟨_, henv, ⟨⟩⟩ := map_eq_ok_iff.1 hv
      obtain ⟨scope, hscope, rfl⟩ := map_eq_ok_iff.1 henv
      obtain ⟨-, rfl⟩ := Scope.declareVariable_eq_ok_iff.1 hscope
      exact .inr (.inr ⟨rfl, fun _ => rfl, rfl⟩)
    | assign name value =>
      obtain ⟨v, -, hv⟩ := bind_eq_ok_iff.1 h
      obtain ⟨_, henv, ⟨⟩⟩ := map_eq_ok_iff.1 hv
      have hchain := Environment.keeps_of_assign henv
      exact .inr (.inr ⟨rfl, fun _ => rfl, (List.forall₂_cons.1 hchain).1.target⟩)
    | setAttribute name value =>
      obtain ⟨a, ha, ha'⟩ := bind_eq_ok_iff.1 h
      obtain ⟨c, hc, hc'⟩ := bind_eq_ok_iff.1 ha'
      obtain ⟨_, henv, ⟨⟩⟩ := map_eq_ok_iff.1 hc'
      obtain rfl := Attribute.eq_name_of_find ha
      exact .inr (.inl ⟨t, a, value, c, rfl, hliteral value rfl, hc, henv⟩)
  | compound t head body =>
    cases head with
    | slide name parent | block name parent =>
      obtain ⟨_, -, heq⟩ := map_eq_ok_iff.1 h
      cases heq
    | macroDef name =>
      obtain ⟨_, henv, ⟨⟩⟩ := map_eq_ok_iff.1 h
      obtain ⟨scope, hscope, rfl⟩ := map_eq_ok_iff.1 henv
      obtain ⟨-, rfl⟩ := Scope.declareMacro_eq_ok_iff.1 hscope
      exact .inr (.inr ⟨rfl, fun _ => rfl, rfl⟩)

end

/-! ## What a literal does -/

/-- A literal stands for the same constant everywhere. -/
theorem Value.eq_literal_of_resolve {env : Environment} {v : Value} {c : Constant}
    (hv : v.isLiteral = true) (h : env.resolve v = .ok c) : v = c.literal := by
  cases v with
  | reference name => cases hv
  | string s => cases h; rfl
  | integer n => cases h; rfl
  | color x => cases h; rfl

namespace Constant

variable {c : Constant}

theorem color?_literal {a : Attribute} {x : Color} (h : c.toColor a = .ok x) :
    c.literal.color? = some x := by
  cases c with
  | integer n => cases h
  | color x' => cases h; rfl
  | string name =>
    simp only [toColor] at h
    split at h
    · cases h
      assumption
    · cases h

theorem justification?_literal {j : Justification} (h : c.toJustification = .ok j) :
    c.literal.justification? = some j := by
  cases c with
  | integer n => cases h
  | color x => cases h
  | string name =>
    simp only [toJustification] at h
    split at h
    · cases h
      assumption
    · cases h

theorem font?_literal {font : String} (h : c.toFont = .ok font) :
    c.literal.font? = some font := by
  cases c <;> cases h
  rfl

theorem fontSize?_literal {size : UInt8} (h : c.toFontSize = .ok size) :
    c.literal.fontSize? = some size := by
  cases c <;> cases h
  rfl

end Constant

/-- The block has the text and the values that are said of it; where nothing is said, it stays as it
was. -/
structure Block.Follows (text : Option String) (value : Attribute → Option Value) (b b' : Block) :
    Prop where
  text : Takes text some b.text b'.text
  font : Takes (value .font) Value.font? b.style.font b'.style.font
  size : Takes (value .fontSize) Value.fontSize? b.style.size b'.style.size
  color : Takes (value .fontColor) Value.color? b.style.color b'.style.color
  justification :
    Takes (value .justify) Value.justification? b.style.justification b'.style.justification

namespace Target

variable {a : Attribute} {c : Constant} {t : Target}

/-- A slide takes only a background. -/
theorem slide_set {s : Slide} (h : (slide s).set a c = .ok t) : ∃ s', t = .slide s' ∧
    s'.blocks = s.blocks ∧ ∀ u,
      Takes ((Statement.command u (.setAttribute a.name c.literal)).valueOf? .backgroundColor)
        Value.color? s.background s'.background := by
  cases a with
  | backgroundColor =>
    obtain ⟨x, hx, rfl⟩ := map_eq_ok_iff.1 h
    exact ⟨_, rfl, rfl, fun u => Constant.color?_literal hx⟩
  | justify | font | fontColor | fontSize => cases h

/-- A block takes an attribute of its style, and no other one changes. -/
theorem block_set {b : Block} (h : (block b).set a c = .ok t) : ∃ b', t = .block b' ∧
    ∀ u, b.Follows none (Statement.command u (.setAttribute a.name c.literal)).valueOf? b' := by
  cases a with
  | backgroundColor => cases h
  | justify =>
    obtain ⟨x, hx, rfl⟩ := map_eq_ok_iff.1 h
    exact ⟨_, rfl, fun u => ⟨rfl, rfl, rfl, rfl, Constant.justification?_literal hx⟩⟩
  | font =>
    obtain ⟨x, hx, rfl⟩ := map_eq_ok_iff.1 h
    exact ⟨_, rfl, fun u => ⟨rfl, Constant.font?_literal hx, rfl, rfl, rfl⟩⟩
  | fontColor =>
    obtain ⟨x, hx, rfl⟩ := map_eq_ok_iff.1 h
    exact ⟨_, rfl, fun u => ⟨rfl, rfl, rfl, Constant.color?_literal hx, rfl⟩⟩
  | fontSize =>
    obtain ⟨x, hx, rfl⟩ := map_eq_ok_iff.1 h
    exact ⟨_, rfl, fun u => ⟨rfl, rfl, Constant.fontSize?_literal hx, rfl, rfl⟩⟩

end Target

/-! ## Runs without a fault -/

/-- In a run of statements that call nothing and are not reported, the first one changes the
environment or builds a slide or block. -/
theorem Runs.cases_of_reports_eq {limit room : Nat} {s : Statement} {rest : List Statement}
    {m m' : Machine} (h : Runs limit room (s :: rest) m m') (hcalls : calls (s :: rest) = [])
    (hreports : m'.reports = m.reports) :
    (∃ env, s.effect limit room m.env = .ok (.change env) ∧
      Runs limit room rest { m with env := env } m') ∨
    ∃ name target body inner, s.effect limit room m.env = .ok (.build name target body) ∧
      Runs limit room body (m.enter target) inner ∧ inner.reports = m.reports ∧
      Runs limit room rest (inner.close name) m' := by
  cases h with
  | fault _ hrest =>
    have hlength := hrest.reports_prefix.length_le
    rw [hreports, Machine.reports_report, List.length_append, List.length_singleton] at hlength
    omega
  | change heffect hrest => exact .inl ⟨_, heffect, hrest⟩
  | @build _ _ _ body _ inner _ name target heffect hbody hrest =>
    have hprefix := hrest.reports_prefix
    rw [Machine.reports_close, hreports] at hprefix
    have hinner : inner.reports = m.reports :=
      hprefix.eq_of_length_le hbody.reports_prefix.length_le
    exact .inr ⟨name, target, body, inner, heffect, hbody, hinner, hrest⟩
  | replay heffect => exact absurd hcalls (calls_ne_nil_of_replay heffect)

/-- Behind a body, the scope that was opened for it is closed, and the one around it builds what it
built before. -/
theorem Runs.pop?_enter {limit room : Nat} {body : List Statement} {target : Target}
    {m inner : Machine} (h : Runs limit room body (m.enter target) inner) :
    ∃ env, inner.env.pop? = some (inner.env.current, env) ∧
      env.current.target = m.env.current.target := by
  obtain ⟨outer, rest, hcurrent, -, houter⟩ := List.forall₂_cons_left_iff.1 h.grows.outer
  exact ⟨⟨outer, rest⟩, by rw [Environment.pop?, houter], hcurrent.target⟩

/-! ## Blocks -/

theorem Block.Follows.refl (b : Block) : b.Follows none (fun _ => none) b :=
  ⟨rfl, rfl, rfl, rfl, rfl⟩

theorem Block.Follows.cons {s : Statement} {rest : List Statement} {b mid b' : Block}
    (h : b.Follows s.text? s.valueOf? mid)
    (hrest : mid.Follows (lastOf Statement.text? rest) (fun a => lastOf (·.valueOf? a) rest) b') :
    b.Follows (lastOf Statement.text? (s :: rest)) (fun a => lastOf (·.valueOf? a) (s :: rest))
      b' where
  text := Takes.cons Statement.text? h.text hrest.text
  font := Takes.cons (·.valueOf? .font) h.font hrest.font
  size := Takes.cons (·.valueOf? .fontSize) h.size hrest.size
  color := Takes.cons (·.valueOf? .fontColor) h.color hrest.color
  justification := Takes.cons (·.valueOf? .justify) h.justification hrest.justification

/-- In a block, a statement does to the text and to each attribute what it says. -/
theorem Statement.block_follows {limit room : Nat} {env env' : Environment} {s : Statement}
    {b : Block} (hliteral : ∀ v, s.value? = some v → v.isLiteral = true)
    (hb : env.current.target = .block b) (h : s.effect limit room env = .ok (.change env')) :
    ∃ b', env'.current.target = .block b' ∧ b.Follows s.text? s.valueOf? b' := by
  obtain ⟨t, text, rfl, henv⟩ | ⟨t, a, v, c, rfl, hv, hc, henv⟩ | ⟨htext, hvalue, htarget⟩ :=
    Statement.target_of_change hliteral h
  · obtain ⟨scope, hscope, rfl⟩ := map_eq_ok_iff.1 henv
    obtain ⟨b', hb', rfl⟩ := Scope.setText_eq_ok_iff.1 hscope
    obtain rfl : b = b' := by simpa [hb] using hb'
    exact ⟨_, rfl, rfl, rfl, rfl, rfl, rfl⟩
  · obtain rfl := Value.eq_literal_of_resolve hv hc
    obtain ⟨scope, hscope, rfl⟩ := map_eq_ok_iff.1 henv
    obtain ⟨target, hset, rfl⟩ := map_eq_ok_iff.1 hscope
    rw [hb] at hset
    obtain ⟨b', rfl, hfollows⟩ := Target.block_set hset
    exact ⟨b', rfl, hfollows t⟩
  · refine ⟨b, htarget.trans hb, ?_⟩
    have hnone : s.valueOf? = fun _ => none := funext hvalue
    rw [htext]
    exact hnone ▸ .refl b

section

variable {limit room : Nat} {statements : List Statement} {m m' : Machine}

/-- The statements of a block do to it what they say last. -/
theorem Runs.block_follows (h : Runs limit room statements m m') (hcalls : calls statements = [])
    (hliteral : Literal statements) (hreports : m'.reports = m.reports) {b : Block}
    (hb : m.env.current.target = .block b) {history : History}
    (hrecorded : Recorded history m.env.chain) :
    Recorded history m'.env.chain ∧ ∃ b', m'.env.current.target = .block b' ∧
      b.Follows (lastOf Statement.text? statements) (fun a => lastOf (·.valueOf? a) statements)
        b' := by
  induction statements generalizing m b with
  | nil =>
    cases h
    exact ⟨hrecorded, b, hb, .refl b⟩
  | cons s rest ih =>
    obtain ⟨-, hcalls'⟩ := called?_of_calls_eq_nil hcalls
    obtain ⟨env, heffect, hrest⟩ | ⟨name, target, body, inner, heffect, -⟩ :=
      h.cases_of_reports_eq hcalls hreports
    · obtain ⟨mid, hmid, hfirst⟩ := Statement.block_follows hliteral.head hb heffect
      obtain ⟨hrecorded', b', hb', hfollows⟩ := ih hrest hcalls' hliteral.tail hreports hmid
        (hrecorded.congr (Statement.changes_of_change heffect))
      exact ⟨hrecorded', b', hb', hfirst.cons hfollows⟩
    · have hkind : m.env.current.kind = .block := congrArg Target.kind hb
      obtain ⟨t, parent, ⟨-, hstart⟩ | ⟨-, hstart⟩⟩ := Statement.effect_eq_build_iff.1 heffect
      · cases hkind.symm.trans (kind_of_startSlide hstart).1
      · cases hkind.symm.trans (kind_of_startBlock hstart).1

end

/-! ## Slides -/

/-- The style is the one that a block with the parent starts with, behind earlier blocks of its
slide. -/
structure Style.Inherited (style : Style) (parent : Option String) (before : List Declaration) :
    Prop where
  font : inherited .font Value.font? defaultFont parent before = some style.font
  size : inherited .fontSize Value.fontSize? defaultFontSize parent before = some style.size
  color : inherited .fontColor Value.color? .black parent before = some style.color
  justification :
    inherited .justify Value.justification? .left parent before = some style.justification

/-- A block that starts with what it inherits and follows its body is the one that is described. -/
theorem Block.Follows.describedBlock_eq {d : Declaration} {before : List Declaration}
    {style : Style} {b : Block} (hstyle : style.Inherited d.parent before)
    (h : Block.Follows (lastOf Statement.text? d.body) (fun a => lastOf (·.valueOf? a) d.body)
      { style := style } b) : describedBlock before d = some b := by
  refine describedBlock_eq_some_iff.2 ⟨?_, ?_, ?_, ?_, ?_⟩
  · have htext := h.text.elim_eq
    cases hlast : lastOf Statement.text? d.body <;> simp_all
  · rw [Declaration.attribute, hstyle.font]
    exact h.font.elim_eq
  · rw [Declaration.attribute, hstyle.size]
    exact h.size.elim_eq
  · rw [Declaration.attribute, hstyle.color]
    exact h.color.elim_eq
  · rw [Declaration.attribute, hstyle.justification]
    exact h.justification.elim_eq

theorem Described.inherited_style {before : List Declaration} {blocks : List (String × Block)}
    (h : Described describedBlock before blocks) {parent : String} {block : Block}
    (hfound : blocks.lookup parent = some block) :
    block.style.Inherited (some parent) before where
  font := h.inherited_eq (·.style.font)
    (fun _ _ _ hb => (describedBlock_eq_some_iff.1 hb).2.1) hfound
  size := h.inherited_eq (·.style.size)
    (fun _ _ _ hb => (describedBlock_eq_some_iff.1 hb).2.2.1) hfound
  color := h.inherited_eq (·.style.color)
    (fun _ _ _ hb => (describedBlock_eq_some_iff.1 hb).2.2.2.1) hfound
  justification := h.inherited_eq (·.style.justification)
    (fun _ _ _ hb => (describedBlock_eq_some_iff.1 hb).2.2.2.2) hfound

/-- A block starts with what it inherits from those that were described. -/
theorem Recorded.startBlock {history : History} {before : List Declaration} {env : Environment}
    (h : Recorded history env.chain) (hdescribed : Described describedBlock before history.blocks)
    {parent : Option String} {target : Target} (hstart : env.startBlock parent = .ok target) :
    ∃ style : Style, target = .block { style := style } ∧ style.Inherited parent before := by
  have hkind := (kind_of_startBlock hstart).1
  simp only [Environment.startBlock, hkind, ne_eq, not_true_eq_false, if_false] at hstart
  cases parent with
  | none =>
    cases hstart
    exact ⟨{}, rfl, by constructor <;> simp only [inherited]⟩
  | some parent =>
    simp only [h.findBlock?_eq hkind] at hstart
    cases hfound : history.blocks.lookup parent with
    | none => simp [hfound] at hstart
    | some block =>
      simp only [hfound, Except.ok.injEq] at hstart
      exact ⟨block.style, hstart.symm, hdescribed.inherited_style hfound⟩

/-- A statement that builds nothing describes nothing to be built. -/
theorem Statement.no_declaration_of_change {limit room : Nat} {env env' : Environment}
    {s : Statement} (h : s.effect limit room env = .ok (.change env')) :
    s.slide? = none ∧ s.block? = none := by
  cases s with
  | command t c => exact ⟨rfl, rfl⟩
  | compound t head body =>
    cases head with
    | slide name parent | block name parent =>
      obtain ⟨_, -, heq⟩ := map_eq_ok_iff.1 h
      cases heq
    | macroDef name => exact ⟨rfl, rfl⟩

/-- In a slide, a statement that builds nothing does to the background what it says. -/
theorem Statement.slide_follows {limit room : Nat} {env env' : Environment} {s : Statement}
    {slide : Slide} (hliteral : ∀ v, s.value? = some v → v.isLiteral = true)
    (hslide : env.current.target = .slide slide)
    (h : s.effect limit room env = .ok (.change env')) :
    ∃ slide', env'.current.target = .slide slide' ∧ slide'.blocks = slide.blocks ∧
      Takes (s.valueOf? .backgroundColor) Value.color? slide.background slide'.background := by
  obtain ⟨t, text, rfl, henv⟩ | ⟨t, a, v, c, rfl, hv, hc, henv⟩ | ⟨-, hvalue, htarget⟩ :=
    Statement.target_of_change hliteral h
  · obtain ⟨scope, hscope, rfl⟩ := map_eq_ok_iff.1 henv
    obtain ⟨b, hb, rfl⟩ := Scope.setText_eq_ok_iff.1 hscope
    cases hslide.symm.trans hb
  · obtain rfl := Value.eq_literal_of_resolve hv hc
    obtain ⟨scope, hscope, rfl⟩ := map_eq_ok_iff.1 henv
    obtain ⟨target, hset, rfl⟩ := map_eq_ok_iff.1 hscope
    rw [hslide] at hset
    obtain ⟨slide', rfl, hblocks, htakes⟩ := Target.slide_set hset
    exact ⟨slide', rfl, hblocks, htakes t⟩
  · refine ⟨slide, htarget.trans hslide, rfl, ?_⟩
    rw [hvalue]
    exact rfl

/-- A block that is closed is put behind those of its slide. -/
theorem Machine.target_close_block {m : Machine} {env : Environment} {slide : Slide} {b : Block}
    (hpop : m.env.pop? = some (m.env.current, env)) (hb : m.env.current.target = .block b)
    (hslide : env.current.target = .slide slide) (name : String) :
    (m.close name).env.current.target = .slide { slide with blocks := slide.blocks ++ [b] } := by
  rw [Machine.close_of_pop? hpop, hb]
  simp only [Action.finish, Environment.mapCurrent, Scope.appendBlock, Scope.registerBlock, hslide]

section

variable {limit room : Nat} {statements : List Statement} {m m' : Machine}

/-- The statements of a slide do to its background what they say last, and put the blocks that they
describe behind those that are there. -/
theorem Runs.slide_follows (h : Runs limit room statements m m') (hcalls : calls statements = [])
    (hliteral : Literal statements) (hreports : m'.reports = m.reports) {slide : Slide}
    (hslide : m.env.current.target = .slide slide) {history : History}
    (hrecorded : Recorded history m.env.chain) {before : List Declaration}
    (hdescribed : Described describedBlock before history.blocks) :
    (∃ blocks, Recorded ⟨history.slides, blocks⟩ m'.env.chain) ∧
      ∃ slide' blocks, m'.env.current.target = .slide slide' ∧
        inTurn describedBlock before (blocksIn statements) = some blocks ∧
        slide'.blocks = slide.blocks ++ blocks ∧
        Takes (lastOf (·.valueOf? .backgroundColor) statements) Value.color? slide.background
          slide'.background := by
  induction statements generalizing m slide history before with
  | nil =>
    cases h
    exact ⟨⟨_, hrecorded⟩, slide, [], hslide, by simp [blocksIn, inTurn], by simp, rfl⟩
  | cons s rest ih =>
    obtain ⟨-, hcalls'⟩ := called?_of_calls_eq_nil hcalls
    obtain ⟨env, heffect, hrest⟩ | ⟨name, target, body, inner, heffect, hbody, hinner, hrest⟩ :=
      h.cases_of_reports_eq hcalls hreports
    · obtain ⟨mid, hmid, hblocks, hfirst⟩ := Statement.slide_follows hliteral.head hslide heffect
      obtain ⟨hrecorded', slide', blocks, hslide', hdescribed', hblocks', htakes⟩ := ih hrest
        hcalls' hliteral.tail hreports hmid (hrecorded.congr (Statement.changes_of_change heffect))
        hdescribed
      refine ⟨hrecorded', slide', blocks, hslide', ?_, hblocks ▸ hblocks', hfirst.cons _ htakes⟩
      simpa [blocksIn, (Statement.no_declaration_of_change heffect).2] using hdescribed'
    · have hkind : m.env.current.kind = .slide := congrArg Target.kind hslide
      obtain ⟨t, parent, ⟨-, hstart⟩ | ⟨rfl, hstart⟩⟩ := Statement.effect_eq_build_iff.1 heffect
      · cases hkind.symm.trans (kind_of_startSlide hstart).1
      obtain ⟨style, rfl, hstyle⟩ := hrecorded.startBlock hdescribed hstart
      rw [calls_compound, List.append_eq_nil_iff] at hcalls
      obtain ⟨hinside, b, hb, hfollows⟩ := hbody.block_follows hcalls.1
        (hliteral.of_mem (mem_preorder_head _ _)) hinner rfl (hrecorded.enter heffect)
      have hblock : describedBlock before ⟨name, parent, body⟩ = some b :=
        hfollows.describedBlock_eq hstyle
      obtain ⟨env, hpop, htarget⟩ := hbody.pop?_enter
      have hclose := Machine.target_close_block hpop hb (htarget.trans hslide) name
      have hclosed : Recorded ⟨history.slides, (name, b) :: history.blocks⟩
          (inner.close name).env.chain := by
        simpa only [History.after, hb] using hinside.close room name rest []
      obtain ⟨hrecorded', slide', blocks, hslide', hdescribed', hblocks, htakes⟩ := ih hrest
        hcalls' hliteral.tail (by rw [Machine.reports_close, hreports, hinner]) hclose hclosed
        (.cons hblock hdescribed)
      exact ⟨hrecorded', slide', b :: blocks, hslide', inTurn_cons hblock hdescribed',
        by simpa using hblocks, Takes.cons _ rfl htakes⟩

end

/-! ## Decks -/

/-- A slide that starts with what it inherits and follows its body is the one that is described. -/
theorem describedSlide_eq {d : Declaration} {before : List Declaration} {background : Color}
    {slide : Slide} (hblocks : inTurn describedBlock [] (blocksIn d.body) = some slide.blocks)
    (hbackground :
      inherited .backgroundColor Value.color? .white d.parent before = some background)
    (htakes : Takes (lastOf (·.valueOf? .backgroundColor) d.body) Value.color? background
      slide.background) : describedSlide before d = some slide := by
  refine describedSlide_eq_some_iff.2 ⟨?_, hblocks⟩
  rw [Declaration.attribute, hbackground]
  exact htakes.elim_eq

/-- A slide starts with what it inherits from those that were described. -/
theorem Recorded.startSlide {history : History} {before : List Declaration} {env : Environment}
    (h : Recorded history env.chain) (hdescribed : Described describedSlide before history.slides)
    {parent : Option String} {target : Target} (hstart : env.startSlide parent = .ok target) :
    ∃ background : Color, target = .slide { background := background } ∧
      inherited .backgroundColor Value.color? .white parent before = some background := by
  have hkind := (kind_of_startSlide hstart).1
  simp only [Environment.startSlide, hkind, ne_eq, not_true_eq_false, if_false] at hstart
  cases parent with
  | none =>
    cases hstart
    exact ⟨.white, rfl, by simp only [inherited]⟩
  | some parent =>
    simp only [h.findSlide?_eq hkind] at hstart
    cases hfound : history.slides.lookup parent with
    | none => simp [hfound] at hstart
    | some slide =>
      simp only [hfound, Except.ok.injEq] at hstart
      refine ⟨slide.background, hstart.symm, hdescribed.inherited_eq (·.background) ?_ hfound⟩
      exact fun _ _ _ hslide => (describedSlide_eq_some_iff.1 hslide).1

/-- A slide that is closed is put behind those of the deck. -/
theorem Machine.deck_close_slide {m : Machine} {env : Environment} {slide : Slide}
    (hpop : m.env.pop? = some (m.env.current, env)) (hslide : m.env.current.target = .slide slide)
    (name : String) : (m.close name).deck.slides = m.deck.slides ++ [slide] ∧
      (m.close name).env.current.target = env.current.target := by
  rw [Machine.close_of_pop? hpop, hslide]
  exact ⟨rfl, rfl⟩

/-- The statements of a file put the slides that they describe behind those that are there. -/
theorem Runs.deck_follows {limit room : Nat} {statements : List Statement} {m m' : Machine}
    (h : Runs limit room statements m m') (hcalls : calls statements = [])
    (hliteral : Literal statements) (hreports : m'.reports = m.reports)
    (hfile : m.env.current.target = .file) {history : History}
    (hrecorded : Recorded history m.env.chain) {before : List Declaration}
    (hdescribed : Described describedSlide before history.slides) :
    ∃ slides, inTurn describedSlide before (slidesIn statements) = some slides ∧
      m'.deck.slides = m.deck.slides ++ slides := by
  induction statements generalizing m history before with
  | nil =>
    cases h
    exact ⟨[], by simp [slidesIn, inTurn], by simp⟩
  | cons s rest ih =>
    have hkind : m.env.current.kind = .file := congrArg Target.kind hfile
    obtain ⟨-, hcalls'⟩ := called?_of_calls_eq_nil hcalls
    obtain ⟨env, heffect, hrest⟩ | ⟨name, target, body, inner, heffect, hbody, hinner, hrest⟩ :=
      h.cases_of_reports_eq hcalls hreports
    · have hchanges := Statement.changes_of_change heffect
      have hfile' := eq_of_kind_eq_file (hchanges.current.kind.trans hkind)
      obtain ⟨slides, hslides, hdeck⟩ := ih hrest hcalls' hliteral.tail hreports hfile'
        (hrecorded.congr hchanges) hdescribed
      refine ⟨slides, ?_, hdeck⟩
      simpa [slidesIn, (Statement.no_declaration_of_change heffect).1] using hslides
    · obtain ⟨t, parent, ⟨rfl, hstart⟩ | ⟨-, hstart⟩⟩ := Statement.effect_eq_build_iff.1 heffect
      · obtain ⟨background, rfl, hbackground⟩ := hrecorded.startSlide hdescribed hstart
        rw [calls_compound, List.append_eq_nil_iff] at hcalls
        have hnone : Described describedBlock [] history.blocks :=
          (hrecorded.of_file hkind).2.1 ▸ .nil
        obtain ⟨⟨_, hinside⟩, slide, blocks, hslide, hblocks, happend, htakes⟩ :=
          hbody.slide_follows hcalls.1 (hliteral.of_mem (mem_preorder_head _ _)) hinner rfl
            (hrecorded.enter heffect) hnone
        obtain rfl : slide.blocks = blocks := happend
        have hfirst : describedSlide before ⟨name, parent, body⟩ = some slide :=
          describedSlide_eq hblocks hbackground htakes
        obtain ⟨env, hpop, htarget⟩ := hbody.pop?_enter
        obtain ⟨hdeck, htarget'⟩ := Machine.deck_close_slide hpop hslide name
        have hclosed : Recorded ⟨(name, slide) :: history.slides, []⟩
            (inner.close name).env.chain := by
          simpa only [History.after, hslide] using hinside.close room name rest []
        obtain ⟨slides, hslides, hdeck'⟩ := ih hrest hcalls' hliteral.tail
          (by rw [Machine.reports_close, hreports, hinner])
          (htarget'.trans (htarget.trans hfile)) hclosed (.cons hfirst hdescribed)
        have hkept : inner.deck = m.deck := hbody.deck_eq (kind_ne_file_of_startSlide hstart)
        refine ⟨slide :: slides, inTurn_cons hfirst hslides, ?_⟩
        rw [hdeck', hdeck, hkept, List.append_assoc, List.singleton_append]
      · cases hkind.symm.trans (kind_of_startBlock hstart).1

/-- Statements that call no macro, write only literals and compile without a fault have the deck
that they describe. -/
theorem deck_described (config : Config) {statements : List Statement} {deck : Deck}
    (hcalls : calls statements = []) (hliteral : Literal statements)
    (hcompile : ∃ o, compile config statements = some o ∧ o.result = .ok deck) :
    describedDeck statements = some deck := by
  obtain ⟨o, hcompile, hresult⟩ := hcompile
  rw [compile_of_calls_eq_nil config 0 hcalls, Option.some.injEq] at hcompile
  obtain ⟨hok, rfl⟩ := Outcome.result_eq_ok_iff.1 hresult
  rw [← hcompile, Outcome.isOk_iff] at hok
  obtain ⟨slides, hslides, hdeck⟩ := (runs_runWithin 0 statements).deck_follows hcalls hliteral hok
    rfl .of_start .nil
  rw [describedDeck, hslides, ← hcompile]
  exact congrArg (fun slides => some (Deck.mk slides)) hdeck.symm

/-- The second slide of a name inherits from the first one, and the third slide from the second one;
the blocks of that do the same, where the last one changes what it inherits twice. -/
theorem deck_described_chain :
    let t : Token := ⟨.endOfInput, ⟨1, 'a', ⟨0, 1⟩⟩⟩
    let set (a : Attribute) (value : Value) := Statement.command t (.setAttribute a.name value)
    let block name parent body := Statement.compound t (.block name parent) body
    let slide name parent body := Statement.compound t (.slide name parent) body
    let blocks := [block "x" none [set .font (.string "Mono"), set .fontSize (.integer 20)],
      block "x" (some "x") [set .fontSize (.integer 30), .command t (.text "one")],
      block "y" (some "x") [.command t (.text "two"), set .fontColor (.string "red"),
        set .fontColor (.string "blue"), .command t (.text "three")]]
    let statements := [slide "a" none [set .backgroundColor (.string "green")],
      slide "a" (some "a") [], slide "b" (some "a") blocks]
    let deck : Deck := ⟨[{ background := .green }, { background := .green }, {
      background := .green
      blocks := [{ style.font := "Mono", style.size := 20 },
        { text := "one", style.font := "Mono", style.size := 30 },
        { text := "three", style.font := "Mono", style.size := 30, style.color := .blue }] }]⟩
    calls statements = [] ∧ Literal statements ∧
      (∃ o, compile ⟨some 1⟩ statements = some o ∧ o.result = .ok deck) ∧
      describedDeck statements = some deck := by
  intro t set block slide blocks statements deck
  have hcalls : calls statements = [] := by decide
  have hliteral : Literal statements := by
    unfold Literal
    decide
  have hcompile : ∃ o, compile ⟨some 1⟩ statements = some o ∧ o.result = .ok deck :=
    ⟨⟨deck, []⟩, by decide +kernel, rfl⟩
  exact ⟨hcalls, hliteral, hcompile, deck_described ⟨some 1⟩ hcalls hliteral hcompile⟩

end SlideDeck
