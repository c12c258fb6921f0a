import SlideDeck.Proofs.Run.Derivation
import SlideDeck.Proofs.Scope.InPlace

/-!
# Attributes are independent

Each attribute is a field of the slide or block that is built. Setting it writes this field and no
other, if the target has it and the constant is one that it can be; otherwise nothing changes. So
attributes can be set in any order, and of the values that one attribute is given the last stays.

Results:
* `Target.ext_get?`: a target is its attributes and what it is without them.
* `Target.exists_set_iff`, `Target.set_eq_ok_iff`: when an attribute can be set, and what changes.
* `Target.set_cases_of_kind`: whether it can be set depends on the kind of the target alone.
* `Target.apply_comm`: two attributes can be set in either order.
* `Target.set_set`, `Target.apply_apply`: of two values the second stays.
* `applyInPlace_apply`, `execute_setAttribute`: the method and the statements that set attributes do
  so, and leave the target as it is where they fail.
* `attributes_independent`: all of these.
-/

namespace SlideDeck

/-! ## What attributes can be -/

/-- The names of colors. -/
def colorNames : List (String × Color) :=
  [("white", .white), ("black", .black), ("red", .red), ("green", .green), ("blue", .blue)]

/-- The attribute can be set to the first constant, and then is the second one. -/
inductive Attribute.Coerces : Attribute → Constant → Constant → Prop
  | color {a : Attribute} (c : Color) : a ∈ [backgroundColor, fontColor] →
      Coerces a (.color c) (.color c)
  | colorName {a : Attribute} {name : String} {c : Color} : a ∈ [backgroundColor, fontColor] →
      (name, c) ∈ colorNames → Coerces a (.string name) (.color c)
  | justification {name : String} : name ∈ ["left", "right", "center"] →
      Coerces justify (.string name) (.string name)
  | font (name : String) : Coerces font (.string name) (.string name)
  | fontSize (size : UInt8) : Coerces fontSize (.integer size) (.integer size)

theorem Color.named?_eq_some_iff {name : String} {c : Color} :
    named? name = some c ↔ (name, c) ∈ colorNames := by
  constructor
  · intro h
    unfold named? at h
    split at h <;> cases h
    all_goals simp [colorNames]
  · intro h
    simp only [colorNames, List.mem_cons, Prod.mk.injEq, List.not_mem_nil, or_false] at h
    obtain ⟨rfl, rfl⟩ | ⟨rfl, rfl⟩ | ⟨rfl, rfl⟩ | ⟨rfl, rfl⟩ | ⟨rfl, rfl⟩ := h
    all_goals rfl

theorem Justification.name_mem (j : Justification) : j.name ∈ ["left", "right", "center"] := by
  cases j <;> decide

theorem Justification.name_injective {j j' : Justification} (h : j.name = j'.name) : j = j' := by
  have hj := named?_name j
  rw [h, named?_name] at hj
  exact (Option.some.inj hj).symm

namespace Constant

variable {a : Attribute} {v : Constant}

theorem toColor_eq_ok_iff (ha : a ∈ [Attribute.backgroundColor, .fontColor]) {c : Color} :
    v.toColor a = .ok c ↔ a.Coerces v (.color c) := by
  constructor
  · intro h
    unfold toColor at h
    repeat' split at h
    all_goals cases h
    · exact .color c ha
    · rename_i hname
      exact .colorName ha (Color.named?_eq_some_iff.1 hname)
  · intro h
    cases h with
    | color _ _ => rfl
    | colorName _ hname => simp only [toColor, Color.named?_eq_some_iff.2 hname]

theorem toJustification_eq_ok_iff {j : Justification} :
    v.toJustification = .ok j ↔ Attribute.Coerces .justify v (.string j.name) := by
  constructor
  · intro h
    unfold toJustification at h
    repeat' split at h
    all_goals cases h
    rename_i hname
    rw [Justification.eq_name_of_named? hname]
    exact .justification j.name_mem
  · rintro ⟨-⟩
    simp only [toJustification, Justification.named?_name]

theorem toFont_eq_ok_iff {name : String} :
    v.toFont = .ok name ↔ Attribute.Coerces .font v (.string name) := by
  constructor
  · intro h
    unfold toFont at h
    split at h <;> cases h
    exact .font name
  · rintro ⟨⟩
    rfl

theorem toFontSize_eq_ok_iff {size : UInt8} :
    v.toFontSize = .ok size ↔ Attribute.Coerces .fontSize v (.integer size) := by
  constructor
  · intro h
    unfold toFontSize at h
    split at h <;> cases h
    exact .fontSize size
  · rintro ⟨⟩
    rfl

end Constant

namespace Attribute

variable {a : Attribute} {v c c' : Constant}

/-- What the attribute is after it is set to the constant. -/
def coerce (a : Attribute) (v : Constant) : Except CompileError Constant :=
  match a with
  | backgroundColor => (v.toColor backgroundColor).map .color
  | fontColor => (v.toColor fontColor).map .color
  | justify => v.toJustification.map fun j => .string j.name
  | font => v.toFont.map .string
  | fontSize => v.toFontSize.map .integer

theorem coerce_eq_ok_iff : a.coerce v = .ok c ↔ a.Coerces v c := by
  constructor
  · intro h
    unfold coerce at h
    split at h <;> obtain ⟨x, hx, rfl⟩ := map_eq_ok_iff.1 h
    · exact (Constant.toColor_eq_ok_iff (by decide)).1 hx
    · exact (Constant.toColor_eq_ok_iff (by decide)).1 hx
    · exact Constant.toJustification_eq_ok_iff.1 hx
    · exact Constant.toFont_eq_ok_iff.1 hx
    · exact Constant.toFontSize_eq_ok_iff.1 hx
  · intro h
    cases h with
    | color c ha =>
      obtain rfl | rfl : a = backgroundColor ∨ a = fontColor := by simpa using ha
      all_goals rfl
    | colorName ha hname =>
      obtain rfl | rfl : a = backgroundColor ∨ a = fontColor := by simpa using ha
      all_goals
        simp only [coerce, Constant.toColor, Color.named?_eq_some_iff.2 hname, Except.map]
    | justification hname =>
      simp only [List.mem_cons, List.not_mem_nil, or_false] at hname
      obtain rfl | rfl | rfl := hname
      all_goals rfl
    | font name => rfl
    | fontSize size => rfl

/-- What an attribute is set to is determined by the constant. -/
theorem Coerces.unique (h : a.Coerces v c) (h' : a.Coerces v c') : c = c' :=
  Except.ok.inj ((coerce_eq_ok_iff.2 h).symm.trans (coerce_eq_ok_iff.2 h'))

end Attribute

namespace Target

/-! ## Targets as attributes -/

/-- What the attribute of the target is. -/
def get? : Attribute → Target → Option Constant
  | .backgroundColor, slide s => some (.color s.background)
  | .fontColor, block b => some (.color b.style.color)
  | .justify, block b => some (.string b.style.justification.name)
  | .font, block b => some (.string b.style.font)
  | .fontSize, block b => some (.integer b.style.size)
  | _, _ => none

/-- The target with all attributes as at first. -/
def bare : Target → Target
  | file => file
  | slide s => slide { blocks := s.blocks }
  | block b => block { text := b.text }

/-- The second target has the attribute, and is else the same as the first. -/
structure SetTo (t : Target) (a : Attribute) (c : Constant) (t' : Target) : Prop where
  get? : t'.get? a = some c
  others : ∀ b, b ≠ a → t'.get? b = t.get? b
  bare : t'.bare = t.bare

theorem kind_bare (t : Target) : t.bare.kind = t.kind := by
  cases t <;> rfl

/-- A target is its attributes and what it is without them. -/
theorem ext_get? {t t' : Target} (hbare : t.bare = t'.bare) (hget : ∀ a, t.get? a = t'.get? a) :
    t = t' := by
  have hkind : t.kind = t'.kind := by rw [← kind_bare t, hbare, kind_bare]
  match t, t' with
  | file, file => rfl
  | slide ⟨background, blocks⟩, slide ⟨background', blocks'⟩ =>
    have hbackground := hget .backgroundColor
    simp only [get?, Option.some.injEq, Constant.color.injEq] at hbackground
    simp only [bare, slide.injEq, Slide.mk.injEq, true_and] at hbare
    rw [hbackground, hbare]
  | block ⟨text, ⟨font, size, color, justification⟩⟩,
      block ⟨text', ⟨font', size', color', justification'⟩⟩ =>
    have hfont := hget .font
    have hsize := hget .fontSize
    have hcolor := hget .fontColor
    have hjustify := hget .justify
    simp only [get?, Option.some.injEq, Constant.string.injEq, Constant.integer.injEq,
      Constant.color.injEq] at hfont hsize hcolor hjustify
    simp only [bare, block.injEq, Block.mk.injEq, and_true] at hbare
    rw [hfont, hsize, hcolor, Justification.name_injective hjustify, hbare]

/-! ## Setting one attribute -/

section

variable {a b : Attribute} {v w c : Constant} {t t' : Target}

/-- There is one target that has the attribute and is else the same. -/
theorem SetTo.unique {t'' : Target} (h : t.SetTo a c t') (h' : t.SetTo a c t'') : t' = t'' := by
  refine ext_get? (h.bare.trans h'.bare.symm) fun b => ?_
  by_cases hb : b = a
  · rw [hb, h.get?, h'.get?]
  · rw [h.others b hb, h'.others b hb]

/-- The attribute is what the constant is made to be. -/
theorem map_get?_set (a : Attribute) (v : Constant) (t : Target) :
    (t.set a v).map (·.get? a) =
      if t.kind = a.home then (a.coerce v).map some else .error (.misplacedAttribute a) := by
  by_cases hkind : t.kind = a.home
  · rw [if_pos hkind]
    cases a <;> cases t <;> cases hkind
    · simp only [set, Attribute.coerce]
      cases v.toColor .backgroundColor <;> rfl
    · simp only [set, Attribute.coerce]
      cases v.toJustification <;> rfl
    · simp only [set, Attribute.coerce]
      cases v.toFont <;> rfl
    · simp only [set, Attribute.coerce]
      cases v.toColor .fontColor <;> rfl
    · simp only [set, Attribute.coerce]
      cases v.toFontSize <;> rfl
  · rw [if_neg hkind, set_eq_error_of_kind_ne v hkind]
    rfl

/-- Setting an attribute changes no other. -/
theorem get?_of_set (h : t.set a v = .ok t') (hb : b ≠ a) : t'.get? b = t.get? b := by
  unfold set at h
  split at h
  case h_6 => cases h
  all_goals
    obtain ⟨x, -, rfl⟩ := map_eq_ok_iff.1 h
    cases b <;> first | rfl | exact absurd rfl hb

/-- Setting an attribute changes nothing but attributes. -/
theorem bare_of_set (h : t.set a v = .ok t') : t'.bare = t.bare := by
  unfold set at h
  split at h
  case h_6 => cases h
  all_goals
    obtain ⟨x, -, rfl⟩ := map_eq_ok_iff.1 h
    rfl

/-- An attribute that is set is what the constant is made to be, and all else stays. -/
theorem setTo_of_set (h : t.set a v = .ok t') :
    t.kind = a.home ∧ ∃ c, a.Coerces v c ∧ t.SetTo a c t' := by
  have hmap := map_get?_set a v t
  rw [h] at hmap
  split at hmap
  case isFalse => cases hmap
  case isTrue hkind =>
    obtain ⟨c, hc, hget⟩ := map_eq_ok_iff.1 hmap.symm
    exact ⟨hkind, c, Attribute.coerce_eq_ok_iff.1 hc, hget.symm, fun b hb => get?_of_set h hb,
      bare_of_set h⟩

theorem exists_set_iff :
    (∃ t', t.set a v = .ok t') ↔ t.kind = a.home ∧ ∃ c, a.Coerces v c := by
  constructor
  · rintro ⟨t', h⟩
    obtain ⟨hkind, c, hc, -⟩ := setTo_of_set h
    exact ⟨hkind, c, hc⟩
  · rintro ⟨hkind, c, hc⟩
    have hmap := map_get?_set a v t
    rw [if_pos hkind, Attribute.coerce_eq_ok_iff.2 hc] at hmap
    obtain ⟨t', h, -⟩ := map_eq_ok_iff.1 hmap
    exact ⟨t', h⟩

theorem set_eq_ok_iff :
    t.set a v = .ok t' ↔ t.kind = a.home ∧ ∃ c, a.Coerces v c ∧ t.SetTo a c t' := by
  refine ⟨setTo_of_set, ?_⟩
  rintro ⟨hkind, c, hc, hset⟩
  obtain ⟨u, hu⟩ := exists_set_iff.2 ⟨hkind, c, hc⟩
  obtain ⟨-, c', hc', hset'⟩ := setTo_of_set hu
  obtain rfl := hc.unique hc'
  rw [hu, hset'.unique hset]

/-- Targets of one kind can be given the same attributes, and what one is then is the same. -/
theorem set_cases_of_kind (a : Attribute) (v : Constant) (h : t.kind = t'.kind) :
    (∃ e, t.set a v = .error e ∧ t'.set a v = .error e) ∨
    ∃ u u', t.set a v = .ok u ∧ t'.set a v = .ok u' ∧ u.get? a = u'.get? a := by
  have hmap : (t.set a v).map (·.get? a) = (t'.set a v).map (·.get? a) := by
    rw [map_get?_set, map_get?_set, h]
  cases hleft : t.set a v <;> cases hright : t'.set a v <;> rw [hleft, hright] at hmap
  case error.error => cases hmap; exact .inl ⟨_, rfl, rfl⟩
  case ok.ok => exact .inr ⟨_, _, rfl, rfl, Except.ok.inj hmap⟩
  all_goals cases hmap

/-- Of two values that an attribute is given, the second stays. -/
theorem set_set (w : Constant) (h : t.set a v = .ok t') : t'.set a w = t.set a w := by
  obtain ⟨e, hleft, hright⟩ | ⟨u, u', hleft, hright, hget⟩ := set_cases_of_kind a w (kind_set h)
  · rw [hleft, hright]
  · rw [hleft, hright]
    refine congrArg Except.ok (ext_get? ?_ fun b => ?_)
    · rw [bare_of_set hleft, bare_of_set h, bare_of_set hright]
    · by_cases hb : b = a
      · rw [hb, hget]
      · rw [get?_of_set hleft hb, get?_of_set h hb, get?_of_set hright hb]

/-! ## Setting in place -/

/-- Sets the attribute, or leaves the target as it is. -/
def apply (a : Attribute) (v : Constant) (t : Target) : Except CompileError Unit × Target :=
  match t.set a v with
  | .ok t' => (.ok (), t')
  | .error e => (.error e, t)

theorem apply_of_set (h : t.set a v = .ok t') : t.apply a v = (.ok (), t') := by
  rw [apply, h]

theorem apply_of_set_error {e : CompileError} (h : t.set a v = .error e) :
    t.apply a v = (.error e, t) := by
  rw [apply, h]

/-- The method that writes to the target step by step comes to the same. -/
theorem applyInPlace_apply (a : Attribute) (v : Constant) (t : Target) :
    a.applyInPlace v t = t.apply a v := by
  rw [Attribute.applyInPlace_eq, Method.ofWriter]
  cases hset : t.set a v with
  | ok t' => rw [apply_of_set hset]
  | error e => rw [apply_of_set_error hset]

theorem apply_eq_ok_iff : t.apply a v = (.ok (), t') ↔ t.set a v = .ok t' := by
  refine ⟨fun h => ?_, apply_of_set⟩
  cases hset : t.set a v with
  | error e => simp [apply_of_set_error hset] at h
  | ok u => simpa [apply_of_set hset] using h

theorem apply_fst_eq_ok_iff : (t.apply a v).1 = .ok () ↔ ∃ t', t.set a v = .ok t' := by
  cases hset : t.set a v with
  | error e => simp [apply_of_set_error hset]
  | ok u => simp [apply_of_set hset]

theorem apply_snd_of_error {e : CompileError} (h : (t.apply a v).1 = .error e) :
    (t.apply a v).2 = t := by
  cases hset : t.set a v with
  | error e => rw [apply_of_set_error hset]
  | ok u => simp [apply_of_set hset] at h

@[simp] theorem bare_apply (a : Attribute) (v : Constant) (t : Target) :
    (t.apply a v).2.bare = t.bare := by
  rw [apply]
  cases h : t.set a v with
  | error e => rfl
  | ok t' => exact bare_of_set h

@[simp] theorem kind_apply (a : Attribute) (v : Constant) (t : Target) :
    (t.apply a v).2.kind = t.kind := by
  rw [← kind_bare, bare_apply, kind_bare]

theorem get?_apply_of_ne (v : Constant) (t : Target) (hb : b ≠ a) :
    (t.apply a v).2.get? b = t.get? b := by
  rw [apply]
  cases h : t.set a v with
  | error e => rfl
  | ok t' => exact get?_of_set h hb

theorem apply_fst_congr (a : Attribute) (v : Constant) (hkind : t.kind = t'.kind) :
    (t.apply a v).1 = (t'.apply a v).1 := by
  obtain ⟨e, h, h'⟩ | ⟨u, u', h, h', -⟩ := set_cases_of_kind a v hkind
  · rw [apply_of_set_error h, apply_of_set_error h']
  · rw [apply_of_set h, apply_of_set h']

/-- What the attribute is after it is set depends on the kind of the target and on what it was. -/
theorem get?_apply_congr (v : Constant) (hkind : t.kind = t'.kind) (hget : t.get? a = t'.get? a) :
    (t.apply a v).2.get? a = (t'.apply a v).2.get? a := by
  obtain ⟨e, h, h'⟩ | ⟨u, u', h, h', hset⟩ := set_cases_of_kind a v hkind
  · rw [apply_of_set_error h, apply_of_set_error h', hget]
  · rw [apply_of_set h, apply_of_set h', hset]

/-- Two attributes can be set in either order. -/
theorem apply_comm (v w : Constant) (t : Target) (hab : a ≠ b) :
    ((t.apply a v).2.apply b w).1 = (t.apply b w).1 ∧
    ((t.apply b w).2.apply a v).1 = (t.apply a v).1 ∧
    ((t.apply a v).2.apply b w).2 = ((t.apply b w).2.apply a v).2 := by
  refine ⟨apply_fst_congr b w (kind_apply a v t), apply_fst_congr a v (kind_apply b w t),
    ext_get? (by simp) fun d => ?_⟩
  by_cases hda : d = a
  · subst hda
    rw [get?_apply_of_ne w _ hab]
    exact get?_apply_congr v (kind_apply b w t).symm (get?_apply_of_ne w t hab).symm
  · by_cases hdb : d = b
    · subst hdb
      rw [get?_apply_of_ne v _ hda]
      exact get?_apply_congr w (kind_apply a v t) (get?_apply_of_ne v t hda)
    · rw [get?_apply_of_ne w _ hdb, get?_apply_of_ne v _ hda, get?_apply_of_ne v _ hda,
        get?_apply_of_ne w _ hdb]

/-- If an attribute can be set twice, it may as well be set the second time only. -/
theorem apply_apply (v : Constant) (h : ((t.apply a v).2.apply a w).1 = .ok ()) :
    (t.apply a v).2.apply a w = t.apply a w := by
  cases hfirst : t.set a v with
  | error e => rw [apply_of_set_error hfirst]
  | ok t' =>
    rw [apply_of_set hfirst] at h ⊢
    obtain ⟨u, hsecond⟩ := apply_fst_eq_ok_iff.1 h
    rw [apply_of_set hsecond, apply_of_set ((set_set w hfirst).symm.trans hsecond)]

end

end Target

/-! ## Setting by statements -/

section

variable {replay : Replay} {token : Token} {a : Attribute} {value : Value} {v : Constant}
  {m : Machine}

/-- Carrying out a statement that sets an attribute sets it in place in the current target, and
changes nothing else. -/
theorem execute_setAttribute (h : m.env.resolve value = .ok v) :
    let applied := m.env.current.target.apply a v
    execute replay (.command token (.setAttribute a.name value)) m =
      { result := applied.1
        machine := { m with
          env := m.env.mapCurrent fun s => { s with target := applied.2 } } } := by
  have hname : Attribute.find a.name = .ok a := by
    rw [Attribute.find, Attribute.named?_eq_some_iff.2 rfl]
  simp only [execute, Action.command, bind, Action.bind, Action.look, hname, h, Action.update,
    Environment.setAttribute, Environment.tryCurrent, Scope.setAttribute]
  cases hset : m.env.current.target.set a v with
  | error e => rw [Target.apply_of_set_error hset]; rfl
  | ok target => rw [Target.apply_of_set hset]; rfl

end

/-- Attributes are independent of each other. One can be set exactly if the target is of the kind
that has it and the constant is one that it can be; then it is that and all else is as before, and
otherwise everything is. So two attributes can be set in either order, and of two values that one is
given the second stays. Statements that set attributes do so, and so does the method that writes to
the target step by step. -/
theorem attributes_independent (t : Target) :
    (∀ a v t', t.apply a v = (.ok (), t') ↔
      t.kind = a.home ∧ ∃ c, a.Coerces v c ∧ t.SetTo a c t') ∧
    (∀ a v, (t.apply a v).1 = .ok () ↔ t.kind = a.home ∧ ∃ c, a.Coerces v c) ∧
    (∀ a v e, (t.apply a v).1 = .error e → (t.apply a v).2 = t) ∧
    (∀ a b v w, a ≠ b →
      ((t.apply a v).2.apply b w).1 = (t.apply b w).1 ∧
      ((t.apply b w).2.apply a v).1 = (t.apply a v).1 ∧
      ((t.apply a v).2.apply b w).2 = ((t.apply b w).2.apply a v).2) ∧
    (∀ a v w, ((t.apply a v).2.apply a w).1 = .ok () →
      (t.apply a v).2.apply a w = t.apply a w) ∧
    (∀ replay token a value v m, m.env.current.target = t → m.env.resolve value = .ok v →
      execute replay (.command token (.setAttribute a.name value)) m =
        { result := (t.apply a v).1
          machine := { m with
            env := m.env.mapCurrent fun s => { s with target := (t.apply a v).2 } } }) ∧
    (∀ a v, a.applyInPlace v t = t.apply a v) := by
  refine ⟨fun a v t' => ?_, fun a v => ?_, fun a v e h => ?_, fun a b v w hab => ?_,
    fun a v w h => ?_, ?_, fun a v => Target.applyInPlace_apply a v t⟩
  · rw [Target.apply_eq_ok_iff, Target.set_eq_ok_iff]
  · rw [Target.apply_fst_eq_ok_iff, Target.exists_set_iff]
  · exact Target.apply_snd_of_error h
  · exact Target.apply_comm v w t hab
  · exact Target.apply_apply v h
  · rintro replay token a value v m rfl h
    exact execute_setAttribute h

/-- A block has a font and a size, in whichever order they are set, and of two justifications the
last one. It has no background and is not justified to the top, and stays as it is. -/
theorem attributes_independent_block :
    let t : Target := .block { text := "a" }
    let m : Machine := { env := ⟨{ target := t }, [{ target := .slide {} }, { target := .file }]⟩ }
    let after (a : Attribute) (v : Constant) (t : Target) : Target := (t.apply a v).2
    after .backgroundColor (.string "red") t = t ∧
    (t.apply .fontColor (.string "red")).1 = .ok () ∧
    after .fontSize (.integer 9) (after .font (.string "Courier") t) =
      after .font (.string "Courier") (after .fontSize (.integer 9) t) ∧
    (after .justify (.string "left") t).apply .justify (.string "right") =
      t.apply .justify (.string "right") ∧
    execute (replay 0 0) (.command ⟨.keyword .selfKw, ⟨0, 's', ⟨0, 1⟩⟩⟩
      (.setAttribute "justify" (.string "top"))) m =
        { result := .error .invalidJustification, machine := m } := by
  intro t m after
  obtain ⟨-, hok, hkept, hcomm, htwice, hexecute, -⟩ := attributes_independent t
  refine ⟨hkept _ _ (.misplacedAttribute .backgroundColor) rfl, (hok _ _).2 ⟨rfl, .color .red, ?_⟩,
    (hcomm _ _ _ _ (by decide)).2.2, htwice _ _ _ rfl,
    hexecute _ _ .justify _ (.string "top") m rfl rfl⟩
  exact .colorName (by decide) (by decide)

end SlideDeck
