import SlideDeck.Scope.Error

/-!
# Setting attributes

An attribute takes constants of one type, and only a target of its home scope has it. A color or a
justification may be given by name.

Results:
* `Target.kind_set`: setting an attribute keeps the kind of the target.
* `Target.set_eq_error_of_kind_ne`: a target of another kind does not have the attribute.
-/

namespace SlideDeck

/-- The attribute that a statement names (`Compiler::process`). -/
def Attribute.find (name : String) : Except CompileError Attribute :=
  match named? name with
  | some a => .ok a
  | none => .error (.unknownAttribute name)

namespace Constant

/-- The color that the attribute is to have (`Attribute::color`). -/
def toColor (a : Attribute) : Constant → Except CompileError Color
  | color c => .ok c
  | string name =>
    match Color.named? name with
    | some c => .ok c
    | none => .error (.unknownColor name)
  | integer _ => .error (.expectedColor a .integer)

/-- The justification that a block is to have (`Attribute::apply`). -/
def toJustification : Constant → Except CompileError Justification
  | string name =>
    match Justification.named? name with
    | some j => .ok j
    | none => .error .invalidJustification
  | _ => .error .invalidJustification

/-- The font that a block is to have (`Attribute::apply`). -/
def toFont : Constant → Except CompileError String
  | string font => .ok font
  | other => .error (.expectedFontName other.kind)

/-- The font size that a block is to have (`Attribute::apply`). -/
def toFontSize : Constant → Except CompileError UInt8
  | integer size => .ok size
  | other => .error (.expectedFontSize other.kind)

end Constant

namespace Target

/-- The target with the attribute set (`Attribute::apply`). -/
def set (a : Attribute) (v : Constant) (t : Target) : Except CompileError Target :=
  match a, t with
  | .backgroundColor, slide s => (v.toColor a).map fun c => slide { s with background := c }
  | .fontColor, block b => (v.toColor a).map fun c => block { b with style.color := c }
  | .justify, block b => v.toJustification.map fun j => block { b with style.justification := j }
  | .font, block b => v.toFont.map fun f => block { b with style.font := f }
  | .fontSize, block b => v.toFontSize.map fun n => block { b with style.size := n }
  | a, _ => .error (.misplacedAttribute a)

theorem kind_set {a : Attribute} {v : Constant} {t t' : Target} (h : t.set a v = .ok t') :
    t'.kind = t.kind := by
  unfold set at h
  split at h
  · cases hv : v.toColor .backgroundColor <;> simp_all [Except.map]; subst h; rfl
  · cases hv : v.toColor .fontColor <;> simp_all [Except.map]; subst h; rfl
  · cases hv : v.toJustification <;> simp_all [Except.map]; subst h; rfl
  · cases hv : v.toFont <;> simp_all [Except.map]; subst h; rfl
  · cases hv : v.toFontSize <;> simp_all [Except.map]; subst h; rfl
  · simp at h

theorem set_eq_error_of_kind_ne {a : Attribute} {t : Target} (v : Constant) (h : t.kind ≠ a.home) :
    t.set a v = .error (.misplacedAttribute a) := by
  cases a <;> cases t <;> first | rfl | exact absurd rfl h

end Target

end SlideDeck
