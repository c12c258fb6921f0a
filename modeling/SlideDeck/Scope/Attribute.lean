import SlideDeck.Scope.Target

/-!
# Attributes

The properties of a slide or block that a statement can set, each under a name of its own.

Results:
* `Attribute.named?_eq_some_iff`: an attribute is known by its name.
-/

namespace SlideDeck

inductive Attribute where
  | backgroundColor
  | justify
  | font
  | fontColor
  | fontSize
deriving DecidableEq, Repr

namespace Attribute

/-- The name that statements and messages use (`Attribute::name`). -/
def name : Attribute → String
  | backgroundColor => "backgroundColor"
  | justify => "justify"
  | font => "font"
  | fontColor => "fontColor"
  | fontSize => "fontSize"

/-- The attribute of a name (`Attribute::from_name`). -/
def named? : String → Option Attribute
  | "backgroundColor" => some backgroundColor
  | "justify" => some justify
  | "font" => some font
  | "fontColor" => some fontColor
  | "fontSize" => some fontSize
  | _ => none

/-- The kind of scope that has the attribute (`Attribute::scope`). -/
def home : Attribute → ScopeKind
  | backgroundColor => .slide
  | _ => .block

/-- What has the attribute, in the plural (`Attribute::misplaced`). -/
def owners (a : Attribute) : String :=
  match a.home with
  | .slide => "slides"
  | _ => "blocks"

theorem named?_eq_some_iff {s : String} {a : Attribute} : named? s = some a ↔ s = a.name := by
  constructor
  · intro h
    unfold named? at h
    split at h <;> simp_all <;> subst h <;> rfl
  · rintro rfl
    cases a <;> rfl

end Attribute

end SlideDeck
