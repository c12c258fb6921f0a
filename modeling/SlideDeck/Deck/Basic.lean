import SlideDeck.Deck.Color

/-!
# Decks of slides

A deck is a sequence of slides, a slide has a background and a sequence of text blocks, and each
block has a style of its own. What a source leaves unsaid is filled in from the defaults here.
-/

namespace SlideDeck

/-- The side on which the lines of a block are aligned (`Justification`). -/
inductive Justification where
  | left
  | right
  | center
deriving DecidableEq, Repr

namespace Justification

def name : Justification → String
  | left => "left"
  | right => "right"
  | center => "center"

/-- The justification of a name (`Justification::from_name`). -/
def named? : String → Option Justification
  | "left" => some left
  | "right" => some right
  | "center" => some center
  | _ => none

@[simp] theorem named?_name (j : Justification) : named? j.name = some j := by
  cases j <;> rfl

theorem eq_name_of_named? {s : String} {j : Justification} (h : named? s = some j) :
    s = j.name := by
  unfold named? at h
  split at h <;> simp_all <;> subst h <;> rfl

end Justification

/-- The font of a block that sets none (`DEFAULT_FONT`). -/
def defaultFont : String := "Times New Roman"

/-- The point size of a block that sets none (`DEFAULT_FONT_SIZE`). -/
def defaultFontSize : UInt8 := 12

/-- How the text of a block is drawn (`Style`, with `Style::default`). -/
structure Style where
  font : String := defaultFont
  size : UInt8 := defaultFontSize
  color : Color := .black
  justification : Justification := .left
deriving DecidableEq, Repr

/-- A styled piece of text (`Block`). -/
structure Block where
  text : String := ""
  style : Style := {}
deriving DecidableEq, Repr

/-- One page (`Slide`, with `Slide::default`). -/
structure Slide where
  background : Color := .white
  blocks : List Block := []
deriving DecidableEq, Repr

/-- A whole presentation (`Show`). -/
structure Deck where
  slides : List Slide := []
deriving DecidableEq, Repr

end SlideDeck
