import SlideDeck.Deck.Basic

/-!
# What a scope builds

The statements at the top of a file build the deck as a whole; those in the body of a slide or block
build that slide or block.
-/

namespace SlideDeck

inductive ScopeKind where
  | file
  | slide
  | block
deriving DecidableEq, Repr

/-- The name that events use (`ScopeKind::fmt`). -/
def ScopeKind.name : ScopeKind → String
  | file => "file"
  | slide => "slide"
  | block => "block"

/-- What is being built, as far as it has got (`Target`). -/
inductive Target where
  | file
  | slide (s : Slide)
  | block (b : Block)
deriving DecidableEq, Repr

/-- The kind of scope that builds the target (`Target::kind`). -/
def Target.kind : Target → ScopeKind
  | file => .file
  | slide _ => .slide
  | block _ => .block

/-- What a scope of the kind starts with. -/
def ScopeKind.blank : ScopeKind → Target
  | file => .file
  | slide => .slide {}
  | block => .block {}

@[simp] theorem ScopeKind.kind_blank (k : ScopeKind) : k.blank.kind = k := by cases k <;> rfl

end SlideDeck
