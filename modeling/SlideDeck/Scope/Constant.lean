import SlideDeck.Deck.Color

/-!
# Constants

The values that variables hold and that attributes are set to.
-/

namespace SlideDeck

/-- A value that is not to be looked up any more (`Constant`). -/
inductive Constant where
  | integer (n : UInt8)
  | string (s : String)
  | color (c : Color)
deriving DecidableEq, Repr

inductive ConstantKind where
  | integer
  | string
  | color
deriving DecidableEq, Repr

/-- The name that messages use (`Constant::type_name`). -/
def ConstantKind.name : ConstantKind → String
  | integer => "Integer"
  | string => "String"
  | color => "Color"

namespace Constant

def kind : Constant → ConstantKind
  | integer _ => .integer
  | string _ => .string
  | color _ => .color

/-- The constant as it is shown; a string stands between quotes (`Constant::fmt`). -/
def render : Constant → String
  | integer n => toString n.toNat
  | string s => "\"" ++ s ++ "\""
  | color c => c.render

end Constant

end SlideDeck
