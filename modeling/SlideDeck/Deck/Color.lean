/-!
# Colors

Colors have a red, a green, a blue and an alpha channel of eight bits each. Five opaque colors have
names.
-/

namespace SlideDeck

/-- A color with its opacity (`Color`). -/
structure Color where
  r : UInt8
  g : UInt8
  b : UInt8
  a : UInt8
deriving DecidableEq, Repr

namespace Color

/-- The color without transparency (`Color::rgb`). -/
def opaqueRgb (r g b : UInt8) : Color := ⟨r, g, b, 255⟩

def white : Color := opaqueRgb 255 255 255
def black : Color := opaqueRgb 0 0 0
def red : Color := opaqueRgb 255 0 0
def green : Color := opaqueRgb 0 255 0
def blue : Color := opaqueRgb 0 0 255

/-- The color of a name (`Color::named`). -/
def named? : String → Option Color
  | "white" => some white
  | "black" => some black
  | "red" => some red
  | "green" => some green
  | "blue" => some blue
  | _ => none

/-- The channels in decimal, as in `rgba(255, 0, 0, 255)` (`Color::fmt`). -/
def render (c : Color) : String :=
  "rgba(" ++ toString c.r.toNat ++ ", " ++ toString c.g.toNat ++ ", " ++
    toString c.b.toNat ++ ", " ++ toString c.a.toNat ++ ")"

end Color

end SlideDeck
