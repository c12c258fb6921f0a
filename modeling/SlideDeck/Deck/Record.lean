import SlideDeck.Deck.Basic

/-!
# Decks as records

The serialized form of a deck is a tree of records, lists, texts and integers (what is derived for
`Show` and its parts, to serialize and to deserialize). Every field is written under its name.
Reading asks for every field, passes over fields it does not know, and takes a list of all the
values in order for a record; a justification may also be the name of the only field of a record
that holds nothing.

Results:
* `Deck.decode?_encode`: a deck reads back from its serialized form.
-/

namespace SlideDeck

/-- A serialized value. -/
inductive Datum where
  | null
  | integer (n : Int)
  | text (s : String)
  | list (items : List Datum)
  | record (fields : List (String × Datum))
  /-- A value that no part of a deck is written as: a truth value or a fraction. -/
  | other
deriving Inhabited

namespace Datum

/-- The values of the named fields, in the order of the names. -/
def fields? (names : List String) : Datum → Option (List Datum)
  | record fields => names.mapM fun name => fields.lookup name
  | list items => if items.length = names.length then some items else none
  | _ => none

def byte (n : UInt8) : Datum := integer n.toNat

/-- The integer, if it is one of eight bits. -/
def byte? : Datum → Option UInt8
  | integer n => if 0 ≤ n ∧ n < 256 then some (UInt8.ofNat n.toNat) else none
  | _ => none

def text? : Datum → Option String
  | text s => some s
  | _ => none

def list? : Datum → Option (List Datum)
  | list items => some items
  | _ => none

@[simp] theorem byte?_byte (n : UInt8) : (byte n).byte? = some n := by
  have := n.toNat_lt
  simp [byte, byte?]
  omega

@[simp] theorem text?_text (s : String) : (text s).text? = some s := rfl

@[simp] theorem list?_list (items : List Datum) : (list items).list? = some items := rfl

/-- Items that each read back are read back together. -/
theorem mapM_map {α : Type} {decode? : Datum → Option α} {encode : α → Datum}
    (h : ∀ a, decode? (encode a) = some a) (as : List α) :
    (as.map encode).mapM decode? = some as := by
  induction as with
  | nil => rfl
  | cons a as ih => simp [h, ih]

end Datum

namespace Color

def encode (c : Color) : Datum :=
  .record [("r", .byte c.r), ("g", .byte c.g), ("b", .byte c.b), ("a", .byte c.a)]

def decode? (d : Datum) : Option Color := do
  match ← d.fields? ["r", "g", "b", "a"] with
  | [r, g, b, a] => some ⟨← r.byte?, ← g.byte?, ← b.byte?, ← a.byte?⟩
  | _ => none

@[simp] theorem decode?_encode (c : Color) : decode? c.encode = some c := by
  simp [decode?, encode, Datum.fields?, List.lookup_cons]

end Color

namespace Justification

def encode (j : Justification) : Datum := .text j.name

def decode? : Datum → Option Justification
  | .text s => named? s
  | .record [(s, .null)] => named? s
  | _ => none

@[simp] theorem decode?_encode (j : Justification) : decode? j.encode = some j := by
  simp [decode?, encode]

end Justification

namespace Style

def encode (s : Style) : Datum :=
  .record [("font", .text s.font), ("size", .byte s.size), ("color", s.color.encode),
    ("justification", s.justification.encode)]

def decode? (d : Datum) : Option Style := do
  match ← d.fields? ["font", "size", "color", "justification"] with
  | [font, size, color, justification] =>
    some ⟨← font.text?, ← size.byte?, ← Color.decode? color, ← Justification.decode? justification⟩
  | _ => none

@[simp] theorem decode?_encode (s : Style) : decode? s.encode = some s := by
  simp [decode?, encode, Datum.fields?, List.lookup_cons]

end Style

namespace Block

def encode (b : Block) : Datum := .record [("text", .text b.text), ("style", b.style.encode)]

def decode? (d : Datum) : Option Block := do
  match ← d.fields? ["text", "style"] with
  | [text, style] => some ⟨← text.text?, ← Style.decode? style⟩
  | _ => none

@[simp] theorem decode?_encode (b : Block) : decode? b.encode = some b := by
  simp [decode?, encode, Datum.fields?, List.lookup_cons]

end Block

namespace Slide

def encode (s : Slide) : Datum :=
  .record [("background", s.background.encode), ("blocks", .list (s.blocks.map Block.encode))]

def decode? (d : Datum) : Option Slide := do
  match ← d.fields? ["background", "blocks"] with
  | [background, blocks] =>
    some ⟨← Color.decode? background, ← (← blocks.list?).mapM Block.decode?⟩
  | _ => none

@[simp] theorem decode?_encode (s : Slide) : decode? s.encode = some s := by
  simp [decode?, encode, Datum.fields?, List.lookup_cons, Datum.mapM_map Block.decode?_encode]

end Slide

namespace Deck

def encode (d : Deck) : Datum := .record [("slides", .list (d.slides.map Slide.encode))]

def decode? (d : Datum) : Option Deck := do
  match ← d.fields? ["slides"] with
  | [slides] => some ⟨← (← slides.list?).mapM Slide.decode?⟩
  | _ => none

@[simp] theorem decode?_encode (d : Deck) : decode? d.encode = some d := by
  simp [decode?, encode, Datum.fields?, List.lookup_cons, Datum.mapM_map Slide.decode?_encode]

end Deck

end SlideDeck
