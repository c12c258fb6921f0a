import SlideDeck.Proofs.Statement.Preorder
import SlideDeck.Scope.Attribute

/-!
# The deck that statements describe

Read as a description, a list of statements tells a slide for each slide that is declared in it, and
the body of a slide a block for each block that is declared there. What the body of a declaration
says last about a property is the property; where it says nothing, the property is that of the
latest earlier declaration with the name of the parent, or the default if there is no parent. No
statement is carried out for that, and no property depends on another.

Results:
* `Takes.cons`: what a body says last is what its rest says last, or else what its first statement
  says.
* `Described.inherited_eq`: what is inherited can be looked up in the things that are described.
-/

namespace SlideDeck

/-- A slide or block as it is declared. -/
structure Declaration where
  name : String
  parent : Option String
  body : List Statement

namespace Statement

/-- The slide that the statement declares. -/
def slide? : Statement → Option Declaration
  | .compound _ (.slide name parent) body => some ⟨name, parent, body⟩
  | _ => none

/-- The block that the statement declares. -/
def block? : Statement → Option Declaration
  | .compound _ (.block name parent) body => some ⟨name, parent, body⟩
  | _ => none

/-- The text that the statement gives. -/
def text? : Statement → Option String
  | .command _ (.text content) => some content
  | _ => none

/-- The value that the statement gives to the attribute. -/
def valueOf? (a : Attribute) : Statement → Option Value
  | .command _ (.setAttribute name value) => if name = a.name then some value else none
  | _ => none

end Statement

def Value.isLiteral : Value → Bool
  | .reference _ => false
  | _ => true

/-- Every value is a literal, at any nesting. -/
def Literal (statements : List Statement) : Prop :=
  ∀ s ∈ preorder statements, ∀ v, s.value? = some v → v.isLiteral = true

/-! ## What a literal stands for -/

namespace Value

/-- A color is given by its channels or by its name. -/
def color? : Value → Option Color
  | .color c => some c
  | .string name => Color.named? name
  | _ => none

def justification? : Value → Option Justification
  | .string name => Justification.named? name
  | _ => none

def font? : Value → Option String
  | .string font => some font
  | _ => none

def fontSize? : Value → Option UInt8
  | .integer size => some size
  | _ => none

end Value

/-! ## Descriptions -/

/-- The slides that are declared in the list itself, in order. -/
def slidesIn (statements : List Statement) : List Declaration :=
  statements.filterMap Statement.slide?

/-- The blocks that are declared in the list itself, in order. -/
def blocksIn (statements : List Statement) : List Declaration :=
  statements.filterMap Statement.block?

section

variable {α β : Type}

/-- What the statements of the list itself say last. -/
def lastOf (says? : Statement → Option β) (statements : List Statement) : Option β :=
  (statements.filterMap says?).getLast?

/-- The attribute that a declaration with the parent starts with, given the earlier declarations
with the latest one first: that of the latest one with the name of the parent. Each of them has the
last value that its body gives to the attribute, and else what it started with itself. -/
def inherited (a : Attribute) (read? : Value → Option α) (default : α) :
    (parent : Option String) → (before : List Declaration) → Option α
  | none, _ => some default
  | some _, [] => none
  | some parent, d :: before =>
    if parent = d.name then
      (lastOf (·.valueOf? a) d.body).elim (inherited a read? default d.parent before) read?
    else inherited a read? default (some parent) before

/-- An attribute of a declaration that comes after others, the latest of them first. -/
def Declaration.attribute (a : Attribute) (read? : Value → Option α) (default : α)
    (before : List Declaration) (d : Declaration) : Option α :=
  (lastOf (·.valueOf? a) d.body).elim (inherited a read? default d.parent before) read?

/-- What the declarations stand for, each of them given those before it with the latest one
first. -/
def inTurn (meaning : List Declaration → Declaration → Option α) :
    (before : List Declaration) → List Declaration → Option (List α)
  | _, [] => some []
  | before, d :: rest => do
    let first ← meaning before d
    let others ← inTurn meaning (d :: before) rest
    return first :: others

end

/-- The block that the declaration describes behind earlier ones of its slide. -/
def describedBlock (before : List Declaration) (d : Declaration) : Option Block := do
  let font ← d.attribute .font Value.font? defaultFont before
  let size ← d.attribute .fontSize Value.fontSize? defaultFontSize before
  let color ← d.attribute .fontColor Value.color? .black before
  let justification ← d.attribute .justify Value.justification? .left before
  let text := (lastOf Statement.text? d.body).getD ""
  return { text, style := { font, size, color, justification } }

/-- The slide that the declaration describes behind earlier ones. -/
def describedSlide (before : List Declaration) (d : Declaration) : Option Slide := do
  let background ← d.attribute .backgroundColor Value.color? .white before
  let blocks ← inTurn describedBlock [] (blocksIn d.body)
  return { background, blocks }

/-- The deck that the statements describe, unless a parent is missing or a value stands for
nothing. -/
def describedDeck (statements : List Statement) : Option Deck :=
  (inTurn describedSlide [] (slidesIn statements)).map Deck.mk

/-! ## What a list says last -/

section

variable {α β : Type}

/-- A property has the value that is said of it, or stays as it was if nothing is said. -/
def Takes (said : Option β) (read? : β → Option α) (before after : α) : Prop :=
  match said with
  | none => after = before
  | some v => read? v = some after

variable {said : Option β} {read? : β → Option α} {a b c : α}

theorem Takes.elim_eq (h : Takes said read? a b) : said.elim (some a) read? = some b := by
  cases said with
  | none => exact congrArg some h.symm
  | some v => exact h

@[simp] theorem lastOf_nil (says? : Statement → Option β) : lastOf says? [] = none := rfl

theorem lastOf_cons (says? : Statement → Option β) (s : Statement) (rest : List Statement) :
    lastOf says? (s :: rest) = (lastOf says? rest).or (says? s) := by
  cases hs : says? s with
  | none => simp [lastOf, hs]
  | some v =>
    simp only [lastOf, List.filterMap_cons, hs, List.getLast?_cons]
    cases (rest.filterMap says?).getLast? <;> rfl

/-- What a list says last is what its rest says last, or else what its first statement says. -/
theorem Takes.cons (says? : Statement → Option β) {s : Statement} {rest : List Statement}
    (h : Takes (says? s) read? a b) (hrest : Takes (lastOf says? rest) read? b c) :
    Takes (lastOf says? (s :: rest)) read? a c := by
  rw [lastOf_cons]
  cases hlast : lastOf says? rest with
  | none =>
    rw [hlast] at hrest
    obtain rfl : c = b := hrest
    exact h
  | some v =>
    rw [hlast] at hrest
    exact hrest

end

/-! ## What is inherited -/

section

variable {α β : Type}

theorem inTurn_cons {meaning : List Declaration → Declaration → Option β}
    {before rest : List Declaration} {d : Declaration} {b : β} {others : List β}
    (hfirst : meaning before d = some b)
    (hothers : inTurn meaning (d :: before) rest = some others) :
    inTurn meaning before (d :: rest) = some (b :: others) := by
  simp [inTurn, hfirst, hothers]

/-- The declarations, the latest one first, stand for the entries, each under its name. -/
inductive Described (meaning : List Declaration → Declaration → Option β) :
    (before : List Declaration) → (entries : List (String × β)) → Prop
  | nil : Described meaning [] []
  | cons {before : List Declaration} {entries : List (String × β)} {d : Declaration} {b : β} :
      meaning before d = some b → Described meaning before entries →
      Described meaning (d :: before) ((d.name, b) :: entries)

/-- What is inherited can be looked up in what the earlier declarations stand for. -/
theorem Described.inherited_eq {meaning : List Declaration → Declaration → Option β}
    {before : List Declaration} {entries : List (String × β)}
    (h : Described meaning before entries) {a : Attribute} {read? : Value → Option α} {default : α}
    (get : β → α) (hget : ∀ before d b, meaning before d = some b →
      d.attribute a read? default before = some (get b))
    {parent : String} {b : β} (hfound : entries.lookup parent = some b) :
    inherited a read? default (some parent) before = some (get b) := by
  induction h with
  | nil => cases hfound
  | @cons before entries d first hfirst _ ih =>
    rw [inherited]
    rw [List.lookup_cons] at hfound
    split
    · rename_i hname
      simp only [hname, beq_self_eq_true, Option.some.injEq] at hfound
      exact hfound ▸ hget before d first hfirst
    · rename_i hname
      simp only [beq_eq_false_iff_ne.2 hname] at hfound
      exact ih hfound

end

theorem describedBlock_eq_some_iff {before : List Declaration} {d : Declaration} {b : Block} :
    describedBlock before d = some b ↔ b.text = (lastOf Statement.text? d.body).getD "" ∧
      d.attribute .font Value.font? defaultFont before = some b.style.font ∧
      d.attribute .fontSize Value.fontSize? defaultFontSize before = some b.style.size ∧
      d.attribute .fontColor Value.color? .black before = some b.style.color ∧
      d.attribute .justify Value.justification? .left before = some b.style.justification := by
  obtain ⟨text, font, size, color, justification⟩ := b
  simp only [describedBlock, Option.bind_eq_bind, Option.bind_eq_some_iff, Option.pure_def,
    Option.some.injEq, Block.mk.injEq, Style.mk.injEq]
  grind

theorem describedSlide_eq_some_iff {before : List Declaration} {d : Declaration} {slide : Slide} :
    describedSlide before d = some slide ↔
      d.attribute .backgroundColor Value.color? .white before = some slide.background ∧
      inTurn describedBlock [] (blocksIn d.body) = some slide.blocks := by
  obtain ⟨background, blocks⟩ := slide
  simp only [describedSlide, Option.bind_eq_bind, Option.bind_eq_some_iff, Option.pure_def,
    Option.some.injEq, Slide.mk.injEq]
  grind

/-! ## Literals -/

section

variable {s : Statement} {rest body statements : List Statement} {t : Token} {opening : Head}

theorem Literal.head (h : Literal (s :: rest)) : ∀ v, s.value? = some v → v.isLiteral = true :=
  h s (mem_preorder_head s rest)

theorem Literal.tail (h : Literal (s :: rest)) : Literal rest :=
  fun s' hs' => h s' (preorder_subset_cons s rest hs')

theorem Literal.of_mem (h : Literal statements)
    (hmem : .compound t opening body ∈ preorder statements) : Literal body :=
  fun s hs => h s (preorder_subset_of_mem hmem hs)

end

end SlideDeck
