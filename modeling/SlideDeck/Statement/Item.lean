import SlideDeck.Statement.Reader

/-!
# Items

A list of tokens is first read as a flat list of items: commands, the heads and closing braces of
declarations, and faults. After a fault the tokens through the next semicolon are dropped. A closing
brace is an item only where a declaration is open.

Results:
* `composed_after?`: the reader of a statement is put together from readers of one token.
* `length_resume_le`: dropping tokens after a fault takes at least one, if there is one.
* `firstItem_suffix`, `length_firstItem_le`: every item takes at least one token off the front.
-/

namespace SlideDeck

inductive Item where
  | command (token : Token) (command : Command)
  /-- The head of a declaration, through its opening brace. -/
  | opening (token : Token) (head : Head)
  | closing
  /-- Tokens that are no statement, with the first that does not fit, or none at the end of the
  input. -/
  | fault (error : ParseError) (found : Option Token)
deriving DecidableEq, Repr

namespace Item

open Reader

/-- The reader of what follows the first token of a statement, or none if no statement starts so
(`ParseState::declaration`, `ParseState::scoped`, `ParseState::call`, `ParseState::assignment`). -/
def after? (t : Token) : Option (Reader Item) :=
  match t.symbol with
  | .text content => some (pure (command t (.text content)))
  | .keyword .slideKw => some do
    let name ← Reader.name
    let parent ← parent?
    mark .leftBrace
    return opening t (.slide name parent)
  | .keyword .blockKw => some do
    let name ← Reader.name
    let parent ← parent?
    mark .leftBrace
    return opening t (.block name parent)
  | .keyword .macroKw => some do
    let name ← Reader.name
    noArguments
    mark .leftBrace
    return opening t (.macroDef name)
  | .punct .dollarSign => some do
    let name ← Reader.name
    noArguments
    mark .semicolon
    return command t (.call name)
  | .keyword .letKw => some do
    let name ← Reader.name
    return command t (.declare name false (← assigned))
  | .keyword .mutKw => some do
    let name ← Reader.name
    return command t (.declare name true (← assigned))
  | .keyword .selfKw => some do
    mark .dot
    let name ← Reader.name
    return command t (.setAttribute name (← assigned))
  | .identifier name => some do
    return command t (.assign name (← assigned))
  | _ => none

/-- How many declarations are open after the item. -/
def depthAfter (depth : Nat) : Item → Nat
  | opening _ _ => depth + 1
  | closing => depth - 1
  | _ => depth

theorem composed_after? {t : Token} {r : Reader Item} (h : after? t = some r) : Composed r := by
  unfold after? at h
  split at h <;> simp only [Option.some.injEq, reduceCtorEq] at h <;> subst h
  · exact .pure _
  · exact .bind composed_name fun _ => .bind composed_parent? fun _ =>
      .bind (composed_mark _) fun _ => .pure _
  · exact .bind composed_name fun _ => .bind composed_parent? fun _ =>
      .bind (composed_mark _) fun _ => .pure _
  · exact .bind composed_name fun _ => .bind composed_noArguments fun _ =>
      .bind (composed_mark _) fun _ => .pure _
  · exact .bind composed_name fun _ => .bind composed_noArguments fun _ =>
      .bind (composed_mark _) fun _ => .pure _
  · exact .bind composed_name fun _ => .bind composed_assigned fun _ => .pure _
  · exact .bind composed_name fun _ => .bind composed_assigned fun _ => .pure _
  · exact .bind (composed_mark _) fun _ => .bind composed_name fun _ =>
      .bind composed_assigned fun _ => .pure _
  · exact .bind composed_assigned fun _ => .pure _

end Item

/-- The tokens after the next semicolon (`ParseState::synchronize`). -/
def resume (tokens : List Token) : List Token :=
  (tokens.dropWhile fun t => t.symbol != .punct .semicolon).drop 1

theorem resume_suffix (tokens : List Token) : resume tokens <:+ tokens :=
  (List.drop_suffix 1 _).trans (List.dropWhile_suffix _)

theorem length_resume_le (tokens : List Token) : (resume tokens).length ≤ tokens.length - 1 := by
  have h := (List.dropWhile_suffix (l := tokens) fun t => t.symbol != .punct .semicolon).length_le
  simp only [resume, List.length_drop]
  omega

/-- What the first token starts, with the tokens after it; `nested` tells whether a declaration is
open (one turn of the loop of `ParseState::body` if so, and of that of `Parser::parse` if not). -/
def firstItem (nested : Bool) (t : Token) (rest : List Token) : Item × List Token :=
  if nested ∧ t.symbol = .punct .rightBrace then (.closing, rest)
  else match Item.after? t with
    | none => (.fault (.unexpected t.kind) (some t), resume (t :: rest))
    | some reader =>
      match reader rest with
      | .ok item left => (item, left)
      | .error e left => (.fault e left.head?, resume left)

/-- What the first item leaves is the end of what follows its first token. -/
theorem firstItem_suffix (nested : Bool) (t : Token) (rest : List Token) :
    (firstItem nested t rest).2 <:+ rest := by
  unfold firstItem
  split
  · exact List.suffix_refl _
  split
  · exact List.suffix_of_suffix_length_le (resume_suffix (t :: rest)) (List.suffix_cons t rest)
      (length_resume_le (t :: rest))
  · rename_i reader hr
    have h := (Item.composed_after? hr).takesFront rest
    split
    · rename_i item left hok
      simpa [hok, Reader.left] using h
    · rename_i e left herr
      simp only [herr, Reader.left] at h
      exact (resume_suffix left).trans h

theorem length_firstItem_le (nested : Bool) (t : Token) (rest : List Token) :
    (firstItem nested t rest).2.length ≤ rest.length :=
  (firstItem_suffix nested t rest).length_le

/-- The items of the tokens, with `depth` declarations open before the first (all turns of these
loops). -/
def items (depth : Nat) : List Token → List Item
  | [] => []
  | t :: rest =>
    let first := firstItem (0 < depth) t rest
    first.1 :: items (first.1.depthAfter depth) first.2
termination_by tokens => tokens.length
decreasing_by exact Nat.lt_succ_of_le (length_firstItem_le _ t rest)

theorem items_cons {depth : Nat} {t : Token} {rest left : List Token} {item : Item}
    (h : firstItem (0 < depth) t rest = (item, left)) :
    items depth (t :: rest) = item :: items (item.depthAfter depth) left := by
  rw [items, h]

end SlideDeck
