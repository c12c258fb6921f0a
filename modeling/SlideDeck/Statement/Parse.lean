import SlideDeck.Statement.Item

/-!
# The statements of a list of tokens

The flat items are nested: what stands between the head of a declaration and its closing brace is
the body. A declaration that is never closed is reported at the token that introduced it and
dropped, the innermost first, after all other faults. The statements around faults are kept.

Results:
* `nest_append`: nesting works from the end, so a list of items is nested onto what follows it.
* `report_endToken`: what is reported at the end of the input.
-/

namespace SlideDeck

/-- What the items seen so far, from the last one on, nest to. -/
structure Nesting where
  /-- The statements of the body that is open, or those at the top. -/
  level : List Statement := []
  /-- For each closing brace whose declaration is yet to come, the statements after it, innermost
  first. -/
  outer : List (List Statement) := []
  /-- The declarations without a closing brace, innermost first. -/
  unclosed : List (Token × Head) := []
deriving DecidableEq, Repr

/-- Puts an item in front (`ParseState::body`: what an opened and closed body becomes). -/
def Nesting.add : Item → Nesting → Nesting
  | .command t c, n => { n with level := .command t c :: n.level }
  | .closing, n => { n with level := [], outer := n.level :: n.outer }
  | .opening t head, n =>
    match n.outer with
    | after :: outer => { n with level := .compound t head n.level :: after, outer := outer }
    | [] => { n with level := [], unclosed := n.unclosed ++ [(t, head)] }
  | .fault _ _, n => n

/-- The items, nested onto what follows them. -/
def nestOnto (n : Nesting) (items : List Item) : Nesting := items.foldr Nesting.add n

theorem nest_append (n : Nesting) (a b : List Item) :
    nestOnto n (a ++ b) = nestOnto (nestOnto n b) a :=
  List.foldr_append

/-- The end of the input as a token: behind the last token, on its line (`ParseState::new`). -/
def endToken (tokens : List Token) : Token where
  symbol := .endOfInput
  mark := match tokens.getLast? with
    | some last => ⟨last.mark.line, '\x00', .emptyAt last.mark.span.stop⟩
    | none => ⟨1, '\x00', .emptyAt 0⟩

/-- The report of a fault at a token; the end of the input has no character (`token_error`). -/
def Token.report (t : Token) (e : ParseError) : Report ParseError :=
  { t.mark.report e with char := if t.symbol = .endOfInput then none else some t.mark.char }

/-- What is reported at the end of the input stands behind the last token, on its line. -/
theorem report_endToken {tokens : List Token} {last : Token} (h : tokens.getLast? = some last)
    (e : ParseError) : (endToken tokens).report e =
      ⟨e, last.mark.line, none, .emptyAt last.mark.span.stop⟩ := by
  rw [Token.report, endToken, h]
  rfl

/-- The report of the fault that an item is. -/
def Item.report? (tokens : List Token) : Item → Option (Report ParseError)
  | fault e found => some ((found.getD (endToken tokens)).report e)
  | _ => none

/-- The statements that the tokens spell (`Parser::parse`). -/
def parse (tokens : List Token) : Outcome ParseError (List Statement) :=
  let nesting := nestOnto {} (items 0 tokens)
  { value := nesting.level
    reports := (items 0 tokens).filterMap (Item.report? tokens) ++
      nesting.unclosed.map fun (t, head) => t.report (.unclosed head.name) }

end SlideDeck
