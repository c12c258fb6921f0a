import Mathlib.Data.List.Forall2
import SlideDeck.Proofs.Statement.Viable

/-!
# Tokens behind complete statements

What complete statements stand in front of is parsed as if it stood alone: a statement ends with its
last token, whatever follows, and the end of the input is the same token.

Results:
* `endToken_append`: the end of the input is behind the last token, whatever stands in front.
* `Derives.parse_append`: tokens behind those of complete statements are parsed as they are alone.
* `Derives.parse_flatten`: so are the last of any number of parts.
* `parse_append_of_ok`: the statements, the diagnostics and the success of what follows.
-/

namespace SlideDeck

variable {a b : List Token} {statements : List Statement}

/-! ## The end of the input -/

/-- Only the last token tells where the input ends. -/
theorem endToken_append (hb : b ≠ []) : endToken (a ++ b) = endToken b := by
  have hlast := List.getLast?_eq_some_getLast hb
  rw [endToken, endToken, List.getLast?_append, hlast, Option.some_or]

/-- Faults of what follows are reported as if it stood alone. -/
theorem filterMap_report?_append (a b : List Token) (depth : Nat) :
    (items depth b).filterMap (Item.report? (a ++ b)) =
      (items depth b).filterMap (Item.report? b) := by
  cases b with
  | nil =>
    rw [items]
    rfl
  | cons t rest =>
    have hend : endToken (a ++ t :: rest) = endToken (t :: rest) :=
      endToken_append (List.cons_ne_nil t rest)
    have hreport : Item.report? (a ++ t :: rest) = Item.report? (t :: rest) := by
      funext item
      cases item with
      | fault e found => rw [Item.report?, Item.report?, hend]
      | command | opening | closing => rfl
    rw [hreport]

/-! ## Parsing -/

/-- Tokens behind those of complete statements are parsed as they are alone. -/
theorem Derives.parse_append (h : Derives a statements) (b : List Token) :
    parse (a ++ b) = ⟨statements ++ (parse b).value, (parse b).reports⟩ := by
  obtain ⟨found, hitems, hfault, hnest⟩ := h.exists_items
  rw [parse, hitems, List.filterMap_append, filterMap_report?_of_notMem hfault,
    filterMap_report?_append, nest_append, hnest]
  rfl

/-- The last of any number of parts is parsed as it is alone if all others spell statements. -/
theorem Derives.parse_flatten {parts : List (List Token)} {all : List (List Statement)}
    (h : List.Forall₂ Derives parts all) (b : List Token) :
    parse (parts.flatten ++ b) = ⟨all.flatten ++ (parse b).value, (parse b).reports⟩ := by
  induction h with
  | nil => rfl
  | cons hpart _ ih =>
    rw [List.flatten_cons, List.flatten_cons, List.append_assoc, hpart.parse_append, ih,
      List.append_assoc]

/-- Tokens that are parsed without a fault can be put in front of any others: their statements come
first, and the others add what they come to alone, with the same reports and diagnostics. All are
parsed without a fault exactly if the others are. -/
theorem parse_append_of_ok (h : (parse a).result = .ok statements) (b : List Token) :
    (parse (a ++ b)).value = statements ++ (parse b).value ∧
    (parse (a ++ b)).reports = (parse b).reports ∧
    (parse (a ++ b)).diagnostics = (parse b).diagnostics ∧
    ((∃ all, (parse (a ++ b)).result = .ok all) ↔ ∃ rest, (parse b).result = .ok rest) := by
  have hparse := Derives.parse_append ((parse_eq_ok_iff a statements).1 h) b
  have hreports : (parse (a ++ b)).reports = (parse b).reports := by rw [hparse]
  refine ⟨by rw [hparse], hreports, congrArg (List.map Report.diagnostic) hreports, ?_⟩
  simp only [Outcome.result_eq_ok_iff, Outcome.isOk, hreports, exists_and_left, exists_eq',
    and_true]

/-- A text stands in front of a slide that is never closed, in which a statement is cut off by the
end of the input. -/
theorem parse_append_of_ok_unclosed :
    let token (symbol : Symbol) (n : Nat) : Token := ⟨symbol, ⟨1, 'a', ⟨n, n + 1⟩⟩⟩
    let text := token (.text "x") 0
    let slide := token (.keyword .slideKw) 1
    let rest := [slide, token (.identifier "s") 2, token (.punct .leftBrace) 3,
      token (.keyword .letKw) 4]
    (parse [text]).result = .ok [.command text (.text "x")] ∧
      (parse ([text] ++ rest)).value = [.command text (.text "x")] ++ (parse rest).value ∧
      (parse ([text] ++ rest)).reports = (parse rest).reports ∧
      (parse rest).reports.map (·.span) = [.emptyAt 5, slide.mark.span] := by
  intro token text slide rest
  have hrule : CommandRule (text.symbol :: [].map Token.symbol) (.text "x") := .text "x"
  have h : (parse [text]).result = .ok [.command text (.text "x")] :=
    (parse_eq_ok_iff _ _).2 (.command hrule .nil)
  obtain ⟨hvalue, hreports, -, -⟩ := parse_append_of_ok h rest
  exact ⟨h, hvalue, hreports, by decide +kernel⟩

end SlideDeck
