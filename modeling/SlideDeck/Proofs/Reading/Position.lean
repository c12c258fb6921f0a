import SlideDeck.Proofs.Run.Agreement
import SlideDeck.Proofs.Statement.Symbols
import SlideDeck.Token.Lex

/-!
# Positions and meaning

Positions are for diagnostics only. Tokens of the same symbols spell the same statements, with the
same messages about faults, wherever they stand in a source; and the statements describe the same
deck. One message quotes a position: that of an assignment to a variable which may not change names
the line of its declaration.

Results:
* `agree_runWithin`: statements that differ in the positions of their tokens run alike.
* `positions_irrelevant`: what tokens come to does not depend on where they stand.
-/

namespace SlideDeck

/-- All but positions. -/
def Aspect.symbols : Aspect where
  token := Token.SameSymbol
  line := fun _ _ => True
  slides := True
  line_of_token := fun _ => trivial

/-- The messages are the same, but for the line of a declaration. -/
inductive SameButLine : String → String → Prop
  | refl (message : String) : SameButLine message message
  | immutableAssignment (name : String) (line line' : Nat) :
      SameButLine (CompileError.immutableAssignment name line).message
        (CompileError.immutableAssignment name line').message

variable {a : Aspect}

theorem CompileError.Agree.message {e e' : CompileError} (h : e.Agree a e') :
    SameButLine e.message e'.message := by
  cases h with
  | refl e => exact .refl _
  | immutableAssignment _ => exact .immutableAssignment _ _ _

theorem Report.Agree.message {r r' : Report CompileError} (h : r.Agree a r') :
    SameButLine r.diagnostic.message r'.diagnostic.message := by
  cases h with
  | intro _ he => exact he.message

/-- A machine at the start of a file agrees with itself. -/
theorem Machine.agree_initial (a : Aspect) : Machine.Agree a {} {} :=
  ⟨.cons (.new a .file) .nil, rfl, .nil⟩

/-- Statements that differ in the positions of their tokens run alike. -/
theorem agree_runWithin (limit : Nat) {statements statements' : List Statement}
    (h : List.Forall₂ (Statement.Alike Token.SameSymbol) statements statements') :
    (runWithin limit statements).1.Agree .symbols (runWithin limit statements').1 :=
  (runs_runWithin limit statements).agree h (Machine.agree_initial _) (.inl trivial)

/-- What tokens come to does not depend on where they stand: neither whether they can be parsed nor
the statements nor the deck, nor any message but for the line that it may quote. -/
theorem positions_irrelevant {tokens tokens' : List Token}
    (h : tokens.map Token.symbol = tokens'.map Token.symbol) :
    let parsed := parse tokens
    let parsed' := parse tokens'
    parsed.isOk = parsed'.isOk ∧
      List.Forall₂ (Statement.Alike Token.SameSymbol) parsed.value parsed'.value ∧
      parsed.diagnostics.map Diagnostic.message = parsed'.diagnostics.map Diagnostic.message ∧
      ∀ limit : UInt64, ∃ o o', compile ⟨some limit⟩ parsed.value = some o ∧
        compile ⟨some limit⟩ parsed'.value = some o' ∧ o.value = o'.value ∧
        List.Forall₂ SameButLine (o.diagnostics.map Diagnostic.message)
          (o'.diagnostics.map Diagnostic.message) := by
  intro parsed parsed'
  have hsymbols : SameSymbols tokens tokens' := sameSymbols_iff.2 h
  have hcauses : parsed.reports.map Report.cause = parsed'.reports.map Report.cause :=
    causes_parse hsymbols
  have hstatements := alike_parse hsymbols
  refine ⟨?_, hstatements, ?_, fun limit => ?_⟩
  · have hok (o : Outcome ParseError (List Statement)) :
        o.isOk = (o.reports.map Report.cause).isEmpty := by
      simp [Outcome.isOk]
    rw [hok, hok, hcauses]
  · have hmessages (o : Outcome ParseError (List Statement)) :
        o.diagnostics.map Diagnostic.message =
          (o.reports.map Report.cause).map ParseError.message := by
      simp only [Outcome.diagnostics, List.map_map]
      rfl
    rw [hmessages, hmessages, hcauses]
  · have hrun := agree_runWithin limit.toNat hstatements
    refine ⟨_, _, compile_bounded limit _, compile_bounded limit _, hrun.deck, ?_⟩
    simp only [Outcome.diagnostics, List.map_map, List.forall₂_map_left_iff,
      List.forall₂_map_right_iff]
    exact hrun.reports.imp fun _ _ => Report.Agree.message

/-- The declaration is on the first line and on the second. -/
theorem positions_irrelevant_immutable :
    let tokens := (lex "let a = 1; a = 2; let 5;").value
    let tokens' := (lex "\nlet a = 1;\na = 2; let 5;").value
    tokens.map Token.symbol = tokens'.map Token.symbol ∧ tokens ≠ tokens' ∧
      (parse tokens).diagnostics.map Diagnostic.message =
        ["Expected Identifier, but was Integer"] ∧
      (parse tokens').diagnostics.map Diagnostic.message =
        ["Expected Identifier, but was Integer"] ∧
      ∃ o o', compile ⟨some 256⟩ (parse tokens).value = some o ∧
        compile ⟨some 256⟩ (parse tokens').value = some o' ∧
        o.diagnostics.map Diagnostic.message =
          ["cannot assign to immutable binding 'a' (declared on line 1)"] ∧
        o'.diagnostics.map Diagnostic.message =
          ["cannot assign to immutable binding 'a' (declared on line 2)"] ∧
        List.Forall₂ SameButLine (o.diagnostics.map Diagnostic.message)
          (o'.diagnostics.map Diagnostic.message) := by
  intro tokens tokens'
  have hsymbols : tokens.map Token.symbol = tokens'.map Token.symbol := by decide +kernel
  obtain ⟨-, -, hmessages, hruns⟩ := positions_irrelevant hsymbols
  have hparsed : (parse tokens).diagnostics.map Diagnostic.message =
      ["Expected Identifier, but was Integer"] := by decide +kernel
  have hparsed' := hmessages.symm.trans hparsed
  obtain ⟨o, o', ho, ho', -, hsame⟩ := hruns 256
  refine ⟨hsymbols, by decide +kernel, hparsed, hparsed', o, o', ho, ho', ?_, ?_, hsame⟩
  · cases ho
    decide +kernel
  · cases ho'
    decide +kernel

end SlideDeck
