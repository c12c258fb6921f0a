import SlideDeck.Proofs.Run.Origin
import SlideDeck.Proofs.Statement.Origin
import SlideDeck.Proofs.Token.Span
import SlideDeck.Reading.Stages

/-!
# The stage that answers

A source passes through three stages, and each is given what the one before it made of the source.
If none of them finds a fault, the answer is the deck. Otherwise it is all that the first stage
reports which finds one; each diagnostic names this stage and a range of the source.

Results:
* `Stage.exists_first`: of the stages of some kind, one is the first.
* `readDeck_of_first`, `readDeck_of_none`: the answer where some stage finds a fault, and where none
  does.
* `exists_stage_of_error`: an answer of diagnostics is that of a first stage.
* `within_of_mem_diagnosticsOf`: what the first stage reports can be shown beside the source.
* `first_stage_answers`: all of these.
-/

namespace SlideDeck

/-! ## Stages -/

/-- The stages through which a source has passed before this one. -/
def Stage.earlier : Stage → List Stage
  | lexing => []
  | parsing => [lexing]
  | compilation => [lexing, parsing]

/-- Of the stages of some kind, one is the first. -/
theorem Stage.exists_first (p : Stage → Prop) {stage : Stage} (h : p stage) :
    ∃ first, p first ∧ ∀ earlier ∈ first.earlier, ¬ p earlier := by
  by_cases hlexing : p lexing
  · exact ⟨lexing, hlexing, nofun⟩
  · by_cases hparsing : p parsing
    · exact ⟨parsing, hparsing, List.forall_mem_singleton.2 hlexing⟩
    · cases stage with
      | lexing => exact absurd h hlexing
      | parsing => exact absurd h hparsing
      | compilation =>
        exact ⟨compilation, h, List.forall_mem_cons.2
          ⟨hlexing, List.forall_mem_singleton.2 hparsing⟩⟩

/-- The statements as which the tokens of a source are parsed. -/
def statementsOf (source : String) : List Statement := (parse (lex source).value).value

/-- What each stage reports about a source, given what the one before it made of the source. -/
def diagnosticsOf (config : Config) (source : String) : Stage → List Diagnostic
  | .lexing => (lex source).diagnostics
  | .parsing => (parse (lex source).value).diagnostics
  | .compilation => ((compile config (statementsOf source)).map Outcome.diagnostics).getD []

/-! ## The answer -/

section

variable {config : Config} {source : String}

/-- The stages before the last one hand on what they made of the source if they find no fault. -/
theorem readDeck_of_parsed (hlexing : diagnosticsOf config source .lexing = [])
    (hparsing : diagnosticsOf config source .parsing = []) :
    readDeck config source = (compile config (statementsOf source)).map (·.result) := by
  rw [readDeck_eq, Outcome.result_of_eq_nil hlexing]
  simp only [Except.bind, Outcome.result_of_eq_nil hparsing]
  rfl

/-- Where parsing finds no fault, the tokens spell the statements. -/
theorem derives_of_diagnosticsOf (h : diagnosticsOf config source .parsing = []) :
    Derives (lex source).value (statementsOf source) :=
  derives_of_parse (Outcome.diagnostics_eq_nil_iff.1 h)

/-- What the last stage reports is what carrying out the statements comes to. -/
theorem exists_outcome_of_compilation (h : diagnosticsOf config source .compilation ≠ []) :
    ∃ o, compile config (statementsOf source) = some o ∧
      diagnosticsOf config source .compilation = o.diagnostics := by
  unfold diagnosticsOf at h ⊢
  cases hcompile : compile config (statementsOf source) with
  | none => simp [hcompile] at h
  | some o => exact ⟨o, rfl, rfl⟩

/-- If a stage finds a fault and no earlier one does, the answer is all that it reports. -/
theorem readDeck_of_first {stage : Stage} (h : diagnosticsOf config source stage ≠ [])
    (hearlier : ∀ earlier ∈ stage.earlier, diagnosticsOf config source earlier = []) :
    readDeck config source = some (.error (diagnosticsOf config source stage)) := by
  cases stage with
  | lexing =>
    rw [readDeck_eq, Outcome.result_of_ne_nil h]
    rfl
  | parsing =>
    have hlexing := hearlier .lexing (.head _)
    rw [readDeck_eq, Outcome.result_of_eq_nil hlexing]
    simp only [Except.bind, Outcome.result_of_ne_nil h]
    rfl
  | compilation =>
    have hlexing := hearlier .lexing (.head _)
    have hparsing := hearlier .parsing (.tail _ (.head _))
    obtain ⟨o, ho, hdiagnostics⟩ := exists_outcome_of_compilation h
    rw [hdiagnostics] at h ⊢
    rw [readDeck_of_parsed hlexing hparsing, ho]
    exact congrArg some (Outcome.result_of_ne_nil h)

/-- If no stage finds a fault, the answer is the deck that the statements describe. -/
theorem readDeck_of_none {o : Outcome CompileError Deck}
    (ho : compile config (statementsOf source) = some o)
    (h : ∀ stage, diagnosticsOf config source stage = []) :
    readDeck config source = some (.ok o.value) ∧ o.reports = [] := by
  have hcompilation : o.diagnostics = [] := by simpa [diagnosticsOf, ho] using h .compilation
  refine ⟨?_, Outcome.diagnostics_eq_nil_iff.1 hcompilation⟩
  rw [readDeck_of_parsed (h .lexing) (h .parsing), ho]
  exact congrArg some (Outcome.result_of_eq_nil hcompilation)

theorem exists_first_stage {stage : Stage} (h : diagnosticsOf config source stage ≠ []) :
    ∃ first, diagnosticsOf config source first ≠ [] ∧
      ∀ earlier ∈ first.earlier, diagnosticsOf config source earlier = [] := by
  obtain ⟨first, hfirst, hearlier⟩ := Stage.exists_first (diagnosticsOf config source · ≠ []) h
  exact ⟨first, hfirst, fun earlier hmem => not_not.1 (hearlier earlier hmem)⟩

/-- Where the answer is a deck, no stage finds a fault. -/
theorem diagnosticsOf_eq_nil_of_ok {deck : Deck} (h : readDeck config source = some (.ok deck))
    (stage : Stage) : diagnosticsOf config source stage = [] := by
  by_contra hfault
  obtain ⟨first, hfirst, hearlier⟩ := exists_first_stage hfault
  cases h.symm.trans (readDeck_of_first hfirst hearlier)

/-- Where the answer is some diagnostics, they are all that the first stage reports which finds a
fault. -/
theorem exists_stage_of_error {ds : List Diagnostic}
    (h : readDeck config source = some (.error ds)) : ∃ stage,
      ds = diagnosticsOf config source stage ∧ ds ≠ [] ∧
        ∀ earlier ∈ stage.earlier, diagnosticsOf config source earlier = [] := by
  by_cases hnone : ∀ stage, diagnosticsOf config source stage = []
  · rw [readDeck_of_parsed (hnone .lexing) (hnone .parsing)] at h
    obtain ⟨o, ho, hresult⟩ := Option.map_eq_some_iff.1 h
    have hdeck := (readDeck_of_none ho hnone).1
    rw [readDeck_of_parsed (hnone .lexing) (hnone .parsing), h] at hdeck
    cases hdeck
  · obtain ⟨stage, hstage⟩ := not_forall.1 hnone
    obtain ⟨first, hfirst, hearlier⟩ := exists_first_stage hstage
    obtain rfl : ds = diagnosticsOf config source first :=
      Except.error.inj (Option.some.inj (h.symm.trans (readDeck_of_first hfirst hearlier)))
    exact ⟨first, rfl, hfirst, hearlier⟩

/-! ## Ranges of diagnostics -/

/-- The end of the input is where the last token ends, or at the start of a source without any. -/
theorem within_endToken (source : String) :
    (endToken (lex source).value).mark.span.Within source := by
  rw [endToken]
  split
  · rename_i last hlast
    exact (within_of_mem_lex (List.mem_of_getLast? hlast)).emptyAt_stop
  · exact Span.within_emptyAt_zero source

/-- What the first stage reports that finds a fault names it, and ranges of the source. -/
theorem within_of_mem_diagnosticsOf {stage : Stage}
    (hearlier : ∀ earlier ∈ stage.earlier, diagnosticsOf config source earlier = [])
    {d : Diagnostic} (hd : d ∈ diagnosticsOf config source stage) :
    d.stage = some stage ∧ ∃ span, d.span = some span ∧ span.Within source := by
  cases stage with
  | lexing =>
    obtain ⟨r, hr, rfl⟩ := List.mem_map.1 hd
    exact ⟨rfl, r.span, rfl, within_of_mem_lex_reports hr⟩
  | parsing =>
    obtain ⟨r, hr, rfl⟩ := List.mem_map.1 hd
    obtain ⟨e, ⟨t, ht, rfl⟩ | rfl⟩ := exists_of_mem_parse_reports hr
    · exact ⟨rfl, t.mark.span, rfl, within_of_mem_lex ht⟩
    · exact ⟨rfl, _, rfl, within_endToken source⟩
  | compilation =>
    have hderives := derives_of_diagnosticsOf (hearlier .parsing (.tail _ (.head _)))
    obtain ⟨o, ho, hdiagnostics⟩ := exists_outcome_of_compilation (List.ne_nil_of_mem hd)
    rw [hdiagnostics] at hd
    obtain ⟨r, hr, rfl⟩ := List.mem_map.1 hd
    obtain ⟨t, ht, e, rfl⟩ := exists_of_mem_compile_reports ho hderives.standAt hr
    exact ⟨rfl, t.mark.span, rfl, within_of_mem_lex ht⟩

end

/-- The answer is a deck exactly if no stage finds a fault, and then it is the deck that the
statements describe. Otherwise it is all that the first stage reports which finds one, and each of
these diagnostics names that stage and a range of the source. -/
theorem first_stage_answers (limit : UInt64) (source : String) :
    let answer := readDeck ⟨some limit⟩ source
    let diagnostics := diagnosticsOf ⟨some limit⟩ source
    ((∃ deck, answer = some (.ok deck)) ↔ ∀ stage, diagnostics stage = []) ∧
    (∀ deck, answer = some (.ok deck) →
      compile ⟨some limit⟩ (statementsOf source) = some ⟨deck, []⟩) ∧
    ((∃ stage, diagnostics stage ≠ []) → ∃ stage, diagnostics stage ≠ [] ∧
      (∀ earlier ∈ stage.earlier, diagnostics earlier = []) ∧
      answer = some (.error (diagnostics stage)) ∧
      ∀ d ∈ diagnostics stage, d.stage = some stage ∧
        ∃ span, d.span = some span ∧ span.Within source) := by
  intro answer diagnostics
  have hcompile := compile_bounded limit (statementsOf source)
  refine ⟨⟨fun ⟨deck, hdeck⟩ => diagnosticsOf_eq_nil_of_ok hdeck, fun hnone => ?_⟩,
    fun deck hdeck => ?_, fun ⟨stage, hstage⟩ => ?_⟩
  · exact ⟨_, (readDeck_of_none hcompile hnone).1⟩
  · obtain ⟨hanswer, hreports⟩ := readDeck_of_none hcompile (diagnosticsOf_eq_nil_of_ok hdeck)
    cases hdeck.symm.trans hanswer
    rw [hcompile, ← hreports]
  · obtain ⟨first, hfirst, hearlier⟩ := exists_first_stage hstage
    exact ⟨first, hfirst, hearlier, readDeck_of_first hfirst hearlier,
      fun d hd => within_of_mem_diagnosticsOf hearlier hd⟩

/-- The input ends in the head of a block, and the slide around it is not closed; letters of two
bytes are names. The slide alone is a deck. -/
theorem first_stage_answers_unclosed :
    let source := "slide ß \x7b block é"
    let diagnostics := diagnosticsOf ⟨some 0⟩ source
    (diagnostics .parsing).map Diagnostic.span = [some ⟨19, 19⟩, some ⟨0, 5⟩] ∧
      (∃ stage, diagnostics stage ≠ [] ∧ (∀ earlier ∈ stage.earlier, diagnostics earlier = []) ∧
        readDeck ⟨some 0⟩ source = some (.error (diagnostics stage)) ∧
        ∀ d ∈ diagnostics stage, d.stage = some stage ∧
          ∃ span, d.span = some span ∧ span.Within source) ∧
      compile ⟨some 0⟩ (statementsOf "slide ß \x7b\x7d") = some ⟨⟨[{}]⟩, []⟩ := by
  intro source diagnostics
  have hspans : (diagnostics .parsing).map Diagnostic.span = [some ⟨19, 19⟩, some ⟨0, 5⟩] := by
    decide +kernel
  have hfault : diagnostics .parsing ≠ [] := by
    intro hnil
    rw [hnil] at hspans
    cases hspans
  have hdeck : readDeck ⟨some 0⟩ "slide ß \x7b\x7d" = some (.ok ⟨[{}]⟩) := by decide +kernel
  exact ⟨hspans, (first_stage_answers 0 source).2.2 ⟨.parsing, hfault⟩,
    (first_stage_answers 0 "slide ß \x7b\x7d").2.1 _ hdeck⟩

end SlideDeck
