import SlideDeck.Proofs.Reading.FirstStage

/-!
# The line of a diagnostic

A diagnostic names a line and covers a range of the source. One that names a character is on the
line on which its range starts. One that names none was found at the end of the input: its range is
empty and lies where the last token ends, but its line is that on which the last token starts. The
two lines differ where there is a line break in the last token.

Results:
* `Diagnostic.Located`: where a diagnostic stands, by what it names.
* `located_of_mem_lex`, `located_of_mem_parse`, `located_of_mem_compile`: those of each stage do.
* `readDeck_error_cases`: the diagnostics of a source are those of one stage.
* `line_of_diagnostic`: which diagnostics are on the line of their range.
-/

namespace SlideDeck

variable {source : String}

/-! ## Diagnostics of a stage -/

/-- The diagnostic covers a range of the source. If it names a character it is on the line of the
start of its range. If not, its range is the end of the last token, and its line is that of the
start of that token. -/
def Diagnostic.Located (source : String) (d : Diagnostic) : Prop :=
  ∃ span, d.span = some span ∧
    (d.char ≠ none → d.line = lineAt source span.start) ∧
    (d.char = none → ∃ last, (lex source).value.getLast? = some last ∧
      span = .emptyAt last.mark.span.stop ∧ d.line = last.mark.line)

theorem located_of_mem_lex {d : Diagnostic} (hd : d ∈ (lex source).diagnostics) :
    d.Located source := by
  obtain ⟨r, hr, rfl⟩ := List.mem_map.1 hd
  obtain ⟨front, piece, behind, hsource, mark, e, hmark, rfl⟩ :=
    (accounts_lexFrom [] source.toList).exists_of_mem_reports hr
  exact ⟨mark.span, rfl, fun _ => hmark.line_eq hsource, nofun⟩

theorem located_of_mem_parse {d : Diagnostic}
    (hd : d ∈ (parse (lex source).value).diagnostics) : d.Located source := by
  obtain ⟨r, hr, rfl⟩ := List.mem_map.1 hd
  obtain ⟨e, ⟨t, ht, rfl⟩ | rfl⟩ := exists_of_mem_parse_reports hr
  · have hchar : (t.report e).char = some t.mark.char := if_neg (symbol_ne_of_mem_lex ht)
    refine ⟨t.mark.span, rfl, fun _ => line_of_mem_lex ht, fun hnone => ?_⟩
    cases hchar.symm.trans hnone
  · have hnonempty : (lex source).value ≠ [] := by
      intro hnil
      rw [hnil, parse] at hr
      simp [items, nestOnto] at hr
    have hlast := List.getLast?_eq_some_getLast hnonempty
    rw [report_endToken hlast]
    exact ⟨_, rfl, fun hchar => absurd rfl hchar, fun _ => ⟨_, hlast, rfl, rfl⟩⟩

theorem located_of_mem_compile {config : Config} {statements : List Statement}
    {o : Outcome CompileError Deck} (hstatements : StandAt (lex source).value statements)
    (hcompile : compile config statements = some o) {d : Diagnostic} (hd : d ∈ o.diagnostics) :
    d.Located source := by
  obtain ⟨r, hr, rfl⟩ := List.mem_map.1 hd
  obtain ⟨t, ht, e, rfl⟩ := exists_of_mem_compile_reports hcompile hstatements hr
  exact ⟨t.mark.span, rfl, fun _ => line_of_mem_lex ht, nofun⟩

/-! ## Diagnostics of a source -/

/-- Where reading ends with diagnostics, there are some, and they are those of one stage. -/
theorem readDeck_error_cases {config : Config} {ds : List Diagnostic}
    (h : readDeck config source = some (.error ds)) : ds ≠ [] ∧
      (ds = (lex source).diagnostics ∨ ds = (parse (lex source).value).diagnostics ∨
        ∃ statements o, Derives (lex source).value statements ∧
          compile config statements = some o ∧ ds = o.diagnostics) := by
  obtain ⟨stage, hds, hnonempty, hearlier⟩ := exists_stage_of_error h
  refine ⟨hnonempty, ?_⟩
  cases stage with
  | lexing => exact .inl hds
  | parsing => exact .inr (.inl hds)
  | compilation =>
    have hderives := derives_of_diagnosticsOf (hearlier .parsing (.tail _ (.head _)))
    obtain ⟨o, ho, hdiagnostics⟩ := exists_outcome_of_compilation (hds ▸ hnonempty)
    exact .inr (.inr ⟨_, o, hderives, ho, hds.trans hdiagnostics⟩)

/-- Where reading ends with diagnostics, each of them stands somewhere in the source. -/
theorem located_of_mem_readDeck {config : Config} {ds : List Diagnostic}
    (h : readDeck config source = some (.error ds)) {d : Diagnostic} (hd : d ∈ ds) :
    d.Located source := by
  obtain ⟨-, rfl | rfl | ⟨statements, o, hderives, hcompile, rfl⟩⟩ := readDeck_error_cases h
  · exact located_of_mem_lex hd
  · exact located_of_mem_parse hd
  · exact located_of_mem_compile hderives.standAt hcompile hd

/-- Every diagnostic of a source covers a range of it, and is on the line on which the range starts,
unless it was found at the end of the input and there is a line break in the last token. -/
theorem line_of_diagnostic (config : Config) {source : String} {ds : List Diagnostic}
    (h : readDeck config source = some (.error ds)) : ∀ d ∈ ds, ∃ span, d.span = some span ∧
      (d.line ≠ lineAt source span.start ↔ d.char = none ∧
        ∃ last, (lex source).value.getLast? = some last ∧ '\n' ∈ last.symbol.spelling) := by
  intro d hd
  obtain ⟨span, hspan, hchar, hend⟩ := located_of_mem_readDeck h hd
  refine ⟨span, hspan, ?_⟩
  by_cases hnone : d.char = none
  · obtain ⟨last, hlast, rfl, hline⟩ := hend hnone
    have hstop := line_eq_lineAt_stop_iff (List.mem_of_getLast? hlast)
    rw [hline, hlast]
    simpa [hnone, Span.emptyAt] using not_congr hstop
  · simp [hnone, hchar hnone]

/-- A number in the place of a name, and a string over two lines at the end of the input. -/
theorem line_of_diagnostic_twoReports :
    let source := "let 5;\nlet a = \"x\ny\""
    let ds : List Diagnostic := [
      ⟨1, some '5', some .parsing, "Expected Identifier, but was Integer", some ⟨4, 5⟩⟩,
      ⟨2, none, some .parsing, "Expected Semicolon, but was EOF", some ⟨20, 20⟩⟩]
    readDeck ⟨some 256⟩ source = some (.error ds) ∧
      ∀ d ∈ ds, ∃ span, d.span = some span ∧
        (d.line ≠ lineAt source span.start ↔ d.char = none ∧
          ∃ last, (lex source).value.getLast? = some last ∧ '\n' ∈ last.symbol.spelling) := by
  intro source ds
  have hread : readDeck ⟨some 256⟩ source = some (.error ds) := by decide +kernel
  exact ⟨hread, line_of_diagnostic ⟨some 256⟩ hread⟩

/-- The string ends on the second line, and so does the input, but the first line is reported. -/
theorem line_ne_of_multilineString :
    let source := "let a = \"x\ny\""
    readDeck ⟨some 256⟩ source = some (.error
      [⟨1, none, some .parsing, "Expected Semicolon, but was EOF", some ⟨13, 13⟩⟩]) ∧
      lineAt source 13 = 2 := by
  decide +kernel

end SlideDeck
