import SlideDeck.Proofs.Reading.Line
import SlideDeck.Proofs.Run.Fault
import SlideDeck.Proofs.Statement.Names

/-!
# Records of a failure

The diagnostics of a failure are shown one behind the other, with line breaks between them. Each is
a line of its own as long as there is no line break in its message. Messages quote names, in which
there is none, and colors that are not known, as they are written: such a color is a string, and a
string may go over several lines.

Results:
* `Diagnostic.oneLine_render_iff`: a record is one line if its message is.
* `Diagnostic.splitOn_renderAll_iff`: records are the lines of a failure if each is one line.
* `CompileError.oneLine_message`: which messages are one line.
* `lines_of_failure`: when the lines of a failure are its records.
-/

namespace SlideDeck

/-- There is no line break in the text. -/
def OneLine (text : String) : Prop := '\n' ∉ text.toList

/-- A text that is written out is judged by its characters. -/
theorem oneLine_ofList {text : List Char} (h : '\n' ∉ text) : OneLine (String.ofList text) := by
  rwa [OneLine, String.toList_ofList]

theorem oneLine_append {a b : String} : OneLine (a ++ b) ↔ OneLine a ∧ OneLine b := by
  simp [OneLine]

theorem oneLine_singleton {c : Char} : OneLine (String.singleton c) ↔ c ≠ '\n' := by
  simp [OneLine, eq_comm]

theorem oneLine_toString (n : Nat) : OneLine (toString n) := by
  refine newline_notMem_of_isDigit fun c hc => ?_
  rw [Nat.toString_eq_repr, Nat.toList_repr] at hc
  exact Nat.isDigit_of_mem_toDigits (by decide) (by decide) hc

/-! ## Records -/

theorem Stage.oneLine_name (stage : Stage) : OneLine stage.name := by
  cases stage <;> exact oneLine_ofList (by decide)

/-- A record is one line if its message is. -/
theorem Diagnostic.oneLine_render_iff {d : Diagnostic} (hchar : d.char ≠ some '\n') :
    OneLine d.render ↔ OneLine d.message := by
  unfold render
  refine ⟨fun h => (oneLine_append.1 h).2, fun h => oneLine_append.2 ⟨?_, h⟩⟩
  simp only [oneLine_append]
  refine ⟨⟨⟨⟨⟨⟨oneLine_ofList (by decide), oneLine_toString _⟩, oneLine_ofList (by decide)⟩, ?_⟩,
    oneLine_ofList (by decide)⟩, ?_⟩, oneLine_ofList (by decide)⟩
  · split
    · exact oneLine_append.2 ⟨Stage.oneLine_name _, oneLine_ofList (by decide)⟩
    · exact oneLine_ofList (by decide)
  · split
    · rename_i c hc
      have hne : c ≠ '\n' := fun heq => hchar (hc.trans (congrArg some heq))
      exact oneLine_append.2 ⟨oneLine_append.2
        ⟨oneLine_ofList (by decide), oneLine_singleton.2 hne⟩, oneLine_ofList (by decide)⟩
    · exact oneLine_ofList (by decide)

/-- No part of a text that is split contains what it is split at. -/
theorem notMem_of_mem_splitOn {x : Char} {text part : List Char} (h : part ∈ text.splitOn x) :
    x ∉ part := by
  rw [List.splitOn_eq_splitOnP] at h
  induction text generalizing part with
  | nil =>
    obtain rfl := List.mem_singleton.1 h
    exact List.not_mem_nil
  | cons c text ih =>
    rw [List.splitOnP_cons_eq_if_modifyHead] at h
    split at h
    · rcases List.mem_cons.1 h with rfl | h
      · exact List.not_mem_nil
      · exact ih h
    · rename_i hc
      have hne : x ≠ c := fun heq => hc (by simp [heq])
      cases hparts : text.splitOnP (· == x) with
      | nil => simp [hparts] at h
      | cons first parts =>
        rw [hparts, List.modifyHead_cons] at h
        rcases List.mem_cons.1 h with rfl | h
        · exact List.not_mem_cons_of_ne_of_not_mem hne (ih (by simp [hparts]))
        · exact ih (by simp [hparts, h])

/-- Records are the lines of a failure if each is one line. -/
theorem Diagnostic.splitOn_renderAll_iff {ds : List Diagnostic} (hds : ds ≠ []) :
    (renderAll ds).toList.splitOn '\n' = ds.map (·.render.toList) ↔
      ∀ d ∈ ds, OneLine d.render := by
  have hlines : (renderAll ds).toList = ['\n'].intercalate (ds.map (·.render.toList)) := by
    rw [renderAll, String.toList_intercalate, List.map_map]
    rfl
  constructor
  · intro h d hd
    exact notMem_of_mem_splitOn (h ▸ List.mem_map_of_mem hd)
  · intro h
    rw [hlines]
    refine List.splitOn_intercalate '\n' (List.forall_mem_map.2 h) ?_
    simpa using hds

/-! ## Messages -/

theorem SymbolKind.oneLine_name (k : SymbolKind) : OneLine k.name := by
  cases k with
  | punct p => cases p <;> exact oneLine_ofList (by decide)
  | keyword k => cases k <;> exact oneLine_ofList (by decide)
  | identifier | text | string | integer | endOfInput => exact oneLine_ofList (by decide)

theorem LexError.oneLine_message (e : LexError) : OneLine e.message := by
  cases e <;> exact oneLine_ofList (by decide)

theorem Attribute.oneLine_name (a : Attribute) : OneLine a.name := by
  cases a <;> exact oneLine_ofList (by decide)

theorem Attribute.oneLine_owners (a : Attribute) : OneLine a.owners := by
  unfold owners
  split <;> exact oneLine_ofList (by decide)

theorem ConstantKind.oneLine_name (k : ConstantKind) : OneLine k.name := by
  cases k <;> exact oneLine_ofList (by decide)

/-- A message that quotes something is one line if that is. -/
theorem oneLine_quote {before after : List Char} {quoted : String} (hbefore : '\n' ∉ before)
    (hquoted : OneLine quoted) (hafter : '\n' ∉ after) :
    OneLine (String.ofList before ++ quoted ++ String.ofList after) :=
  oneLine_append.2 ⟨oneLine_append.2 ⟨oneLine_ofList hbefore, hquoted⟩, oneLine_ofList hafter⟩

theorem ParseError.oneLine_message {e : ParseError} (h : ∀ name ∈ e.name?, OneLine name) :
    OneLine e.message := by
  cases e with
  | expected wanted found | malformedColor wanted found =>
    exact oneLine_append.2
      ⟨oneLine_quote (by decide) wanted.oneLine_name (by decide), found.oneLine_name⟩
  | unexpected found => exact oneLine_append.2 ⟨oneLine_ofList (by decide), found.oneLine_name⟩
  | expectedValue => exact oneLine_ofList (by decide)
  | unclosed name => exact oneLine_quote (by decide) (h name rfl) (by decide)

namespace CompileError

/-- The name of a variable, macro, slide, block or attribute that the message quotes. -/
def name? : CompileError → Option String
  | undefinedParentSlide name | undefinedParentBlock name | variableRedeclared name
  | undeclaredAssignment name | immutableAssignment name _ | uninitializedReference name
  | macroRedeclared name | undefinedMacro name | unknownAttribute name => some name
  | _ => none

/-- A message is one line if the name in it is, and the color that it quotes. -/
theorem oneLine_message {e : CompileError} (hname : ∀ name ∈ e.name?, OneLine name)
    (hcolor : ∀ color, e = .unknownColor color → OneLine color) : OneLine e.message := by
  cases e with
  | slideOutsideFile | blockOutsideSlide | textOutsideBlock | invalidJustification =>
    exact oneLine_ofList (by decide)
  | undefinedParentSlide name | undefinedParentBlock name | variableRedeclared name
  | undeclaredAssignment name | uninitializedReference name | macroRedeclared name
  | undefinedMacro name | unknownAttribute name =>
    exact oneLine_quote (by decide) (hname name rfl) (by decide)
  | immutableAssignment name line =>
    refine oneLine_append.2
      ⟨oneLine_append.2 ⟨?_, oneLine_toString line⟩, oneLine_ofList (by decide)⟩
    exact oneLine_quote (by decide) (hname name rfl) (by decide)
  | macroDepthExceeded limit =>
    exact oneLine_append.2 ⟨oneLine_ofList (by decide), oneLine_toString limit⟩
  | misplacedAttribute a =>
    exact oneLine_append.2
      ⟨oneLine_append.2 ⟨a.oneLine_name, oneLine_ofList (by decide)⟩, a.oneLine_owners⟩
  | expectedColor a got =>
    exact oneLine_append.2
      ⟨oneLine_append.2 ⟨a.oneLine_name, oneLine_ofList (by decide)⟩, got.oneLine_name⟩
  | unknownColor color => exact oneLine_quote (by decide) (hcolor color rfl) (by decide)
  | expectedFontName got | expectedFontSize got =>
    exact oneLine_append.2 ⟨oneLine_ofList (by decide), got.oneLine_name⟩

end CompileError

theorem Statement.reference_mem_names {s : Statement} {name : String}
    (h : s.value? = some (.reference name)) : name ∈ s.names := by
  cases s with
  | command t c => cases c <;> cases h <;> exact .tail _ (.head _)
  | compound t head body => cases h

/-- A statement fails with names that it writes. -/
theorem Statement.Faults.name_mem {limit : Nat} {s : Statement} {e : CompileError}
    (h : s.Faults limit e) {name : String} (hname : name ∈ e.name?) : name ∈ s.names := by
  cases h with
  | reference hvalue =>
    cases hname
    exact Statement.reference_mem_names hvalue
  | setting hfault => cases hfault <;> cases hname
  | text | refused | slideOutside | blockOutside => cases hname
  | undefinedMacro | variableRedeclared | undeclared | unchangeable | unknownAttribute
  | macroRedeclared =>
    cases hname
    exact .head _
  | slideParent | blockParent =>
    cases hname
    exact .tail _ (.head _)

/-! ## Diagnostics of a source -/

/-- If the message is not one line, it quotes a color that is not known, and that is none either. -/
structure Diagnostic.BreaksInColor (d : Diagnostic) : Prop where
  char : d.char ≠ some '\n'
  message : ¬ OneLine d.message → d.stage = some .compilation ∧
    ∃ color, d.message = (CompileError.unknownColor color).message ∧ ¬ OneLine color

section

variable {source : String} {d : Diagnostic}

theorem breaksInColor_of_oneLine (hchar : d.char ≠ some '\n') (h : OneLine d.message) :
    d.BreaksInColor :=
  ⟨hchar, fun hmessage => absurd h hmessage⟩

theorem breaksInColor_of_mem_lex (hd : d ∈ (lex source).diagnostics) : d.BreaksInColor := by
  obtain ⟨r, hr, rfl⟩ := List.mem_map.1 hd
  exact breaksInColor_of_oneLine (char_ne_newline_of_mem_reports hr) r.cause.oneLine_message

theorem breaksInColor_of_mem_parse (hd : d ∈ (parse (lex source).value).diagnostics) :
    d.BreaksInColor := by
  obtain ⟨r, hr, rfl⟩ := List.mem_map.1 hd
  refine breaksInColor_of_oneLine ?_ (ParseError.oneLine_message fun name hname =>
    newline_notMem_of_identifier (identifier_mem_of_parse_report hr hname))
  obtain ⟨e, ⟨t, ht, rfl⟩ | rfl⟩ := exists_of_mem_parse_reports hr
  · have hchar : (t.report e).char = some t.mark.char := if_neg (symbol_ne_of_mem_lex ht)
    exact fun h => char_ne_newline_of_mem_lex ht (Option.some.inj (hchar.symm.trans h))
  · exact nofun

theorem breaksInColor_of_mem_compile {config : Config} {statements : List Statement}
    {o : Outcome CompileError Deck} (hderives : Derives (lex source).value statements)
    (hcompile : compile config statements = some o) (hd : d ∈ o.diagnostics) :
    d.BreaksInColor := by
  obtain ⟨r, hr, rfl⟩ := List.mem_map.1 hd
  obtain ⟨s, hs, limit, room, env, e, heffect, rfl⟩ :=
    exists_statement_of_mem_compile_reports hcompile hr
  have hchar := char_ne_newline_of_mem_lex (hderives.standAt s hs)
  refine ⟨fun h => hchar (Option.some.inj h), fun hmessage => ⟨rfl, ?_⟩⟩
  have hname : ∀ name ∈ e.name?, OneLine name := fun name hname =>
    newline_notMem_of_identifier
      (hderives.identifier_mem hs ((Statement.faults_of_effect heffect).name_mem hname))
  by_contra hnone
  refine hmessage (CompileError.oneLine_message hname fun color hcolor => ?_)
  by_contra hbreak
  exact hnone ⟨color, congrArg CompileError.message hcolor, hbreak⟩

end

/-- The lines of a failure are the records of its diagnostics exactly if there is no line break in a
message; and there is one only in a color that is not known. -/
theorem lines_of_failure (config : Config) {source : String} {ds : List Diagnostic}
    (h : readDeck config source = some (.error ds)) :
    ((Diagnostic.renderAll ds).toList.splitOn '\n' = ds.map (·.render.toList) ↔
      ∀ d ∈ ds, OneLine d.message) ∧
    ∀ d ∈ ds, ¬ OneLine d.message → d.stage = some .compilation ∧
      ∃ color, d.message = (CompileError.unknownColor color).message ∧ ¬ OneLine color := by
  obtain ⟨hds, hstage⟩ := readDeck_error_cases h
  have hbreaks : ∀ d ∈ ds, d.BreaksInColor := by
    intro d hd
    obtain rfl | rfl | ⟨statements, o, hderives, hcompile, rfl⟩ := hstage
    · exact breaksInColor_of_mem_lex hd
    · exact breaksInColor_of_mem_parse hd
    · exact breaksInColor_of_mem_compile hderives hcompile hd
  refine ⟨?_, fun d hd => (hbreaks d hd).message⟩
  rw [Diagnostic.splitOn_renderAll_iff hds]
  exact forall₂_congr fun d hd => Diagnostic.oneLine_render_iff (hbreaks d hd).char

/-- Two colors are not known; the second has a line break. -/
theorem lines_of_failure_twoColors :
    let source :=
      "slide s \x7b\n  self.backgroundColor = \"teal\";\n  self.backgroundColor = \"a\nb\";\n\x7d"
    let ds : List Diagnostic := [
      ⟨2, some 's', some .compilation, "Unsupported color 'teal'", some ⟨12, 16⟩⟩,
      ⟨3, some 's', some .compilation, "Unsupported color 'a\nb'", some ⟨45, 49⟩⟩]
    readDeck ⟨some 256⟩ source = some (.error ds) ∧
      ((Diagnostic.renderAll ds).toList.splitOn '\n' = ds.map (·.render.toList) ↔
        ∀ d ∈ ds, OneLine d.message) ∧
      ∀ d ∈ ds, ¬ OneLine d.message → d.stage = some .compilation ∧
        ∃ color, d.message = (CompileError.unknownColor color).message ∧ ¬ OneLine color := by
  intro source ds
  have hread : readDeck ⟨some 256⟩ source = some (.error ds) := by decide +kernel
  exact ⟨hread, lines_of_failure ⟨some 256⟩ hread⟩

/-- A color with a line break takes the only record of the failure to a second line. -/
theorem lines_ne_records_of_multilineColor :
    let d : Diagnostic :=
      ⟨1, some 's', some .compilation, "Unsupported color 'a\nb'", some ⟨10, 14⟩⟩
    readDeck ⟨some 256⟩ "slide s \x7b self.backgroundColor = \"a\nb\"; \x7d" = some (.error [d]) ∧
      ((Diagnostic.renderAll [d]).toList.splitOn '\n').length = 2 := by
  decide +kernel

end SlideDeck
