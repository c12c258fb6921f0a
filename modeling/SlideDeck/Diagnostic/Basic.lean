import SlideDeck.Source.Position

/-!
# Diagnostics

A diagnostic is a line-numbered message about a source text. It may name the character at which the
fault was found, the stage that found it and the range of text it covers. Each is shown on a line of
its own, as in `[line=2] Lexing Error at '%': Unexpected character`.

Results:
* `settle_eq_ok_iff`: a result stands exactly when no diagnostic was collected.
-/

namespace SlideDeck

/-- The stages that a source passes through, in order (`Stage`). -/
inductive Stage where
  | lexing
  | parsing
  | compilation
deriving DecidableEq, Repr

namespace Stage

/-- The name that diagnostics show. -/
def name : Stage → String
  | lexing => "Lexing"
  | parsing => "Parsing"
  | compilation => "Compilation"

/-- What is going on in the stage, for notes in running text. -/
def activity : Stage → String
  | lexing => "lexing"
  | parsing => "parsing"
  | compilation => "compilation"

end Stage

/-- A message about one place of a source text (`ErrorInfo`). -/
structure Diagnostic where
  line : Nat
  /-- The character at which the fault was found. -/
  char : Option Char := none
  stage : Option Stage := none
  message : String
  /-- The text that the message is about. -/
  span : Option Span := none
deriving DecidableEq, Repr

/-- A range of text in one of several files, to be shown with a message. -/
structure Label where
  file : Nat
  span : Span
deriving DecidableEq, Repr

/-- A message to be shown beside the source: labels mark the text it is about, notes follow it. -/
structure Annotation where
  message : String
  labels : List Label
  notes : List String
deriving DecidableEq, Repr

namespace Diagnostic

/-- The diagnostic on a line of its own (`ErrorInfo::fmt`). -/
def render (d : Diagnostic) : String :=
  let stage := match d.stage with
    | some stage => stage.name ++ " "
    | none => ""
  let place := match d.char with
    | some c => " at '" ++ String.singleton c ++ "'"
    | none => ""
  "[line=" ++ toString d.line ++ "] " ++ stage ++ "Error" ++ place ++ ": " ++ d.message

/-- The diagnostics in order, one to a line (`ErrorBundle::fmt`). -/
def renderAll (ds : List Diagnostic) : String := "\n".intercalate (ds.map render)

/-- The annotation of the given file: the line and the stage are notes
(`ErrorInfo::to_diagnostic`). -/
def annotate (d : Diagnostic) (file : Nat) : Annotation where
  message := d.message
  labels := d.span.toList.map (Label.mk file)
  notes := ("line " ++ toString d.line) :: d.stage.toList.map ("while " ++ ·.activity)

end Diagnostic

/-- The value if nothing went wrong, otherwise what did (`ErrorBundle::into_result`). -/
def settle {α : Type} (ds : List Diagnostic) (value : α) : Except (List Diagnostic) α :=
  if ds.isEmpty then .ok value else .error ds

theorem settle_eq_ok_iff {α : Type} {ds : List Diagnostic} {value result : α} :
    settle ds value = .ok result ↔ ds = [] ∧ value = result := by
  cases ds <;> simp [settle]

end SlideDeck
