import SlideDeck.Diagnostic.Basic

/-!
# Reports of a stage

A stage does not stop at its first fault: it reports each one and hands back what it made of the
rest. The reports carry the cause as a value; the wording belongs to the kind of cause, and so does
the stage.

Results:
* `Outcome.result_eq_ok_iff`: the outcome of a stage is a success exactly when nothing was reported.
* `Outcome.result_eq_error_iff`: otherwise it is the reports in words.
* `Outcome.result_of_eq_nil`, `Outcome.result_of_ne_nil`: the result, by whether there are any.
-/

namespace SlideDeck

/-- A kind of fault: the stage that finds it and the sentence that explains it. -/
class Cause (ε : Type) where
  stage : Stage
  message : ε → String

/-- One fault, with the place where it was found (`ErrorInfo`, before it is put in words). -/
structure Report (ε : Type) where
  cause : ε
  line : Nat
  /-- The character found there, if there was one. -/
  char : Option Char
  span : Span
deriving DecidableEq, Repr

/-- A report in words (`ErrorInfo::new`). -/
def Report.diagnostic {ε : Type} [Cause ε] (r : Report ε) : Diagnostic where
  line := r.line
  char := r.char
  stage := some (Cause.stage ε)
  message := Cause.message r.cause
  span := some r.span

/-- The report of a fault at a mark (`Scanner::error`, `CompileError::at`). -/
def Mark.report {ε : Type} (mark : Mark) (cause : ε) : Report ε :=
  ⟨cause, mark.line, some mark.char, mark.span⟩

/-- What a stage made of its input, and the faults it found on the way, in order (`Recovered`). -/
structure Outcome (ε α : Type) where
  value : α
  reports : List (Report ε)
deriving DecidableEq, Repr

namespace Outcome

variable {ε α : Type}

/-- Whether nothing was reported. -/
def isOk (o : Outcome ε α) : Bool := o.reports.isEmpty

/-- The reports in words. -/
def diagnostics [Cause ε] (o : Outcome ε α) : List Diagnostic := o.reports.map Report.diagnostic

/-- The value of a stage that found no fault, otherwise the diagnostics
(`ErrorBundle::into_result`). -/
def result [Cause ε] (o : Outcome ε α) : Except (List Diagnostic) α := settle o.diagnostics o.value

theorem isOk_iff {o : Outcome ε α} : o.isOk = true ↔ o.reports = [] := List.isEmpty_iff

theorem result_eq_ok_iff [Cause ε] {o : Outcome ε α} {a : α} :
    o.result = .ok a ↔ o.isOk = true ∧ o.value = a := by
  simp [result, settle_eq_ok_iff, diagnostics, isOk_iff]

theorem result_eq_error_iff [Cause ε] {o : Outcome ε α} {ds : List Diagnostic} :
    o.result = .error ds ↔ o.isOk = false ∧ o.diagnostics = ds := by
  obtain ⟨value, _ | ⟨r, reports⟩⟩ := o <;> simp [result, settle, diagnostics, isOk]

theorem diagnostics_eq_nil_iff [Cause ε] {o : Outcome ε α} : o.diagnostics = [] ↔ o.reports = [] :=
  List.map_eq_nil_iff

theorem result_of_eq_nil [Cause ε] {o : Outcome ε α} (h : o.diagnostics = []) :
    o.result = .ok o.value :=
  settle_eq_ok_iff.2 ⟨h, rfl⟩

theorem result_of_ne_nil [Cause ε] {o : Outcome ε α} (h : o.diagnostics ≠ []) :
    o.result = .error o.diagnostics := by
  rw [result_eq_error_iff]
  exact ⟨by simpa [isOk, diagnostics] using h, rfl⟩

end Outcome

end SlideDeck
