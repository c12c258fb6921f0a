import SlideDeck.Run.Compile
import SlideDeck.Statement.Parse
import SlideDeck.Token.Lex

/-!
# Reading decks

A source is cut into tokens, the tokens are read as statements, and the statements are carried out.
The first stage that finds a fault is the last one, and its diagnostics are the answer. There is no
answer only where the statements call macros without end and nothing bounds that.

Results:
* `readDeck_eq_ok_iff`: a deck is the answer exactly when no stage reports anything.
-/

namespace SlideDeck

/-- The events of a stage, and the value it hands on if it found no fault. -/
structure StageResult (α : Type) where
  events : List Event
  result : Except (List Diagnostic) α

/-- The next stage follows only a stage without faults. -/
def StageResult.andThen {α β : Type} (r : StageResult α) (next : α → StageResult β) :
    StageResult β :=
  match r.result with
  | .ok a => { next a with events := r.events ++ (next a).events }
  | .error ds => ⟨r.events, .error ds⟩

/-- A stage that may not come to an end follows likewise. -/
def StageResult.andThen? {α β : Type} (r : StageResult α) (next : α → Option (StageResult β)) :
    Option (StageResult β) :=
  match r.result with
  | .ok a => (next a).map fun after => { after with events := r.events ++ after.events }
  | .error ds => some ⟨r.events, .error ds⟩

def lexStage (source : String) : StageResult (List Token) :=
  let outcome := lex source
  let finished := if outcome.reports.any (·.cause.givesUp) then Event.lexingAborted
    else Event.lexingFinished
  ⟨[finished outcome.value.length outcome.reports.length], outcome.result⟩

def parseStage (tokens : List Token) : StageResult (List Statement) :=
  let outcome := parse tokens
  ⟨[.parsingFinished outcome.value.length outcome.reports.length], outcome.result⟩

def compileStage (config : Config) (statements : List Statement) : Option (StageResult Deck) :=
  (runFile config statements).map fun (m, events) =>
    ⟨events ++ [.compilationFinished m.deck.slides.length m.reports.length], m.outcome.result⟩

def readyStage (deck : Deck) : StageResult Deck := ⟨[.deckReady deck.slides.length], .ok deck⟩

/-- All stages in order (`read_show_with`). -/
def stages (config : Config) (source : String) : Option (StageResult Deck) :=
  ((lexStage source).andThen parseStage).andThen? fun statements =>
    (compileStage config statements).map (·.andThen readyStage)

/-- The deck that the source describes, or the diagnostics of the first stage that found a fault
(`read_show_with`). -/
def readDeck (config : Config) (source : String) : Option (Except (List Diagnostic) Deck) :=
  (stages config source).map (·.result)

/-- The events of reading a source, in order. -/
def readingEvents (config : Config) (source : String) : Option (List Event) :=
  (stages config source).map (·.events)

theorem result_andThen_readyStage (r : StageResult Deck) :
    (r.andThen readyStage).result = r.result := by
  unfold StageResult.andThen
  split
  · rename_i deck h
    rw [h]
    rfl
  · rename_i ds h
    rw [h]

/-- Reading told stage by stage. -/
theorem readDeck_eq (config : Config) (source : String) :
    readDeck config source =
      match (lex source).result.bind fun tokens => (parse tokens).result with
      | .ok statements => (compile config statements).map (·.result)
      | .error ds => some (.error ds) := by
  have hread : ((lexStage source).andThen parseStage).result =
      (lex source).result.bind fun tokens => (parse tokens).result := by
    simp only [StageResult.andThen, lexStage, Except.bind]
    cases (lex source).result <;> rfl
  rw [readDeck, stages, StageResult.andThen?, ← hread]
  split
  · rename_i statements h
    simp only [compile, compileStage, Option.map_map, h]
    congr 1
    funext r
    exact result_andThen_readyStage _
  · rename_i ds h
    rw [h]
    rfl

theorem readDeck_eq_ok_iff {config : Config} {source : String} {deck : Deck} :
    readDeck config source = some (.ok deck) ↔
      (lex source).isOk = true ∧ (parse (lex source).value).isOk = true ∧
        ∃ o, compile config (parse (lex source).value).value = some o ∧
          o.isOk = true ∧ o.value = deck := by
  rw [readDeck_eq]
  cases hl : (lex source).result with
  | error ds =>
    have : ¬ (lex source).isOk = true := fun h => by
      simp [(Outcome.result_eq_ok_iff (a := (lex source).value)).2 ⟨h, rfl⟩] at hl
    simp [Except.bind, this]
  | ok tokens =>
    obtain ⟨hlex, rfl⟩ := Outcome.result_eq_ok_iff.1 hl
    cases hp : (parse (lex source).value).result with
    | error ds =>
      have : ¬ (parse (lex source).value).isOk = true := fun h => by
        simp [(Outcome.result_eq_ok_iff (a := (parse (lex source).value).value)).2 ⟨h, rfl⟩] at hp
      simp [Except.bind, hp, this]
    | ok statements =>
      obtain ⟨hparse, rfl⟩ := Outcome.result_eq_ok_iff.1 hp
      simp [Except.bind, hp, hlex, hparse, Outcome.result_eq_ok_iff]

end SlideDeck
