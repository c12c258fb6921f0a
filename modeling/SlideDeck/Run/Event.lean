import SlideDeck.Scope.Constant
import SlideDeck.Scope.Target

/-!
# Events

What the stages tell about their work while they do it (what is logged with `debug` and `trace`).
The end of a stage is told with counts; scopes, declarations and replays are told one by one.
-/

namespace SlideDeck

inductive Event where
  | lexingFinished (tokens errors : Nat)
  /-- The input ended inside a token. -/
  | lexingAborted (tokens errors : Nat)
  | parsingFinished (statements errors : Nat)
  /-- A scope was opened; `depth` counts the scopes inside that of the file, this one included. -/
  | scopeOpened (kind : ScopeKind) (depth : Nat)
  /-- A scope was closed; `depth` counts the scopes that are left. -/
  | scopeClosed (kind : ScopeKind) (depth : Nat)
  | variableDeclared (name : String) (value : Constant) (isMutable : Bool)
  /-- A macro is replayed inside of `depth` replays. -/
  | macroReplayed (name : String) (depth : Nat)
  | compilationFinished (slides errors : Nat)
  | deckReady (slides : Nat)
deriving DecidableEq, Repr

/-- How much an event matters. -/
inductive EventLevel where
  | debug
  | trace
deriving DecidableEq, Repr

namespace Event

def level : Event → EventLevel
  | scopeOpened _ _ | scopeClosed _ _ | variableDeclared _ _ _ | macroReplayed _ _ => .trace
  | _ => .debug

def message : Event → String
  | lexingFinished _ _ => "lexing finished"
  | lexingAborted _ _ => "lexing aborted"
  | parsingFinished _ _ => "parsing finished"
  | scopeOpened _ _ => "scope opened"
  | scopeClosed _ _ => "scope closed"
  | variableDeclared _ _ _ => "variable declared"
  | macroReplayed _ _ => "replaying macro"
  | compilationFinished _ _ => "compilation finished"
  | deckReady _ => "show ready"

/-- The details of the event as text, each under its name. -/
def details : Event → List (String × String)
  | lexingFinished tokens errors | lexingAborted tokens errors =>
    [("tokens", toString tokens), ("errors", toString errors)]
  | parsingFinished statements errors =>
    [("statements", toString statements), ("errors", toString errors)]
  | scopeOpened kind depth | scopeClosed kind depth =>
    [("kind", kind.name), ("depth", toString depth)]
  | variableDeclared name value isMutable =>
    [("name", name), ("value", value.render), ("mutable", if isMutable then "true" else "false")]
  | macroReplayed name depth => [("name", name), ("depth", toString depth)]
  | compilationFinished slides errors =>
    [("slides", toString slides), ("errors", toString errors)]
  | deckReady slides => [("slides", toString slides)]

end Event

end SlideDeck
