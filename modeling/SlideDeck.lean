import SlideDeck.Config.Toml
import SlideDeck.Deck.Record
import SlideDeck.Reading.Stream
import SlideDeck.Proofs.Run.Derivation
import SlideDeck.Proofs.Run.Limit
import SlideDeck.Proofs.Run.Refusal
import SlideDeck.Proofs.Run.Recovery
import SlideDeck.Proofs.Scope.Macros
import SlideDeck.Proofs.Statement.Expansion
import SlideDeck.Proofs.Run.Expansion
import SlideDeck.Proofs.Token.Spelling
import SlideDeck.Proofs.Token.Rendering
import SlideDeck.Proofs.Statement.Grammar
import SlideDeck.Proofs.Statement.Parse
import SlideDeck.Proofs.Token.Account
import SlideDeck.Proofs.Run.Walk
import SlideDeck.Proofs.Scope.Frame
import SlideDeck.Proofs.Scope.Isolation
import SlideDeck.Proofs.Run.Inheritance
import SlideDeck.Proofs.Run.Renaming
import SlideDeck.Proofs.Run.Bracketing
import SlideDeck.Proofs.Statement.Prompt
import SlideDeck.Proofs.Statement.Viable
import SlideDeck.Proofs.Statement.Insertion
import SlideDeck.Proofs.Token.Line
import SlideDeck.Proofs.Statement.Origin
import SlideDeck.Proofs.Run.Origin
import SlideDeck.Proofs.Reading.Line
import SlideDeck.Proofs.Run.Unbounded
import SlideDeck.Proofs.Run.Depth
import SlideDeck.Proofs.Run.Agreement
import SlideDeck.Proofs.Run.Reordering
import SlideDeck.Proofs.Statement.Symbols
import SlideDeck.Proofs.Reading.Position
import SlideDeck.Proofs.Statement.Substitution
import SlideDeck.Proofs.Scope.Substitution
import SlideDeck.Proofs.Run.Substitution
import SlideDeck.Proofs.Statement.Description
import SlideDeck.Proofs.Run.Description
import SlideDeck.Proofs.Token.Order
import SlideDeck.Proofs.Run.Order
import SlideDeck.Proofs.Statement.Names
import SlideDeck.Proofs.Reading.Record
import SlideDeck.Proofs.Run.Finished
import SlideDeck.Proofs.Token.Span
import SlideDeck.Proofs.Reading.FirstStage
import SlideDeck.Proofs.Run.Atomic
import SlideDeck.Proofs.Statement.Concatenation
import SlideDeck.Proofs.Statement.Written
import SlideDeck.Proofs.Statement.Progress
import SlideDeck.Proofs.Token.Shift
import SlideDeck.Proofs.Token.Concatenation
import SlideDeck.Proofs.Token.Fence
import SlideDeck.Proofs.Token.Longest
import SlideDeck.Proofs.Token.Scanner
import SlideDeck.Proofs.Scope.Assignment
import SlideDeck.Proofs.Scope.Setting
import SlideDeck.Proofs.Deck.Record
import SlideDeck.Proofs.Reading.Stream
import SlideDeck.Proofs.Toml.Number
import SlideDeck.Proofs.Toml.Tree
import SlideDeck.Proofs.Toml.Reader
import SlideDeck.Proofs.Config.Toml
