/-!
# Configuration

The only setting bounds how deeply replays of macros may nest.
-/

namespace SlideDeck

/-- The settings, with their defaults (`CompilerConfig`). -/
structure Config where
  /-- The largest number of replays that may be in progress at once, or none for no bound. -/
  maxMacroDepth : Option UInt64 := some 256
deriving DecidableEq, Repr

/-- No bound on replays (`CompilerConfig::unbounded`). -/
def Config.unbounded : Config := ⟨none⟩

end SlideDeck
