import SlideDeck.Config.Basic
import SlideDeck.Toml.Tree

/-!
# Configurations in TOML

The settings stand at the top of a TOML 1.0 document. One that is missing has its default, and what
is no setting is passed over.
-/

namespace SlideDeck

/-- Why a text is no configuration (`ConfigError`). -/
inductive ConfigError where
  /-- It is no TOML document. -/
  | malformed
  /-- The depth is not an integer from 0 on. -/
  | invalidDepth
deriving DecidableEq, Repr

namespace ConfigError

/-- What is wrong with the text. -/
def reason : ConfigError → String
  | malformed => "malformed document"
  | invalidDepth => "max_macro_depth must be a non-negative integer"

def message (e : ConfigError) : String := "invalid compiler configuration: " ++ e.reason

end ConfigError

namespace Config

/-- The configuration that the entries of a document set (what is derived for `CompilerConfig`, to
deserialize). -/
def ofEntries (entries : Toml.Entries) : Except ConfigError Config :=
  match entries.get? "max_macro_depth" with
  | none => .ok {}
  | some (.value (.integer n)) =>
    if 0 ≤ n then .ok ⟨some (UInt64.ofNat n.toNat)⟩ else .error .invalidDepth
  | some _ => .error .invalidDepth

/-- The configuration in the text of a document (`CompilerConfig::from_toml_str`). -/
def ofToml (text : String) : Except ConfigError Config :=
  match Toml.document? text.toList with
  | some entries => ofEntries entries
  | none => .error .malformed

end Config

end SlideDeck
