import ScanIndex.Config.Settings
import ScanIndex.Toml.Reader

/-!
# Reading settings

`Config.parse` reads settings from the text of a document and checks them.
-/

namespace ScanIndex.Config

/-- Read settings from a text. -/
def parse (text : String) : Except ConfigError Config :=
  match (Toml.parse? text).bind ofToml? with
  | none => .error .malformed
  | some c =>
    match c.check with
    | .ok () => .ok c
    | .error e => .error e

end ScanIndex.Config
