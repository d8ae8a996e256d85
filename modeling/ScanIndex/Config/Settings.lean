import ScanIndex.Text.Blank
import ScanIndex.Toml.Value

/-!
# Settings

`Config.ofToml?` reads the settings of the program from the entries of a document.  Settings that
are left out have default values.  `Config.check` refuses settings that make no sense.
-/

namespace ScanIndex

/-- The settings of the service. -/
structure ServerConfig where
  bind : String
  /-- The token that requests must present, if there is one. -/
  sharedSecret : Option String
  requestTimeout : Nat
deriving DecidableEq

/-- The settings of text recognition. -/
structure OcrConfig where
  provider : String
  region : String
  endpoint : Option String
  timeout : Nat
deriving DecidableEq

/-- All settings. -/
structure Config where
  databasePath : String
  server : ServerConfig
  ocr : OcrConfig
deriving DecidableEq

/-- Why settings are refused. -/
inductive ConfigError where
  | unreadable (path : String)
  | malformed
  | requestTimeout
  | ocrTimeout
  | region
  | provider (name : String)
  | emptySecret
deriving DecidableEq

/-- The message of an error in the settings. -/
def ConfigError.message : ConfigError → String
  | unreadable path => "Failed to read config file: " ++ path
  | malformed => "Failed to parse config file"
  | requestTimeout => "server.request_timeout_secs must be > 0"
  | ocrTimeout => "ocr.timeout_secs must be > 0"
  | region => "ocr.region must be set when provider is 'textract'"
  | provider name => "Unknown OCR provider: '" ++ name ++ "'. Must be textract or disabled."
  | emptySecret => "server.shared_secret must not be empty when set"

/-- The settings of the service where none are given. -/
def ServerConfig.default : ServerConfig := ⟨"127.0.0.1:7340", none, 30⟩

/-- The settings of text recognition where none are given. -/
def OcrConfig.default : OcrConfig := ⟨"textract", "us-east-1", none, 30⟩

/-- Text recognition is not turned off. -/
def OcrConfig.isEnabled (c : OcrConfig) : Bool := c.provider ≠ "disabled"

namespace Toml

/-- A text. -/
def text? : Toml → Option String
  | string s => some s
  | _ => none

/-- A number that is not negative. -/
def natural? : Toml → Option Nat
  | integer n => if 0 ≤ n then some n.toNat else none
  | _ => none

/-- The values of the given names in a table, or in an array that lists them in this order.  A date
is a table without any of them. -/
def fields? (names : List String) : Toml → Option (List (Option Toml))
  | table _ entries => some (names.map fun name => find? name entries)
  | array items => some (names.mapIdx fun i _ => items[i]?)
  | tables earlier last =>
    let items := (earlier ++ [last]).map (table .header)
    some (names.mapIdx fun i _ => items[i]?)
  | datetime => some (names.map fun _ => none)
  | _ => none

/-- Read a value, or take a default if it is missing. -/
def readD {α : Type} (read : Toml → Option α) (default : α) : Option Toml → Option α
  | some v => read v
  | none => some default

end Toml

open Toml

/-- Read the settings of the service. -/
def ServerConfig.ofToml? (v : Toml) : Option ServerConfig := do
  match ← fields? ["bind", "shared_secret", "request_timeout_secs"] v with
  | [bind, secret, timeout] =>
    let bind ← readD text? default.bind bind
    let secret ← readD (fun v => (text? v).map some) default.sharedSecret secret
    let timeout ← readD natural? default.requestTimeout timeout
    return ⟨bind, secret, timeout⟩
  | _ => none

/-- Read the settings of text recognition. -/
def OcrConfig.ofToml? (v : Toml) : Option OcrConfig := do
  match ← fields? ["provider", "region", "endpoint_url", "timeout_secs"] v with
  | [provider, region, endpoint, timeout] =>
    let provider ← readD text? default.provider provider
    let region ← readD text? default.region region
    let endpoint ← readD (fun v => (text? v).map some) default.endpoint endpoint
    let timeout ← readD natural? default.timeout timeout
    return ⟨provider, region, endpoint, timeout⟩
  | _ => none

/-- Read the path of the database. -/
def Config.pathOfToml? (v : Toml) : Option String := do
  match ← fields? ["path"] v with
  | [some path] => text? path
  | _ => none

namespace Config

/-- Read all settings. -/
def ofToml? (entries : Toml.Entries) : Option Config := do
  let path ← find? "db" entries >>= pathOfToml?
  let server ← readD ServerConfig.ofToml? .default (find? "server" entries)
  let ocr ← readD OcrConfig.ofToml? .default (find? "ocr" entries)
  return ⟨path, server, ocr⟩

/-- The settings for a database without text recognition. -/
def minimal (path : String) : Config :=
  ⟨path, .default, { OcrConfig.default with provider := "disabled" }⟩

/-- Refuse text recognition by an unknown provider, or in no region. -/
def checkProvider (c : OcrConfig) : Except ConfigError Unit :=
  if c.provider = "disabled" then .ok ()
  else if c.provider = "textract" then
    if trimBlanks c.region = "" then .error .region else .ok ()
  else .error (.provider c.provider)

/-- Refuse settings that make no sense. -/
def check (c : Config) : Except ConfigError Unit := do
  if c.server.requestTimeout = 0 then throw .requestTimeout
  if c.ocr.timeout = 0 then throw .ocrTimeout
  checkProvider c.ocr
  if c.server.sharedSecret = some "" then throw .emptySecret

end Config

end ScanIndex
