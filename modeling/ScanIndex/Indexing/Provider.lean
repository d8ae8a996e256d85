import ScanIndex.Textract.Client

/-!
# Providers of text recognition

The settings select a `Provider`: Textract, or none, in which case every file is refused.
-/

namespace ScanIndex

/-- A provider of text recognition. -/
inductive Provider where
  | disabled
  | textract (client : Textract.Client)

/-- Why there is no provider for some settings. -/
inductive ProviderError where
  | unknown (name : String)
  | credentials (e : CredentialsError)
  | endpoint (e : Textract.EndpointError)
deriving DecidableEq

/-- The message of an error. -/
def ProviderError.message : ProviderError → String
  | unknown name => "Unknown OCR provider: " ++ name
  | credentials e => e.message
  | endpoint e => e.message

namespace Provider

/-- The provider that settings select in an environment. -/
def ofConfig (c : OcrConfig) (env : Environment) : Except ProviderError Provider :=
  if !c.isEnabled then .ok .disabled
  else if c.provider = "textract" then
    match Credentials.ofEnvironment env with
    | .error e => .error (.credentials e)
    | .ok credentials =>
      match Textract.Client.ofConfig c credentials with
      | .error e => .error (.endpoint e)
      | .ok client => .ok (.textract client)
  else .error (.unknown c.provider)

/-- Ask a provider for the text of a file. -/
def detect (p : Provider) (send : Textract.Transport) (date : String) (f : File) :
    Except OcrError (List Block) :=
  match p with
  | disabled => .error (.rejected ("OCR s3://" ++ f.path) (some "OCR provider is disabled"))
  | textract client => client.detect send date f

/-- The engine of a provider. -/
def engine (p : Provider) (send : Textract.Transport) (date : String) : Engine :=
  fun _ f => some (p.detect send date f)

end Provider

end ScanIndex
