import ScanIndex.Digest.Hmac
import ScanIndex.Http.Message
import ScanIndex.Text.Utf8

/-!
# Access to the service

A service with a secret answers only requests that present a token.  The token is accepted if it
gives the same digest as the secret when both are used as keys.
-/

namespace ScanIndex.Http

/-- The message whose digests are compared. -/
def tokenMessage : List UInt8 := Utf8.encode "pagegrep bearer token"

/-- The digest of a text that is used as a key. -/
def tokenDigest (key : String) : List UInt8 := hmac (Utf8.encode key) tokenMessage

/-- The rest of a text behind a given beginning. -/
def afterPrefix? (start s : String) : Option String :=
  if start.toList.isPrefixOf s.toList then some (String.ofList (s.toList.drop start.length))
  else none

/-- The token that a request presents. -/
def presentedToken? (r : Request) : Option String := do
  let value ← r.header? "authorization"
  let text ← visibleText? value
  afterPrefix? "Bearer " text

/-- The request may be answered by a service with the given secret. -/
def authorized (secret : Option String) (r : Request) : Bool :=
  match secret with
  | none => true
  | some secret =>
    match presentedToken? r with
    | some token => tokenDigest token = tokenDigest secret
    | none => false

end ScanIndex.Http
