import ScanIndex.Digest.Hmac
import ScanIndex.Signing.Credentials
import ScanIndex.Text.Blank
import ScanIndex.Text.Case
import ScanIndex.Text.Utf8

/-!
# Signed requests

`authorization` signs a request with credentials: it brings the request into a canonical form, in
which the headers are sorted by their names in lower case, and signs the digest of that form with a
key that is derived from the secret key, the day, the region and the service.
-/

namespace ScanIndex

/-- The parts of a request that are signed. -/
structure Signable where
  method : String
  path : String
  query : String
  headers : List (String × String)
  payload : List UInt8

namespace Signable

/-- A header with its name in lower case and its value without blanks at either end. -/
def normalised (h : String × String) : String × String := (lowerAscii h.1, trimBlanks h.2)

/-- The headers in their canonical form: sorted by their names, those of one name in their order. -/
def canonicalHeaders (headers : List (String × String)) : List (String × String) :=
  (headers.map normalised).mergeSort fun a b => a.1 ≤ b.1

/-- The names of headers between semicolons. -/
def nameList (headers : List (String × String)) : String :=
  ";".intercalate (headers.map Prod.fst)

/-- Headers, one a line. -/
def headerBlock (headers : List (String × String)) : String :=
  String.join (headers.map fun h => h.1 ++ ":" ++ h.2 ++ "\n")

/-- The digest of bytes in base 16. -/
def digestText (bytes : List UInt8) : String := hexOfBytes (Sha256.hash bytes)

/-- The canonical form of a request. -/
def canonical (r : Signable) : String :=
  let headers := canonicalHeaders r.headers
  "\n".intercalate [r.method, r.path, r.query, headerBlock headers, nameList headers,
    digestText r.payload]

end Signable

/-- The day of a date: its first eight bytes, if they end with a character. -/
def dayOf? (date : String) : Option String :=
  match Utf8.decode ((Utf8.encode date).take 8) with
  | .ok day => some day
  | .error _ => none

/-- The place at which a signature is good. -/
def scopeText (day region service : String) : String :=
  "/".intercalate [day, region, service, "aws4_request"]

/-- The key that signs the requests of a day to a service in a region. -/
def signingKey (secretKey day region service : String) : List UInt8 :=
  let key := hmac (Utf8.encode ("AWS4" ++ secretKey)) (Utf8.encode day)
  let key := hmac key (Utf8.encode region)
  let key := hmac key (Utf8.encode service)
  hmac key (Utf8.encode "aws4_request")

/-- The value of the header that authorises a request; none if the date has no day. -/
def authorization? (c : Credentials) (region service date : String) (r : Signable) :
    Option String := do
  let day ← dayOf? date
  let scope := scopeText day region service
  let toSign := "\n".intercalate
    ["AWS4-HMAC-SHA256", date, scope, Signable.digestText (Utf8.encode r.canonical)]
  let signature := hmac (signingKey c.secretKey day region service) (Utf8.encode toSign)
  return "AWS4-HMAC-SHA256 Credential=" ++ c.keyId ++ "/" ++ scope ++ ", SignedHeaders="
    ++ Signable.nameList (Signable.canonicalHeaders r.headers) ++ ", Signature="
    ++ hexOfBytes signature

end ScanIndex
