import ScanIndex.Text.Quoted

/-!
# Credentials

Credentials are taken from the variables of an environment.  Their description hides all but the
identifier of the key.
-/

namespace ScanIndex

/-- The variables of an environment. -/
abbrev Environment := List (String × String)

/-- The value of a variable. -/
def Environment.value? (env : Environment) (name : String) : Option String :=
  (env.find? fun e => e.1 = name).map Prod.snd

/-- The credentials of an account. -/
structure Credentials where
  keyId : String
  secretKey : String
  sessionToken : Option String
deriving DecidableEq

/-- Why credentials cannot be taken from an environment. -/
inductive CredentialsError where
  | unset (name : String)
deriving DecidableEq

/-- The message of an error. -/
def CredentialsError.message : CredentialsError → String
  | unset name => name ++ " environment variable not set"

namespace Credentials

/-- The credentials in an environment. -/
def ofEnvironment (env : Environment) : Except CredentialsError Credentials :=
  match env.value? "AWS_ACCESS_KEY_ID", env.value? "AWS_SECRET_ACCESS_KEY" with
  | none, _ => .error (.unset "AWS_ACCESS_KEY_ID")
  | some _, none => .error (.unset "AWS_SECRET_ACCESS_KEY")
  | some id, some secret => .ok ⟨id, secret, env.value? "AWS_SESSION_TOKEN"⟩

/-- What stands for a secret in a description. -/
def redacted : String := quoted "<redacted>"

/-- The description of credentials. -/
def description (c : Credentials) : String :=
  "AwsCredentials \x7b access_key_id: " ++ quoted c.keyId ++ ", secret_access_key: " ++ redacted
    ++ ", session_token: "
    ++ (if c.sessionToken.isSome then "Some(" ++ redacted ++ ")" else "None") ++ " \x7d"

end Credentials

end ScanIndex
