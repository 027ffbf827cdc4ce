import SignedPayments.Context
import SignedPayments.Credential
import SignedPayments.Log

/-!
# SignedPayments.Provider

Where credentials come from. A provider may give another outcome each time it is
asked; it is asked with the number of times it was asked before.
-/

namespace SignedPayments

/-- What comes of asking a provider. -/
structure Loaded where
  result : Except Error (Option Credential)
  log : Log := []

/-- A source of credentials. -/
structure Provider where
  /-- How it is shown. -/
  name : String
  load : Nat → Environment → Loaded

namespace VariableName

/-- The variable that holds the key. -/
def apiKey : String := "PI_PAYMENT_API_KEY"

/-- The variable that says where requests are sent. -/
def baseUrl : String := "PI_PAYMENT_BASE_URL"

/-- The variable that says how many seconds an answer may take. -/
def timeout : String := "PI_PAYMENT_TIMEOUT"

end VariableName

namespace Provider

/-- Always gives the same key. -/
def fixed (apiKey : String) : Provider where
  name := Credential.describeAs "StaticCredentialProvider" apiKey
  load _ _ := { result := .ok (some ⟨apiKey⟩) }

/-- Looks the key up. An empty one counts as missing. -/
def environment : Provider where
  name := "EnvCredentialProvider"
  load _ env :=
    match env.lookUp VariableName.apiKey with
    | none => missing
    | some key => if key = "" then missing else { result := .ok (some ⟨key⟩) }
where
  missing : Loaded :=
    { result := .ok none, log := [.debug (VariableName.apiKey ++ " is not set")] }

end Provider

end SignedPayments
