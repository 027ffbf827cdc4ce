import SignedPayments.Text.Redacted

/-!
# SignedPayments.Credential

The key of a merchant. It says who asks, and it signs: whoever has it can act for
the merchant, so it is shown only in its redacted form.
-/

namespace SignedPayments

/-- The key of a merchant. -/
structure Credential where
  apiKey : String
deriving DecidableEq

namespace Credential

/-- Whether a credential can sign: its key is not empty. -/
def isValid (c : Credential) : Bool := c.apiKey ≠ ""

/-- Something that holds a key, as it is shown. -/
def describeAs (name apiKey : String) : String :=
  name ++ " \x7b api_key: " ++ (Redacted.ofSecret apiKey).text ++ " \x7d"

/-- How a credential is shown. -/
def describe (c : Credential) : String := describeAs "Credential" c.apiKey

/-- Whether there is a credential, and it can sign. -/
def isUsable (c : Option Credential) : Bool := c.any isValid

/-- How a credential that may be missing is shown. -/
def describe? (c : Option Credential) : String := c.elim "None" fun c => "Some(" ++ c.describe ++ ")"

end Credential

end SignedPayments
