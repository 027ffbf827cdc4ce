/-!
# SignedPayments.Text.Redacted

The form in which a secret may be shown. An empty secret is said to be empty, a
short one shows nothing, and a long one shows its first and its last three
characters. Characters are counted, not bytes.
-/

namespace SignedPayments

/-- How a secret is shown. -/
inductive Redacted
  /-- There is no secret. -/
  | empty
  /-- The secret is too short to show any part of it. -/
  | hidden
  /-- Three characters at each end are shown. -/
  | ends (first last : List Char)
deriving DecidableEq, Repr

namespace Redacted

/-- From this many characters on, the ends are shown. -/
def showFrom : Nat := 12

/-- How many characters are shown at each end. -/
def shown : Nat := 3

/-- The form of a secret. -/
def ofSecret (secret : String) : Redacted :=
  let cs := secret.toList
  if cs = [] then .empty
  else if cs.length < showFrom then .hidden
  else .ends (cs.take shown) (cs.drop (cs.length - shown))

/-- The form of a secret that may be missing: a missing one counts as empty. -/
def ofSecret? (secret : Option String) : Redacted := ofSecret (secret.getD "")

/-- The form as text. -/
def text : Redacted → String
  | .empty => "EMPTY"
  | .hidden => "***"
  | .ends first last => String.ofList first ++ "***" ++ String.ofList last

end Redacted

end SignedPayments
