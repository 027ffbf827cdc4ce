import SignedPayments.Json.Writer

/-!
# SignedPayments.Payment

Payments and refunds, as they are asked for. The amount is sent as it is given.
What is not given is sent as `null`, never left out.
-/

namespace SignedPayments

/-- Whether two optional objects stand for the same. -/
def metadataAgree : Option Json.Object → Option Json.Object → Bool
  | none, none => true
  | some a, some b => Json.membersAgree a b
  | _, _ => false

/-- A string that may be missing, as JSON text. -/
def stringChars? (s : Option String) : List Char := s.elim ['n', 'u', 'l', 'l'] Json.stringChars

/-- An object that may be missing, as JSON text. -/
def objectChars? (members : Option Json.Object) : List Char :=
  members.elim ['n', 'u', 'l', 'l'] (·.chars)

/-- A payment to be made. -/
structure Payment where
  amount : Binary64
  currency : String
  description : Option String := none
  metadata : Option Json.Object := none

namespace Payment

/-- A payment as JSON text. -/
def chars (p : Payment) : List Char :=
  "\x7b\"amount\":".toList ++ Json.floatChars p.amount ++
  ",\"currency\":".toList ++ Json.stringChars p.currency ++
  ",\"description\":".toList ++ stringChars? p.description ++
  ",\"metadata\":".toList ++ objectChars? p.metadata ++ ['\x7d']

/-- Whether payments stand for the same. A payment whose amount is no number does not
even agree with itself. -/
def agrees (p q : Payment) : Bool :=
  p.amount.agrees q.amount && p.currency = q.currency && p.description = q.description &&
  metadataAgree p.metadata q.metadata

end Payment

/-- A payment to be given back. -/
structure Refund where
  paymentId : String
  amount : Binary64
  reason : String
  metadata : Option Json.Object := none

namespace Refund

/-- A refund as JSON text. -/
def chars (r : Refund) : List Char :=
  "\x7b\"paymentId\":".toList ++ Json.stringChars r.paymentId ++
  ",\"amount\":".toList ++ Json.floatChars r.amount ++
  ",\"reason\":".toList ++ Json.stringChars r.reason ++
  ",\"metadata\":".toList ++ objectChars? r.metadata ++ ['\x7d']

/-- Whether refunds stand for the same. -/
def agrees (r s : Refund) : Bool :=
  r.paymentId = s.paymentId && r.amount.agrees s.amount && r.reason = s.reason &&
  metadataAgree r.metadata s.metadata

end Refund

end SignedPayments
