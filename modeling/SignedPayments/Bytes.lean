/-!
# SignedPayments.Bytes

Messages as they are sent, signed and digested.
-/

namespace SignedPayments

/-- A message, byte by byte. -/
abbrev Bytes := List UInt8

end SignedPayments
