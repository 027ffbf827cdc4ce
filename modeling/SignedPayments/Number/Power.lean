/-!
# SignedPayments.Number.Power

In `2 ^ n` the power of a number is its own, `Nat.pow` or `Int.pow`. Where the powers of
monoids are in scope too, they would be taken otherwise, and a bound would be another
term in a proof than in the definition it is about.
-/

namespace SignedPayments

attribute [default_instance 20000, instance (high)] instPowNat

end SignedPayments
