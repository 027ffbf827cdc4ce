import SignedPayments.Time.Calendar

/-!
# SignedPayments.Time.Instant

Points in universal time: whole seconds from the start of 1970, and nanoseconds.

Design points:

* The seconds cover the years -262143 to 262142.
* The nanoseconds may run on for one second more. From `10 ^ 9` on they tell a
  leap second, which follows the last second of a minute.
* A point may hold such nanoseconds at any second, for a part of it can be set
  alone. Clocks and readers only give them after second 59.
-/

namespace SignedPayments

/-- A point in universal time. -/
structure Instant where
  /-- Seconds from the start of 1970. -/
  seconds : Int
  /-- Nanoseconds within the second. -/
  nanos : Nat
  least_le : -8334601228800 ≤ seconds
  le_most : seconds ≤ 8210266876799
  nanos_lt : nanos < 2000000000
deriving DecidableEq

namespace Instant

/-- Nanoseconds beyond a second are those of a leap second, at the end of a minute. -/
def InPlace (t : Instant) : Prop := t.nanos < 1000000000 ∨ t.seconds % 60 = 59

instance (t : Instant) : Decidable t.InPlace := inferInstanceAs (Decidable (_ ∨ _))

/-- The point with these seconds and nanoseconds, if there is one. A leap second is only
taken after second 59. -/
def of? (seconds : Int) (nanos : Nat) : Option Instant :=
  if h : (-8334601228800 ≤ seconds ∧ seconds ≤ 8210266876799) ∧
      (nanos < 1000000000 ∨ (nanos < 2000000000 ∧ seconds % 60 = 59)) then
    some ⟨seconds, nanos, h.1.1, h.1.2, by omega⟩
  else none

theorem of?_of_inPlace {t : Instant} (h : t.InPlace) : of? t.seconds t.nanos = some t :=
  dif_pos ⟨⟨t.least_le, t.le_most⟩, h.imp_right fun hlast => ⟨t.nanos_lt, hlast⟩⟩

/-- The day of a point. -/
def days (t : Instant) : Int := t.seconds / 86400

/-- The second of its day, without a leap second. -/
def secondOfDay (t : Instant) : Nat := (t.seconds % 86400).toNat

/-- Whether the nanoseconds are those of a leap second. -/
def isLeap (t : Instant) : Bool := 1000000000 ≤ t.nanos

/-- Whole microseconds within the second, the leap second counting on its own. -/
def micros (t : Instant) : Nat := t.nanos % 1000000000 / 1000

end Instant

end SignedPayments
