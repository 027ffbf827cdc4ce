import SignedPayments.Text.Canonical.Class
import SignedPayments.Text.Canonical.Composite

/-!
# SignedPayments.Text.Canonical

Spellings that mean the same: a composite or its parts, and marks of different classes
in one order or the other. The normal spelling takes all composites apart, puts the
marks in order and composes again what can be composed. It is right for texts of
characters that composition gives back; those that stand for others once and for all
are in no table here.
-/

namespace SignedPayments

namespace Canonical

/-- How often a composite may be taken apart before no part is a composite. -/
def deepest : Nat := 3

/-- A character, taken apart at most `depth` times. The second part is never a
composite. -/
def partsOf : (depth : Nat) → Nat → List Nat
  | 0, c => [c]
  | depth + 1, c =>
    match parts? c with
    | some (first, second) => partsOf depth first ++ [second]
    | none => [c]

/-- A text without composites. -/
def decompose (cs : List Nat) : List Nat := cs.flatMap (partsOf deepest)

/-- Puts a character behind a text that is held backwards, before the marks that go
after it. -/
def settleMark (c : Nat) : List Nat → List Nat
  | [] => [c]
  | last :: before =>
    if combiningClass c ≠ 0 ∧ combiningClass c < combiningClass last then
      last :: settleMark c before
    else c :: last :: before

/-- A text with the marks after each letter in the order of their classes. -/
def order (cs : List Nat) : List Nat :=
  (cs.foldl (fun done c => settleMark c done) []).reverse

/-- Composes a letter with what follows it. The marks between that did not compose are
held backwards: a character reaches the letter over marks of a lower class than its
own. -/
def composeFrom (letter : Nat) (marks : List Nat) : List Nat → List Nat
  | [] => letter :: marks.reverse
  | c :: rest =>
    let reaches :=
      match marks with
      | [] => true
      | last :: _ => combiningClass last < combiningClass c
    match if reaches then composite? letter c else none with
    | some whole => composeFrom whole marks rest
    | none =>
      if combiningClass c = 0 then letter :: (marks.reverse ++ composeFrom c [] rest)
      else composeFrom letter (c :: marks) rest

/-- A text with its parts composed. -/
def compose : List Nat → List Nat
  | [] => []
  | c :: rest => if combiningClass c = 0 then composeFrom c [] rest else c :: compose rest

/-- The normal spelling of a text. -/
def normal (cs : List Nat) : List Nat := compose (order (decompose cs))

/-- Whether a text is in its normal spelling. -/
def isNormal (cs : List Char) : Bool :=
  let numbers := cs.map Char.toNat
  normal numbers == numbers

end Canonical

end SignedPayments
