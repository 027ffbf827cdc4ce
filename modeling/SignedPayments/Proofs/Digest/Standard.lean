import Mathlib.Data.Nat.Find
import Mathlib.Data.Nat.Nth
import Mathlib.Data.Nat.Prime.Defs
import SignedPayments.Bytes
import SignedPayments.Number.Power

/-!
# SignedPayments.Proofs.Digest.Standard

SHA-256 and HMAC as their standards describe them, to compare with and not to run.

* A word is a vector of 32 bits. The words of a schedule and the rounds are numbered.
* The constants are the first bits of roots of the first primes.
* Padding is told by the congruence that it has to meet, and not by a formula.

`Sha256.Standard.Digests` and `Hmac.Authenticates` are relations between a message and its
digest or code. That each message has one, and which, is proved of the functions that run.
-/

namespace SignedPayments

namespace Sha256.Standard

/-- A word. -/
abbrev Word := BitVec 32

/-! ### Constants -/

/-- The greatest number whose `k`-th power is at most `m`. -/
def root (k m : Nat) : Nat := Nat.findGreatest (fun n => n ^ k ≤ m) m

/-- The first 32 bits of the fractional part of the `k`-th root of `p`. -/
def rootFraction (k p : Nat) : Word := BitVec.ofNat 32 (root k (p * 2 ^ (32 * k)))

/-- The constant of round `t` comes from the cube root of a prime. -/
noncomputable def roundConstant (t : Nat) : Word := rootFraction 3 (Nat.nth Nat.Prime t)

/-- The word `j` of the start value comes from the square root of a prime. -/
noncomputable def startWord (j : Nat) : Word := rootFraction 2 (Nat.nth Nat.Prime j)

/-! ### Functions on words -/

def choose (x y z : Word) : Word := (x &&& y) ^^^ (~~~x &&& z)

def majority (x y z : Word) : Word := (x &&& y) ^^^ (x &&& z) ^^^ (y &&& z)

def bigSigma0 (x : Word) : Word := x.rotateRight 2 ^^^ x.rotateRight 13 ^^^ x.rotateRight 22

def bigSigma1 (x : Word) : Word := x.rotateRight 6 ^^^ x.rotateRight 11 ^^^ x.rotateRight 25

def sigma0 (x : Word) : Word := x.rotateRight 7 ^^^ x.rotateRight 18 ^^^ (x >>> 3)

def sigma1 (x : Word) : Word := x.rotateRight 17 ^^^ x.rotateRight 19 ^^^ (x >>> 10)

/-! ### One block -/

/-- The word `t` of a block: four bytes, one after the other. -/
def blockWord (block : Bytes) (t : Nat) : Word :=
  (block.getD (4 * t) 0).toBitVec ++ (block.getD (4 * t + 1) 0).toBitVec ++
    (block.getD (4 * t + 2) 0).toBitVec ++ (block.getD (4 * t + 3) 0).toBitVec

/-- The word `t` of the schedule. -/
def schedule (block : Bytes) (t : Nat) : Word :=
  if t < 16 then blockWord block t
  else
    sigma1 (schedule block (t - 2)) + schedule block (t - 7) +
      sigma0 (schedule block (t - 15)) + schedule block (t - 16)
termination_by t

/-- Eight words. -/
structure Registers where
  a : Word
  b : Word
  c : Word
  d : Word
  e : Word
  f : Word
  g : Word
  h : Word

/-- The start value. -/
noncomputable def start : Registers :=
  ⟨startWord 0, startWord 1, startWord 2, startWord 3, startWord 4, startWord 5, startWord 6,
    startWord 7⟩

/-- Round `t` on a block. -/
noncomputable def round (block : Bytes) (r : Registers) (t : Nat) : Registers :=
  let t1 := r.h + bigSigma1 r.e + choose r.e r.f r.g + roundConstant t + schedule block t
  let t2 := bigSigma0 r.a + majority r.a r.b r.c
  ⟨t1 + t2, r.a, r.b, r.c, r.d + t1, r.e, r.f, r.g⟩

/-- What a block makes of a value: 64 rounds, and the sum with the value. -/
noncomputable def compress (v : Registers) (block : Bytes) : Registers :=
  let r := (List.range 64).foldl (round block) v
  ⟨r.a + v.a, r.b + v.b, r.c + v.c, r.d + v.d, r.e + v.e, r.f + v.f, r.g + v.g, r.h + v.h⟩

/-! ### Messages -/

/-- The bytes of a vector of `8 * n` bits, the highest first. -/
def bytesOf {w : Nat} (n : Nat) (v : BitVec w) : Bytes :=
  (List.range n).map fun i => UInt8.ofBitVec (v.extractLsb' (8 * (n - 1 - i)) 8)

/-- How a message of `l` bits is filled up: a one bit, as few zero bits as leave 64 bits of a
block of 512 bits, and there the number `l`. As the message is made of bytes, the one bit and
the first seven zero bits are a byte, and whole bytes of zero bits follow. The standard stops
before `l` is too great for 64 bits; from there on, its last 64 bits are meant. -/
structure Pads (message padded : Bytes) (zeros : Nat) : Prop where
  eq : padded = message ++
    (0x80 :: (List.replicate zeros 0 ++ bytesOf 8 (BitVec.ofNat 64 (8 * message.length))))
  fills : (8 * message.length + 1 + (7 + 8 * zeros)) % 512 = 448
  least : ∀ k, (8 * message.length + 1 + k) % 512 = 448 → 7 + 8 * zeros ≤ k

/-- The bytes of eight words. -/
def Registers.toBytes (r : Registers) : Bytes :=
  [r.a, r.b, r.c, r.d, r.e, r.f, r.g, r.h].flatMap (bytesOf 4)

/-- The digest of a message. -/
def Digests (message digest : Bytes) : Prop :=
  ∃ (blocks : List Bytes) (zeros : Nat), Pads message blocks.flatten zeros ∧
    (∀ block ∈ blocks, block.length = 64) ∧ digest = (blocks.foldl compress start).toBytes

end Sha256.Standard

namespace Hmac

open Sha256.Standard (Digests)

/-- How a key is brought to the 64 bytes of a block. -/
inductive FillsBlock (key : Bytes) : Bytes → Prop
  | short (h : key.length ≤ 64) : FillsBlock key (key ++ List.replicate (64 - key.length) 0)
  /-- Of a longer key the digest is taken. -/
  | long (h : 64 < key.length) {digest : Bytes} (hdigest : Digests key digest) :
      FillsBlock key (digest ++ List.replicate (64 - digest.length) 0)

/-- The code of a message under a key: the digest of the outer form of the key and the digest
of its inner form and the message. -/
def Authenticates (key message code : Bytes) : Prop :=
  ∃ block inner, FillsBlock key block ∧ Digests (block.map (· ^^^ 0x36) ++ message) inner ∧
    Digests (block.map (· ^^^ 0x5c) ++ inner) code

end Hmac

end SignedPayments
