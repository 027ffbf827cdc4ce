import SignedPayments.Bytes

/-!
# SignedPayments.Digest.Sha256

The SHA-256 digest, in two forms.

Design points:

* `Sha256.hash` is the textbook form: pad the whole message, cut it into blocks
  of 64 bytes, fold the compression function over the blocks. It is the form to
  reason about.
* `Sha256.Stream` is the form that runs: it takes a message piece by piece and
  keeps only the chaining state, the bytes that do not fill a block yet, and the
  length so far.
* Words are `UInt32`, so additions wrap as the standard asks.
-/

namespace SignedPayments

namespace Sha256

/-- The round constants: the first 32 bits of the fractional parts of the cube
roots of the first 64 primes. -/
def roundConstants : List UInt32 :=
  [0x428a2f98, 0x71374491, 0xb5c0fbcf, 0xe9b5dba5, 0x3956c25b, 0x59f111f1, 0x923f82a4, 0xab1c5ed5,
   0xd807aa98, 0x12835b01, 0x243185be, 0x550c7dc3, 0x72be5d74, 0x80deb1fe, 0x9bdc06a7, 0xc19bf174,
   0xe49b69c1, 0xefbe4786, 0x0fc19dc6, 0x240ca1cc, 0x2de92c6f, 0x4a7484aa, 0x5cb0a9dc, 0x76f988da,
   0x983e5152, 0xa831c66d, 0xb00327c8, 0xbf597fc7, 0xc6e00bf3, 0xd5a79147, 0x06ca6351, 0x14292967,
   0x27b70a85, 0x2e1b2138, 0x4d2c6dfc, 0x53380d13, 0x650a7354, 0x766a0abb, 0x81c2c92e, 0x92722c85,
   0xa2bfe8a1, 0xa81a664b, 0xc24b8b70, 0xc76c51a3, 0xd192e819, 0xd6990624, 0xf40e3585, 0x106aa070,
   0x19a4c116, 0x1e376c08, 0x2748774c, 0x34b0bcb5, 0x391c0cb3, 0x4ed8aa4a, 0x5b9cca4f, 0x682e6ff3,
   0x748f82ee, 0x78a5636f, 0x84c87814, 0x8cc70208, 0x90befffa, 0xa4506ceb, 0xbef9a3f7, 0xc67178f2]

/-- The eight chaining words. -/
structure State where
  a : UInt32
  b : UInt32
  c : UInt32
  d : UInt32
  e : UInt32
  f : UInt32
  g : UInt32
  h : UInt32
deriving DecidableEq, Repr

/-- The start value: the first 32 bits of the fractional parts of the square
roots of the first eight primes. -/
def State.initial : State :=
  ⟨0x6a09e667, 0xbb67ae85, 0x3c6ef372, 0xa54ff53a, 0x510e527f, 0x9b05688c, 0x1f83d9ab, 0x5be0cd19⟩

/-- Rotation to the right; `n` is between 1 and 31. -/
def rotr (x : UInt32) (n : UInt32) : UInt32 := (x >>> n) ||| (x <<< (32 - n))

/-- The schedule's mixing of the word fifteen places back. -/
def sigma0 (x : UInt32) : UInt32 := rotr x 7 ^^^ rotr x 18 ^^^ (x >>> 3)

/-- The schedule's mixing of the word two places back. -/
def sigma1 (x : UInt32) : UInt32 := rotr x 17 ^^^ rotr x 19 ^^^ (x >>> 10)

/-- The round's mixing of `a`. -/
def bigSigma0 (x : UInt32) : UInt32 := rotr x 2 ^^^ rotr x 13 ^^^ rotr x 22

/-- The round's mixing of `e`. -/
def bigSigma1 (x : UInt32) : UInt32 := rotr x 6 ^^^ rotr x 11 ^^^ rotr x 25

/-- Bitwise choice: where `x` has a one take `y`, else `z`. -/
def choose (x y z : UInt32) : UInt32 := (x &&& y) ^^^ (~~~x &&& z)

/-- Bitwise majority. -/
def majority (x y z : UInt32) : UInt32 := (x &&& y) ^^^ (x &&& z) ^^^ (y &&& z)

/-! ### One block -/

/-- Bytes as words, the first byte of each word being its highest. -/
def wordsOf : Bytes → List UInt32
  | p :: q :: r :: s :: rest =>
    ((p.toUInt32 <<< 24) ||| (q.toUInt32 <<< 16) ||| (r.toUInt32 <<< 8) ||| s.toUInt32)
      :: wordsOf rest
  | _ => []

/-- The bytes of a word, highest first. -/
def wordBytes (w : UInt32) : Bytes :=
  [(w >>> 24).toUInt8, (w >>> 16).toUInt8, (w >>> 8).toUInt8, w.toUInt8]

/-- The next word of a schedule, from the words so far, the latest first. -/
def nextWord (recent : List UInt32) : UInt32 :=
  -- The words 2, 7, 15 and 16 places back.
  sigma1 (recent.getD 1 0) + recent.getD 6 0 + sigma0 (recent.getD 14 0) + recent.getD 15 0

/-- Adds `n` words to a schedule that is kept with the latest word first. -/
def extend : Nat → List UInt32 → List UInt32
  | 0, recent => recent
  | n + 1, recent => extend n (nextWord recent :: recent)

/-- The 64 words that the rounds of one block use. -/
def schedule (block : Bytes) : List UInt32 :=
  (extend 48 (wordsOf block).reverse).reverse

/-- One round, with its constant and its schedule word. -/
def round (s : State) (kw : UInt32 × UInt32) : State :=
  let t1 := s.h + bigSigma1 s.e + choose s.e s.f s.g + kw.1 + kw.2
  let t2 := bigSigma0 s.a + majority s.a s.b s.c
  ⟨t1 + t2, s.a, s.b, s.c, s.d + t1, s.e, s.f, s.g⟩

/-- Wordwise sum of two states. -/
def State.add (s t : State) : State :=
  ⟨s.a + t.a, s.b + t.b, s.c + t.c, s.d + t.d, s.e + t.e, s.f + t.f, s.g + t.g, s.h + t.h⟩

/-- The compression function. -/
def compress (s : State) (block : Bytes) : State :=
  s.add ((roundConstants.zip (schedule block)).foldl round s)

/-- The digest that a final state stands for. -/
def State.toBytes (s : State) : Bytes :=
  wordBytes s.a ++ wordBytes s.b ++ wordBytes s.c ++ wordBytes s.d ++
  wordBytes s.e ++ wordBytes s.f ++ wordBytes s.g ++ wordBytes s.h

@[simp] theorem length_wordBytes (w : UInt32) : (wordBytes w).length = 4 := rfl

@[simp] theorem State.length_toBytes (s : State) : s.toBytes.length = 32 := rfl

/-! ### Whole messages -/

/-- A number as eight bytes, highest first, reduced modulo `2 ^ 64`. -/
def lengthBytes (n : Nat) : Bytes :=
  [56, 48, 40, 32, 24, 16, 8, 0].map fun shift => UInt8.ofNat (n >>> shift)

/-- What follows a message of `n` bytes so that whole blocks result: a one bit,
as few zeros as possible, and the length in bits. -/
def padding (n : Nat) : Bytes :=
  0x80 :: (List.replicate ((119 - n % 64) % 64) 0 ++ lengthBytes (8 * n))

/-- Cuts off full blocks of 64 bytes; a rest that fills no block is left out. -/
def blocks (bytes : Bytes) : List Bytes :=
  match _full : bytes.drop 63 with
  | [] => []
  | _ :: rest => bytes.take 64 :: blocks rest
termination_by bytes.length
decreasing_by
  have := congrArg List.length _full
  simp only [List.length_drop, List.length_cons] at this
  omega

/-- The SHA-256 digest of a message. -/
def hash (message : Bytes) : Bytes :=
  ((blocks (message ++ padding message.length)).foldl compress .initial).toBytes

@[simp] theorem length_hash (message : Bytes) : (hash message).length = 32 := rfl

/-! ### Messages in pieces -/

/-- A digest under way. -/
structure Stream where
  /-- The chaining state after all full blocks. -/
  state : State
  /-- The bytes after the last full block, fewer than 64. -/
  pending : Bytes
  /-- How many bytes were taken in all. -/
  length : Nat
deriving DecidableEq, Repr

/-- No byte taken yet. -/
def Stream.empty : Stream := ⟨.initial, [], 0⟩

/-- Compresses full blocks as long as there are any; also gives the rest. -/
def absorb (s : State) (bytes : Bytes) : State × Bytes :=
  match _full : bytes.drop 63 with
  | [] => (s, bytes)
  | _ :: rest => absorb (compress s (bytes.take 64)) rest
termination_by bytes.length
decreasing_by
  have := congrArg List.length _full
  simp only [List.length_drop, List.length_cons] at this
  omega

/-- Takes the next piece of the message. -/
def Stream.push (d : Stream) (piece : Bytes) : Stream :=
  let (state, pending) := absorb d.state (d.pending ++ piece)
  ⟨state, pending, d.length + piece.length⟩

/-- The digest of everything taken. -/
def Stream.finish (d : Stream) : Bytes :=
  (absorb d.state (d.pending ++ padding d.length)).1.toBytes

@[simp] theorem Stream.length_finish (d : Stream) : d.finish.length = 32 := rfl

end Sha256

end SignedPayments
