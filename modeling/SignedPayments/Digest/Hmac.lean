import SignedPayments.Digest.Sha256
import SignedPayments.Text.Hex

/-!
# SignedPayments.Digest.Hmac

Keyed message authentication over SHA-256.

A key is first brought to the length of one block (`Hmac.blockKey`): a longer
key is replaced by its digest, and zeros fill the rest. The code of a message is
then a digest of the key's outer form followed by a digest of the key's inner
form followed by the message. `Hmac.Keyed` holds the two digests after their
key blocks, so that one key can serve many messages.
-/

namespace SignedPayments

namespace Hmac

/-- Bytes in one block of the digest. -/
def blockSize : Nat := 64

/-- A key as exactly one block. -/
def blockKey (key : Bytes) : Bytes :=
  let short := if blockSize < key.length then (Sha256.Stream.empty.push key).finish else key
  short ++ List.replicate (blockSize - short.length) 0

/-- The inner and the outer digest, each after its key block. -/
structure Keyed where
  inner : Sha256.Stream
  outer : Sha256.Stream

/-- Prepares a key. -/
def Keyed.ofKey (key : Bytes) : Keyed :=
  let block := blockKey key
  { inner := Sha256.Stream.empty.push (block.map (· ^^^ 0x36))
    outer := Sha256.Stream.empty.push (block.map (· ^^^ 0x5c)) }

/-- The code of a message under a prepared key. -/
def Keyed.code (k : Keyed) (message : Bytes) : Bytes :=
  (k.outer.push (k.inner.push message).finish).finish

end Hmac

/-- The HMAC-SHA256 code of a message: 32 bytes. -/
def hmacSha256 (key message : Bytes) : Bytes :=
  (Hmac.Keyed.ofKey key).code message

@[simp] theorem length_hmacSha256 (key message : Bytes) :
    (hmacSha256 key message).length = 32 := rfl

/-- The HMAC-SHA256 code of a message as 64 hexadecimal digits. -/
def hexHmacSha256 (key message : Bytes) : String := Hex.encode (hmacSha256 key message)

end SignedPayments
