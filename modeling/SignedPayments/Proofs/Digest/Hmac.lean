import SignedPayments.Proofs.Digest.Sha256
import SignedPayments.Proofs.Text.Hex
import SignedPayments.Signing.Payload

/-!
# SignedPayments.Proofs.Digest.Hmac

The code of a message under a key is the one that the standard describes, as bytes and as a
text, and a signature is such a text.
-/

namespace SignedPayments

namespace Hmac

open Sha256 (Stream digests_iff)

theorem blockKey_of_le {key : Bytes} (h : key.length ≤ 64) :
    blockKey key = key ++ List.replicate (64 - key.length) 0 := by
  rw [blockKey, blockSize, if_neg (by omega)]

theorem blockKey_of_lt {key : Bytes} (h : 64 < key.length) :
    blockKey key = Sha256.hash key ++ List.replicate (64 - (Sha256.hash key).length) 0 := by
  rw [blockKey, blockSize, if_pos h, Stream.finish_push]

theorem fillsBlock_iff {key block : Bytes} : FillsBlock key block ↔ block = blockKey key := by
  constructor
  · intro h
    cases h with
    | short h => exact (blockKey_of_le h).symm
    | long h hdigest =>
        rw [digests_iff.mp hdigest]
        exact (blockKey_of_lt h).symm
  · intro h
    rw [h]
    rcases Nat.lt_or_ge 64 key.length with hlt | hle
    · rw [blockKey_of_lt hlt]
      exact .long hlt (digests_iff.mpr rfl)
    · rw [blockKey_of_le hle]
      exact .short hle

/-- A prepared key stands for the digests of both its forms. -/
theorem Keyed.code_ofKey (key message : Bytes) : (ofKey key).code message =
    Sha256.hash ((blockKey key).map (· ^^^ 0x5c) ++
      Sha256.hash ((blockKey key).map (· ^^^ 0x36) ++ message)) := by
  simp only [ofKey, code, Stream.empty_eq, Stream.push_ofMessage, Stream.finish_ofMessage,
    List.nil_append]

theorem authenticates_iff {key message code : Bytes} :
    Authenticates key message code ↔ code = hmacSha256 key message := by
  rw [hmacSha256, Keyed.code_ofKey]
  constructor
  · intro h
    obtain ⟨block, inner, hblock, hinner, hcode⟩ := h
    rw [digests_iff.mp hcode, digests_iff.mp hinner, fillsBlock_iff.mp hblock]
  · intro h
    exact ⟨_, _, fillsBlock_iff.mpr rfl, digests_iff.mpr rfl, digests_iff.mpr h⟩

end Hmac

/-- Each message has one code under each key, of 32 bytes. Its text has 64 lowercase digits that
stand for these bytes, and a signature is the text for the bytes of the payload. -/
theorem hmacSha256_authenticates :
    (∀ key message,
      (∀ code, Hmac.Authenticates key message code ↔ code = hmacSha256 key message) ∧
      (hmacSha256 key message).length = 32 ∧
      (hexHmacSha256 key message).length = 64 ∧
      Hex.Writes (hexHmacSha256 key message) (hmacSha256 key message)) ∧
    ∀ apiKey payload, (Signing.signature apiKey payload).length = 64 ∧
      Hex.Writes (Signing.signature apiKey payload)
        (hmacSha256 (Utf8.ofString apiKey) (Utf8.ofString payload)) := by
  have htext : ∀ key message, (hexHmacSha256 key message).length = 64 ∧
      Hex.Writes (hexHmacSha256 key message) (hmacSha256 key message) := fun key message =>
    have hwrites := Hex.writes_encode (hmacSha256 key message)
    ⟨hwrites.length, hwrites⟩
  constructor
  · intro key message
    exact ⟨fun code => Hmac.authenticates_iff, length_hmacSha256 key message, htext key message⟩
  · intro apiKey payload
    exact htext (Utf8.ofString apiKey) (Utf8.ofString payload)

example : Signing.signature "Jefe" "what do ya want for nothing?" =
    "5bdcc146bf60754e6a042426089575c75a003f089d2739839dec58b964ec3843" := by
  decide +kernel

end SignedPayments
