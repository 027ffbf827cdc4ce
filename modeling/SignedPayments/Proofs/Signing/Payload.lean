import SignedPayments.Proofs.Json.Ends
import SignedPayments.Proofs.Json.Quoting
import SignedPayments.Proofs.Signing.Seal

/-!
# SignedPayments.Proofs.Signing.Payload

A payload is a frame with the method, the url and the time, and the body stands in it with its
own bytes (`ofString_payload`). These are all that were given but for the blanks around them, or
`null` where there is no body (`ofString_payload_of_readBody`).

A payload says its fields without ambiguity (`payload_eq_iff`). The method, the url
and the time stand between quotes and end at them; the body stands as it was written
and ends at the comma after it, which no JSON text goes on after. So the fields are
read off one by one from the front, and nothing can move from one to another.
-/

namespace SignedPayments

namespace Signing

open Json

/-! ### The body in its frame -/

/-- What stands before the body. -/
def payloadFront (method : Http.Method) (url : String) : List Char :=
  "\x7b\"method\":".toList ++ stringChars method.name.toUpper ++
  ",\"url\":".toList ++ stringChars url ++ ",\"body\":".toList

/-- What stands after the body. -/
def payloadBack (timestamp : String) : List Char :=
  ",\"timestamp\":".toList ++ stringChars timestamp ++ ['\x7d']

/-- A payload with given bytes in place of the body. -/
def payloadAround (method : Http.Method) (url : String) (body : Bytes) (timestamp : String) :
    Bytes :=
  Utf8.encode (payloadFront method url) ++ body ++ Utf8.encode (payloadBack timestamp)

theorem payloadAround_inj {method : Http.Method} {url timestamp : String} {body body' : Bytes} :
    payloadAround method url body timestamp = payloadAround method url body' timestamp ↔
      body = body' := by
  rw [payloadAround, payloadAround, List.append_cancel_right_eq, List.append_cancel_left_eq]

theorem payloadChars_eq (method : Http.Method) (url : String) (body : Option Raw)
    (timestamp : String) : payloadChars method url body timestamp =
      payloadFront method url ++ bodyChars body ++ payloadBack timestamp := by
  have hgroup : ∀ front body a b c : List Char,
      front ++ body ++ a ++ b ++ c = front ++ body ++ (a ++ b ++ c) := by simp
  exact hgroup (payloadFront method url) (bodyChars body) _ _ _

/-- The body stands in a payload with its own bytes. -/
theorem ofString_payload (method : Http.Method) (url : String) (body : Option Raw)
    (timestamp : String) : Utf8.ofString (payload method url body timestamp) =
      payloadAround method url (Utf8.encode (bodyChars body)) timestamp := by
  rw [Utf8.ofString, payload, String.toList_ofList, payloadChars_eq, Utf8.encode_append,
    Utf8.encode_append]
  rfl

/-- What stands in a payload for a body that is given: its bytes without the blanks around them. -/
def bodyBytes (body : Option Bytes) : Bytes := body.elim (Utf8.ofString "null") Json.trim

theorem encode_bodyChars_of_readBody {body : Option Bytes} {raw : Option Raw}
    (h : readBody body = .ok raw) : Utf8.encode (bodyChars raw) = bodyBytes body := by
  cases body with
  | none =>
      cases h
      rfl
  | some bytes =>
      obtain ⟨raw, hread, rfl⟩ := readBody_some_inv h
      rw [bodyChars, Option.elim_some, raw.encode_chars, Raw.bytes_of_read hread]
      rfl

/-- The payload of a body that was read. -/
theorem ofString_payload_of_readBody {body : Option Bytes} {raw : Option Raw}
    (h : readBody body = .ok raw) (method : Http.Method) (url timestamp : String) :
    Utf8.ofString (payload method url raw timestamp) =
      payloadAround method url (bodyBytes body) timestamp := by
  rw [ofString_payload, encode_bodyChars_of_readBody h]

/-! ### Fields -/

/-- The body in a payload is always a JSON text. -/
theorem accepts_bodyChars (body : Option Raw) :
    Scan.accepts (Utf8.encode (bodyChars body)) = true := by
  cases body with
  | none => decide
  | some raw => simpa only [bodyChars, Option.elim_some, raw.encode_chars] using raw.accepted

/-- Of characters that begin with a body and the comma after it, the body can be told. -/
theorem bodyChars_append_inj {body body' : Option Raw} {r r' : List Char}
    (h : bodyChars body ++ ',' :: r = bodyChars body' ++ ',' :: r') :
    bodyChars body = bodyChars body' ∧ r = r' := by
  obtain ⟨hbody, hrest⟩ :=
    append_mark_inj (.inl rfl) (.inl rfl) (accepts_bodyChars body) (accepts_bodyChars body') h
  exact ⟨hbody, (List.cons.inj hrest).2⟩

/-- Fields between marks are read off from the front, each after the mark before it.
The marks `a` to `d` do not matter, but that a comma follows the body does. -/
theorem fields_inj {a b c d : List Char} {m m' u u' t t' : String} {body body' : Option Raw}
    (h : a ++ stringChars m ++ b ++ stringChars u ++ c ++ bodyChars body ++ ',' :: d ++
        stringChars t ++ ['\x7d'] =
      a ++ stringChars m' ++ b ++ stringChars u' ++ c ++ bodyChars body' ++ ',' :: d ++
        stringChars t' ++ ['\x7d']) :
    m = m' ∧ u = u' ∧ bodyChars body = bodyChars body' ∧ t = t' := by
  simp only [List.append_assoc, List.cons_append] at h
  obtain ⟨hm, h⟩ := stringChars_append_inj (List.append_cancel_left h)
  obtain ⟨hu, h⟩ := stringChars_append_inj (List.append_cancel_left h)
  obtain ⟨hbody, h⟩ := bodyChars_append_inj (List.append_cancel_left h)
  obtain ⟨ht, -⟩ := stringChars_append_inj (List.append_cancel_left h)
  exact ⟨hm, hu, hbody, ht⟩

section

variable {method method' : Http.Method} {url url' timestamp timestamp' : String}

theorem payload_eq_iff_bodyChars {body body' : Option Raw} :
    payload method url body timestamp = payload method' url' body' timestamp' ↔
      method.name.toUpper = method'.name.toUpper ∧ url = url' ∧
        bodyChars body = bodyChars body' ∧ timestamp = timestamp' := by
  constructor
  · intro h
    have hchars := String.ofList_injective h
    have hmark : ",\"timestamp\":".toList = ',' :: "\"timestamp\":".toList := by decide
    unfold payloadChars at hchars
    rw [hmark] at hchars
    exact fields_inj hchars
  · rintro ⟨hmethod, rfl, hbody, rfl⟩
    unfold payload payloadChars
    simp only [hmethod, hbody]

/-- Bodies that were read are told apart by the bytes that stand for them. -/
theorem payload_eq_iff_of_readBody {body body' : Option Bytes} {raw raw' : Option Raw}
    (h : readBody body = .ok raw) (h' : readBody body' = .ok raw') :
    payload method url raw timestamp = payload method' url' raw' timestamp' ↔
      method.name.toUpper = method'.name.toUpper ∧ url = url' ∧
        bodyBytes body = bodyBytes body' ∧ timestamp = timestamp' := by
  rw [payload_eq_iff_bodyChars, ← encode_bodyChars_of_readBody h, ← encode_bodyChars_of_readBody h',
    Utf8.encode_inj]

/-- Payloads are equal exactly if all their fields are: the methods in capitals, the
urls, the times, and the bodies as they are written, where no body is written `null`. -/
theorem payload_eq_iff {body body' : Option Raw} :
    payload method url body timestamp = payload method' url' body' timestamp' ↔
      method.name.toUpper = method'.name.toUpper ∧ url = url' ∧
        body.elim "null".toList (·.chars) = body'.elim "null".toList (·.chars) ∧
        timestamp = timestamp' :=
  payload_eq_iff_bodyChars

end

end Signing

end SignedPayments
