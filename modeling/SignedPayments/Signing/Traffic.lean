import SignedPayments.Signing.Signer

/-!
# SignedPayments.Signing.Traffic

Calls of a signer and its copies that run at the same time. Each takes its steps in order,
and others may take theirs between them.

Design points:

* What is kept is looked at in one step and written in another. While a call waits for the
  provider, others find nothing and ask for themselves.
* The outcome of an asking belongs to its number, not to the order in which outcomes arrive,
  so a provider may be slow with one call and quick with the next.
* A call whose steps are not interrupted is a call of `Signer.serve`
  (`Traffic.run_uninterrupted`).
-/

namespace SignedPayments

open Http

namespace Signing

/-- Where a call stands. -/
inductive Stage
  /-- It found nothing usable and asked the provider, which was asked so often before. -/
  | asking (loads : Nat)
  /-- It was given a credential and is about to keep it. -/
  | keeping (c : Credential) (log : Log)
  /-- It has its credential and is about to seal its head. -/
  | sealing (c : Credential) (log : Log)
  | ended (done : Sealed)

/-- A call under way, or one that has ended. -/
structure Running where
  job : Signer.Job
  stage : Stage

/-- All calls so far, in the order in which they began, and what they share. -/
structure Traffic where
  vault : Vault := {}
  calls : List Running := []

/-- What happens next. -/
inductive Move
  /-- A call begins. -/
  | call (job : Signer.Job)
  /-- The call of this number goes on. -/
  | proceed (number : Nat)

namespace Running

/-- A call begins by looking at what is kept. -/
def enter (vault : Vault) (job : Signer.Job) : Running × Vault :=
  match vault.usable? with
  | some c => (⟨job, .sealing c []⟩, vault)
  | none => (⟨job, .asking vault.loads⟩, vault.asked)

/-- Takes the next step of a call. -/
def proceed (signer : Signer) (vault : Vault) (call : Running) : Running × Vault :=
  match call.stage with
  | .asking loads =>
    match Signer.accept signer.provider (signer.provider.load loads call.job.env) with
    | (.error e, log) => ({ call with stage := .ended ⟨.error e, call.job.head, log⟩ }, vault)
    | (.ok c, log) => ({ call with stage := .keeping c log }, vault)
  -- It is not looked at again whether another call has kept something meanwhile.
  | .keeping c log => ({ call with stage := .sealing c log }, vault.keep c)
  | .sealing c log =>
    let done := sealHead (some c) call.job.now call.job.head call.job.body
    ({ call with stage := .ended { done with log := log ++ done.log } }, vault)
  | .ended _ => (call, vault)

end Running

namespace Traffic

/-- Lets something happen. -/
def move (signer : Signer) (t : Traffic) : Move → Traffic
  | .call job =>
    let (call, vault) := Running.enter t.vault job
    ⟨vault, t.calls ++ [call]⟩
  | .proceed number =>
    match t.calls[number]? with
    | none => t
    | some call =>
      let (call, vault) := call.proceed signer t.vault
      ⟨vault, t.calls.set number call⟩

/-- Lets one thing happen after the other. -/
def run (signer : Signer) (t : Traffic) (moves : List Move) : Traffic := moves.foldl (move signer) t

end Traffic

end Signing

end SignedPayments
