import SignedPayments.Proofs.Signing.Refusal
import SignedPayments.Proofs.Signing.Signer
import SignedPayments.Signing.Traffic

/-!
# SignedPayments.Proofs.Signing.Traffic

Which credential signs where calls run at the same time.

* Every call is sealed with a valid credential of the provider, if at all
  (`Traffic.run_sound`). With a provider that always gives the same one, all calls are
  sealed with that, in whatever order their steps come.
* A call that finds a credential is sealed with it. What is kept is written only by calls that
  found none. So once none of them is under way, the credential that is kept stays
  (`Traffic.run_settled`).
* Until then it may be replaced, also after it has signed (`Traffic.run_replaces`).
-/

namespace SignedPayments

open Http

/-- A valid credential that a provider has given. -/
def Provider.Given (provider : Provider) (c : Credential) : Prop :=
  (∃ loads env, (provider.load loads env).result = .ok (some c)) ∧ c.isValid = true

namespace Signing

variable {signer : Signer} {vault : Vault} {c : Credential} {job : Signer.Job}

theorem Vault.Reachable.keeps_given {provider : Provider} (h : Vault.Reachable provider vault) :
    vault.Keeps provider.Given := by
  intro c hc
  have hgiven : vault.Keeps fun c => ∃ loads env,
      (provider.load loads env).result = .ok (some c) :=
    h.keeps fun loads env c hload => ⟨loads, env, hload⟩
  exact ⟨hgiven c hc, h.keeps_valid c hc⟩

/-- What came of a call is what comes of sealing with a credential, whether or not that
fails. -/
structure EndedWith (c : Credential) (job : Signer.Job) (done : Sealed) : Prop where
  result : done.result = (sealHead (some c) job.now job.head job.body).result
  head : done.head = (sealHead (some c) job.now job.head job.body).head

namespace Running

variable {call : Running}

/-- A call that was sealed with a credential, or is about to be. -/
def SealsWith (c : Credential) (call : Running) : Prop :=
  match call.stage with
  | .asking _ => False
  | .keeping _ _ => False
  | .sealing c' _ => c' = c
  | .ended done => EndedWith c call.job done

/-- A call that found nothing and may still keep what it is given. -/
def IsPending (call : Running) : Prop :=
  match call.stage with
  | .asking _ => True
  | .keeping _ _ => True
  | .sealing _ _ => False
  | .ended _ => False

/-- A call that has only credentials of a provider. If it has ended, it was sealed with one, or
refused without. -/
def IsSound (provider : Provider) (call : Running) : Prop :=
  match call.stage with
  | .asking _ => True
  | .keeping c _ => provider.Given c
  | .sealing c _ => provider.Given c
  | .ended done => (∃ e, done.result = .error e ∧ done.head = call.job.head) ∨
      ∃ c, provider.Given c ∧ EndedWith c call.job done

/-! ### Steps -/

/-- A call that finds a credential is sealed with it, and takes nothing. -/
theorem enter_of_usable (h : vault.usable? = some c) (job : Signer.Job) :
    enter vault job = (⟨job, .sealing c []⟩, vault) := by
  unfold enter
  rw [h]

theorem enter_of_none (h : vault.usable? = none) (job : Signer.Job) :
    enter vault job = (⟨job, .asking vault.loads⟩, vault.asked) := by
  unfold enter
  rw [h]

/-- A call that has its credential goes on with it, and leaves what is kept. -/
theorem SealsWith.proceed (h : call.SealsWith c) (signer : Signer) (vault : Vault) :
    (call.proceed signer vault).1.SealsWith c ∧ (call.proceed signer vault).2 = vault := by
  obtain ⟨job, stage⟩ := call
  cases stage with
  | asking loads => exact h.elim
  | keeping c' log => exact h.elim
  | sealing c' log =>
      obtain rfl : c' = c := h
      exact ⟨⟨rfl, rfl⟩, rfl⟩
  | ended done => exact ⟨h, rfl⟩

/-- A call that is not pending keeps nothing. -/
theorem proceed_of_not_pending (h : ¬call.IsPending) (signer : Signer) (vault : Vault) :
    ¬(call.proceed signer vault).1.IsPending ∧ (call.proceed signer vault).2 = vault := by
  obtain ⟨job, stage⟩ := call
  cases stage with
  | asking loads => exact absurd trivial h
  | keeping c log => exact absurd trivial h
  | sealing c log => exact ⟨id, rfl⟩
  | ended done => exact ⟨id, rfl⟩

/-- A call that takes its steps one after the other comes to what a call comes to alone. -/
theorem proceed_to_end (signer : Signer) (vault : Vault) (job : Signer.Job) :
    let first := enter vault job
    let second := first.1.proceed signer first.2
    let third := second.1.proceed signer second.2
    third.1.proceed signer third.2 =
      (⟨job, .ended (signer.serve vault job).1⟩, (signer.serve vault job).2) := by
  unfold Signer.serve Signer.sign Signer.credential
  cases husable : vault.usable? with
  | some c =>
      rw [enter_of_usable husable]
      rfl
  | none =>
      rw [enter_of_none husable]
      cases haccept : Signer.accept signer.provider (signer.provider.load vault.loads job.env) with
      | mk result log =>
          cases result with
          | error e => simp only [proceed, haccept]
          | ok c => simp only [proceed, haccept]

theorem isSound_enter (h : Vault.Reachable signer.provider vault) (job : Signer.Job) :
    (enter vault job).1.IsSound signer.provider ∧
      Vault.Reachable signer.provider (enter vault job).2 := by
  cases husable : vault.usable? with
  | some c =>
      rw [enter_of_usable husable]
      exact ⟨h.keeps_given c (Option.eq_some_of_filter_eq_some husable), h⟩
  | none =>
      rw [enter_of_none husable]
      exact ⟨trivial, h.asked⟩

theorem IsSound.proceed (h : call.IsSound signer.provider)
    (hvault : Vault.Reachable signer.provider vault) :
    (call.proceed signer vault).1.IsSound signer.provider ∧
      Vault.Reachable signer.provider (call.proceed signer vault).2 := by
  obtain ⟨job, stage⟩ := call
  cases stage with
  | asking loads =>
      unfold Running.proceed
      dsimp only
      cases haccept : Signer.accept signer.provider (signer.provider.load loads job.env) with
      | mk result log =>
          cases result with
          | error e => exact ⟨.inl ⟨e, rfl, rfl⟩, hvault⟩
          | ok c =>
              obtain ⟨hload, hvalid⟩ :=
                Signer.accept_eq_ok_iff.mp (congrArg Prod.fst haccept)
              exact ⟨⟨⟨loads, job.env, hload⟩, hvalid⟩, hvault⟩
  | keeping c log =>
      have hgiven : signer.provider.Given c := h
      obtain ⟨⟨loads, env, hload⟩, hvalid⟩ := hgiven
      exact ⟨h, hvault.keep (Signer.accept_eq_ok_iff.mpr ⟨hload, hvalid⟩)⟩
  | sealing c log => exact ⟨.inr ⟨c, h, rfl, rfl⟩, hvault⟩
  | ended done => exact ⟨h, hvault⟩

end Running

namespace Traffic

variable {t : Traffic} {call : Running}

theorem move_proceed {number : Nat} (h : t.calls[number]? = some call) :
    t.move signer (.proceed number) = ⟨(call.proceed signer t.vault).2,
      t.calls.set number (call.proceed signer t.vault).1⟩ := by
  unfold move
  dsimp only
  rw [h]

theorem move_proceed_of_none {number : Nat} (h : t.calls[number]? = none) :
    t.move signer (.proceed number) = t := by
  unfold move
  dsimp only
  rw [h]

/-- The call that began last goes on. -/
theorem move_proceed_last (signer : Signer) (vault : Vault) (calls : List Running)
    (call : Running) :
    move signer ⟨vault, calls ++ [call]⟩ (.proceed calls.length) =
      ⟨(call.proceed signer vault).2, calls ++ [(call.proceed signer vault).1]⟩ := by
  have hlast : (calls ++ [call])[calls.length]? = some call := by simp
  rw [move_proceed hlast]
  simp

/-- What holds of all calls, and of the one that a call has become, holds of all then. -/
theorem forall_mem_set {P : Running → Prop} {calls : List Running} (h : ∀ call ∈ calls, P call)
    (hcall : P call) (number : Nat) : ∀ other ∈ calls.set number call, P other := by
  intro other hmem
  rcases List.mem_or_eq_of_mem_set hmem with hmem | rfl
  · exact h other hmem
  · exact hcall

/-! ### One call alone -/

/-- A call whose steps are not interrupted comes to what it comes to alone. -/
theorem run_uninterrupted (signer : Signer) (t : Traffic) (job : Signer.Job) :
    t.run signer (.call job :: List.replicate 3 (.proceed t.calls.length)) =
      ⟨(signer.serve t.vault job).2, t.calls ++ [⟨job, .ended (signer.serve t.vault job).1⟩]⟩ := by
  have hend := Running.proceed_to_end signer t.vault job
  have hcall : t.move signer (.call job) =
      ⟨(Running.enter t.vault job).2, t.calls ++ [(Running.enter t.vault job).1]⟩ := rfl
  simp only [run, List.replicate, List.foldl_cons, List.foldl_nil, hcall, move_proceed_last, hend]

/-! ### Credentials of the provider -/

/-- All calls are sound. -/
structure IsSound (provider : Provider) (t : Traffic) : Prop where
  vault : Vault.Reachable provider t.vault
  calls : ∀ call ∈ t.calls, call.IsSound provider

theorem IsSound.move (h : t.IsSound signer.provider) (m : Move) :
    (t.move signer m).IsSound signer.provider := by
  cases m with
  | call job =>
      obtain ⟨hcall, hvault⟩ := Running.isSound_enter h.vault job
      exact ⟨hvault, List.forall_mem_append.mpr ⟨h.calls, List.forall_mem_singleton.mpr hcall⟩⟩
  | proceed number =>
      cases hnumber : t.calls[number]? with
      | none =>
          rw [move_proceed_of_none hnumber]
          exact h
      | some call =>
          obtain ⟨hcall, hvault⟩ :=
            (h.calls call (List.mem_of_getElem? hnumber)).proceed h.vault
          rw [move_proceed hnumber]
          exact ⟨hvault, forall_mem_set h.calls hcall number⟩

theorem IsSound.run (h : t.IsSound signer.provider) (moves : List Move) :
    (t.run signer moves).IsSound signer.provider := by
  induction moves generalizing t with
  | nil => exact h
  | cons m moves ih => exact ih (h.move m)

/-- In whatever order calls take their steps, each is sealed with a valid credential of the
provider, or refused without one. -/
theorem run_sound (signer : Signer) (moves : List Move) :
    (run signer {} moves).IsSound signer.provider := by
  have hfresh : IsSound signer.provider {} := by
    refine ⟨.fresh, fun call hmem => ?_⟩
    exact absurd hmem List.not_mem_nil
  exact hfresh.run moves

/-! ### What stays -/

/-- A credential is kept, no call may replace it, and all calls from a number on are sealed
with it. -/
structure Settled (c : Credential) (count : Nat) (t : Traffic) : Prop where
  kept : t.vault.usable? = some c
  idle : ∀ call ∈ t.calls, ¬call.IsPending
  later : ∀ n call, count ≤ n → t.calls[n]? = some call → call.SealsWith c

theorem Settled.move {count : Nat} (h : t.Settled c count) (m : Move) :
    (t.move signer m).Settled c count := by
  cases m with
  | call job =>
      have hmove : t.move signer (.call job) = ⟨t.vault, t.calls ++ [⟨job, .sealing c []⟩]⟩ := by
        unfold Traffic.move
        dsimp only
        rw [Running.enter_of_usable h.kept]
      rw [hmove]
      refine ⟨h.kept, ?_, fun n call hn hcall => ?_⟩
      · exact List.forall_mem_append.mpr ⟨h.idle, List.forall_mem_singleton.mpr id⟩
      · rcases Nat.lt_or_ge n t.calls.length with hlt | hge
        · rw [List.getElem?_append_left hlt] at hcall
          exact h.later n call hn hcall
        · rw [List.getElem?_append_right hge] at hcall
          obtain rfl := List.mem_singleton.mp (List.mem_of_getElem? hcall)
          rfl
  | proceed number =>
      cases hnumber : t.calls[number]? with
      | none =>
          rw [move_proceed_of_none hnumber]
          exact h
      | some call =>
          obtain ⟨hidle, hvault⟩ := Running.proceed_of_not_pending
            (h.idle call (List.mem_of_getElem? hnumber)) signer t.vault
          rw [move_proceed hnumber, hvault]
          refine ⟨h.kept, forall_mem_set h.idle hidle number, fun n other hn hother => ?_⟩
          by_cases hsame : number = n
          · subst hsame
            rw [List.getElem?_set_self (List.getElem?_eq_some_iff.mp hnumber).1] at hother
            cases hother
            exact ((h.later number call hn hnumber).proceed signer t.vault).1
          · rw [List.getElem?_set_ne hsame] at hother
            exact h.later n other hn hother

theorem Settled.run {count : Nat} (h : t.Settled c count) (signer : Signer) (moves : List Move) :
    (t.run signer moves).Settled c count := by
  induction moves generalizing t with
  | nil => exact h
  | cons m moves ih => exact ih (h.move m)

/-- Once a credential is kept and no call that found none is under way, it stays, and every
call that begins later is sealed with it. -/
theorem run_settled (signer : Signer) (hkept : t.vault.usable? = some c)
    (hidle : ∀ call ∈ t.calls, ¬call.IsPending) (moves : List Move) :
    (t.run signer moves).Settled c t.calls.length := by
  have hnow : t.Settled c t.calls.length := by
    refine ⟨hkept, hidle, fun n call hn hcall => ?_⟩
    rw [List.getElem?_eq_none hn] at hcall
    cases hcall
  exact hnow.run signer moves

/-- A provider whose key changes after it was asked once. -/
def rotating : Provider where
  name := "rotating"
  load
    | 0, _ => { result := .ok (some ⟨"first"⟩) }
    | _, _ => { result := .ok (some ⟨"second"⟩) }

/-- A credential that was kept, and has signed, can be replaced: by a call that began before it
was kept, and waited for the provider meanwhile. Here the first call has ended, sealed with
the first key, when the second call keeps the other key and the third call begins. -/
theorem run_replaces (job : Signer.Job) :
    ∃ (before after : Traffic) (done : Sealed) (third : Running),
      run ⟨rotating⟩ {} [.call job, .call job, .proceed 0, .proceed 0, .proceed 0] = before ∧
      before.calls[0]? = some ⟨job, .ended done⟩ ∧ EndedWith ⟨"first"⟩ job done ∧
      before.vault.credential = some ⟨"first"⟩ ∧
      before.run ⟨rotating⟩ [.proceed 1, .proceed 1, .call job] = after ∧
      after.vault.credential = some ⟨"second"⟩ ∧
      after.calls[2]? = some third ∧ third.SealsWith ⟨"second"⟩ := by
  let told : Log := [.debug ("credential loaded from " ++ rotating.name)]
  let first := sealHead (some ⟨"first"⟩) job.now job.head job.body
  let done : Sealed := { first with log := told ++ first.log }
  -- The second call was asking before the first one kept its key, and still is.
  let before : Traffic := ⟨⟨some ⟨"first"⟩, 2⟩, [⟨job, .ended done⟩, ⟨job, .asking 1⟩]⟩
  let third : Running := ⟨job, .sealing ⟨"second"⟩ []⟩
  let after : Traffic :=
    ⟨⟨some ⟨"second"⟩, 2⟩, [⟨job, .ended done⟩, ⟨job, .sealing ⟨"second"⟩ told⟩, third]⟩
  have hbefore : run ⟨rotating⟩ {} [.call job, .call job, .proceed 0, .proceed 0, .proceed 0] =
      before := rfl
  have hafter : before.run ⟨rotating⟩ [.proceed 1, .proceed 1, .call job] = after := rfl
  exact ⟨before, after, done, third, hbefore, rfl, ⟨rfl, rfl⟩, rfl, hafter, rfl, rfl, rfl⟩

end Traffic

end Signing

end SignedPayments
