import SignedPayments.Proofs.Client.Sent
import SignedPayments.Proofs.Context
import SignedPayments.Proofs.Signing.Alike

/-!
# SignedPayments.Proofs.Client.Shown

What is shown of a key that is looked up, by all that holds the variables it is looked up in.

* What is kept of the key is shown in its redacted form, before and after it was looked up
  (`Vault.describe_lookedUp`).
* A context that is given its variables as a list shows them all, with their values, and a
  signer and a client show their context. So two keys are told apart by what is shown of any of
  them, even if their redacted forms are the same. Nothing else tells them apart
  (`Client.shown_listed`).
-/

namespace SignedPayments

open Http Signing

/-! ### What is kept -/

namespace Signing

/-- What is kept before a credential was looked up, and afterwards. -/
def Vault.lookedUp (c : Credential) : Bool → Vault
  | false => {}
  | true => ⟨some c, 1⟩

/-- Keys with one redacted form are shown alike. -/
theorem Vault.describe_lookedUp {a b : String} (h : Redacted.ofSecret a = Redacted.ofSecret b)
    (loaded : Bool) : (lookedUp ⟨a⟩ loaded).describe = (lookedUp ⟨b⟩ loaded).describe := by
  cases loaded with
  | false => rfl
  | true =>
      unfold Vault.describe lookedUp Credential.describe? Credential.describe Credential.describeAs
      dsimp only [Option.elim_some]
      rw [h]

/-- If each step looks the credential up or leaves it alone, it was looked up after steps of
which one does so. -/
theorem Vault.foldl_lookedUp {β : Type} {c : Credential} {step : Vault → β → Vault}
    {asks : β → Bool} {xs : List β}
    (h : ∀ x ∈ xs, ∀ loaded, step (lookedUp c loaded) x = lookedUp c (loaded || asks x))
    (loaded : Bool) : xs.foldl step (lookedUp c loaded) = lookedUp c (loaded || xs.any asks) := by
  induction xs generalizing loaded with
  | nil => simp
  | cons x xs ih =>
      obtain ⟨hx, hxs⟩ := List.forall_mem_cons.mp h
      rw [List.foldl_cons, hx, ih hxs, List.any_cons, Bool.or_assoc]

namespace Signer

variable {signer : Signer} {env : Environment} {c : Credential}

/-- A credential that a provider gives is kept at once, and then stays. -/
theorem credential_lookedUp (h : signer.provider.Settled env (some c)) (hvalid : c.isValid = true)
    (loaded : Bool) :
    (signer.credential env (Vault.lookedUp c loaded)).2.1 = Vault.lookedUp c true := by
  cases loaded with
  | true => simp [credential, Vault.usable?, Vault.lookedUp, Option.filter, hvalid]
  | false =>
      obtain ⟨log, haccept⟩ :
          ∃ log, accept signer.provider (signer.provider.load 0 env) = (.ok c, log) :=
        ⟨_, Prod.ext (accept_eq_ok_iff.mpr ⟨h 0, hvalid⟩) rfl⟩
      simp only [credential, Vault.lookedUp, Vault.usable?, Option.filter_none, haccept]
      rfl

/-- What a signer and its copies keep after signing. -/
def vaultAfter (signer : Signer) (jobs : List Job) : Vault :=
  jobs.foldl (fun vault job => (signer.serve vault job).2) {}

/-- After it has signed with a key that it looks up, a signer keeps that. -/
theorem vaultAfter_of_key {apiKey : String} (hkey : env.lookUp VariableName.apiKey = some apiKey)
    (hne : apiKey ≠ "") (jobs : List Job) :
    (⟨.environment⟩ : Signer).vaultAfter (jobs.map ({ · with env := env })) =
      Vault.lookedUp ⟨apiKey⟩ (jobs.any fun _ => true) := by
  have hvalid : (Credential.mk apiKey).isValid = true := by simp [Credential.isValid, hne]
  have hstep : ∀ job ∈ jobs, ∀ loaded,
      ((⟨.environment⟩ : Signer).serve (Vault.lookedUp ⟨apiKey⟩ loaded) { job with env := env }).2 =
        Vault.lookedUp ⟨apiKey⟩ (loaded || true) := by
    intro job _ loaded
    rw [Bool.or_true]
    exact (vault_sign ..).trans
      (credential_lookedUp (Provider.environment_settled hkey hne) hvalid loaded)
  unfold vaultAfter
  rw [List.foldl_map]
  exact Vault.foldl_lookedUp hstep false

end Signer

end Signing

/-- After a call that could be prepared, a client that looks its key up keeps that. -/
theorem Client.vaultAfter_of_key {client : Client} {context : Context} {apiKey : String}
    (hclient : client.signer = ⟨.environment⟩)
    (hkey : context.environment.lookUp VariableName.apiKey = some apiKey) (hne : apiKey ≠ "")
    (history : List Occasion) :
    client.vaultAfter (history.map ({ · with context := context })) =
      Vault.lookedUp ⟨apiKey⟩ (history.any fun o => (client.prepare o.call).isOk) := by
  have hvalid : (Credential.mk apiKey).isValid = true := by simp [Credential.isValid, hne]
  have hsettled : client.signer.provider.Settled context.environment (some ⟨apiKey⟩) := by
    rw [hclient]
    exact Provider.environment_settled hkey hne
  have hstep : ∀ o ∈ history, ∀ loaded,
      (client.execute context (Vault.lookedUp ⟨apiKey⟩ loaded) o.now o.call).vault =
        Vault.lookedUp ⟨apiKey⟩ (loaded || (client.prepare o.call).isOk) := by
    intro o _ loaded
    cases hprepare : client.prepare o.call with
    | ok prepared =>
        rw [vault_of_prepare hprepare, Signer.credential_lookedUp hsettled hvalid]
        simp [Except.isOk, Except.toBool]
    | error e =>
        rw [execute_of_unprepared hprepare]
        simp [Except.isOk, Except.toBool]
  unfold vaultAfter
  rw [List.foldl_map]
  exact Vault.foldl_lookedUp hstep false

/-! ### What is shown -/

/-- What is shown of a signer after it has signed in a context. -/
def Signing.Signer.shownAfter (signer : Signer) (context : Context) (jobs : List Signer.Job) :
    String :=
  signer.describe context (signer.vaultAfter (jobs.map ({ · with env := context.environment })))

/-- What is shown of a client after calls in a context. -/
def Client.shownAfter (client : Client) (context : Context) (history : List Occasion) : String :=
  client.describe context (client.vaultAfter (history.map ({ · with context := context })))

/-- Environments that are shown alike, with keys of one redacted form. -/
structure SameShown (env env' : Environment) (a b : String) : Prop where
  name : env.name = env'.name
  key : env.lookUp VariableName.apiKey = some a
  key' : env'.lookUp VariableName.apiKey = some b
  shown : Redacted.ofSecret a = Redacted.ofSecret b

namespace SameShown

variable {env env' : Environment} {a b : String}

theorem describe_eq (h : SameShown env env' a b) (transport : Transport) :
    (Context.mk transport env).describe = (Context.mk transport env').describe := by
  unfold Context.describe
  rw [h.name]

theorem ne_empty (h : SameShown env env' a b) (hne : a ≠ "") : b ≠ "" :=
  mt (Redacted.eq_empty_iff h.shown).mpr hne

/-- What a signer keeps, it shows in its redacted form only. -/
theorem signer (h : SameShown env env' a b) (hne : a ≠ "") (transport : Transport)
    (jobs : List Signer.Job) :
    (⟨.environment⟩ : Signer).shownAfter ⟨transport, env⟩ jobs =
      (⟨.environment⟩ : Signer).shownAfter ⟨transport, env'⟩ jobs := by
  unfold Signer.shownAfter
  rw [Signer.vaultAfter_of_key h.key hne, Signer.vaultAfter_of_key h.key' (h.ne_empty hne)]
  unfold Signer.describe
  rw [h.describe_eq, Vault.describe_lookedUp h.shown]

/-- So does a client. -/
theorem client {client : Client} (h : SameShown env env' a b) (hne : a ≠ "")
    (hclient : client.signer = ⟨.environment⟩) (transport : Transport)
    (history : List Client.Occasion) :
    client.shownAfter ⟨transport, env⟩ history = client.shownAfter ⟨transport, env'⟩ history := by
  unfold Client.shownAfter
  rw [Client.vaultAfter_of_key hclient h.key hne,
    Client.vaultAfter_of_key hclient h.key' (h.ne_empty hne)]
  unfold Client.describe Signer.describe
  rw [h.describe_eq, Vault.describe_lookedUp h.shown]

end SameShown

/-! ### Variables given by a list -/

/-- Variables that are given by a list, with a key among them. -/
def Environment.listed (front rest : List (String × String)) (apiKey : String) : Environment :=
  .ofList (front ++ (VariableName.apiKey, apiKey) :: rest)

theorem Environment.lookUp_listed {front rest : List (String × String)}
    (hfront : VariableName.apiKey ∉ front.map Prod.fst) (apiKey : String) :
    (listed front rest apiKey).lookUp VariableName.apiKey = some apiKey := by
  have hnone : front.lookup VariableName.apiKey = none := by
    refine List.lookup_eq_none_iff.mpr fun var hvar => ?_
    exact bne_iff_ne.mpr fun heq => hfront (List.mem_map.mpr ⟨var, hvar, heq.symm⟩)
  show (front ++ (VariableName.apiKey, apiKey) :: rest).lookup VariableName.apiKey = _
  rw [List.lookup_append, hnone, Option.none_or, List.lookup_cons_self]

/-- What is shown of something begins in one way, and then its context is shown. -/
def ShowsContext (describe : Context → Vault → String) : Prop :=
  ∃ front, ∀ context vault, ∃ rest, describe context vault = front ++ (context.describe ++ rest)

/-- With the context, the key is shown: no two keys are shown alike, whatever is kept. -/
theorem ShowsContext.listed_iff {describe : Context → Vault → String} (h : ShowsContext describe)
    (transport : Transport) (front rest : List (String × String)) (vault : String → Vault)
    {a b : String} :
    describe ⟨transport, .listed front rest a⟩ (vault a) =
      describe ⟨transport, .listed front rest b⟩ (vault b) ↔ a = b := by
  constructor
  · intro heq
    obtain ⟨before, hbefore⟩ := h
    obtain ⟨after, hleft⟩ := hbefore ⟨transport, .listed front rest a⟩ (vault a)
    obtain ⟨after', hright⟩ := hbefore ⟨transport, .listed front rest b⟩ (vault b)
    rw [hleft, hright, String.append_right_inj] at heq
    obtain ⟨hvars, -⟩ := Context.describe_append_inj heq
    have hkey := List.append_cancel_left hvars
    simp only [List.cons.injEq, Prod.mk.injEq, true_and, and_true] at hkey
    exact hkey
  · intro heq
    rw [heq]

theorem Context.showsContext : ShowsContext fun context _ => context.describe := by
  refine ⟨"", fun context _ => ⟨"", ?_⟩⟩
  rw [String.empty_append, String.append_empty]

theorem Signing.Signer.showsContext (signer : Signer) : ShowsContext signer.describe := by
  refine ⟨"Signer \x7b ctx: ", fun context vault => ⟨", loader: " ++ (signer.provider.name ++
    (", builder: RequestSigner \x7b time: None \x7d, credential: " ++ (vault.describe ++ " \x7d"))),
    String.toList_inj.mp ?_⟩⟩
  unfold describe
  simp only [String.toList_append, List.append_assoc]

theorem Client.showsContext (client : Client) : ShowsContext client.describe := by
  obtain ⟨front, hsigner⟩ := client.signer.showsContext
  refine ⟨"Client \x7b base_url: " ++ quoted client.baseUrl ++ ", timeout: " ++
    client.timeout.text ++ ", signer: " ++ front, fun context vault => ?_⟩
  obtain ⟨rest, heq⟩ := hsigner context vault
  refine ⟨rest ++ " \x7d", String.toList_inj.mp ?_⟩
  unfold describe
  rw [heq]
  simp only [String.toList_append, List.append_assoc]

theorem Signing.Signer.shownAfter_listed_iff (signer : Signer) (transport : Transport)
    (front rest : List (String × String)) (jobs : List Signer.Job) {a b : String} :
    signer.shownAfter ⟨transport, .listed front rest a⟩ jobs =
      signer.shownAfter ⟨transport, .listed front rest b⟩ jobs ↔ a = b := by
  let vault apiKey : Vault :=
    signer.vaultAfter (jobs.map ({ · with env := .listed front rest apiKey }))
  have hiff := signer.showsContext.listed_iff transport front rest vault (a := a) (b := b)
  exact hiff

theorem Client.shownAfter_listed_iff (client : Client) (transport : Transport)
    (front rest : List (String × String)) (history : List Occasion) {a b : String} :
    client.shownAfter ⟨transport, .listed front rest a⟩ history =
      client.shownAfter ⟨transport, .listed front rest b⟩ history ↔ a = b := by
  let vault apiKey : Vault :=
    client.vaultAfter (history.map ({ · with context := ⟨transport, .listed front rest apiKey⟩ }))
  have hiff := client.showsContext.listed_iff transport front rest vault (a := a) (b := b)
  exact hiff

/-- A key in variables that are given by a list is shown by their context, and by a signer and
a client that look it up there, whether or not they have done so: all of them tell every two
keys apart. Were it not for the list, a signer and a client would be shown alike for keys with
one redacted form. -/
theorem Client.shown_listed {config : Config} {client : Client}
    {front : List (String × String)} {a b : String}
    (hmade : withProvider config .environment = .ok client)
    (hfront : VariableName.apiKey ∉ front.map Prod.fst) (rest : List (String × String))
    (hshown : Redacted.ofSecret a = Redacted.ofSecret b) (transport : Transport)
    (jobs : List Signer.Job) (history : List Occasion) :
    let signer : Signer := ⟨.environment⟩
    let listed apiKey : Context := ⟨transport, .listed front rest apiKey⟩
    ((listed a).describe = (listed b).describe ↔ a = b) ∧
    (signer.shownAfter (listed a) jobs = signer.shownAfter (listed b) jobs ↔ a = b) ∧
    (client.shownAfter (listed a) history = client.shownAfter (listed b) history ↔ a = b) ∧
    ∀ name,
      let named apiKey : Context := ⟨transport, { (listed apiKey).environment with name := name }⟩
      signer.shownAfter (named a) jobs = signer.shownAfter (named b) jobs ∧
      client.shownAfter (named a) history = client.shownAfter (named b) history := by
  intro signer listed
  obtain ⟨-, rfl⟩ := withProvider_eq_ok_iff.mp hmade
  refine ⟨Context.showsContext.listed_iff transport front rest fun _ => {},
    signer.shownAfter_listed_iff transport front rest jobs,
    Client.shownAfter_listed_iff _ transport front rest history, ?_⟩
  intro name named
  by_cases hempty : a = ""
  · obtain rfl : a = b := hempty.trans ((Redacted.eq_empty_iff hshown).mp hempty).symm
    exact ⟨rfl, rfl⟩
  · have hsame : SameShown (named a).environment (named b).environment a b :=
      ⟨rfl, Environment.lookUp_listed hfront a, Environment.lookUp_listed hfront b, hshown⟩
    exact ⟨hsame.signer hempty transport jobs, hsame.client hempty rfl transport history⟩

/-- So the keys `pi_live_0123456789` and `pi_live_9876543789` are told apart by what is shown of
a new client. -/
theorem Client.shown_listed_ends :
    ∃ client a b,
      withProvider { baseUrl? := some "https://h" } .environment = .ok client ∧
      Redacted.ofSecret a = Redacted.ofSecret b ∧
      client.shownAfter ⟨.missing, .listed [] [] a⟩ [] ≠
        client.shownAfter ⟨.missing, .listed [] [] b⟩ [] := by
  let config : Config := { baseUrl? := some "https://h" }
  have hbase : Uri.ofText config.baseUrl = .ok ⟨some .https, some ⟨"h"⟩, .empty⟩ := by
    cbv
  have hmade : withProvider config .environment = .ok _ :=
    withProvider_eq_ok_iff.mpr ⟨⟨_, hbase, rfl, rfl⟩, rfl⟩
  have hshown : Redacted.ofSecret "pi_live_0123456789" = Redacted.ofSecret "pi_live_9876543789" := by
    decide
  have hfront : VariableName.apiKey ∉ ([] : List (String × String)).map Prod.fst := by decide
  obtain ⟨-, -, hclient, -⟩ := shown_listed hmade hfront [] hshown .missing [] []
  exact ⟨_, _, _, hmade, hshown, mt hclient.mp (by decide)⟩

end SignedPayments
