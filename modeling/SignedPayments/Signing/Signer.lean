import SignedPayments.Copies
import SignedPayments.Provider
import SignedPayments.Signing.Seal

/-!
# SignedPayments.Signing.Signer

Signs requests with the credential of a provider. The first valid credential is
kept, and then used by every call. A signer and its copies share what is kept, so
this state is a value of its own, which every call is given and gives back.

A call has three steps, each a function here: it looks at what is kept, asks the
provider if that is not usable, and seals the request. `run` makes calls through a
signer and copies of it, in any order.
-/

namespace SignedPayments

open Http

namespace Signing

/-- Signs with the credential of a provider. -/
structure Signer where
  provider : Provider

/-- What a signer and its copies share. -/
structure Vault where
  /-- The credential that is kept. -/
  credential : Option Credential := none
  /-- How often the provider was asked. -/
  loads : Nat := 0
deriving DecidableEq

namespace Vault

/-- The credential that is kept, if it is usable. -/
def usable? (vault : Vault) : Option Credential := vault.credential.filter (·.isValid)

/-- Counts a load. -/
def asked (vault : Vault) : Vault := { vault with loads := vault.loads + 1 }

/-- Keeps a credential. -/
def keep (vault : Vault) (credential : Credential) : Vault :=
  { vault with credential := some credential }

/-- How the credential that is kept is shown. -/
def describe (vault : Vault) : String :=
  "Mutex \x7b data: " ++ Credential.describe? vault.credential ++ ", poisoned: false, .. \x7d"

end Vault

namespace Signer

/-- The error where the provider has no usable credential. -/
def nothingUsable : Error :=
  { kind := .credentialInvalid, message := "no valid credential could be loaded" }

/-- What a provider gave, as the signer takes it: a valid credential, or an error. -/
def accept (provider : Provider) (loaded : Loaded) : Except Error Credential × Log :=
  match loaded.result with
  | .error e => (.error e, loaded.log)
  | .ok credential =>
    match credential.filter (·.isValid) with
    | none =>
      (.error nothingUsable, loaded.log ++ [.debug ("no valid credential from " ++ provider.name)])
    | some credential =>
      (.ok credential, loaded.log ++ [.debug ("credential loaded from " ++ provider.name)])

/-- Finds the credential of a call: the one that is kept, or a new one. -/
def credential (signer : Signer) (env : Environment) (vault : Vault) :
    Except Error Credential × Vault × Log :=
  match vault.usable? with
  | some credential => (.ok credential, vault, [])
  | none =>
    match accept signer.provider (signer.provider.load vault.loads env) with
    | (.error e, log) => (.error e, vault.asked, log)
    | (.ok credential, log) => (.ok credential, vault.asked.keep credential, log)

/-- What comes of signing a head. -/
structure Signed extends Sealed where
  vault : Vault

/-- Signs a head at a time. -/
def sign (signer : Signer) (env : Environment) (vault : Vault) (now : Instant) (head : Head)
    (body : Option Bytes) : Signed :=
  match signer.credential env vault with
  | (.error e, vault, log) => ⟨⟨.error e, head, log⟩, vault⟩
  | (.ok credential, vault, log) =>
    -- What is kept stays so even if sealing fails.
    let done := sealHead (some credential) now head body
    ⟨{ done with log := log ++ done.log }, vault⟩

/-- A call for a signature: the variables and the time that it finds, and what is signed. -/
structure Job where
  env : Environment
  now : Instant
  head : Head
  body : Option Bytes

/-- Makes a call, and tells apart what comes of it and what is kept. -/
def serve (signer : Signer) (vault : Vault) (job : Job) : Sealed × Vault :=
  let done := signer.sign job.env vault job.now job.head job.body
  (done.toSealed, done.vault)

/-- Calls of a signer that has kept nothing yet, and of copies that are made meanwhile. -/
def run (signer : Signer) (actions : List (Action Job)) :
    List (Turn Job Vault Sealed) × Copies Signer Vault :=
  (Copies.single signer {}).run serve actions

/-- How a signer is shown. -/
def describe (signer : Signer) (context : Context) (vault : Vault) : String :=
  "Signer \x7b ctx: " ++ context.describe ++ ", loader: " ++ signer.provider.name ++
  ", builder: RequestSigner \x7b time: None \x7d, credential: " ++ vault.describe ++ " \x7d"

end Signer

end Signing

end SignedPayments
