import SignedPayments.Client

/-!
# SignedPayments.Application

A program that makes clients and calls, as one sees it who reads its log. It has one
configuration at a time, and makes clients and copies of them, which it knows by their
numbers. After each step it shows all that it has.
-/

namespace SignedPayments

open Http Signing

/-- What a program has. -/
structure Application where
  config : Config := {}
  clients : Copies Client Vault := ⟨[], []⟩

namespace Application

/-- What a program does. -/
inductive Step
  /-- Says what clients are to know. -/
  | configure (config : Config)
  /-- Looks up what was not said. -/
  | complete
  /-- Makes a client with the key of the configuration. -/
  | make
  /-- Makes a client with the credential of a provider. -/
  | makeWith (provider : Provider)
  /-- Makes one more copy of a client. -/
  | copy (number : Nat)
  /-- Makes a call, which has this reply if its request is sent. -/
  | call (number : Nat) (now : Instant) (call : Call) (reply : Reply)

/-- What a step gives back. -/
inductive Outcome
  | nothing
  | made (result : Except Error Unit)
  | answered (result : Except Error Json.Object)

/-- What one sees of a step: what it gives back, what is told meanwhile, and what is shown
after it. -/
structure Report where
  outcome : Outcome
  log : Log
  shown : List String

/-- Keeps a client, if one was made. It shares nothing with those before it. -/
def keep (app : Application) : Except Error Client → Outcome × Log × Application
  | .error e => (.made (.error e), [], app)
  | .ok client =>
    (.made (.ok ()), [], { app with
      clients :=
        { copies := app.clients.copies ++ [⟨client, app.clients.places.length⟩]
          places := app.clients.places ++ [{}] } })

/-- A call that has a reply if its request is sent, whatever the request. -/
def occasion (context : Context) (now : Instant) (call : Call) (reply : Reply) :
    Client.Occasion where
  context := { context with transport := { context.transport with send := fun _ => reply } }
  now := now
  call := call

/-- Takes a step. -/
def step (app : Application) (context : Context) : Step → Outcome × Log × Application
  | .configure config => (.nothing, [], { app with config := config })
  | .complete =>
    let (config, log) := app.config.fromEnvironment context.environment
    (.nothing, log, { app with config := config })
  | .make => app.keep (Client.ofConfig app.config)
  | .makeWith provider => app.keep (Client.withProvider app.config provider)
  | .copy number =>
    (.nothing, [], { app with clients := (app.clients.act Client.serve (.copy number)).2 })
  | .call number now call reply =>
    let (turn?, clients) :=
      app.clients.act Client.serve (.ask number (occasion context now call reply))
    (turn?.elim .nothing (.answered ·.answer.result), turn?.elim [] (·.answer.log),
      { app with clients := clients })

/-- A client as it is shown, and the parts of it that can be shown alone: its provider and
the credential that it keeps. -/
def clientShown (context : Context) (client : Client) (vault : Vault) : List String :=
  [client.signer.provider.name, Credential.describe? vault.credential,
    client.describe context vault]

/-- All that a program has, as it is shown. -/
def shown (app : Application) (context : Context) : List String :=
  app.config.describe :: app.clients.copies.flatMap fun copy =>
    app.clients.places[copy.place]?.elim [] (clientShown context copy.item)

/-- Takes one step after the other, each with what surrounds it then. -/
def run (app : Application) : List (Context × Step) → List Report
  | [] => []
  | (context, step) :: rest =>
    let (outcome, log, app) := app.step context step
    ⟨outcome, log, app.shown context⟩ :: app.run rest

end Application

end SignedPayments
