import SignedPayments.Call
import SignedPayments.Config
import SignedPayments.Json.Reader
import SignedPayments.Signing.Signer

/-!
# SignedPayments.Client

Calls the service. A call is one request and at most one answer: nothing is tried
again. The body is written once, and the bytes that are signed are those that are
sent. Only the endpoint is signed, not the path of the address before it.

A client does not change. What its signer keeps is given to each call and comes
back with its result.
-/

namespace SignedPayments

open Http Signing

/-- A client of the service. -/
structure Client where
  /-- Where requests are sent, without slashes at its end. -/
  baseUrl : String
  /-- How long an answer may take. -/
  timeout : Span
  signer : Signer

namespace Client

/-! ### Making clients -/

/-- The error where no key is given. -/
def keyRequired : Error := { kind := .configInvalid, message := "api_key is required" }

/-- The error for an address that is no uri. -/
def notAUrl (baseUrl : String) (fault : Fault) : Error :=
  { kind := .configInvalid
    message := "base_url " ++ quoted baseUrl ++ " is not a valid url"
    causes := [fault.message] }

/-- The error for an address without scheme or host. -/
def notAbsolute (baseUrl : String) : Error :=
  { kind := .configInvalid
    message := "base_url " ++ quoted baseUrl ++ " must contain scheme and host" }

/-- A client with the credential of a provider. The key of the configuration is not
used. -/
def withProvider (config : Config) (provider : Provider) : Except Error Client :=
  match Uri.ofText config.baseUrl with
  | .error fault => .error (notAUrl config.baseUrl fault)
  | .ok uri =>
    if uri.scheme.isSome && uri.authority.isSome then
      .ok ⟨config.baseUrl, config.timeout, ⟨provider⟩⟩
    else .error (notAbsolute config.baseUrl)

/-- A client with the key of its configuration. -/
def ofConfig (config : Config) : Except Error Client :=
  match config.apiKey.filter (· ≠ "") with
  | none => .error keyRequired
  | some apiKey => withProvider config (.fixed apiKey)

/-- A client whose configuration is completed from the environment, and what is told
meanwhile. -/
def ofEnvironment (config : Config) (env : Environment) : Except Error Client × Log :=
  let (config, log) := config.fromEnvironment env
  (ofConfig config, log)

/-- How a client is shown. -/
def describe (client : Client) (context : Context) (vault : Vault) : String :=
  "Client \x7b base_url: " ++ quoted client.baseUrl ++ ", timeout: " ++ client.timeout.text ++
  ", signer: " ++ client.signer.describe context vault ++ " \x7d"

/-! ### Answers -/

/-- The error for a good answer whose body is no object. -/
def notAnObject (status : Status) (fault : Json.Fault) : Error :=
  { kind := .responseInvalid
    message := "response body is not a json object: " ++ fault.text
    status := some status
    causes := [fault.text] }

/-- Reads an answer: the object of a good one, or the error of a bad one. -/
def readAnswer (status : Status) (body : Bytes) : Except Error Json.Object :=
  if status.isSuccess then
    match Json.Object.read body with
    | .ok members => .ok members
    | .error fault => .error (notAnObject status fault)
  else .error (.ofAnswer status (Utf8.toStringLossy body))

/-- Whether an answer comes in time, by a timer. -/
def inTime (begun : Fin 1000000) (timeout : Span) (delay : Option Span) : Bool :=
  delay.all (·.timerTicks begun ≤ timeout.timerTicks begun)

/-! ### Calls -/

/-- What comes of a call. -/
structure Exchange where
  result : Except Error Json.Object
  vault : Vault
  log : Log := []
  /-- What the transport received meanwhile. -/
  received : List Request := []

/-- The request that was sent, if one was. -/
def Exchange.sent (done : Exchange) : Option Request := done.received.head?

/-- The error for an endpoint that does not begin with a slash. -/
def badEndpoint (endpoint : String) : Error :=
  { kind := .requestInvalid, message := "endpoint " ++ quoted endpoint ++ " must start with '/'" }

/-- The error for a body that cannot be written. -/
def unwritable (fault : Json.Fault) : Error :=
  { kind := .requestInvalid
    message := "serialize request body failed"
    causes := [fault.text] }

/-- The error where no answer comes in time. -/
def timedOut (client : Client) (call : Call) : Error :=
  { kind := .transport
    message := "request timed out after " ++ client.timeout.text ++ ": " ++ call.method.name ++
      " " ++ call.endpoint }

/-- Writes the body of a call. -/
def writeBody : Option Body → Except Error (Option Bytes)
  | none => .ok none
  | some body =>
    match body.write with
    | .ok bytes => .ok (some bytes)
    | .error fault => .error (unwritable fault)

/-- What bodies are made of, sent and received. -/
def json : HeaderValue := ⟨Utf8.ofString "application/json", false⟩

/-- The head of the request for a call. -/
def head (client : Client) (call : Call) : Except Fault Head := do
  let uri ← Uri.ofText (client.baseUrl ++ call.endpoint)
  return {
    method := call.method
    uri := uri
    headers := [(.contentType, json), (.accept, json)]
    signedEndpoint := some call.endpoint }

/-- Prepares the request for a call: its head, which is not signed yet, and its body. -/
def prepare (client : Client) (call : Call) : Except Error (Head × Option Bytes) := do
  if call.endpoint.toList.head? ≠ some '/' then throw (badEndpoint call.endpoint)
  -- The body is written first: of two faults, that of the body is told.
  let body ← writeBody call.body
  let head ← orError (client.head call)
  return (head, body)

/-- What is told before a request is sent. -/
def sendingEntry (call : Call) : LogEntry :=
  .debug ("sending request: " ++ call.method.name ++ " " ++ call.endpoint)

/-- What is told when an answer has come. -/
def answeredEntry (call : Call) (status : Status) : LogEntry :=
  .debug ("got response: " ++ call.method.name ++ " " ++ call.endpoint ++ " " ++ status.text)

/-- The result of a call whose request had a reply, and what is told about it. -/
def conclude (client : Client) (call : Call) : Reply → Except Error Json.Object × Log
  | .answer status body delay begun =>
    if inTime begun client.timeout delay then (readAnswer status body, [answeredEntry call status])
    else (.error (client.timedOut call), [])
  | .failure e => (.error e, [])
  | .silence => (.error (client.timedOut call), [])

/-- Makes a call at a time, while the transport keeps its record: the result, what is kept, and
what is told. -/
def perform (client : Client) (context : Context) (vault : Vault) (now : Instant) (call : Call) :
    StateM (List Request) (Except Error Json.Object × Vault × Log) :=
  match client.prepare call with
  -- The provider is not asked for a request that cannot be prepared.
  | .error e => return (.error e, vault, [])
  | .ok (head, body) =>
    let signed := client.signer.sign context.environment vault now head body
    match signed.result with
    | .error e => return (.error e, signed.vault, signed.log)
    | .ok () => do
      -- Without a body, an empty one is sent.
      let reply ← context.transport.hand ⟨signed.head, body.getD []⟩
      let (result, log) := client.conclude call reply
      return (result, signed.vault, signed.log ++ sendingEntry call :: log)

/-- Makes a call at a time, on a record of its own. -/
def execute (client : Client) (context : Context) (vault : Vault) (now : Instant) (call : Call) :
    Exchange :=
  let ((result, vault, log), received) := (client.perform context vault now call).run []
  { result, vault, log, received }

/-- What others see of a call: what it sends, and what comes of it. -/
def Exchange.seen (done : Exchange) : List Request × Except Error Json.Object :=
  (done.received, done.result)

/-! ### Calls in a row -/

/-- A call, with what surrounds it and its time. -/
structure Occasion where
  context : Context
  now : Instant
  call : Call

/-- Makes a call, and tells apart what comes of it and what is kept. -/
def serve (client : Client) (vault : Vault) (o : Occasion) : Exchange × Vault :=
  let done := client.execute o.context vault o.now o.call
  (done, done.vault)

/-- Calls through a client that has kept nothing yet, and through copies that are made
meanwhile. -/
def run (client : Client) (actions : List (Action Occasion)) :
    List (Turn Occasion Vault Exchange) × Copies Client Vault :=
  (Copies.single client {}).run serve actions

end Client

end SignedPayments
