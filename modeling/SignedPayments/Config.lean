import SignedPayments.Provider
import SignedPayments.Text.Blank

/-!
# SignedPayments.Config

What a client needs to know: a key, where to send requests, and how long to wait.
What is not said is looked up, and what is not found has a default, the key apart.
-/

namespace SignedPayments

/-- What a client needs to know. -/
structure Config where
  apiKey : Option String := none
  baseUrl? : Option String := none
  timeout? : Option Span := none
deriving DecidableEq

namespace Config

/-! ### Numbers of seconds -/

/-- Why a text is no number of seconds. -/
inductive SecondsFault
  | empty
  | invalidDigit
  | tooLarge
  | zero
deriving DecidableEq, Repr

/-- A fault in words. -/
def SecondsFault.message : SecondsFault → String
  | .empty => "cannot parse integer from empty string"
  | .invalidDigit => "invalid digit found in string"
  | .tooLarge => "number too large to fit in target type"
  | .zero => "must be positive"

/-- Reads digits as a positive number of 64 bits. A number that is too large is
told before anything that follows it. -/
def secondsOfDigits (digits : List Char) : Except SecondsFault Nat :=
  let n := Digits.value (digits.takeWhile Digits.isDigit)
  if 2 ^ 64 ≤ n then .error .tooLarge
  else if digits.any (!Digits.isDigit ·) then .error .invalidDigit
  else if n = 0 then .error .zero
  else .ok n

/-- Reads a number of seconds, which may have blanks around it and a plus sign
before it. -/
def secondsOfText (text : String) : Except SecondsFault Nat :=
  match trim text.toList with
  | [] => .error .empty
  -- A sign alone is no number; a minus sign is no digit.
  | ['+'] => .error .invalidDigit
  | '+' :: digits => secondsOfDigits digits
  | digits => secondsOfDigits digits

/-! ### Looking up -/

/-- What is told about a value that is no number of seconds. -/
def ignored (value : String) (fault : SecondsFault) : LogEntry :=
  .warning ("ignore invalid " ++ VariableName.timeout ++ " value " ++ quoted value ++ ": " ++
    fault.message)

/-- The time limit that the environment gives, and what is told about one that cannot
be used. -/
def timeoutOf (env : Environment) : Option Span × Log :=
  match env.lookUp VariableName.timeout with
  | none => (none, [])
  | some value =>
    match secondsOfText value with
    | .ok n => (some (.ofSeconds n), [])
    | .error fault => (none, [ignored value fault])

/-- Looks up what is not said. What is said stays. -/
def fromEnvironment (c : Config) (env : Environment) : Config × Log :=
  let (timeout, log) := timeoutOf env
  ({ apiKey := c.apiKey <|> env.lookUp VariableName.apiKey
     baseUrl? := c.baseUrl? <|> env.lookUp VariableName.baseUrl
     timeout? := c.timeout? <|> timeout }, log)

/-! ### What holds in the end -/

/-- Where requests are sent if nothing else is said. -/
def defaultBaseUrl : String := "https://api.pipaymentgateway.com"

/-- How long to wait if nothing else is said. -/
def defaultTimeout : Span := .ofSeconds 10

/-- Characters without slashes at their end. -/
def trimSlashes (cs : List Char) : List Char := (cs.reverse.dropWhile (· = '/')).reverse

/-- Where requests are sent, without slashes at its end. -/
def baseUrl (c : Config) : String :=
  String.ofList (trimSlashes (c.baseUrl?.getD defaultBaseUrl).toList)

/-- How long to wait. -/
def timeout (c : Config) : Span := c.timeout?.getD defaultTimeout

/-- How a configuration is shown. -/
def describe (c : Config) : String :=
  "Config \x7b api_key: " ++ (Redacted.ofSecret? c.apiKey).text ++
  ", base_url: " ++ c.baseUrl?.elim "None" (fun url => "Some(" ++ quoted url ++ ")") ++
  ", timeout: " ++ c.timeout?.elim "None" (fun t => "Some(" ++ t.text ++ ")") ++ " \x7d"

end Config

end SignedPayments
