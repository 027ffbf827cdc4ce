import SignedPayments.Http.Response
import SignedPayments.Text.Quoted

/-!
# SignedPayments.Context

What surrounds a call: variables to look up, and a transport to send requests.
Both may differ from one call to the next, and both can be shown.
-/

namespace SignedPayments

/-- Variables. -/
structure Environment where
  /-- How it is shown. -/
  name : String
  lookUp : String → Option String

namespace Environment

/-- No variables. -/
def empty : Environment where
  name := "NoopEnv"
  lookUp _ := none

/-- Variables and their values between braces. -/
def entriesText (vars : List (String × String)) : String :=
  "\x7b" ++ ", ".intercalate (vars.map fun (key, value) => quoted key ++ ": " ++ quoted value) ++
    "\x7d"

/-- Variables given by a list. They are shown with their values. -/
def ofList (vars : List (String × String)) : Environment where
  name := "StaticEnv \x7b envs: " ++ entriesText vars ++ " \x7d"
  lookUp key := vars.lookup key

/-- A variable of a process as it is kept: its name, an equals sign and its value. -/
def entry (var : String × Bytes) : Bytes := Utf8.ofString var.1 ++ 0x3d :: var.2

/-- The variables of the process. What is looked up may hold equals signs itself: its
value is what follows it and one more equals sign in a variable. A value that is not
UTF-8 is missing. -/
def ofProcess (vars : List (String × Bytes)) : Environment where
  name := "OsEnv"
  lookUp key :=
    let front := Utf8.ofString key ++ [0x3d]
    match (vars.map entry).find? front.isPrefixOf with
    | some found => Utf8.toString? (found.drop front.length)
    | none => none

end Environment

/-- What surrounds a call. -/
structure Context where
  transport : Http.Transport
  environment : Environment

namespace Context

/-- Nothing to look up, and nothing that sends. -/
def empty : Context := ⟨.missing, .empty⟩

/-- How a context is shown. -/
def describe (context : Context) : String :=
  "Context \x7b http: " ++ context.transport.name ++ ", env: " ++ context.environment.name ++ " \x7d"

end Context

end SignedPayments
