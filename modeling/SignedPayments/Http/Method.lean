import SignedPayments.Http.Fault

/-!
# SignedPayments.Http.Method

Methods. A method is a token and is kept as it is written: case matters.
-/

namespace SignedPayments

namespace Http

/-- The characters of tokens. -/
def isTokenChar (c : Char) : Bool :=
  c.isAlphanum || "!#$%&'*+-.^_`|~".toList.contains c

/-- Tokens: characters of that kind, at least one of them. -/
def isToken (cs : List Char) : Bool := !cs.isEmpty && cs.all isTokenChar

/-- A method. -/
structure Method where
  name : String
  isToken : isToken name.toList = true
deriving DecidableEq

namespace Method

/-- Reads a method. -/
def ofText (text : String) : Except Fault Method :=
  if h : Http.isToken text.toList = true then .ok ⟨text, h⟩ else .error .invalidMethod

/-- The method that asks for something. -/
def get : Method := ⟨"GET", by decide⟩

/-- The method that hands something in. -/
def post : Method := ⟨"POST", by decide⟩

end Method

end Http

end SignedPayments
