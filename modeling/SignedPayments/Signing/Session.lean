import SignedPayments.Signing.Draft

/-!
# SignedPayments.Signing.Session

A head together with the draft that was started from it, while a caller works on
both step by step. At most one draft is under way, and finishing it ends it, also
where that fails.
-/

namespace SignedPayments

open Http

namespace Signing

/-- A head, and the draft under way. -/
structure Session where
  head : Head
  draft : Option Draft := none
deriving DecidableEq

/-- A change of a draft. -/
inductive Edit
  | insertHeader (name : HeaderName) (value : String) (sensitive : Bool)
  | setMethod (method : Method)
  | setScheme (scheme : Scheme)
  | setAuthority (authority : Authority)
  | setPath (path : String)
  | setQuery (query : Option String)
deriving DecidableEq

/-- What is done with a session. -/
inductive Command
  | start
  | edit (e : Edit)
  | finish
deriving DecidableEq

/-- What was done with a session, and what came of it. There is no result where a draft was
needed and none was under way. -/
structure Done where
  command : Command
  result : Option (Except Error Unit)

/-- Changes a draft. Only a header can be refused. -/
def Draft.edit (draft : Draft) : Edit → Except Fault Draft
  | .insertHeader name value sensitive => draft.insertHeader name value sensitive
  | .setMethod method => .ok { draft with method := method }
  | .setScheme scheme => .ok { draft with scheme := scheme }
  | .setAuthority authority => .ok { draft with authority := authority }
  | .setPath path => .ok { draft with path := path }
  | .setQuery query => .ok { draft with query := query }

namespace Session

/-- Starts a draft, in place of one that is under way. If that fails, the earlier one
stays under way. -/
def start (s : Session) : Except Error Unit × Session :=
  let step := Draft.start s.head
  match step.result with
  | .error e => (.error e, { s with head := step.head })
  | .ok draft => (.ok (), ⟨step.head, some draft⟩)

/-- Changes the draft under way. A change that is refused leaves it as it was. There is
no answer where no draft is under way. -/
def edit (s : Session) (e : Edit) : Option (Except Error Unit × Session) :=
  s.draft.map fun draft =>
    match draft.edit e with
    | .error fault => (.error fault.error, s)
    | .ok draft => (.ok (), { s with draft := some draft })

/-- Finishes the draft under way, which ends in any case. There is no answer where no
draft is under way. -/
def finish (s : Session) : Option (Except Error Unit × Session) :=
  s.draft.map fun draft =>
    let step := draft.finish s.head
    (step.result, ⟨step.head, none⟩)

/-- Does one thing with a session. -/
def act (s : Session) : Command → Option (Except Error Unit × Session)
  | .start => some s.start
  | .edit e => s.edit e
  | .finish => s.finish

/-- Does one thing after the other, and tells what came of each. Nothing changes where there
is no answer. -/
def run (s : Session) : List Command → List Done × Session
  | [] => ([], s)
  | command :: rest =>
    match s.act command with
    | none => let (done, s) := run s rest; (⟨command, none⟩ :: done, s)
    | some (result, s) => let (done, s) := run s rest; (⟨command, some result⟩ :: done, s)

end Session

end Signing

end SignedPayments
