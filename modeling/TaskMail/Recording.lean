import TaskMail.Dispatcher

/-!
# TaskMail.Recording

Collaborators that only keep a record, for trying out a dispatcher.

* `Recording`     — the mails that were to be sent and the queries that were to be made.
* `Transport`     — whether mails can be sent, and the exit code that they end with.
* `Recording.collaborators` — a transport and a fixed answer to every query.
* `Call`, `Recording.runs` — several calls of one dispatcher, one after the other.
-/

namespace TaskMail

structure Recording where
  sent : List Mail
  /-- Socket paths and task ids. -/
  queries : List (String × String)
  deriving Repr, DecidableEq

inductive Transport where
  | exits (code : Int)
  | unavailable
  deriving Repr, DecidableEq

/-- The arguments of a call as they are given, and its standard input. -/
structure Call where
  variant : Variant
  taskId : String
  status : String
  socketPath : Option String
  stdin : Bytes
  deriving Repr, DecidableEq

/-- What came of a call: the result, the mails and queries that it added, and the number of all
mails so far. -/
structure CallReport where
  result : Except Failure Outcome
  sent : List Mail
  queries : List (String × String)
  total : Nat

namespace Recording

def empty : Recording := ⟨[], []⟩

/-- A query is recorded whether it is answered or not. -/
def fetch (metadata : Option Metadata) (socketPath taskId : String) :
    StateM Recording (Except FetchFailure Metadata) := fun r =>
  let r' := { r with queries := r.queries ++ [(socketPath, taskId)] }
  match metadata with
  | some m => (.ok m, r')
  | none => (.error (.connect (Utf8.encode socketPath) .refused), r')

/-- A mail is recorded when it can be sent. -/
def send (transport : Transport) (mail : Mail) : StateM Recording (Except SendFailure Int) :=
  fun r =>
    match transport with
    | .exits code => (.ok code, { r with sent := r.sent ++ [mail] })
    | .unavailable => (.error (.spawn "recording" .entityNotFound), r)

def collaborators (transport : Transport) (metadata : Option Metadata) :
    Collaborators Recording where
  fetch := fetch metadata
  send := send transport
  log := fun _ => pure ()

/-- One call, from its arguments on. -/
def call (d : Dispatcher) (c : Collaborators Recording) (call : Call) :
    StateM Recording (Except Failure Outcome) :=
  match Invocation.make call.variant call.taskId call.status call.socketPath with
  | .error fault => return .error (.invocation fault)
  | .ok invocation => d.run c invocation call.stdin

def report (d : Dispatcher) (c : Collaborators Recording) (x : Call) :
    StateM Recording CallReport := fun before =>
  let (result, after) := call d c x before
  (⟨result, after.sent.drop before.sent.length, after.queries.drop before.queries.length,
    after.sent.length⟩, after)

def runs (d : Dispatcher) (c : Collaborators Recording) (calls : List Call) :
    StateM Recording (List CallReport) :=
  calls.mapM (report d c)

end Recording

end TaskMail
