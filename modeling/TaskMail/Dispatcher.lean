import TaskMail.Log.Event
import TaskMail.Request

/-!
# TaskMail.Dispatcher

From a call and the standard input to a mail.

* `Collaborators`    — who knows the metadata, who sends the mail and who keeps the log.
* `Dispatcher`       — the settings of a run.
* `Dispatcher.accept` — the checks before anyone is asked.
* `Dispatcher.run`   — a run: the metadata is asked for before the policy is checked, and
  without an answer it is empty.
* `Outcome`          — how a run without failure ends.
-/

namespace TaskMail

/-- Those that a run works with, over a state that they share. -/
structure Collaborators (σ : Type) where
  /-- The metadata of a task, from the socket at a path. -/
  fetch : (socketPath taskId : String) → StateM σ (Except FetchFailure Metadata)
  /-- Sends a mail; the result is the exit code of the mail program. -/
  send : Mail → StateM σ (Except SendFailure Int)
  log : Log.Event → StateM σ Unit

inductive Outcome where
  | suppressed
  | dispatched (exitCode : Int)
  deriving Repr, DecidableEq

def Outcome.exitCode : Outcome → Int
  | .suppressed => 0
  | .dispatched code => code

structure Dispatcher where
  variant : Variant
  sender : Option String
  deriving Repr, DecidableEq

def Settings.dispatcher (s : Settings) : Dispatcher :=
  ⟨s.variant, s.sender⟩

namespace Dispatcher

variable {σ : Type}

/-- The configuration on the standard input of a call that the dispatcher can run. -/
def accept (d : Dispatcher) (invocation : Invocation) (stdin : Bytes) :
    Except Failure MailConfig :=
  if invocation.variant ≠ d.variant then
    .error (.invocation (.mismatch invocation.variant d.variant))
  else if stdin.isEmpty then .error (.read .empty)
  else (MailConfig.decode stdin).mapError .config

/-- The tokens of a task, and those of its workflow if there is a socket to ask. -/
def collect (c : Collaborators σ) (invocation : Invocation) : StateM σ Substitutions := do
  let known := Substitutions.forTask invocation.taskId
  match invocation.socketPath with
  | none =>
    c.log (.noSocket known.size)
    return known
  | some path =>
    match ← c.fetch path invocation.taskId with
    | .ok metadata => return known.withMetadata metadata
    | .error failure =>
      c.log (.metadataUnavailable failure path)
      return known.withMetadata {}

/-- The basic variant replaces no tokens. -/
def substitutions (d : Dispatcher) (c : Collaborators σ) (invocation : Invocation) :
    StateM σ (Option Substitutions) :=
  match d.variant with
  | .basic => return none
  | .extended => return some (← collect c invocation)

/-- The basic variant names no sender. -/
def mailSender (d : Dispatcher) : Option String :=
  match d.variant with
  | .basic => none
  | .extended => d.sender

/-- Sends the mail of a request unless its policy is against it. -/
def conclude (d : Dispatcher) (c : Collaborators σ) (request : Request) :
    StateM σ (Except Failure Outcome) := do
  match request.decision with
  | .suppress reason =>
    c.log (.suppressed request.taskId reason)
    return .ok .suppressed
  | .dispatch =>
    let mail := request.mail d.mailSender
    c.log (.dispatching request.taskId mail.recipient mail.subject)
    match ← c.send mail with
    | .error failure => return .error (.dispatch failure)
    | .ok code =>
      c.log (.dispatched request.taskId code)
      return .ok (.dispatched code)

def run (d : Dispatcher) (c : Collaborators σ) (invocation : Invocation) (stdin : Bytes) :
    StateM σ (Except Failure Outcome) := do
  match d.accept invocation stdin with
  | .error failure => return .error failure
  | .ok config =>
    match Request.make invocation config (← d.substitutions c invocation) with
    | .error failure => return .error failure
    | .ok request => d.conclude c request

end Dispatcher

end TaskMail
