import TaskMail.Invocation
import TaskMail.Mail
import TaskMail.MailConfig

/-!
# TaskMail.Failure

The failures that end a run.

* `Failure`       — a failure by its cause.
* `Failure.Kind`  — the six kinds, each with an exit code and a heading.
* `Failure.message` — the heading and the cause.
-/

namespace TaskMail

/-- Why there is no standard input to read. -/
inductive ReadFault where
  | empty
  | os (error : OsError)
  deriving Repr, DecidableEq

def ReadFault.text : ReadFault → String
  | .empty => "stdin was empty"
  | .os error => error.text

inductive Failure where
  | read (fault : ReadFault)
  | config (fault : ConfigFault)
  | dispatch (failure : SendFailure)
  | invocation (fault : InvocationFault)
  /-- A policy that has no such name. -/
  | trigger (name : String)
  deriving Repr

namespace Failure

inductive Kind where
  | configRead
  | configDecode
  | configValidation
  | dispatch
  | invocation
  | policy
  deriving Repr, DecidableEq

def Kind.exitCode : Kind → Int
  | .configRead => 1
  | .configDecode => 2
  | .configValidation => 3
  | .dispatch => 4
  | .invocation => 5
  | .policy => 6

def Kind.heading : Kind → String
  | .configRead => "no configuration could be read on stdin: "
  | .configDecode => "unable to decode json data: "
  | .configValidation => "invalid configuration: "
  | .dispatch => "unable to dispatch mail: "
  | .invocation => "this process should only be called as an evQueue plugin: "
  | .policy => "invalid value for 'when' parameter: "

/-- The message of a failure of this kind. -/
def Kind.describe (k : Kind) (detail : String) : String :=
  k.heading ++ detail

def kind : Failure → Kind
  | .read _ => .configRead
  | .config (.malformed _) => .configDecode
  | .config _ => .configValidation
  | .dispatch _ => .dispatch
  | .invocation _ => .invocation
  | .trigger _ => .policy

def detail : Failure → String
  | .read fault => fault.text
  | .config fault => fault.text
  | .dispatch failure => failure.message
  | .invocation fault => fault.text
  | .trigger name => Text.quote name

def message (f : Failure) : String :=
  f.kind.describe f.detail

def exitCode (f : Failure) : Int :=
  f.kind.exitCode

end Failure

end TaskMail
