import TaskMail.Failure
import TaskMail.Substitutions
import TaskMail.Trigger

/-!
# TaskMail.Request

A notification that is asked for: a call and its configuration together.

* `Request`          — what is known before the decision.
* `Request.make`     — checks the name of the policy.
* `Request.decision` — whether a mail is sent.
* `Request.mail`     — the mail, with the tokens in subject and body replaced.
-/

namespace TaskMail

structure Request where
  taskId : String
  exitStatus : Int
  recipient : String
  cc : Option String
  subject : String
  body : String
  trigger : Trigger
  /-- The table for subject and body; without one they stay as they are. -/
  substitutions : Option Substitutions
  deriving Repr, DecidableEq

namespace Request

def make (invocation : Invocation) (config : MailConfig)
    (substitutions : Option Substitutions) : Except Failure Request :=
  match Trigger.ofName? config.trigger with
  | none => .error (.trigger config.trigger)
  | some trigger =>
    .ok {
      taskId := invocation.taskId
      exitStatus := invocation.exitStatus
      recipient := config.recipient
      cc := config.cc
      subject := config.subject
      body := config.body
      trigger := trigger
      substitutions := substitutions }

def decision (r : Request) : Decision :=
  r.trigger.decide r.exitStatus

def replaced (r : Request) (text : String) : String :=
  match r.substitutions with
  | some s => s.apply text
  | none => text

def mail (r : Request) (sender : Option String) : Mail where
  recipient := r.recipient
  cc := r.cc
  subject := r.replaced r.subject
  body := r.replaced r.body
  sender := sender

end Request

end TaskMail
