/-!
# TaskMail.Trigger

When a task's end is worth a mail.

* `Trigger`        — the three policies, and `Trigger.ofName?`, by their exact names.
* `Trigger.decide` — the decision for an exit status: zero is success.
* `Suppression`    — why no mail is sent.
-/

namespace TaskMail

inductive Trigger where
  | onSuccess
  | onError
  | onBoth
  deriving Repr, DecidableEq

namespace Trigger

def name : Trigger → String
  | .onSuccess => "ON_SUCCESS"
  | .onError => "ON_ERROR"
  | .onBoth => "ON_BOTH"

def ofName? (s : String) : Option Trigger :=
  if s = "ON_SUCCESS" then some .onSuccess
  else if s = "ON_ERROR" then some .onError
  else if s = "ON_BOTH" then some .onBoth
  else none

end Trigger

inductive Suppression where
  /-- The task failed with a status, and only successes count. -/
  | failed (status : Int)
  /-- The task succeeded, and only failures count. -/
  | succeeded
  deriving Repr, DecidableEq

def Suppression.text : Suppression → String
  | .failed status => "task failed with status " ++ toString status ++ ", policy is ON_SUCCESS"
  | .succeeded => "task succeeded, policy is ON_ERROR"

inductive Decision where
  | dispatch
  | suppress (reason : Suppression)
  deriving Repr, DecidableEq

def Trigger.decide (t : Trigger) (status : Int) : Decision :=
  match t with
  | .onSuccess => if status = 0 then .dispatch else .suppress (.failed status)
  | .onError => if status = 0 then .suppress .succeeded else .dispatch
  | .onBoth => .dispatch

end TaskMail
