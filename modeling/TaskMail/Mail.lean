import TaskMail.OsError

/-!
# TaskMail.Mail

A mail that is ready to be sent, and the failures of sending it.

* `Mail`           — recipient, copy, subject, body and sender.
* `Mail.arguments` — the arguments of the mail program; the body goes to its standard input.
* `SendFailure`    — why a mail could not be sent.
-/

namespace TaskMail

structure Mail where
  recipient : String
  cc : Option String
  subject : String
  body : String
  sender : Option String
  deriving Repr, DecidableEq

/-- The subject, the copy if there is one, the sender if there is one, and the recipient. -/
def Mail.arguments (m : Mail) : List String :=
  ["-s", m.subject] ++
    (match m.cc with
      | some cc => ["-c", cc]
      | none => []) ++
    (match m.sender with
      | some sender => ["-a", "From: " ++ sender]
      | none => []) ++
    [m.recipient]

inductive SendFailure where
  /-- The program could not be started. -/
  | spawn (program : String) (error : OsError)
  /-- The program was started and could not be served. -/
  | io (error : OsError)
  deriving Repr, DecidableEq

def SendFailure.message : SendFailure → String
  | .spawn program error => "could not start mail process " ++ program ++ ": " ++ error.text
  | .io error => "mail process i/o failed: " ++ error.text

end TaskMail
