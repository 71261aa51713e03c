import TaskMail.Machine
import TaskMail.Proofs.RunPaths

/-!
# TaskMail.Proofs.SessionEffects

What the exchange with the machine leaves behind in a session, the log apart.

* `effects`  — queries that were tried, queries that a peer has read, and deliveries.
* `answer`   — what a query gives, and `reaches`, whether a peer reads it.
* `delivery` — what a program is given.

The operations are described by one lemma each, and a run by `effects_enriched` up to its policy.
-/

namespace TaskMail

def Session.effects (s : Session) : List (Bytes × String) × List String × List Delivery :=
  (s.asked, s.queries, s.deliveries)

namespace Machine

theorem effects_log (e : Log.Event) (s : Session) : (Session.log e s).2.effects = s.effects := rfl

/-! ## Queries -/

def answer (m : Machine) (path : Bytes) : Except FetchFailure Metadata :=
  match m.connect path with
  | .error e => .error (.connect path e)
  | .ok .resets => .error (.io .connectionReset)
  | .ok (.responds response) => (Metadata.ofResponse response).mapError .malformed

/-- Whether a peer reads what is asked. -/
def reaches (m : Machine) (path : Bytes) : Bool :=
  match m.connect path with
  | .ok (.responds _) => true
  | _ => false

theorem fetch_fst (m : Machine) (path : Bytes) (taskId : String) (s : Session) :
    (m.fetch path taskId s).1 = m.answer path := by
  cases h : m.connect path with
  | error e =>
    simp only [fetch, answer, h]
    rfl
  | ok peer => cases peer <;> simp only [fetch, answer, h] <;> rfl

theorem effects_fetch (m : Machine) (path : Bytes) (taskId : String) (s : Session) :
    (m.fetch path taskId s).2.effects =
      (s.asked ++ [(path, taskId)],
        s.queries ++ (if m.reaches path then [workflowQuery taskId] else []), s.deliveries) := by
  cases h : m.connect path with
  | error e =>
    simp only [fetch, reaches, h, Bool.false_eq_true, if_false, List.append_nil]
    rfl
  | ok peer =>
    cases peer with
    | resets =>
      simp only [fetch, reaches, h, Bool.false_eq_true, if_false, List.append_nil]
      rfl
    | responds response =>
      simp only [fetch, reaches, h, if_true]
      rfl

/-! ## Mails -/

/-- What a program is given, and how much of it it reads. -/
def delivery (b : Behaviour) (mail : Mail) : Delivery :=
  let body := Utf8.encode mail.body
  ⟨mail.arguments, body.take (b.reads.getD body.length)⟩

theorem send_of_error {m : Machine} {e : Environment} {program : String} {mail : Mail}
    {error : OsError} (h : m.start e program mail.arguments = .error error) (s : Session) :
    (m.send e program mail s).1 = .error (.spawn program error) ∧
      (m.send e program mail s).2.effects = s.effects := by
  simp only [send, h]
  exact ⟨rfl, rfl⟩

theorem send_of_ok {m : Machine} {e : Environment} {program : String} {mail : Mail}
    {b : Behaviour} (h : m.start e program mail.arguments = .ok b) (s : Session) :
    (m.send e program mail s).1 = .ok b.code ∧
      (m.send e program mail s).2.effects =
        (s.asked, s.queries, s.deliveries ++ [delivery b mail]) := by
  simp only [send, h]
  rw [bind_apply, bind_apply]
  split <;> exact ⟨rfl, rfl⟩

end Machine

/-! ## Runs -/

namespace Dispatcher

/-- What the peer behind the socket tells. -/
def heard (d : Dispatcher) (m : Machine) (i : Invocation) : Metadata :=
  d.told i fun path _ => m.answer (Utf8.encode path)

theorem learned_session (d : Dispatcher) (m : Machine) (e : Environment) (program : String)
    (i : Invocation) (s : Session) :
    d.learned (m.collaborators e program) i s = d.heard m i := by
  simp only [learned, heard, Machine.collaborators, Machine.fetch_fst]

theorem effects_enriched (d : Dispatcher) (m : Machine) (e : Environment) (program : String)
    (i : Invocation) (s : Session) :
    (d.enriched (m.collaborators e program) i s).effects =
      let asked := (d.questions i).map fun q => (Utf8.encode q.1, q.2)
      (s.asked ++ asked,
        s.queries ++ (asked.filter fun q => m.reaches q.1).map fun q => workflowQuery q.2,
        s.deliveries) := by
  rw [view_enriched (c := m.collaborators e program) Session.effects fun _ _ => rfl,
    questions]
  cases d.variant with
  | basic => simp [Session.effects]
  | extended =>
    cases i.socketPath with
    | none => simp [Session.effects]
    | some path =>
      refine (m.effects_fetch (Utf8.encode path) i.taskId s).trans ?_
      by_cases hr : m.reaches (Utf8.encode path) = true <;> simp [hr]

end Dispatcher
end TaskMail
