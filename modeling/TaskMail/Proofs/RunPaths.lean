import TaskMail.Dispatcher
import TaskMail.Proofs.Fields

/-!
# TaskMail.Proofs.RunPaths

The ways that a run of a dispatcher can go, for any collaborators.

* `Due`, `Idle`  — when a policy calls for a mail, and when it is against one, by its name.
* `tableFor`     — the table for subject and body once the engine has been asked.
* `mailFor`      — the mail of a call and its configuration.
* `questions`    — what the engine is asked.
* `told`         — what a source tells.
* `enriched`     — the state of the collaborators when the table is known.

A run is refused before anything is asked (`run_of_reject`), or it is enriched; then its policy
has no such name (`run_of_unknown`), is against a mail (`run_of_idle`), or calls for the mail
(`run_of_due`). No two of these agree in their conditions and no run is outside of them.
-/

namespace TaskMail

theorem bind_apply {σ α β : Type} (x : StateM σ α) (f : α → StateM σ β) (s : σ) :
    (x >>= f) s = f (x s).1 (x s).2 := rfl

theorem mapError_ok {ε ε' α : Type} (f : ε → ε') (a : α) :
    (Except.ok a).mapError f = .ok a := rfl

theorem mapError_error {ε ε' α : Type} (f : ε → ε') (e : ε) :
    (Except.error e : Except ε α).mapError f = .error (f e) := rfl

/-! ## Policies -/

/-- A policy of this name calls for a mail when a task ends with this status. -/
def Due (name : String) (status : Int) : Prop :=
  name = "ON_BOTH" ∨ (name = "ON_SUCCESS" ∧ status = 0) ∨ (name = "ON_ERROR" ∧ status ≠ 0)

def Idle (name : String) (status : Int) : Prop :=
  (name = "ON_SUCCESS" ∧ status ≠ 0) ∨ (name = "ON_ERROR" ∧ status = 0)

instance (name : String) (status : Int) : Decidable (Due name status) :=
  inferInstanceAs (Decidable (_ ∨ _))

theorem Idle.not_due {name : String} {status : Int} (h : Idle name status) : ¬ Due name status := by
  rcases h with ⟨rfl, hs⟩ | ⟨rfl, hs⟩ <;> simp [Due, hs]

namespace Trigger

theorem ofName?_eq_some_iff {name : String} {t : Trigger} :
    ofName? name = some t ↔ name = t.name := by
  rw [ofName?]
  constructor
  · intro h
    split at h
    · next hn => cases h; exact hn
    · split at h
      · next hn => cases h; exact hn
      · split at h
        · next hn => cases h; exact hn
        · cases h
  · rintro rfl
    cases t <;> decide

theorem decide_eq_dispatch_iff {t : Trigger} {status : Int} :
    t.decide status = .dispatch ↔ Due t.name status := by
  cases t <;> by_cases h : status = 0 <;> simp [Trigger.decide, Due, name, h]

theorem decide_eq_suppress_iff {t : Trigger} {status : Int} :
    (∃ reason, t.decide status = .suppress reason) ↔ Idle t.name status := by
  cases t <;> by_cases h : status = 0 <;> simp [Trigger.decide, Idle, name, h]

theorem ofName?_eq_none_iff {name : String} :
    ofName? name = none ↔ name ≠ "ON_SUCCESS" ∧ name ≠ "ON_ERROR" ∧ name ≠ "ON_BOTH" := by
  rw [ofName?]
  by_cases h1 : name = "ON_SUCCESS"
  · simp [h1]
  · by_cases h2 : name = "ON_ERROR"
    · simp [h2]
    · by_cases h3 : name = "ON_BOTH" <;> simp [h1, h2, h3]

theorem exists_idle_iff {name : String} {status : Int} :
    (∃ t reason, ofName? name = some t ∧ t.decide status = .suppress reason) ↔
      Idle name status := by
  constructor
  · rintro ⟨t, reason, ht, hd⟩
    rw [ofName?_eq_some_iff.1 ht]
    exact decide_eq_suppress_iff.1 ⟨reason, hd⟩
  · intro h
    cases ht : ofName? name with
    | none =>
      obtain ⟨h1, h2, _⟩ := ofName?_eq_none_iff.1 ht
      simp [Idle, h1, h2] at h
    | some t =>
      rw [ofName?_eq_some_iff.1 ht] at h
      obtain ⟨reason, hd⟩ := decide_eq_suppress_iff.2 h
      exact ⟨t, reason, rfl, hd⟩

theorem not_due_of_unknown {name : String} (h : ofName? name = none) (status : Int) :
    ¬ Due name status := by
  obtain ⟨h1, h2, h3⟩ := ofName?_eq_none_iff.1 h
  simp [Due, h1, h2, h3]

theorem exists_due_iff {name : String} {status : Int} :
    (∃ t, ofName? name = some t ∧ t.decide status = .dispatch) ↔ Due name status := by
  constructor
  · rintro ⟨t, ht, hd⟩
    rw [ofName?_eq_some_iff.1 ht]
    exact decide_eq_dispatch_iff.1 hd
  · intro h
    cases ht : ofName? name with
    | none => exact absurd h (not_due_of_unknown ht status)
    | some t =>
      rw [ofName?_eq_some_iff.1 ht] at h
      exact ⟨t, rfl, decide_eq_dispatch_iff.2 h⟩

theorem unknown_or_idle_or_due (name : String) (status : Int) :
    ofName? name = none ∨ Idle name status ∨ Due name status := by
  cases ht : ofName? name with
  | none => exact .inl rfl
  | some t =>
    cases hd : t.decide status with
    | suppress reason => exact .inr (.inl (exists_idle_iff.1 ⟨t, reason, ht, hd⟩))
    | dispatch => exact .inr (.inr (exists_due_iff.1 ⟨t, ht, hd⟩))

end Trigger

/-! ## Mails -/

/-- Who knows the metadata: an answer for each socket path and task. -/
abbrev Source :=
  String → String → Except FetchFailure Metadata

/-- What is known when the engine has answered, or not. -/
def answered : Except FetchFailure Metadata → Metadata
  | .ok m => m
  | .error _ => {}

namespace Dispatcher

variable {σ : Type}

/-- The table for subject and body, if there is one. -/
def tableFor (d : Dispatcher) (i : Invocation) (m : Metadata) : Option Substitutions :=
  match d.variant, i.socketPath with
  | .basic, _ => none
  | .extended, none => some (.forTask i.taskId)
  | .extended, some _ => some ((Substitutions.forTask i.taskId).withMetadata m)

def replacedBy (table : Option Substitutions) (text : String) : String :=
  match table with
  | some s => s.apply text
  | none => text

def mailFor (d : Dispatcher) (i : Invocation) (config : MailConfig) (m : Metadata) : Mail where
  recipient := config.recipient
  cc := config.cc
  subject := replacedBy (d.tableFor i m) config.subject
  body := replacedBy (d.tableFor i m) config.body
  sender := d.mailSender

/-- The queries of a run that is not refused. -/
def questions (d : Dispatcher) (i : Invocation) : List (String × String) :=
  match d.variant, i.socketPath with
  | .extended, some path => [(path, i.taskId)]
  | _, _ => []

/-- What a run learns from a source; nothing, if it does not ask. -/
def told (d : Dispatcher) (i : Invocation) (source : Source) : Metadata :=
  match d.variant, i.socketPath with
  | .extended, some path => answered (source path i.taskId)
  | _, _ => {}

/-- What the engine has told when the table is known. -/
def learned (d : Dispatcher) (c : Collaborators σ) (i : Invocation) (s : σ) : Metadata :=
  d.told i fun path taskId => (c.fetch path taskId s).1

/-- The state of the collaborators when the table is known. -/
def enriched (d : Dispatcher) (c : Collaborators σ) (i : Invocation) (s : σ) : σ :=
  (d.substitutions c i s).2

theorem accept_eq_ok_iff {d : Dispatcher} {i : Invocation} {stdin : Bytes} {config : MailConfig} :
    d.accept i stdin = .ok config ↔
      i.variant = d.variant ∧ stdin ≠ [] ∧ MailConfig.decode stdin = .ok config := by
  rw [accept]
  by_cases hv : i.variant = d.variant
  · by_cases hs : stdin = []
    · simp [hv, hs]
    · cases MailConfig.decode stdin <;> simp [hv, hs, mapError_ok, mapError_error]
  · simp [hv]

/-- The empty input holds no configuration, so a run may leave it to the decoder. -/
theorem accept_eq_ok_iff_decode {d : Dispatcher} {i : Invocation} {stdin : Bytes}
    {config : MailConfig} :
    d.accept i stdin = .ok config ↔
      i.variant = d.variant ∧ MailConfig.decode stdin = .ok config := by
  rw [accept_eq_ok_iff]
  constructor
  · rintro ⟨hv, _, hd⟩
    exact ⟨hv, hd⟩
  · rintro ⟨hv, hd⟩
    refine ⟨hv, ?_, hd⟩
    rintro rfl
    cases hd

theorem collect_of_noSocket {i : Invocation} (h : i.socketPath = none) (c : Collaborators σ)
    (s : σ) :
    collect c i s = (.forTask i.taskId,
      (c.log (.noSocket (Substitutions.forTask i.taskId).size) s).2) := by
  simp only [collect, h]
  rfl

theorem collect_of_socket {i : Invocation} {path : String} (h : i.socketPath = some path)
    (c : Collaborators σ) (s : σ) :
    collect c i s =
      ((Substitutions.forTask i.taskId).withMetadata (answered (c.fetch path i.taskId s).1),
        match (c.fetch path i.taskId s).1 with
        | .ok _ => (c.fetch path i.taskId s).2
        | .error f => (c.log (.metadataUnavailable f path) (c.fetch path i.taskId s).2).2) := by
  simp only [collect, h]
  rw [bind_apply]
  cases (c.fetch path i.taskId s).1 <;> rfl

theorem substitutions_eq (d : Dispatcher) (c : Collaborators σ) (i : Invocation) (s : σ) :
    d.substitutions c i s = (d.tableFor i (d.learned c i s), d.enriched c i s) := by
  refine Prod.ext ?_ rfl
  rw [substitutions, tableFor, learned, told]
  cases d.variant with
  | basic => rfl
  | extended =>
    show some (collect c i s).1 = _
    cases hp : i.socketPath with
    | none => rw [collect_of_noSocket hp]
    | some path => rw [collect_of_socket hp]

theorem enriched_basic {d : Dispatcher} (h : d.variant = .basic) (c : Collaborators σ)
    (i : Invocation) (s : σ) : d.enriched c i s = s := by
  rw [enriched, substitutions, h]
  rfl

theorem enriched_noSocket {d : Dispatcher} {i : Invocation} (h : d.variant = .extended)
    (hp : i.socketPath = none) (c : Collaborators σ) (s : σ) :
    d.enriched c i s = (c.log (.noSocket (Substitutions.forTask i.taskId).size) s).2 := by
  rw [enriched, substitutions, h]
  show (collect c i s).2 = _
  rw [collect_of_noSocket hp]

theorem enriched_socket {d : Dispatcher} {i : Invocation} {path : String}
    (h : d.variant = .extended) (hp : i.socketPath = some path) (c : Collaborators σ) (s : σ) :
    d.enriched c i s =
      match (c.fetch path i.taskId s).1 with
      | .ok _ => (c.fetch path i.taskId s).2
      | .error f => (c.log (.metadataUnavailable f path) (c.fetch path i.taskId s).2).2 := by
  rw [enriched, substitutions, h]
  show (collect c i s).2 = _
  rw [collect_of_socket hp]

/-- What can be seen of the state when the log cannot. -/
theorem view_enriched {α : Type} {c : Collaborators σ} (view : σ → α)
    (hlog : ∀ e s, view (c.log e s).2 = view s) (d : Dispatcher) (i : Invocation) (s : σ) :
    view (d.enriched c i s) =
      match d.variant, i.socketPath with
      | .extended, some path => view (c.fetch path i.taskId s).2
      | _, _ => view s := by
  cases hv : d.variant with
  | basic => rw [enriched_basic hv]
  | extended =>
    cases hp : i.socketPath with
    | none => rw [enriched_noSocket hv hp, hlog]
    | some path =>
      rw [enriched_socket hv hp]
      cases (c.fetch path i.taskId s).1 with
      | ok _ => rfl
      | error f => exact hlog _ _

theorem run_of_reject {d : Dispatcher} {i : Invocation} {stdin : Bytes} {f : Failure}
    (h : d.accept i stdin = .error f) (c : Collaborators σ) (s : σ) :
    d.run c i stdin s = (.error f, s) := by
  rw [run, h]
  rfl

theorem run_of_accept {d : Dispatcher} {i : Invocation} {stdin : Bytes} {config : MailConfig}
    (h : d.accept i stdin = .ok config) (c : Collaborators σ) (s : σ) :
    d.run c i stdin s =
      (match Request.make i config (d.tableFor i (d.learned c i s)) with
        | .error f => (.error f, d.enriched c i s)
        | .ok request => d.conclude c request (d.enriched c i s)) := by
  simp only [run, h]
  rw [bind_apply, substitutions_eq]
  cases Request.make i config (d.tableFor i (d.learned c i s)) <;> rfl

theorem conclude_of_suppress {r : Request} {reason : Suppression}
    (h : r.decision = .suppress reason) (d : Dispatcher) (c : Collaborators σ) (s : σ) :
    d.conclude c r s = (.ok .suppressed, (c.log (.suppressed r.taskId reason) s).2) := by
  rw [conclude, h]
  rfl

theorem conclude_of_dispatch {r : Request} (h : r.decision = .dispatch) (d : Dispatcher)
    (c : Collaborators σ) (s : σ) :
    d.conclude c r s =
      let mail := r.mail d.mailSender
      let sent := c.send mail (c.log (.dispatching r.taskId mail.recipient mail.subject) s).2
      match sent.1 with
      | .error f => (.error (.dispatch f), sent.2)
      | .ok code => (.ok (.dispatched code), (c.log (.dispatched r.taskId code) sent.2).2) := by
  simp only [conclude, h]
  rw [bind_apply, bind_apply]
  cases (c.send (r.mail d.mailSender) _).1 <;> rfl

theorem run_of_unknown {d : Dispatcher} {i : Invocation} {stdin : Bytes} {config : MailConfig}
    (h : d.accept i stdin = .ok config) (hp : Trigger.ofName? config.trigger = none)
    (c : Collaborators σ) (s : σ) :
    d.run c i stdin s = (.error (.trigger config.trigger), d.enriched c i s) := by
  rw [run_of_accept h, Request.make, hp]

theorem run_of_idle {d : Dispatcher} {i : Invocation} {stdin : Bytes} {config : MailConfig}
    (h : d.accept i stdin = .ok config) (hp : Idle config.trigger i.exitStatus)
    (c : Collaborators σ) (s : σ) :
    ∃ reason, d.run c i stdin s =
      (.ok .suppressed, (c.log (.suppressed i.taskId reason) (d.enriched c i s)).2) := by
  obtain ⟨t, reason, ht, hd⟩ := Trigger.exists_idle_iff.2 hp
  refine ⟨reason, ?_⟩
  rw [run_of_accept h, Request.make, ht]
  exact conclude_of_suppress (by exact hd) d c (d.enriched c i s)

/-- The state in which the mail of a run is sent. -/
def ready (d : Dispatcher) (c : Collaborators σ) (i : Invocation) (config : MailConfig) (s : σ) :
    σ :=
  (c.log (.dispatching i.taskId config.recipient
    (d.mailFor i config (d.learned c i s)).subject) (d.enriched c i s)).2

theorem run_of_due {d : Dispatcher} {i : Invocation} {stdin : Bytes} {config : MailConfig}
    (h : d.accept i stdin = .ok config) (hp : Due config.trigger i.exitStatus)
    (c : Collaborators σ) (s : σ) :
    d.run c i stdin s =
      let sent := c.send (d.mailFor i config (d.learned c i s)) (d.ready c i config s)
      match sent.1 with
      | .error f => (.error (.dispatch f), sent.2)
      | .ok code => (.ok (.dispatched code), (c.log (.dispatched i.taskId code) sent.2).2) := by
  obtain ⟨t, ht, hd⟩ := Trigger.exists_due_iff.2 hp
  rw [run_of_accept h, Request.make, ht]
  exact conclude_of_dispatch (by exact hd) d c (d.enriched c i s)

end Dispatcher
end TaskMail
