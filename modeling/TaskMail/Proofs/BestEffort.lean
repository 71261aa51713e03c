import TaskMail.Proofs.MailSent

/-!
# TaskMail.Proofs.BestEffort

What the engine tells, or that it tells nothing, steers no run: it shows in the subject and in the
body of the mail, where they ask for it, and nowhere else.

* `Plain`               — texts that mention no token of a workflow.
* `Recording.answering` — recording collaborators that ask a source.
* `resultOf`, `mailsOf` — how a run ends that is not refused, and the mails it sends.

`run_answering` gives the result and the record of a run, and `run_source_irrelevant` compares the
runs with two sources.
-/

namespace TaskMail

def workflowTokens : List String :=
  ["#NAME#", "#START_TIME#", "#END_TIME#"]

def Plain (text : String) : Prop :=
  ∀ token ∈ workflowTokens, ¬ token.toList <:+: text.toList

theorem workflowValues_congr (taskId : String) (m m' : Metadata) {text t : String}
    (hp : Plain text) (ht : t.toList <:+: text.toList) :
    workflowValues taskId m t = workflowValues taskId m' t := by
  have hn : t ∉ workflowTokens := fun h => hp t h ht
  simp only [workflowTokens, List.mem_cons, List.not_mem_nil, or_false, not_or] at hn
  simp [workflowValues, hn.1, hn.2.1, hn.2.2]

namespace Dispatcher

theorem replacedBy_congr (d : Dispatcher) (i : Invocation) (m m' : Metadata) {text : String}
    (hp : Plain text) : replacedBy (d.tableFor i m) text = replacedBy (d.tableFor i m') text := by
  rw [tableFor, tableFor]
  cases d.variant with
  | basic => rfl
  | extended =>
    cases i.socketPath with
    | none => rfl
    | some path =>
      -- The division is the same, and so is what is put in: no token of the workflow occurs.
      have h := (Substitutions.withMetadata_replaces i.taskId m text).congr
        fun t ht => workflowValues_congr i.taskId m m' hp ht
      exact String.toList_inj.1
        (h.unique (by rfl) (Substitutions.withMetadata_replaces i.taskId m' text))

end Dispatcher

/-! ## Sources -/

/-- Recording collaborators in front of any source. -/
def Recording.answering (t : Transport) (source : Source) : Collaborators Recording :=
  { Recording.collaborators t none with
    fetch := fun path taskId r =>
      (source path taskId, { r with queries := r.queries ++ [(path, taskId)] }) }

/-- The source that answers all queries alike, or fails on all. -/
def Source.fixed (m : Option Metadata) : Source :=
  fun path _ => m.elim (.error (.connect (Utf8.encode path) .refused)) .ok

theorem collaborators_eq_answering (t : Transport) (m : Option Metadata) :
    Recording.collaborators t m = Recording.answering t (.fixed m) := by
  cases m <;> rfl

namespace Dispatcher

theorem learned_answering (d : Dispatcher) (t : Transport) (source : Source) (i : Invocation)
    (r : Recording) : d.learned (Recording.answering t source) i r = d.told i source := rfl

theorem enriched_answering (d : Dispatcher) (t : Transport) (source : Source) (i : Invocation)
    (r : Recording) :
    d.enriched (Recording.answering t source) i r =
      { r with queries := r.queries ++ d.questions i } := by
  have h := view_enriched (c := Recording.answering t source) id (fun _ _ => rfl) d i r
  rw [questions]
  cases hv : d.variant <;> cases hp : i.socketPath <;> rw [hv, hp] at h <;>
    simpa [Recording.answering] using h

/-- How a run ends in which a mail is sent. -/
def sendResult : Transport → Except Failure Outcome
  | .exits code => .ok (.dispatched code)
  | .unavailable => .error (.dispatch (.spawn "recording" .entityNotFound))

/-- How a run ends that is not refused. -/
def resultOf (t : Transport) (i : Invocation) (config : MailConfig) : Except Failure Outcome :=
  if Trigger.ofName? config.trigger = none then .error (.trigger config.trigger)
  else if Due config.trigger i.exitStatus then sendResult t
  else .ok .suppressed

/-- The mails that it adds to a record. -/
def mailsOf (d : Dispatcher) (t : Transport) (i : Invocation) (config : MailConfig)
    (m : Metadata) : List Mail :=
  if Due config.trigger i.exitStatus ∧ t ≠ .unavailable then [d.mailFor i config m] else []

theorem run_answering {d : Dispatcher} {i : Invocation} {stdin : Bytes} {config : MailConfig}
    (h : d.accept i stdin = .ok config) (t : Transport) (source : Source) (r : Recording) :
    d.run (Recording.answering t source) i stdin r =
      (resultOf t i config,
        { sent := r.sent ++ d.mailsOf t i config (d.told i source)
          queries := r.queries ++ d.questions i }) := by
  rcases Trigger.unknown_or_idle_or_due config.trigger i.exitStatus with hp | hp | hp
  · have hnot := Trigger.not_due_of_unknown hp i.exitStatus
    rw [run_of_unknown h hp, enriched_answering, resultOf, if_pos hp, mailsOf,
      if_neg fun hd => hnot hd.1, List.append_nil]
  · have hknown : Trigger.ofName? config.trigger ≠ none := by
      obtain ⟨trigger, _, ht, _⟩ := Trigger.exists_idle_iff.2 hp
      simp [ht]
    obtain ⟨reason, hrun⟩ := run_of_idle h hp (Recording.answering t source) r
    rw [hrun, enriched_answering, resultOf, if_neg hknown, if_neg hp.not_due, mailsOf,
      if_neg fun hd => hp.not_due hd.1, List.append_nil]
    rfl
  · have hknown : Trigger.ofName? config.trigger ≠ none := by
      obtain ⟨trigger, ht, _⟩ := Trigger.exists_due_iff.2 hp
      simp [ht]
    rw [run_of_due h hp, ready, enriched_answering, learned_answering, resultOf, if_neg hknown,
      if_pos hp, mailsOf]
    cases t with
    | exits code =>
      have ht : Transport.exits code ≠ .unavailable := by
        intro h
        cases h
      rw [if_pos ⟨hp, ht⟩]
      rfl
    | unavailable =>
      rw [if_neg fun hd => hd.2 rfl, List.append_nil]
      rfl

/-! ## Two answers -/

/-- What is written on a mail. -/
def envelope (mail : Mail) : String × Option String × Option String :=
  (mail.recipient, mail.cc, mail.sender)

theorem envelopes_mailsOf (d : Dispatcher) (t : Transport) (i : Invocation) (config : MailConfig)
    (m m' : Metadata) :
    (d.mailsOf t i config m).map envelope = (d.mailsOf t i config m').map envelope := by
  rw [mailsOf, mailsOf]
  split <;> rfl

theorem subjects_mailsOf (d : Dispatcher) (t : Transport) (i : Invocation) {config : MailConfig}
    (hp : Plain config.subject) (m m' : Metadata) :
    (d.mailsOf t i config m).map Mail.subject = (d.mailsOf t i config m').map Mail.subject := by
  rw [mailsOf, mailsOf]
  split
  · simp only [List.map_cons, List.map_nil, mailFor, d.replacedBy_congr i m m' hp]
  · rfl

theorem bodies_mailsOf (d : Dispatcher) (t : Transport) (i : Invocation) {config : MailConfig}
    (hp : Plain config.body) (m m' : Metadata) :
    (d.mailsOf t i config m).map Mail.body = (d.mailsOf t i config m').map Mail.body := by
  rw [mailsOf, mailsOf]
  split
  · simp only [List.map_cons, List.map_nil, mailFor, d.replacedBy_congr i m m' hp]
  · rfl

/-- Two sources make no difference but in the subject and in the body, and there only where the
configuration mentions a token of the workflow. -/
theorem run_source_irrelevant (d : Dispatcher) (t : Transport) (i : Invocation) (stdin : Bytes)
    (r : Recording) (source source' : Source) :
    let a := d.run (Recording.answering t source) i stdin r
    let b := d.run (Recording.answering t source') i stdin r
    a.1 = b.1 ∧ a.2.queries = b.2.queries ∧
    a.2.sent.map envelope = b.2.sent.map envelope ∧
    (∀ config, MailConfig.decode stdin = .ok config →
      (Plain config.subject → a.2.sent.map Mail.subject = b.2.sent.map Mail.subject) ∧
      (Plain config.body → a.2.sent.map Mail.body = b.2.sent.map Mail.body)) ∧
    ∀ failure : String → String → FetchFailure,
      d.run (Recording.answering t fun path taskId => .error (failure path taskId)) i stdin r =
        d.run (Recording.answering t fun _ _ => .ok ⟨"", "", ""⟩) i stdin r := by
  intro a b
  cases ha : d.accept i stdin with
  | error f =>
    have hrun : ∀ source, d.run (Recording.answering t source) i stdin r = (.error f, r) :=
      fun source => run_of_reject ha _ r
    have hab : a = b := (hrun source).trans (hrun source').symm
    rw [hab]
    exact ⟨rfl, rfl, rfl, fun _ _ => ⟨fun _ => rfl, fun _ => rfl⟩,
      fun _ => (hrun _).trans (hrun _).symm⟩
  | ok config =>
    have hrun := fun source => run_answering ha t source r
    rw [show a = _ from hrun source, show b = _ from hrun source']
    refine ⟨rfl, rfl, ?_, ?_, fun failure => ?_⟩
    · rw [List.map_append, List.map_append, d.envelopes_mailsOf t i config _ (d.told i source')]
    · intro config' hd
      obtain ⟨_, _, hd'⟩ := accept_eq_ok_iff.1 ha
      rw [hd] at hd'
      cases hd'
      refine ⟨fun hp => ?_, fun hp => ?_⟩
      · rw [List.map_append, List.map_append, d.subjects_mailsOf t i hp _ (d.told i source')]
      · rw [List.map_append, List.map_append, d.bodies_mailsOf t i hp _ (d.told i source')]
    · rw [hrun, hrun]
      -- Of a source, nothing but what it tells is in the outcome.
      have htold : d.told i (fun path taskId => .error (failure path taskId)) =
          d.told i fun _ _ => .ok ⟨"", "", ""⟩ := by
        rw [told, told]
        cases d.variant <;> cases i.socketPath <;> rfl
      rw [htold]

/-- A task whose name is a token, and two sources that disagree about all that is asked. -/
theorem run_source_irrelevant_token_id :
    let d : Dispatcher := ⟨.extended, none⟩
    let i : Invocation := ⟨.extended, "#NAME#", 0, some "/run/evq.sock"⟩
    let config : MailConfig := ⟨"a@example.com", none, "done: #ID#", "#NAME#", "ON_BOTH"⟩
    let stdin := Utf8.encode
      "\x7b\"to\":\"a@example.com\",\"subject\":\"done: #ID#\",\"body\":\"#NAME#\",\"when\":\"ON_BOTH\"\x7d"
    let source : Source := fun _ _ => .ok ⟨"#ID#", "", ""⟩
    let source' : Source := fun _ _ => .error (.io .connectionReset)
    let sent := fun source =>
      (d.run (Recording.answering (.exits 0) source) i stdin Recording.empty).2.sent
    MailConfig.decode stdin = .ok config ∧ Plain config.subject ∧
      (sent source).map Mail.subject = (sent source').map Mail.subject ∧
      (sent source).map Mail.body ≠ (sent source').map Mail.body := by
  intro d i config stdin source source' sent
  have hd : MailConfig.decode stdin = .ok config := by rfl
  have hp : Plain config.subject := by
    unfold Plain
    decide
  have h := run_source_irrelevant d (.exits 0) i stdin Recording.empty source source'
  exact ⟨hd, hp, (h.2.2.2.1 config hd).1 hp, by decide +kernel⟩

end Dispatcher
end TaskMail
