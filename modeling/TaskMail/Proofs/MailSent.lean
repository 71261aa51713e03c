import TaskMail.Proofs.Replacement
import TaskMail.Proofs.RunPaths
import TaskMail.Recording

/-!
# TaskMail.Proofs.MailSent

Which mail a run sends, if it sends one.

* `taskValues`, `workflowValues` — the tokens that a run knows, and their values.
* `Calls`, `counted` — collaborators that keep a record of what they are asked to do.
* `Letter` — what is true of the mail of a call and its configuration.

`run_sends` says when a run sends a mail, that it sends no second one, and what the mail is.
-/

namespace TaskMail

/-! ## Tokens and their values -/

def taskValues (taskId : String) (token : String) : Option String :=
  if token = "#ID#" then some taskId else none

def workflowValues (taskId : String) (m : Metadata) (token : String) : Option String :=
  if token = "#ID#" then some taskId
  else if token = "#NAME#" then some m.name
  else if token = "#START_TIME#" then some m.startTime
  else if token = "#END_TIME#" then some m.endTime
  else none

namespace Substitutions

theorem latest_forTask (taskId : String) : latest [.forTask taskId] = taskValues taskId := by
  funext t
  have hl : (insertions [.forTask taskId]).reverse = [("#ID#", taskId)] := rfl
  rw [latest, hl, lookup_pair, taskValues]
  by_cases h : t = ""
  · subst h
    rfl
  · rw [if_neg h]
    rfl

theorem latest_metadata (taskId : String) (m : Metadata) :
    latest [.forTask taskId, .metadata m] = workflowValues taskId m := by
  funext t
  have hl : (insertions [.forTask taskId, .metadata m]).reverse =
      [("#END_TIME#", m.endTime), ("#START_TIME#", m.startTime), ("#NAME#", m.name),
        ("#ID#", taskId)] := rfl
  rw [latest, hl]
  simp only [lookup_pair, List.lookup_nil, workflowValues]
  by_cases h1 : t = "#ID#"
  · subst h1
    rfl
  by_cases h2 : t = "#NAME#"
  · subst h2
    rfl
  by_cases h3 : t = "#START_TIME#"
  · subst h3
    rfl
  by_cases h4 : t = "#END_TIME#"
  · subst h4
    rfl
  · simp [h1, h2, h3, h4]

theorem forTask_replaces (taskId text : String) :
    Replaced (taskValues taskId) text.toList ((forTask taskId).apply text).toList := by
  rw [← latest_forTask, replaced_latest_iff]
  rfl

theorem withMetadata_replaces (taskId : String) (m : Metadata) (text : String) :
    Replaced (workflowValues taskId m) text.toList
      (((forTask taskId).withMetadata m).apply text).toList := by
  rw [← latest_metadata, replaced_latest_iff]
  rfl

end Substitutions

/-! ## Counting -/

structure Fetch where
  socketPath : String
  taskId : String
  answer : Except FetchFailure Metadata

/-- What collaborators have been asked to do, in the order of time. -/
structure Calls where
  fetches : List Fetch
  sends : List Mail

/-- The same collaborators with a record of what they are asked to do. -/
def Collaborators.counted {σ : Type} (c : Collaborators σ) : Collaborators (σ × Calls) where
  fetch := fun path taskId s =>
    let (answer, s') := c.fetch path taskId s.1
    (answer, s', { s.2 with fetches := s.2.fetches ++ [⟨path, taskId, answer⟩] })
  send := fun mail s =>
    let (result, s') := c.send mail s.1
    (result, s', { s.2 with sends := s.2.sends ++ [mail] })
  log := fun e s => ((), (c.log e s.1).2, s.2)

namespace Dispatcher

variable {σ : Type}

open Substitutions (Replaced)

/-- What the engine is asked in a run that is not refused, and its answer. -/
def fetches (d : Dispatcher) (c : Collaborators σ) (i : Invocation) (s : σ) : List Fetch :=
  (d.questions i).map fun q => ⟨q.1, q.2, (c.fetch q.1 q.2 s).1⟩

theorem learned_counted (d : Dispatcher) (c : Collaborators σ) (i : Invocation) (s : σ)
    (calls : Calls) : d.learned c.counted i (s, calls) = d.learned c i s := rfl

theorem enriched_counted (d : Dispatcher) (c : Collaborators σ) (i : Invocation) (s : σ)
    (calls : Calls) :
    d.enriched c.counted i (s, calls) =
      (d.enriched c i s, { calls with fetches := calls.fetches ++ d.fetches c i s }) := by
  rw [fetches, questions]
  cases hv : d.variant with
  | basic =>
    rw [enriched_basic hv, enriched_basic hv]
    simp
  | extended =>
    cases hp : i.socketPath with
    | none =>
      rw [enriched_noSocket hv hp, enriched_noSocket hv hp]
      simp [Collaborators.counted]
    | some path =>
      rw [enriched_socket hv hp, enriched_socket hv hp]
      have hfst : (c.counted.fetch path i.taskId (s, calls)).1 = (c.fetch path i.taskId s).1 := rfl
      rw [hfst]
      cases (c.fetch path i.taskId s).1 <;> rfl

theorem ready_counted (d : Dispatcher) (c : Collaborators σ) (i : Invocation)
    (config : MailConfig) (s : σ) (calls : Calls) :
    d.ready c.counted i config (s, calls) =
      (d.ready c i config s, { calls with fetches := calls.fetches ++ d.fetches c i s }) := by
  rw [ready, ready, enriched_counted, learned_counted]
  rfl

/-! ## Letters -/

/-- What is true of the mail of a call and its configuration, in a run in which the engine has
been asked and has answered as in `fetches`. -/
structure Letter (d : Dispatcher) (i : Invocation) (fetches : List Fetch) (config : MailConfig)
    (mail : Mail) : Prop where
  recipient : mail.recipient = config.recipient
  cc : mail.cc = config.cc
  sender : mail.sender = if d.variant = .extended then d.sender else none
  basic : d.variant = .basic → mail.subject = config.subject ∧ mail.body = config.body
  unasked : d.variant = .extended → i.socketPath = none →
    Replaced (taskValues i.taskId) config.subject.toList mail.subject.toList ∧
      Replaced (taskValues i.taskId) config.body.toList mail.body.toList
  asked : ∀ path, d.variant = .extended → i.socketPath = some path →
    ∃ answer, fetches = [⟨path, i.taskId, answer⟩] ∧
      Replaced (workflowValues i.taskId (answered answer)) config.subject.toList
        mail.subject.toList ∧
      Replaced (workflowValues i.taskId (answered answer)) config.body.toList mail.body.toList
  arguments : mail.arguments = ["-s", mail.subject] ++ mail.cc.elim [] (["-c", ·]) ++
    mail.sender.elim [] (["-a", "From: " ++ ·]) ++ [mail.recipient]

theorem arguments_eq (m : Mail) :
    m.arguments = ["-s", m.subject] ++ m.cc.elim [] (["-c", ·]) ++
      m.sender.elim [] (["-a", "From: " ++ ·]) ++ [m.recipient] := by
  rw [Mail.arguments]
  cases m.cc <;> cases m.sender <;> rfl

theorem mailFor_letter (d : Dispatcher) (c : Collaborators σ) (i : Invocation)
    (config : MailConfig) (s : σ) :
    Letter d i (d.fetches c i s) config (d.mailFor i config (d.learned c i s)) where
  recipient := rfl
  cc := rfl
  sender := by
    rw [mailFor, mailSender]
    cases d.variant <;> rfl
  basic := by
    intro hv
    simp only [mailFor, tableFor, hv]
    exact ⟨rfl, rfl⟩
  unasked := by
    intro hv hp
    simp only [mailFor, tableFor, hv, hp]
    exact ⟨Substitutions.forTask_replaces _ _, Substitutions.forTask_replaces _ _⟩
  asked := by
    intro path hv hp
    refine ⟨(c.fetch path i.taskId s).1, by simp [fetches, questions, hv, hp], ?_⟩
    simp only [mailFor, tableFor, learned, told, hv, hp]
    exact ⟨Substitutions.withMetadata_replaces _ _ _, Substitutions.withMetadata_replaces _ _ _⟩
  arguments := arguments_eq _

/-! ## Runs -/

/-- A run with a record is the run without it. -/
theorem run_counted (d : Dispatcher) (c : Collaborators σ) (i : Invocation) (stdin : Bytes)
    (s : σ) (calls : Calls) :
    ((d.run c.counted i stdin (s, calls)).1, (d.run c.counted i stdin (s, calls)).2.1) =
      d.run c i stdin s := by
  cases ha : d.accept i stdin with
  | error f => rw [run_of_reject ha, run_of_reject ha]
  | ok config =>
    rw [run_of_accept ha, run_of_accept ha, learned_counted, enriched_counted]
    cases Request.make i config (d.tableFor i (d.learned c i s)) with
    | error f => rfl
    | ok r =>
      cases hr : r.decision with
      | suppress reason => simp only [conclude_of_suppress hr]; rfl
      | dispatch =>
        simp only [conclude_of_dispatch hr, Collaborators.counted]
        generalize c.send _ _ = sent
        obtain ⟨result, s'⟩ := sent
        cases result <;> rfl

/-- What a run has asked for when it ends: at most one mail. -/
theorem calls_of_run {d : Dispatcher} {i : Invocation} {stdin : Bytes} {config : MailConfig}
    (h : d.accept i stdin = .ok config) (c : Collaborators σ) (s : σ) :
    (d.run c.counted i stdin (s, ⟨[], []⟩)).2.2 =
      { fetches := d.fetches c i s
        sends := if Due config.trigger i.exitStatus then [d.mailFor i config (d.learned c i s)]
          else [] } := by
  rcases Trigger.unknown_or_idle_or_due config.trigger i.exitStatus with hp | hp | hp
  · rw [run_of_unknown h hp, enriched_counted, if_neg (Trigger.not_due_of_unknown hp _)]
    rfl
  · obtain ⟨reason, hrun⟩ := run_of_idle h hp c.counted (s, ⟨[], []⟩)
    rw [hrun, enriched_counted, if_neg hp.not_due]
    rfl
  · rw [run_of_due h hp, ready_counted, learned_counted, if_pos hp]
    simp only [Collaborators.counted]
    generalize c.send _ _ = sent
    obtain ⟨result, s'⟩ := sent
    cases result <;> rfl

theorem run_sends (d : Dispatcher) (c : Collaborators σ) (i : Invocation) (stdin : Bytes) (s : σ) :
    let counted := d.run c.counted i stdin (s, ⟨[], []⟩)
    let calls := counted.2.2
    (counted.1, counted.2.1) = d.run c i stdin s ∧
    calls.sends.length ≤ 1 ∧
    (calls.sends ≠ [] ↔ i.variant = d.variant ∧ stdin ≠ [] ∧
      ∃ config, MailConfig.decode stdin = .ok config ∧ Due config.trigger i.exitStatus) ∧
    ∀ mail ∈ calls.sends, ∃ fields config, Json.read stdin = .ok (.object fields) ∧
      MailConfig.Says fields config ∧ Letter d i calls.fetches config mail := by
  intro counted calls
  refine ⟨run_counted d c i stdin s _, ?_⟩
  cases ha : d.accept i stdin with
  | error f =>
    have hcalls : calls = ⟨[], []⟩ := by
      show (d.run c.counted i stdin (s, ⟨[], []⟩)).2.2 = _
      rw [run_of_reject ha]
    rw [hcalls]
    refine ⟨Nat.zero_le 1, ⟨fun h => absurd rfl h, ?_⟩, fun mail hm => by cases hm⟩
    rintro ⟨hv, hs, config, hd, _⟩
    rw [accept_eq_ok_iff.2 ⟨hv, hs, hd⟩] at ha
    cases ha
  | ok config =>
    have hcalls : calls = _ := calls_of_run ha c s
    obtain ⟨hv, hs, hd⟩ := accept_eq_ok_iff.1 ha
    rw [hcalls]
    by_cases hp : Due config.trigger i.exitStatus
    · rw [if_pos hp]
      refine ⟨Nat.le_refl 1, ⟨fun _ => ⟨hv, hs, config, hd, hp⟩, fun _ => List.cons_ne_nil _ _⟩, ?_⟩
      intro mail hm
      rw [List.mem_singleton] at hm
      obtain ⟨fields, hread, hsays⟩ := MailConfig.decode_eq_ok_iff.1 hd
      exact ⟨fields, config, hread, hsays, hm ▸ mailFor_letter d c i config s⟩
    · rw [if_neg hp]
      refine ⟨Nat.zero_le 1, ⟨fun h => absurd rfl h, ?_⟩, fun mail hm => by cases hm⟩
      rintro ⟨_, _, config', hd', hp'⟩
      rw [hd] at hd'
      cases hd'
      exact absurd hp' hp

/-- The name of the workflow is a token itself, and so is the recipient. -/
theorem run_sends_nested_name :
    let d : Dispatcher := ⟨.extended, some "evq@example.com"⟩
    let i : Invocation := ⟨.extended, "42", 1, some "/run/evq.sock"⟩
    let c := Recording.collaborators (.exits 3) (some ⟨"#ID#", "01:00", ""⟩)
    let stdin := Utf8.encode
      "\x7b\"to\":\"#ID#\",\"cc\":\"\",\"subject\":\"#NAME##ID#\",\"body\":\"#END_TIME#.\",\"when\":\"ON_ERROR\"\x7d"
    let calls := (d.run c.counted i stdin (Recording.empty, ⟨[], []⟩)).2.2
    let mail : Mail := ⟨"#ID#", none, "#ID#42", ".", some "evq@example.com"⟩
    mail ∈ calls.sends ∧ ∃ fields config, Json.read stdin = .ok (.object fields) ∧
      MailConfig.Says fields config ∧ Letter d i calls.fetches config mail := by
  intro d i c stdin calls mail
  have hm : mail ∈ calls.sends := by decide +kernel
  exact ⟨hm, (run_sends d c i stdin Recording.empty).2.2.2 mail hm⟩

end Dispatcher
end TaskMail
