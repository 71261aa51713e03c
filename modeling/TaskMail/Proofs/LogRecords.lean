import TaskMail.Proofs.ExitCode

/-!
# TaskMail.Proofs.LogRecords

What a run tells in its log when no filter is set.

* `records`    — what the log keeps of a session.
* `unanswered` — the warnings about questions that nobody has answered.
* `Says`       — a line of the log has a text under a key.
* `Closing`    — the line at the end of a log, for a result and an exit code.
* `Account`    — a session that has told of a run: warnings, and one record behind them.

Each operation adds its own records (`records_log`, `records_fetch`, `records_send`). A run is told
of whichever way it goes (`account_of_refusal`, `account_of_unknown`, `account_of_idle`,
`account_of_unsent`, `account_of_sent`), and `finish_log` reads the account in the log.
-/

namespace TaskMail

open Log (Record Event)

theorem Log.Filter.keeps_standard (r : Record) :
    standard.keeps r = decide (r.level ≠ .debug) := by
  have hd : standard.deciding? r.target = some ⟨"", 3⟩ := by
    simp [deciding?, standard, Directive.applies]
  rw [keeps, hd]
  cases r.level <;> rfl

/-! ## Sessions -/

namespace Session

/-- What the log keeps of a session when nothing is said about it. -/
def records (s : Session) : List Record :=
  (s.events.map Event.record).filter Log.Filter.standard.keeps

theorem records_log (e : Event) (s : Session) :
    (log e s).2.records = s.records ++ if e.record.level = .debug then [] else [e.record] := by
  show ((s.events ++ [e]).map Event.record).filter Log.Filter.standard.keeps = _
  rw [List.map_append, List.filter_append]
  by_cases h : e.record.level = .debug <;> simp [records, Log.Filter.keeps_standard, h]

theorem records_log_of_debug {e : Event} (h : e.record.level = .debug) (s : Session) :
    (log e s).2.records = s.records := by
  rw [records_log, if_pos h, List.append_nil]

theorem records_log_of_told {e : Event} (h : e.record.level ≠ .debug) (s : Session) :
    (log e s).2.records = s.records ++ [e.record] := by
  rw [records_log, if_neg h]

end Session

namespace Machine

open Session (records_log_of_debug records_log_of_told)

theorem records_fetch (m : Machine) (path : Bytes) (taskId : String) (s : Session) :
    (m.fetch path taskId s).2.records = s.records := by
  cases h : m.connect path with
  | error e =>
    simp only [fetch, h]
    rfl
  | ok peer =>
    cases peer with
    | resets =>
      simp only [fetch, h]
      exact records_log_of_debug rfl _
    | responds response =>
      simp only [fetch, h]
      exact (records_log_of_debug rfl _).trans (records_log_of_debug rfl _)

/-- Of the mail program the log keeps at most that it has not read its whole input. -/
theorem records_send (m : Machine) (e : Environment) (program : String) (mail : Mail)
    (s : Session) :
    ∃ cut, (∀ w ∈ cut, w = Event.inputClosed.record) ∧
      (m.send e program mail s).2.records = s.records ++ cut := by
  have hspawn := records_log_of_debug (e := .spawning program mail.arguments) rfl s
  cases h : m.start e program mail.arguments with
  | error error =>
    refine ⟨[], List.forall_mem_nil _, ?_⟩
    simp only [send, h]
    rw [List.append_nil]
    exact hspawn
  | ok b =>
    simp only [send, h]
    rw [bind_apply, bind_apply]
    split
    · refine ⟨[Event.inputClosed.record], fun w hw => List.mem_singleton.1 hw, ?_⟩
      rw [← hspawn]
      exact (records_log_of_debug rfl _).trans (records_log_of_told (by decide) _)
    · refine ⟨[], List.forall_mem_nil _, ?_⟩
      rw [← hspawn, List.append_nil]
      exact records_log_of_debug rfl _

/-- The warnings about questions, by socket path and task, to which there is no answer. -/
def unanswered (m : Machine) (questions : List (String × String)) : List Record :=
  questions.filterMap fun q =>
    match m.answer (Utf8.encode q.1) with
    | .error failure => some (Event.metadataUnavailable failure q.1).record
    | .ok _ => none

theorem mem_unanswered_iff {m : Machine} {questions : List (String × String)} {w : Record} :
    w ∈ m.unanswered questions ↔ ∃ q ∈ questions, ∃ failure,
      m.answer (Utf8.encode q.1) = .error failure ∧
        w = (Event.metadataUnavailable failure q.1).record := by
  rw [unanswered, List.mem_filterMap]
  refine exists_congr fun q => and_congr_right fun _ => ?_
  cases h : m.answer (Utf8.encode q.1) with
  | ok _ => simp
  | error failure => simp [eq_comm]

end Machine

namespace Dispatcher

theorem records_enriched (d : Dispatcher) (m : Machine) (e : Environment) (program : String)
    (i : Invocation) (s : Session) :
    (d.enriched (m.collaborators e program) i s).records =
      s.records ++ m.unanswered (d.questions i) := by
  cases hv : d.variant with
  | basic =>
    rw [enriched_basic hv]
    simp [questions, hv, Machine.unanswered]
  | extended =>
    cases hp : i.socketPath with
    | none =>
      rw [enriched_noSocket hv hp]
      refine (Session.records_log_of_debug rfl s).trans ?_
      simp [questions, hv, hp, Machine.unanswered]
    | some path =>
      rw [enriched_socket hv hp]
      simp only [Machine.collaborators, Machine.fetch_fst, questions, hv, hp]
      cases ha : m.answer (Utf8.encode path) with
      | ok _ => simp [Machine.records_fetch, Machine.unanswered, ha]
      | error failure =>
        refine (Session.records_log_of_told (by simp [Event.record]) _).trans ?_
        simp [Machine.records_fetch, Machine.unanswered, ha]

end Dispatcher

/-! ## Lines -/

namespace Log

/-- What a line in JSON has under a key. -/
def Line.member? (line : Line) (key : String) : Option Json.Value :=
  match line with
  | .json (.object members) => members.lookup key
  | _ => none

def Line.Says (line : Line) (key text : String) : Prop :=
  line.member? key = some (.string text)

theorem Line.says_level_iff (r : Record) (text : String) :
    (Line.json r.value).Says "level" text ↔ r.level.name = text := by
  simp [Says, member?, Record.value]

theorem Line.says_message_iff (r : Record) (text : String) :
    (Line.json r.value).Says "message" text ↔ r.message = text := by
  simp [Says, member?, Record.value, List.lookup_cons]

end Log

/-- The line at the end of the log of a run with this exit code. -/
inductive Closing (code : Int) : Except Failure Outcome → Log.Line → Prop where
  | failed (failure : Failure) :
      Closing code (.error failure) (.json (.object
        [("level", .string "ERROR"), ("target", .string "evq_notify_email"),
          ("message", .string failure.message), ("exit_code", .number (.integer code))]))
  | suppressed (taskId reason : String) :
      Closing code (.ok .suppressed) (.json (.object
        [("level", .string "INFO"), ("target", .string "evq_notify_core::app::dispatcher"),
          ("message", .string "notification suppressed"), ("task_id", .string taskId),
          ("reason", .string reason)]))
  | dispatched (taskId : String) :
      Closing code (.ok (.dispatched code)) (.json (.object
        [("level", .string "INFO"), ("target", .string "evq_notify_core::app::dispatcher"),
          ("message", .string "notification dispatched"), ("task_id", .string taskId),
          ("exit_code", .number (.integer code))]))

namespace Closing

open Log.Line (Says member?)

variable {code : Int} {result : Except Failure Outcome} {last : Log.Line}

theorem error_iff (h : Closing code result last) :
    last.Says "level" "ERROR" ↔ ∃ failure, result = .error failure := by
  cases h <;> simp [Says, member?]

theorem suppressed_iff (h : Closing code result last) :
    last.Says "level" "INFO" ∧ last.Says "message" "notification suppressed" ↔
      result = .ok .suppressed := by
  cases h <;> simp [Says, member?, List.lookup_cons]

theorem dispatched_iff (h : Closing code result last) :
    last.Says "level" "INFO" ∧ last.Says "message" "notification dispatched" ↔
      ∃ status, result = .ok (.dispatched status) := by
  cases h <;> simp [Says, member?, List.lookup_cons]

end Closing

/-! ## Accounts -/

namespace Plugin

def variantWarnings (p : Plugin) : List Record :=
  (Settings.unknownVariant? p.environment.text?).toList.map fun name =>
    (Event.unknownVariant name).record

theorem records_announce (p : Plugin) (s : Session) :
    (p.announce s).2.records = s.records ++ p.variantWarnings := by
  rw [announce, variantWarnings]
  cases Settings.unknownVariant? p.environment.text? with
  | none =>
    refine (Session.records_log_of_debug rfl s).trans ?_
    simp
  | some name =>
    refine (Session.records_log_of_debug rfl _).trans ?_
    exact Session.records_log_of_told (by simp [Event.record]) s

/-- What a run leaves behind: the questions that it has asked, the deliveries, and the records
that tell of it. -/
structure Account (p : Plugin) (questions : List (String × String)) (last : Record) : Prop where
  asked : p.finish.session.asked = questions.map fun q => (Utf8.encode q.1, q.2)
  records : ∃ cut, (∀ w ∈ cut, w = Event.inputClosed.record) ∧
    p.finish.session.records =
      p.variantWarnings ++ p.machine.unanswered questions ++ cut ++ [last]
  closing : Closing p.finish.exitCode (p.run Session.empty).1 (.json last.value)
  delivered : p.finish.session.deliveries ≠ [] ↔
    ∃ code, (p.run Session.empty).1 = .ok (.dispatched code)

theorem records_of_failure {p : Plugin} {failure : Failure} {s : Session}
    (h : p.run Session.empty = (.error failure, s)) :
    p.finish.session.records = s.records ++ [(Event.failed failure).record] := by
  have hend : (p.runToEnd Session.empty).2 = (Session.log (.failed failure) s).2 := by
    simp only [runToEnd]
    rw [bind_apply, h]
    rfl
  show (p.runToEnd Session.empty).2.records = _
  rw [hend]
  exact Session.records_log_of_told (by simp [Event.record]) s

theorem records_of_outcome {p : Plugin} {outcome : Outcome} {s : Session}
    (h : p.run Session.empty = (.ok outcome, s)) :
    p.finish.session.records = s.records := by
  have hend : (p.runToEnd Session.empty).2 = s := by
    simp only [runToEnd]
    rw [bind_apply, h]
    rfl
  show (p.runToEnd Session.empty).2.records = _
  rw [hend]

section Run

variable {p : Plugin} {questions : List (String × String)} {queries : List String}
  {deliveries : List Delivery} {s : Session} (cut : List Record)

/-- A run that fails has told of everything but of its failure. -/
theorem account_of_failure {failure : Failure} (hrun : p.run Session.empty = (.error failure, s))
    (heff : s.effects = (questions.map fun q => (Utf8.encode q.1, q.2), queries, []))
    (hcut : ∀ w ∈ cut, w = Event.inputClosed.record)
    (hrecords : s.records = p.variantWarnings ++ p.machine.unanswered questions ++ cut) :
    p.Account questions (Event.failed failure).record := by
  obtain ⟨hexit, hend⟩ := finish_of_run hrun
  rw [heff] at hend
  have hdeliveries : p.finish.session.deliveries = [] := congrArg (fun e => e.2.2) hend
  refine ⟨congrArg Prod.fst hend, ⟨cut, hcut, ?_⟩, ?_, ?_⟩
  · rw [records_of_failure hrun, hrecords]
  · rw [hexit, hrun]
    exact .failed failure
  · rw [hdeliveries, hrun]
    simp

theorem account_of_outcome {outcome : Outcome} {last : Record}
    (hrun : p.run Session.empty = (.ok outcome, s))
    (heff : s.effects = (questions.map fun q => (Utf8.encode q.1, q.2), queries, deliveries))
    (hsent : deliveries ≠ [] ↔ outcome ≠ .suppressed)
    (hcut : ∀ w ∈ cut, w = Event.inputClosed.record)
    (hrecords : s.records = p.variantWarnings ++ p.machine.unanswered questions ++ cut ++ [last])
    (hlast : Closing outcome.exitCode (.ok outcome) (.json last.value)) : p.Account questions last := by
  obtain ⟨hexit, hend⟩ := finish_of_run hrun
  rw [heff] at hend
  have hdeliveries : p.finish.session.deliveries = deliveries := congrArg (fun e => e.2.2) hend
  refine ⟨congrArg Prod.fst hend, ⟨cut, hcut, ?_⟩, ?_, ?_⟩
  · rw [records_of_outcome hrun, hrecords]
  · rw [hexit, hrun]
    exact hlast
  · rw [hdeliveries, hrun, hsent]
    cases outcome <;> simp

end Run

section Admitted

variable {p : Plugin} {i : Invocation} {config : MailConfig}

theorem records_enriched (p : Plugin) (i : Invocation) :
    (p.settings.dispatcher.enriched p.collaborators i (p.announce Session.empty).2).records =
      p.variantWarnings ++ p.machine.unanswered (p.settings.dispatcher.questions i) := by
  rw [collaborators, Dispatcher.records_enriched, records_announce]
  rfl

/-- That a mail is about to be sent is not kept. -/
theorem records_ready (p : Plugin) (i : Invocation) (config : MailConfig) :
    (p.ready i config).records =
      p.variantWarnings ++ p.machine.unanswered (p.settings.dispatcher.questions i) :=
  (Session.records_log_of_debug rfl _).trans (p.records_enriched i)

theorem account_of_refusal {f : Failure} (h : p.admission = .error f) :
    p.Account [] (Event.failed f).record := by
  refine account_of_failure [] (run_of_refusal h Session.empty)
    (p.effects_announce Session.empty) (List.forall_mem_nil _) ?_
  rw [records_announce, List.append_nil]
  exact (List.append_nil _).symm

theorem account_of_unknown (h : p.admission = .ok (i, config))
    (hp : Trigger.ofName? config.trigger = none) :
    p.Account (p.settings.dispatcher.questions i)
      (Event.failed (.trigger config.trigger)).record := by
  obtain ⟨stdin, ha, hrun⟩ := run_of_admission h
  refine account_of_failure [] ((hrun _).trans (Dispatcher.run_of_unknown ha hp _ _))
    (p.effects_enriched i) (List.forall_mem_nil _) ?_
  rw [records_enriched, List.append_nil]

theorem account_of_idle (h : p.admission = .ok (i, config))
    (hp : Idle config.trigger i.exitStatus) :
    ∃ reason, p.Account (p.settings.dispatcher.questions i)
      (Event.suppressed i.taskId reason).record := by
  obtain ⟨stdin, ha, hrun⟩ := run_of_admission h
  obtain ⟨reason, hidle⟩ :=
    Dispatcher.run_of_idle ha hp p.collaborators (p.announce Session.empty).2
  refine ⟨reason, account_of_outcome [] ((hrun _).trans hidle) (p.effects_enriched i)
    (by simp) (List.forall_mem_nil _) ?_ (.suppressed _ _)⟩
  rw [List.append_nil, ← records_enriched]
  exact Session.records_log_of_told (by simp [Event.record]) _

theorem account_of_unsent {e : OsError} (h : p.admission = .ok (i, config))
    (hp : Due config.trigger i.exitStatus) (hs : p.started (p.mail i config) = .error e) :
    p.Account (p.settings.dispatcher.questions i)
      (Event.failed (.dispatch (.spawn p.settings.mailProgram e))).record := by
  have hrun := run_of_due h hp
  obtain ⟨hfst, heff⟩ := Machine.send_of_error hs (p.ready i config)
  obtain ⟨cut, hcut, hrecords⟩ := p.machine.records_send p.environment p.settings.mailProgram
    (p.mail i config) (p.ready i config)
  simp only [hfst] at hrun
  rw [effects_ready] at heff
  rw [records_ready] at hrecords
  exact account_of_failure cut hrun heff hcut hrecords

theorem account_of_sent {b : Behaviour} (h : p.admission = .ok (i, config))
    (hp : Due config.trigger i.exitStatus) (hs : p.started (p.mail i config) = .ok b) :
    p.Account (p.settings.dispatcher.questions i) (Event.dispatched i.taskId b.code).record := by
  have hrun := run_of_due h hp
  obtain ⟨hfst, heff⟩ := Machine.send_of_ok hs (p.ready i config)
  obtain ⟨cut, hcut, hrecords⟩ := p.machine.records_send p.environment p.settings.mailProgram
    (p.mail i config) (p.ready i config)
  have hready := p.effects_ready i config
  simp only [Session.effects, exchange, Prod.mk.injEq] at hready
  obtain ⟨h1, h2, h3⟩ := hready
  simp only [hfst] at hrun
  rw [h1, h3] at heff
  rw [records_ready] at hrecords
  refine account_of_outcome cut hrun heff (by simp) hcut ?_ (.dispatched _)
  rw [← hrecords]
  exact Session.records_log_of_told (by simp [Event.record]) _

end Admitted

theorem exists_account (p : Plugin) : ∃ questions last, p.Account questions last := by
  cases ha : p.admission with
  | error f => exact ⟨_, _, account_of_refusal ha⟩
  | ok call =>
    obtain ⟨i, config⟩ := call
    rcases Trigger.unknown_or_idle_or_due config.trigger i.exitStatus with hp | hp | hp
    · exact ⟨_, _, account_of_unknown ha hp⟩
    · obtain ⟨reason, haccount⟩ := account_of_idle ha hp
      exact ⟨_, _, haccount⟩
    · cases hs : p.started (p.mail i config) with
      | error e => exact ⟨_, _, account_of_unsent ha hp hs⟩
      | ok b => exact ⟨_, _, account_of_sent ha hp hs⟩

section Warnings

variable {p : Plugin} {questions : List (String × String)} {cut : List Record}

theorem level_of_warning (hcut : ∀ w ∈ cut, w = Event.inputClosed.record) {w : Record}
    (hw : w ∈ p.variantWarnings ++ p.machine.unanswered questions ++ cut) : w.level = .warn := by
  rw [List.mem_append, List.mem_append] at hw
  rcases hw with (hw | hw) | hw
  · obtain ⟨name, _, rfl⟩ := List.mem_map.1 hw
    rfl
  · obtain ⟨_, _, _, _, rfl⟩ := Machine.mem_unanswered_iff.1 hw
    rfl
  · rw [hcut w hw]
    rfl

theorem unknownVariant_message_ne (name : String) :
    (Event.unknownVariant name).record.message ≠
      "workflow metadata unavailable, substituting empty values" := by
  intro h
  -- The texts differ in their first letters.
  have hfirst : (Event.unknownVariant name).record.message.toList.head? = some 'u' := by
    show (("unknown plugin variant " ++ Text.quote name) ++ _ : String).toList.head? = _
    rw [String.append_assoc, String.toList_append, List.head?_append]
    rfl
  rw [h] at hfirst
  exact absurd hfirst (by decide)

/-- Of all warnings, those that tell of missing metadata are about questions. -/
theorem exists_unavailable_iff (hcut : ∀ w ∈ cut, w = Event.inputClosed.record) :
    (∃ w ∈ p.variantWarnings ++ p.machine.unanswered questions ++ cut,
      w.message = "workflow metadata unavailable, substituting empty values") ↔
      ∃ q ∈ questions, ∃ failure, p.machine.answer (Utf8.encode q.1) = .error failure := by
  constructor
  · rintro ⟨w, hw, hmessage⟩
    rw [List.mem_append, List.mem_append] at hw
    rcases hw with (hw | hw) | hw
    · obtain ⟨name, _, rfl⟩ := List.mem_map.1 hw
      exact absurd hmessage (unknownVariant_message_ne name)
    · obtain ⟨q, hq, failure, hanswer, _⟩ := Machine.mem_unanswered_iff.1 hw
      exact ⟨q, hq, failure, hanswer⟩
    · rw [hcut w hw] at hmessage
      exact absurd hmessage (by decide)
  · rintro ⟨q, hq, failure, hanswer⟩
    have hw := Machine.mem_unanswered_iff.2 ⟨q, hq, failure, hanswer, rfl⟩
    exact ⟨_, List.mem_append_left _ (List.mem_append_right _ hw), rfl⟩

end Warnings

/-! ## Logs -/

section Json

variable {p : Plugin}

theorem logFormat_of_json (h : p.logFormat.1 = .json) : p.logFormat = (.json, none) := by
  rw [logFormat] at h ⊢
  cases hname : p.environment.text? formatVariable with
  | none =>
    rw [hname] at h
    cases h
  | some name =>
    simp only [hname, Log.Format.read] at h ⊢
    cases hf : Log.Format.ofName? name with
    | none =>
      rw [hf] at h
      cases h
    | some f =>
      rw [hf] at h
      exact congrArg (·, none) h

theorem log_of_json (hfilter : p.environment.text? filterVariable = none)
    (hformat : p.logFormat.1 = .json) :
    p.finish.log = p.finish.session.records.map fun r => .json r.value := by
  have hkeeps : p.logFilter = .standard := by
    rw [logFilter, hfilter]
    rfl
  show p.logLines p.finish.session.events = _
  simp only [logLines, logFormat_of_json hformat, hkeeps, Log.lines]
  exact List.map_eq_flatMap.symm

end Json

end Plugin

namespace Start

end Start
end TaskMail
