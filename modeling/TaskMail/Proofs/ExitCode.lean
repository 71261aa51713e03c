import TaskMail.Proofs.FileLoading
import TaskMail.Proofs.SessionEffects
import TaskMail.Proofs.Stages

/-!
# TaskMail.Proofs.ExitCode

How the plugin ends, and what it has done until then.

* `Admits` — the call and the configuration of a run that passes every stage.
* `Ending` — the exit code of a run and the mails that were delivered in it.
* `Asks`   — the socket and the task that the engine is asked about.

`finish_ends` ties them to `Start.finish`: a run that does not break off has the one ending that
`Ending` allows, and it asks the engine just when `Asks` says so.
-/

namespace TaskMail
namespace Plugin

structure Admits (p : Plugin) (i : Invocation) (config : MailConfig) : Prop where
  passes : ∀ stage, p.Passes stage
  call : p.Makes i
  config : p.Reads config

def mail (p : Plugin) (i : Invocation) (config : MailConfig) : Mail :=
  p.settings.dispatcher.mailFor i config (p.settings.dispatcher.heard p.machine i)

/-- The mail program, or why it cannot be started for a mail. -/
def started (p : Plugin) (mail : Mail) : Except OsError Behaviour :=
  p.machine.start p.environment p.settings.mailProgram mail.arguments

/-- The exit code of a run, and the mails that the mail program has been run for. -/
inductive Ending (p : Plugin) : Int → List Delivery → Prop where
  | refused {stage : Stage} : p.RefusedAt stage → Ending p stage.exitCode []
  | suppressed {i : Invocation} {config : MailConfig} :
      p.Admits i config → Idle config.trigger i.exitStatus → Ending p 0 []
  | unsent {i : Invocation} {config : MailConfig} {e : OsError} :
      p.Admits i config → Due config.trigger i.exitStatus →
      p.started (p.mail i config) = .error e → Ending p 4 []
  | exited {i : Invocation} {config : MailConfig} {b : Behaviour} :
      p.Admits i config → Due config.trigger i.exitStatus →
      p.started (p.mail i config) = .ok b → b.signal = none →
      Ending p (b.exitCode % 256) [Machine.delivery b (p.mail i config)]
  | killed {i : Invocation} {config : MailConfig} {b : Behaviour} {signal : Signal} :
      p.Admits i config → Due config.trigger i.exitStatus →
      p.started (p.mail i config) = .ok b → b.signal = some signal →
      Ending p (128 + signal.number) [Machine.delivery b (p.mail i config)]

/-- The engine is asked behind the socket path of the command line, unless it is empty, before
the policy is looked at. -/
structure Asks (p : Plugin) (path taskId : String) : Prop where
  passes : ∀ stage ∈ Stage.policy.before, p.Passes stage
  extended : p.settings.variant = .extended
  given : ∃ status, Arguments.read p.words = .ok ⟨taskId, status, some path⟩
  nonempty : path ≠ ""

/-! ## Runs -/

theorem effects_announce (p : Plugin) (s : Session) : (p.announce s).2.effects = s.effects := by
  rw [announce]
  cases Settings.unknownVariant? p.environment.text? <;> rfl

theorem run_of_refusal {p : Plugin} {f : Failure} (h : p.admission = .error f) (s : Session) :
    p.run s = (.error f, (p.announce s).2) := by
  simp only [run]
  rw [bind_apply]
  rw [admission] at h
  cases ha : p.accept with
  | error f' =>
    rw [ha] at h
    cases h
    rfl
  | ok call =>
    obtain ⟨i, stdin⟩ := call
    rw [ha] at h
    cases hd : p.settings.dispatcher.accept i stdin with
    | error f' =>
      simp only [hd, Except.map] at h
      cases h
      exact Dispatcher.run_of_reject hd _ _
    | ok config =>
      simp only [hd, Except.map] at h
      cases h

theorem run_of_admission {p : Plugin} {i : Invocation} {config : MailConfig}
    (h : p.admission = .ok (i, config)) :
    ∃ stdin, p.settings.dispatcher.accept i stdin = .ok config ∧
      ∀ s, p.run s = p.settings.dispatcher.run p.collaborators i stdin (p.announce s).2 := by
  rw [admission] at h
  cases ha : p.accept with
  | error f =>
    rw [ha] at h
    cases h
  | ok call =>
    obtain ⟨i', stdin⟩ := call
    rw [ha] at h
    cases hd : p.settings.dispatcher.accept i' stdin with
    | error f =>
      simp only [hd, Except.map] at h
      cases h
    | ok config' =>
      simp only [hd, Except.map] at h
      cases h
      refine ⟨stdin, hd, fun s => ?_⟩
      simp only [run]
      rw [bind_apply, ha]

def exitCodeOf : Except Failure Outcome → Int
  | .ok outcome => outcome.exitCode
  | .error failure => failure.exitCode

/-- Behind a run there is nothing left to do but to log its failure. -/
theorem finish_of_run {p : Plugin} {result : Except Failure Outcome} {s : Session}
    (h : p.run Session.empty = (result, s)) :
    p.finish.exitCode = exitCodeOf result ∧ p.finish.session.effects = s.effects := by
  have hend : (p.runToEnd Session.empty).1 = exitCodeOf result ∧
      (p.runToEnd Session.empty).2.effects = s.effects := by
    simp only [runToEnd]
    rw [bind_apply, h]
    cases result with
    | ok outcome => exact ⟨rfl, rfl⟩
    | error failure => exact ⟨rfl, rfl⟩
  exact hend

/-! ## Effects -/

/-- What the engine is asked for a call, and the mails that are delivered. -/
def exchange (p : Plugin) (i : Invocation) (deliveries : List Delivery) :
    List (Bytes × String) × List String × List Delivery :=
  let asked := (p.settings.dispatcher.questions i).map fun q => (Utf8.encode q.1, q.2)
  (asked, (asked.filter fun q => p.machine.reaches q.1).map fun q => workflowQuery q.2, deliveries)

theorem effects_enriched (p : Plugin) (i : Invocation) :
    (p.settings.dispatcher.enriched p.collaborators i (p.announce Session.empty).2).effects =
      p.exchange i [] := by
  have ha := p.effects_announce Session.empty
  simp only [Session.effects, Prod.mk.injEq] at ha
  obtain ⟨h1, h2, h3⟩ := ha
  rw [collaborators, Dispatcher.effects_enriched, h1, h2, h3]
  rfl

theorem finish_of_refusal {p : Plugin} {f : Failure} (h : p.admission = .error f) :
    p.finish.exitCode = f.exitCode ∧ p.finish.session.effects = ([], [], []) := by
  have hend := finish_of_run (run_of_refusal h Session.empty)
  rw [effects_announce] at hend
  exact hend

theorem finish_of_unknown {p : Plugin} {i : Invocation} {config : MailConfig}
    (h : p.admission = .ok (i, config)) (hp : Trigger.ofName? config.trigger = none) :
    p.finish.exitCode = 6 ∧ p.finish.session.effects = p.exchange i [] := by
  obtain ⟨stdin, ha, hrun⟩ := run_of_admission h
  have hend := finish_of_run ((hrun _).trans (Dispatcher.run_of_unknown ha hp _ _))
  rw [effects_enriched] at hend
  exact hend

theorem finish_of_idle {p : Plugin} {i : Invocation} {config : MailConfig}
    (h : p.admission = .ok (i, config)) (hp : Idle config.trigger i.exitStatus) :
    p.finish.exitCode = 0 ∧ p.finish.session.effects = p.exchange i [] := by
  obtain ⟨stdin, ha, hrun⟩ := run_of_admission h
  obtain ⟨reason, hidle⟩ :=
    Dispatcher.run_of_idle ha hp p.collaborators (p.announce Session.empty).2
  have hend := finish_of_run ((hrun _).trans hidle)
  rw [← p.effects_enriched i]
  exact hend

/-- The session in which the mail of a run is sent. -/
def ready (p : Plugin) (i : Invocation) (config : MailConfig) : Session :=
  p.settings.dispatcher.ready p.collaborators i config (p.announce Session.empty).2

theorem effects_ready (p : Plugin) (i : Invocation) (config : MailConfig) :
    (p.ready i config).effects = p.exchange i [] :=
  p.effects_enriched i

theorem run_of_due {p : Plugin} {i : Invocation} {config : MailConfig}
    (h : p.admission = .ok (i, config)) (hp : Due config.trigger i.exitStatus) :
    p.run Session.empty =
      let sent := p.machine.send p.environment p.settings.mailProgram (p.mail i config)
        (p.ready i config)
      match sent.1 with
      | .error f => (.error (.dispatch f), sent.2)
      | .ok code =>
        (.ok (.dispatched code), (Session.log (.dispatched i.taskId code) sent.2).2) := by
  obtain ⟨stdin, ha, hrun⟩ := run_of_admission h
  rw [hrun, Dispatcher.run_of_due ha hp]
  have hl := p.settings.dispatcher.learned_session p.machine p.environment p.settings.mailProgram
    i (p.announce Session.empty).2
  simp only [collaborators]
  rw [hl]
  rfl

theorem finish_of_unsent {p : Plugin} {i : Invocation} {config : MailConfig} {e : OsError}
    (h : p.admission = .ok (i, config)) (hp : Due config.trigger i.exitStatus)
    (hs : p.started (p.mail i config) = .error e) :
    p.finish.exitCode = 4 ∧ p.finish.session.effects = p.exchange i [] := by
  have hrun := run_of_due h hp
  obtain ⟨hfst, hsnd⟩ := Machine.send_of_error hs (p.ready i config)
  simp only [hfst] at hrun
  have hend := finish_of_run hrun
  rw [hsnd, effects_ready] at hend
  exact hend

theorem finish_of_sent {p : Plugin} {i : Invocation} {config : MailConfig} {b : Behaviour}
    (h : p.admission = .ok (i, config)) (hp : Due config.trigger i.exitStatus)
    (hs : p.started (p.mail i config) = .ok b) :
    p.finish.exitCode = b.code ∧
      p.finish.session.effects = p.exchange i [Machine.delivery b (p.mail i config)] := by
  have hrun := run_of_due h hp
  obtain ⟨hfst, hsnd⟩ := Machine.send_of_ok hs (p.ready i config)
  simp only [hfst] at hrun
  have hend := finish_of_run hrun
  have heff := p.effects_ready i config
  simp only [Session.effects, exchange, Prod.mk.injEq] at heff
  obtain ⟨h1, h2, h3⟩ := heff
  rw [Machine.effects_log, hsnd, h1, h2, h3] at hend
  exact hend

/-! ## Endings -/

theorem Admits.admission {p : Plugin} {i : Invocation} {config : MailConfig}
    (h : p.Admits i config) : p.admission = .ok (i, config) :=
  admission_eq_ok_iff.2 ⟨h.call, h.passes .input, h.config⟩

theorem admits_of_admission {p : Plugin} {i : Invocation} {config : MailConfig}
    (h : p.admission = .ok (i, config)) (hp : Trigger.ofName? config.trigger ≠ none) :
    p.Admits i config := by
  obtain ⟨hm, _, hr⟩ := admission_eq_ok_iff.1 h
  have hpolicy := (passes_policy_iff h).2 hp
  refine ⟨fun stage => ?_, hm, hr⟩
  cases stage with
  | policy => exact hpolicy
  | _ => exact passes_of_admission h _ (by decide)

theorem admits_of_due {p : Plugin} {i : Invocation} {config : MailConfig}
    (h : p.admission = .ok (i, config)) (hp : Due config.trigger i.exitStatus) :
    p.Admits i config :=
  admits_of_admission h fun hn => Trigger.not_due_of_unknown hn _ hp

theorem ending_of_finish (p : Plugin) : p.Ending p.finish.exitCode p.finish.session.deliveries := by
  have hdeliveries : p.finish.session.deliveries = p.finish.session.effects.2.2 := rfl
  rw [hdeliveries]
  cases ha : p.admission with
  | error f =>
    obtain ⟨stage, _, hstage, hcode⟩ := refusedAt_of_admission ha
    obtain ⟨hexit, heff⟩ := finish_of_refusal ha
    rw [hexit, hcode, heff]
    exact .refused hstage
  | ok call =>
    obtain ⟨i, config⟩ := call
    by_cases hp : Trigger.ofName? config.trigger = none
    · obtain ⟨hexit, heff⟩ := finish_of_unknown ha hp
      have hfails : ¬ p.Passes .policy := by
        rw [passes_policy_iff ha]
        exact fun h => h hp
      have hstage : p.RefusedAt .policy := ⟨hfails, passes_of_admission ha⟩
      rw [hexit, heff]
      exact .refused hstage
    have hadmits := admits_of_admission ha hp
    rcases Trigger.unknown_or_idle_or_due config.trigger i.exitStatus with h | h | h
    · exact absurd h hp
    · obtain ⟨hexit, heff⟩ := finish_of_idle ha h
      rw [hexit, heff]
      exact .suppressed hadmits h
    · cases hs : p.started (p.mail i config) with
      | error e =>
        obtain ⟨hexit, heff⟩ := finish_of_unsent ha h hs
        rw [hexit, heff]
        exact .unsent hadmits h hs
      | ok b =>
        obtain ⟨hexit, heff⟩ := finish_of_sent ha h hs
        rw [hexit, heff, Behaviour.code]
        cases hd : b.signal with
        | none => exact .exited hadmits h hs hd
        | some signal => exact .killed hadmits h hs hd

/-- No run can end in two ways. -/
theorem finish_of_ending {p : Plugin} {code : Int} {deliveries : List Delivery}
    (h : p.Ending code deliveries) :
    code = p.finish.exitCode ∧ deliveries = p.finish.session.effects.2.2 := by
  cases h with
  | @refused stage hstage =>
    cases ha : p.admission with
    | error f =>
      obtain ⟨stage', _, hstage', hcode⟩ := refusedAt_of_admission ha
      obtain ⟨hexit, heff⟩ := finish_of_refusal ha
      rw [hexit, heff, hcode, hstage.unique hstage']
      exact ⟨rfl, rfl⟩
    | ok call =>
      obtain ⟨i, config⟩ := call
      -- What has its admission can only be refused at the last stage.
      have hpolicy : stage = .policy := by
        cases stage with
        | policy => rfl
        | _ => exact absurd (passes_of_admission ha _ (by decide)) hstage.fails
      subst hpolicy
      have hunknown : Trigger.ofName? config.trigger = none :=
        Decidable.not_not.1 fun hp => hstage.fails ((passes_policy_iff ha).2 hp)
      obtain ⟨hexit, heff⟩ := finish_of_unknown ha hunknown
      rw [hexit, heff]
      exact ⟨rfl, rfl⟩
  | suppressed ha hp =>
    obtain ⟨hexit, heff⟩ := finish_of_idle ha.admission hp
    rw [hexit, heff]
    exact ⟨rfl, rfl⟩
  | unsent ha hp hs =>
    obtain ⟨hexit, heff⟩ := finish_of_unsent ha.admission hp hs
    rw [hexit, heff]
    exact ⟨rfl, rfl⟩
  | exited ha hp hs hd =>
    obtain ⟨hexit, heff⟩ := finish_of_sent ha.admission hp hs
    rw [hexit, heff, Behaviour.code, hd]
    exact ⟨rfl, rfl⟩
  | killed ha hp hs hd =>
    obtain ⟨hexit, heff⟩ := finish_of_sent ha.admission hp hs
    rw [hexit, heff, Behaviour.code, hd]
    exact ⟨rfl, rfl⟩

/-- The system keeps eight bits of an exit code, and those are all of it. -/
theorem Ending.eight_bits {p : Plugin} {code : Int} {deliveries : List Delivery}
    (h : p.Ending code deliveries) : 0 ≤ code ∧ code < 256 := by
  cases h with
  | @refused stage _ => cases stage <;> decide
  | suppressed _ _ => decide
  | unsent _ _ _ => decide
  | exited _ _ _ _ => omega
  | @killed _ _ _ signal _ _ _ _ =>
    have hrange := signal.inRange
    omega

/-! ## Questions -/

theorem mem_questions_iff {p : Plugin} {i : Invocation} (h : p.Makes i) (path taskId : String) :
    (path, taskId) ∈ p.settings.dispatcher.questions i ↔
      p.settings.variant = .extended ∧
        (∃ status, Arguments.read p.words = .ok ⟨taskId, status, some path⟩) ∧ path ≠ "" := by
  obtain ⟨⟨taskId', status', given⟩, hread, hsome, _, _, htask, hpath⟩ := h
  simp only at hsome htask hpath
  rw [Dispatcher.questions, hread, hpath, htask]
  cases hv : p.settings.variant with
  | basic => simp [Settings.dispatcher, hv]
  | extended =>
    obtain ⟨path', rfl⟩ := Option.isSome_iff_exists.1 (hsome.2 hv)
    by_cases he : path' = ""
    · have hnone : (some path').filter (· ≠ "") = none := by simp [he]
      simp only [Settings.dispatcher, hv, hnone]
      constructor
      · intro h
        cases h
      · rintro ⟨_, ⟨status, h⟩, hne⟩
        cases h
        exact absurd he hne
    · have hsome : (some path').filter (· ≠ "") = some path' := by simp [he]
      simp only [Settings.dispatcher, hv, hsome, List.mem_singleton]
      constructor
      · intro h
        cases h
        exact ⟨trivial, ⟨status', rfl⟩, he⟩
      · rintro ⟨_, ⟨status, h⟩, _⟩
        cases h
        rfl

/-- Whatever a run comes to, it has asked what a call asks that passes the stages before the
last. -/
theorem asked_of_admission {p : Plugin} {i : Invocation} {config : MailConfig}
    (h : p.admission = .ok (i, config)) :
    ∃ deliveries, p.finish.session.effects = p.exchange i deliveries := by
  rcases Trigger.unknown_or_idle_or_due config.trigger i.exitStatus with hp | hp | hp
  · exact ⟨_, (finish_of_unknown h hp).2⟩
  · exact ⟨_, (finish_of_idle h hp).2⟩
  · cases hs : p.started (p.mail i config) with
    | error e => exact ⟨_, (finish_of_unsent h hp hs).2⟩
    | ok b => exact ⟨_, (finish_of_sent h hp hs).2⟩

theorem mem_asked_iff (p : Plugin) (q : Bytes × String) :
    q ∈ p.finish.session.asked ↔ ∃ path, p.Asks path q.2 ∧ q.1 = Utf8.encode path := by
  have hasked : p.finish.session.asked = p.finish.session.effects.1 := rfl
  rw [hasked]
  cases ha : p.admission with
  | error f =>
    rw [(finish_of_refusal ha).2]
    constructor
    · intro h
      cases h
    · rintro ⟨path, hasks, _⟩
      obtain ⟨i, config, hadm⟩ := admission_of_passes hasks.passes
      rw [ha] at hadm
      cases hadm
  | ok call =>
    obtain ⟨i, config⟩ := call
    obtain ⟨deliveries, heff⟩ := asked_of_admission ha
    obtain ⟨hmakes, _, _⟩ := admission_eq_ok_iff.1 ha
    rw [heff, exchange]
    simp only [List.mem_map, Prod.exists]
    constructor
    · rintro ⟨path, taskId, hmem, rfl⟩
      obtain ⟨hv, hgiven, hne⟩ := (mem_questions_iff hmakes path taskId).1 hmem
      exact ⟨path, ⟨passes_of_admission ha, hv, hgiven, hne⟩, rfl⟩
    · rintro ⟨path, hasks, hq⟩
      exact ⟨path, q.2, (mem_questions_iff hmakes path q.2).2
        ⟨hasks.extended, hasks.given, hasks.nonempty⟩, Prod.ext hq.symm rfl⟩

theorem length_questions_le (d : Dispatcher) (i : Invocation) : (d.questions i).length ≤ 1 := by
  rw [Dispatcher.questions]
  split
  · exact Nat.le_refl 1
  · exact Nat.zero_le 1

/-- There is one question at most, and a peer that answers has read it. -/
theorem queries_of_finish (p : Plugin) :
    p.finish.session.asked.length ≤ 1 ∧ p.finish.session.queries =
      (p.finish.session.asked.filter fun q => p.machine.reaches q.1).map
        fun q => workflowQuery q.2 := by
  show p.finish.session.effects.1.length ≤ 1 ∧ p.finish.session.effects.2.1 =
    (p.finish.session.effects.1.filter _).map _
  cases ha : p.admission with
  | error f =>
    rw [(finish_of_refusal ha).2]
    exact ⟨Nat.zero_le 1, rfl⟩
  | ok call =>
    obtain ⟨i, config⟩ := call
    obtain ⟨deliveries, heff⟩ := asked_of_admission ha
    rw [heff]
    refine ⟨?_, rfl⟩
    rw [exchange, List.length_map]
    exact length_questions_le _ i

theorem run_ne_mismatch (p : Plugin) (called runs : Variant) :
    (p.run Session.empty).1 ≠ .error (.invocation (.mismatch called runs)) := by
  cases ha : p.admission with
  | error f =>
    rw [run_of_refusal ha]
    rintro h
    cases h
    exact p.admission_ne_mismatch called runs ha
  | ok call =>
    obtain ⟨i, config⟩ := call
    obtain ⟨stdin, haccept, hrun⟩ := run_of_admission ha
    rcases Trigger.unknown_or_idle_or_due config.trigger i.exitStatus with hp | hp | hp
    · rw [hrun, Dispatcher.run_of_unknown haccept hp]
      intro h
      cases h
    · obtain ⟨reason, hidle⟩ :=
        Dispatcher.run_of_idle haccept hp p.collaborators (p.announce Session.empty).2
      rw [hrun, hidle]
      intro h
      cases h
    · rw [run_of_due ha hp]
      generalize p.machine.send _ _ _ (p.ready i config) = sent
      obtain ⟨result, s'⟩ := sent
      cases result with
      | error f =>
        intro h
        cases h
      | ok code =>
        intro h
        cases h

end Plugin

namespace Start

/-- The engine is asked before a policy without a name is refused, and no mail is sent. -/
example :
    let s : Start := {
      words := ["42", "1", "/run/evq.sock"].map Utf8.encode
      stdin := .ok (Utf8.encode
        "\x7b\"to\":\"a\",\"subject\":\"\",\"body\":\"\",\"when\":\"NEVER\"\x7d")
      environment := .ofBindings []
      envFile := none
      machine := ⟨fun _ => .ok ⟨0, none, none⟩, fun _ => .ok .resets, Machine.standardLimit⟩ }
    let f := s.finish
    f.exitCode = 6 ∧ f.session.asked = [(Utf8.encode "/run/evq.sock", "42")] ∧
      f.session.deliveries = [] := by
  decide +kernel

end Start
end TaskMail
