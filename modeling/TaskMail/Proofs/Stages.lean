import TaskMail.Plugin
import TaskMail.Proofs.RunPaths

/-!
# TaskMail.Proofs.Stages

What a run asks of its input, in the order of the questions.

* `Stage`     — the five stages, each with the exit code of a run that is refused there.
* `Makes`     — the call that the command line makes.
* `Reads`     — the configuration on the standard input.
* `Passes`    — what a stage asks.
* `RefusedAt` — the first stage that is not passed.
* `admission` — the stages before the last, as they are run.

`refusedAt_of_admission` says that a run which gets no admission is refused at the first stage
that is not passed, with the exit code of that stage.
-/

namespace TaskMail

inductive Stage where
  | call
  | input
  | document
  | fields
  | policy
  deriving Repr, DecidableEq

namespace Stage

def order : List Stage :=
  [.call, .input, .document, .fields, .policy]

def before (stage : Stage) : List Stage :=
  order.takeWhile (· ≠ stage)

def exitCode : Stage → Int
  | .call => 5
  | .input => 1
  | .document => 2
  | .fields => 3
  | .policy => 6

theorem mem_before_or (a b : Stage) : a = b ∨ a ∈ b.before ∨ b ∈ a.before := by
  cases a <;> cases b <;> decide

end Stage

namespace Plugin

/-- What is on the standard input, which is nothing if it cannot be read. -/
def input (p : Plugin) : Bytes :=
  match p.stdin with
  | .ok octets => octets
  | .error _ => []

/-- The words of the command line make this call: they can be read, there is a socket path just
in the extended variant, and the status is a number. -/
def Makes (p : Plugin) (i : Invocation) : Prop :=
  ∃ arguments, Arguments.read p.words = .ok arguments ∧
    (arguments.socketPath.isSome ↔ p.settings.variant = .extended) ∧
    status? arguments.status = some i.exitStatus ∧
    i.variant = p.settings.variant ∧
    i.taskId = arguments.taskId ∧
    i.socketPath = arguments.socketPath.filter (· ≠ "")

def Reads (p : Plugin) (config : MailConfig) : Prop :=
  ∃ fields, Json.read p.input = .ok (.object fields) ∧ MailConfig.Says fields config

def Passes (p : Plugin) : Stage → Prop
  | .call => ∃ i, p.Makes i
  | .input => p.input ≠ []
  | .document => ∃ v, Json.read p.input = .ok v
  | .fields => ∃ config, p.Reads config
  | .policy => ∃ config, p.Reads config ∧
      config.trigger ∈ ["ON_SUCCESS", "ON_ERROR", "ON_BOTH"]

structure RefusedAt (p : Plugin) (stage : Stage) : Prop where
  fails : ¬ p.Passes stage
  passed : ∀ earlier ∈ stage.before, p.Passes earlier

theorem RefusedAt.unique {p : Plugin} {a b : Stage} (ha : p.RefusedAt a) (hb : p.RefusedAt b) :
    a = b := by
  rcases Stage.mem_before_or a b with h | h | h
  · exact h
  · exact absurd (hb.passed a h) ha.fails
  · exact absurd (ha.passed b h) hb.fails

/-! ## Calls -/

/-- Two or three arguments are what a variant asks for. -/
theorem arity_iff {variant : Variant} {path : Option String} :
    2 + (if path.isSome then 1 else 0) = variant.arity ↔
      (path.isSome ↔ variant = .extended) := by
  cases variant <;> cases path <;> simp [Variant.arity]

theorem make_eq_ok_iff {variant : Variant} {taskId status : String} {path : Option String}
    {i : Invocation} :
    Invocation.make variant taskId status path = .ok i ↔
      (path.isSome ↔ variant = .extended) ∧ status? status = some i.exitStatus ∧
        i.variant = variant ∧ i.taskId = taskId ∧ i.socketPath = path.filter (· ≠ "") := by
  rw [← arity_iff, Invocation.make]
  by_cases ha : 2 + (if path.isSome then 1 else 0) = variant.arity
  · cases hs : status? status with
    | none => simp [ha]
    | some n =>
      obtain ⟨v, t, e, s⟩ := i
      simp only [ha, ne_eq, not_true_eq_false, if_false, Except.ok.injEq, Invocation.mk.injEq,
        Option.some.injEq, true_and]
      constructor
      · rintro ⟨rfl, rfl, rfl, rfl⟩
        exact ⟨rfl, rfl, rfl, rfl⟩
      · rintro ⟨rfl, rfl, rfl, rfl⟩
        exact ⟨rfl, rfl, rfl, rfl⟩
  · simp [ha]

theorem make_ne_mismatch {variant : Variant} {taskId status : String} {path : Option String}
    (a b : Variant) : Invocation.make variant taskId status path ≠ .error (.mismatch a b) := by
  rw [Invocation.make]
  by_cases ha : 2 + (if path.isSome then 1 else 0) = variant.arity
  · cases status? status <;> simp [ha]
  · simp [ha]

theorem invocation_eq_ok_iff {p : Plugin} {i : Invocation} :
    p.invocation = .ok i ↔ p.Makes i := by
  rw [invocation, Makes]
  cases Arguments.read p.words with
  | error fault => simp
  | ok arguments =>
    simp only [make_eq_ok_iff, Except.ok.injEq, exists_eq_left']

theorem invocation_ne_mismatch (p : Plugin) (a b : Variant) :
    p.invocation ≠ .error (.mismatch a b) := by
  rw [invocation]
  cases Arguments.read p.words with
  | error fault => simp
  | ok arguments => exact make_ne_mismatch a b

theorem Makes.unique {p : Plugin} {i i' : Invocation} (h : p.Makes i) (h' : p.Makes i') :
    i = i' := by
  rw [← invocation_eq_ok_iff] at h h'
  rw [h] at h'
  cases h'
  rfl

/-! ## Configurations -/

theorem decode_eq_ok_iff_reads {p : Plugin} {config : MailConfig} :
    MailConfig.decode p.input = .ok config ↔ p.Reads config :=
  MailConfig.decode_eq_ok_iff

theorem Reads.unique {p : Plugin} {config config' : MailConfig} (h : p.Reads config)
    (h' : p.Reads config') : config = config' := by
  rw [← decode_eq_ok_iff_reads] at h h'
  rw [h] at h'
  cases h'
  rfl

/-! ## Refusals -/

/-- The call and the configuration, if one of the stages before the last does not refuse them. -/
def admission (p : Plugin) : Except Failure (Invocation × MailConfig) :=
  match p.accept with
  | .error failure => .error failure
  | .ok (i, stdin) => (p.settings.dispatcher.accept i stdin).map (i, ·)

theorem admission_of_call_error {p : Plugin} {fault : InvocationFault}
    (h : p.invocation = .error fault) : p.admission = .error (.invocation fault) := by
  rw [admission, accept, h]

theorem admission_of_unread {p : Plugin} {i : Invocation} {e : OsError} (h : p.invocation = .ok i)
    (hs : p.stdin = .error e) : p.admission = .error (.read (.os e)) := by
  rw [admission, accept, h, hs]

theorem admission_of_read {p : Plugin} {i : Invocation} {octets : Bytes} (h : p.invocation = .ok i)
    (hs : p.stdin = .ok octets) :
    p.admission = if octets = [] then .error (.read .empty)
      else ((MailConfig.decode octets).mapError .config).map (i, ·) := by
  obtain ⟨_, _, _, _, hv, _, _⟩ := invocation_eq_ok_iff.1 h
  rw [admission, accept, h, hs]
  simp only [Dispatcher.accept, Settings.dispatcher, hv, ne_eq, not_true_eq_false, if_false]
  by_cases he : octets = []
  · simp [he, Except.map]
  · simp [he]

theorem admission_eq_ok_iff {p : Plugin} {i : Invocation} {config : MailConfig} :
    p.admission = .ok (i, config) ↔ p.Makes i ∧ p.input ≠ [] ∧ p.Reads config := by
  rw [← invocation_eq_ok_iff, ← decode_eq_ok_iff_reads]
  cases hi : p.invocation with
  | error fault => simp [admission_of_call_error hi]
  | ok i' =>
    cases hs : p.stdin with
    | error e => simp [admission_of_unread hi hs, input, hs]
    | ok octets =>
      rw [admission_of_read hi hs]
      simp only [input, hs]
      by_cases he : octets = []
      · simp [he]
      · cases MailConfig.decode octets <;> simp [he, mapError_ok, mapError_error, Except.map]

theorem admission_ne_mismatch (p : Plugin) (a b : Variant) :
    p.admission ≠ .error (.invocation (.mismatch a b)) := by
  cases hi : p.invocation with
  | error fault =>
    rw [admission_of_call_error hi]
    intro h
    cases h
    exact p.invocation_ne_mismatch a b hi
  | ok i =>
    cases hs : p.stdin with
    | error e => simp [admission_of_unread hi hs]
    | ok octets =>
      rw [admission_of_read hi hs]
      by_cases he : octets = []
      · simp [he]
      · cases MailConfig.decode octets <;> simp [he, mapError_ok, mapError_error, Except.map]

theorem exitCode_of_notMalformed {fault : ConfigFault} (h : ∀ e, fault ≠ .malformed e) :
    (Failure.config fault).exitCode = Stage.fields.exitCode := by
  cases fault with
  | malformed e => exact absurd rfl (h e)
  | _ => rfl

/-- What cannot be decoded is no document, or one that is no configuration. -/
theorem refusedAt_of_decode {p : Plugin} {fault : ConfigFault} (hc : p.Passes .call)
    (hi : p.Passes .input) (h : MailConfig.decode p.input = .error fault) :
    ∃ stage ∈ Stage.policy.before, p.RefusedAt stage ∧
      (Failure.config fault).exitCode = stage.exitCode := by
  -- A fault of the decoder does not say by itself whether there was a document.
  cases hread : Json.read p.input with
  | error e =>
    have hm := MailConfig.decode_eq_malformed_iff.2 hread
    rw [h] at hm
    cases hm
    refine ⟨.document, by decide, ⟨?_, ?_⟩, rfl⟩
    · rintro ⟨v, hv⟩
      rw [hread] at hv
      cases hv
    · intro earlier he
      rcases List.mem_cons.1 he with rfl | he
      · exact hc
      · rw [List.mem_singleton.1 he]
        exact hi
  | ok v =>
    refine ⟨.fields, by decide, ⟨?_, ?_⟩, exitCode_of_notMalformed ?_⟩
    · rintro ⟨config, hconfig⟩
      rw [← decode_eq_ok_iff_reads, h] at hconfig
      cases hconfig
    · intro earlier he
      rcases List.mem_cons.1 he with rfl | he
      · exact hc
      rcases List.mem_cons.1 he with rfl | he
      · exact hi
      · rw [List.mem_singleton.1 he]
        exact ⟨v, hread⟩
    · rintro e rfl
      rw [MailConfig.decode_eq_malformed_iff, hread] at h
      cases h

theorem refusedAt_of_admission {p : Plugin} {f : Failure} (h : p.admission = .error f) :
    ∃ stage ∈ Stage.policy.before, p.RefusedAt stage ∧ f.exitCode = stage.exitCode := by
  cases hi : p.invocation with
  | error fault =>
    rw [admission_of_call_error hi] at h
    cases h
    refine ⟨.call, by decide, ⟨?_, fun earlier he => by cases he⟩, rfl⟩
    rintro ⟨i, hm⟩
    rw [← invocation_eq_ok_iff, hi] at hm
    cases hm
  | ok i =>
    have hc : p.Passes .call := ⟨i, invocation_eq_ok_iff.1 hi⟩
    have hbefore : ∀ earlier ∈ Stage.input.before, p.Passes earlier := by
      intro earlier he
      rw [List.mem_singleton.1 he]
      exact hc
    cases hs : p.stdin with
    | error e =>
      rw [admission_of_unread hi hs] at h
      cases h
      exact ⟨.input, by decide, ⟨by simp [Passes, input, hs], hbefore⟩, rfl⟩
    | ok octets =>
      have hin : p.input = octets := by rw [input, hs]
      rw [admission_of_read hi hs] at h
      by_cases he : octets = []
      · rw [if_pos he] at h
        cases h
        exact ⟨.input, by decide, ⟨by simp [Passes, hin, he], hbefore⟩, rfl⟩
      · rw [if_neg he] at h
        cases hd : MailConfig.decode octets with
        | ok config =>
          rw [hd] at h
          cases h
        | error fault =>
          rw [hd] at h
          cases h
          rw [← hin] at he hd
          exact refusedAt_of_decode hc he hd

theorem passes_of_admission {p : Plugin} {i : Invocation} {config : MailConfig}
    (h : p.admission = .ok (i, config)) : ∀ stage ∈ Stage.policy.before, p.Passes stage := by
  obtain ⟨hm, hi, hr⟩ := admission_eq_ok_iff.1 h
  obtain ⟨fields, hread, hsays⟩ := hr
  intro stage hstage
  cases stage with
  | call => exact ⟨i, hm⟩
  | input => exact hi
  | document => exact ⟨_, hread⟩
  | fields => exact ⟨config, fields, hread, hsays⟩
  | policy => exact absurd hstage (by decide)

theorem admission_of_passes {p : Plugin} (h : ∀ stage ∈ Stage.policy.before, p.Passes stage) :
    ∃ i config, p.admission = .ok (i, config) := by
  obtain ⟨i, hm⟩ := h .call (by decide)
  obtain ⟨config, hr⟩ := h .fields (by decide)
  exact ⟨i, config, admission_eq_ok_iff.2 ⟨hm, h .input (by decide), hr⟩⟩

/-- Behind an admission the policy is the only stage left. -/
theorem passes_policy_iff {p : Plugin} {i : Invocation} {config : MailConfig}
    (h : p.admission = .ok (i, config)) :
    p.Passes .policy ↔ Trigger.ofName? config.trigger ≠ none := by
  obtain ⟨_, _, hr⟩ := admission_eq_ok_iff.1 h
  have hmem : config.trigger ∈ ["ON_SUCCESS", "ON_ERROR", "ON_BOTH"] ↔
      Trigger.ofName? config.trigger ≠ none := by
    rw [Ne, Trigger.ofName?_eq_none_iff]
    grind
  rw [← hmem]
  constructor
  · rintro ⟨config', hr', htrigger⟩
    rw [hr.unique hr']
    exact htrigger
  · intro htrigger
    exact ⟨config, hr, htrigger⟩

end Plugin
end TaskMail
