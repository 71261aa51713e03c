import TaskMail.Proofs.CallSequence
import TaskMail.Proofs.StatusText

/-!
# TaskMail.Proofs.SendDecision

What decides whether a mail is sent.

* `Dispatcher.Takes` — a call that the dispatcher runs, and its configuration.
* `Dispatcher.sends` — the mails that a run hands over to be sent.

A run goes one of three ways by the name of its policy and the status of its task
(`run_of_takes_idle`, `run_of_takes_unknown`, `run_of_takes_due`). `run_decision_congr` says that
two runs go the same way if their policies have one name and their tasks have both succeeded or
both failed.
-/

namespace TaskMail

theorem Due.congr {name : String} {n n' : Int} (h : n = 0 ↔ n' = 0) (hd : Due name n) :
    Due name n' := by
  simpa only [Due, Ne, h] using hd

theorem Idle.congr {name : String} {n n' : Int} (h : n = 0 ↔ n' = 0) (hi : Idle name n) :
    Idle name n' := by
  simpa only [Idle, Ne, h] using hi

namespace Dispatcher

variable {σ σ' : Type}

/-- The call is one for the variant of the dispatcher, and its input holds the configuration. -/
structure Takes (d : Dispatcher) (x : Call) (i : Invocation) (config : MailConfig) : Prop where
  call : x.invocation = .ok i
  variant : i.variant = d.variant
  config : MailConfig.decode x.stdin = .ok config

def sends (d : Dispatcher) (c : Collaborators σ) (i : Invocation) (stdin : Bytes) (s : σ) :
    List Mail :=
  (d.run c.counted i stdin (s, ⟨[], []⟩)).2.2.sends

/-! ## One run -/

section

variable {d : Dispatcher} {x : Call} {i : Invocation} {config : MailConfig} {n : Int}

theorem Takes.accept (h : d.Takes x i config) : d.accept i x.stdin = .ok config :=
  accept_eq_ok_iff_decode.2 ⟨h.variant, h.config⟩

/-- The status of a call is the number that its text spells. -/
theorem Takes.exitStatus (h : d.Takes x i config) (hn : StatusText n x.status) :
    i.exitStatus = n := by
  obtain ⟨_, hs, _⟩ := Plugin.make_eq_ok_iff.1 h.call
  rw [status?_eq_some_iff.2 hn] at hs
  exact (Option.some.inj hs).symm

theorem Takes.sends (h : d.Takes x i config) (c : Collaborators σ) (s : σ) :
    d.sends c i x.stdin s =
      if Due config.trigger i.exitStatus then [d.mailFor i config (d.learned c i s)] else [] := by
  rw [Dispatcher.sends, calls_of_run h.accept]

theorem run_of_takes_idle (h : d.Takes x i config) (hn : StatusText n x.status)
    (hi : Idle config.trigger n) (c : Collaborators σ) (s : σ) :
    (d.run c i x.stdin s).1 = .ok .suppressed ∧ d.sends c i x.stdin s = [] := by
  rw [← h.exitStatus hn] at hi
  obtain ⟨reason, hrun⟩ := run_of_idle h.accept hi c s
  rw [h.sends, if_neg hi.not_due, hrun]
  exact ⟨rfl, rfl⟩

theorem run_of_takes_unknown (h : d.Takes x i config) (hu : Trigger.ofName? config.trigger = none)
    (c : Collaborators σ) (s : σ) :
    (d.run c i x.stdin s).1 = .error (.trigger config.trigger) ∧ d.sends c i x.stdin s = [] := by
  rw [h.sends, if_neg (Trigger.not_due_of_unknown hu _), run_of_unknown h.accept hu]
  exact ⟨rfl, rfl⟩

theorem run_of_takes_due (h : d.Takes x i config) (hn : StatusText n x.status)
    (hd : Due config.trigger n) (c : Collaborators σ) (s : σ) :
    ∃ mail, d.sends c i x.stdin s = [mail] := by
  rw [← h.exitStatus hn] at hd
  rw [h.sends, if_pos hd]
  exact ⟨_, rfl⟩

end

/-! ## Two runs -/

/-- Whether a run sends a mail depends on nothing but the name of the policy and the success of
the task, however its status is written. -/
theorem run_decision_congr {d d' : Dispatcher} {x x' : Call} {i i' : Invocation}
    {config config' : MailConfig} {n n' : Int} (h : d.Takes x i config)
    (h' : d'.Takes x' i' config') (hn : StatusText n x.status) (hn' : StatusText n' x'.status)
    (hname : config.trigger = config'.trigger) (hsuccess : n = 0 ↔ n' = 0)
    (c : Collaborators σ) (c' : Collaborators σ') (s : σ) (s' : σ') :
    let result := (d.run c i x.stdin s).1
    let result' := (d'.run c' i' x'.stdin s').1
    let sends := d.sends c i x.stdin s
    let sends' := d'.sends c' i' x'.stdin s'
    (Idle config.trigger n ∧ result = .ok .suppressed ∧ result' = .ok .suppressed ∧
      sends = [] ∧ sends' = []) ∨
    (config.trigger ∉ ["ON_SUCCESS", "ON_ERROR", "ON_BOTH"] ∧
      (∃ f, result = .error f ∧ result' = .error f ∧ f.message =
        "invalid value for 'when' parameter: " ++ Text.quote config.trigger) ∧
      sends = [] ∧ sends' = []) ∨
    (Due config.trigger n ∧ ∃ mail mail', sends = [mail] ∧ sends' = [mail']) := by
  intro result result' sends sends'
  rcases Trigger.unknown_or_idle_or_due config.trigger n with hu | hi | hd
  · obtain ⟨hr, hs⟩ := run_of_takes_unknown h hu c s
    obtain ⟨hr', hs'⟩ := run_of_takes_unknown h' (hname ▸ hu) c' s'
    have hunknown : config.trigger ∉ ["ON_SUCCESS", "ON_ERROR", "ON_BOTH"] := by
      simpa using Trigger.ofName?_eq_none_iff.1 hu
    rw [← hname] at hr'
    exact .inr (.inl ⟨hunknown, ⟨.trigger config.trigger, hr, hr', rfl⟩, hs, hs'⟩)
  · obtain ⟨hr, hs⟩ := run_of_takes_idle h hn hi c s
    obtain ⟨hr', hs'⟩ := run_of_takes_idle h' hn' (hname ▸ hi.congr hsuccess) c' s'
    exact .inl ⟨hi, hr, hr', hs, hs'⟩
  · obtain ⟨mail, hs⟩ := run_of_takes_due h hn hd c s
    obtain ⟨mail', hs'⟩ := run_of_takes_due h' hn' (hname ▸ hd.congr hsuccess) c' s'
    exact .inr (.inr ⟨hd, mail, mail', hs, hs'⟩)

/-- A basic call and an extended one that write zero in two ways, and one policy in two ways. -/
theorem run_decision_congr_zero :
    let d : Dispatcher := ⟨.basic, none⟩
    let d' : Dispatcher := ⟨.extended, some "evq@example.com"⟩
    let x : Call := ⟨.basic, "1", " -0", none, Utf8.encode
      "\x7b\"to\":\"a\",\"subject\":\"s\",\"body\":\"b\",\"when\":\"ON_SUCCESS\"\x7d"⟩
    let x' : Call := ⟨.extended, "2", "+000\n", some "/run/evq.sock", Utf8.encode
      "\x7b\"when\":\"\\u004fN_SUCCESS\",\"to\":\"\",\"subject\":\"\",\"body\":\"#NAME#\"\x7d"⟩
    let i : Invocation := ⟨.basic, "1", 0, none⟩
    let i' : Invocation := ⟨.extended, "2", 0, some "/run/evq.sock"⟩
    let sends := d.sends (Recording.collaborators (.exits 0) none) i x.stdin Recording.empty
    let sends' := d'.sends (Recording.collaborators .unavailable none) i' x'.stdin Recording.empty
    StatusText 0 x.status ∧ StatusText 0 x'.status ∧ x.invocation = .ok i ∧
      x'.invocation = .ok i' ∧ ∃ mail mail', sends = [mail] ∧ sends' = [mail'] := by
  intro d d' x x' i i' sends sends'
  have hn : StatusText 0 x.status := status?_eq_some_iff.1 (by decide)
  have hn' : StatusText 0 x'.status := status?_eq_some_iff.1 (by decide)
  have hi : x.invocation = .ok i :=
    Plugin.make_eq_ok_iff.2 ⟨by decide, status?_eq_some_iff.2 hn, rfl, rfl, rfl⟩
  have hi' : x'.invocation = .ok i' :=
    Plugin.make_eq_ok_iff.2 ⟨by decide, status?_eq_some_iff.2 hn', rfl, rfl, rfl⟩
  have h : d.Takes x i ⟨"a", none, "s", "b", "ON_SUCCESS"⟩ := ⟨hi, rfl, by rfl⟩
  have h' : d'.Takes x' i' ⟨"", none, "", "#NAME#", "ON_SUCCESS"⟩ := ⟨hi', rfl, by rfl⟩
  have hdue : Due "ON_SUCCESS" 0 := by decide
  rcases run_decision_congr h h' hn hn' rfl Iff.rfl (Recording.collaborators (.exits 0) none)
    (Recording.collaborators .unavailable none) Recording.empty Recording.empty with
    ⟨hidle, _⟩ | ⟨hunknown, _⟩ | ⟨_, hsends⟩
  · exact absurd hdue hidle.not_due
  · exact absurd hunknown (by decide)
  · exact ⟨hn, hn', hi, hi', hsends⟩

end Dispatcher
end TaskMail
