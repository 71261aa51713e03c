import TaskMail.Proofs.BestEffort
import TaskMail.Proofs.Stages

/-!
# TaskMail.Proofs.CallSequence

Calls that one dispatcher runs, one after the other. A dispatcher remembers nothing, so a call does
what it does alone, whatever has gone before.

* `Recording.append` — a record and what comes behind it.
* `Recording.alone`  — a call on a record with nothing in it.
* `CallReport.own`   — what a report says about its call and not about the others.
* `Call.Asks`        — the calls for which the engine is asked.

`call_eq_append` is about one call and `runs_own` and `runs_snd` are about all of them;
`runs_separate` counts what they have left behind, and compares the orders they can be made in.
-/

namespace TaskMail

def Recording.append (a b : Recording) : Recording :=
  ⟨a.sent ++ b.sent, a.queries ++ b.queries⟩

def CallReport.own (r : CallReport) : Except Failure Outcome × Recording :=
  (r.result, ⟨r.sent, r.queries⟩)

def isDispatched : Except Failure Outcome → Bool
  | .ok (.dispatched _) => true
  | _ => false

/-- The call as the dispatcher is given it, if its arguments make one. -/
def Call.invocation (x : Call) : Except InvocationFault Invocation :=
  Invocation.make x.variant x.taskId x.status x.socketPath

/-- The call can be made, it and the dispatcher are extended, there is a socket path, and there is
a configuration. -/
structure Call.Asks (x : Call) (d : Dispatcher) : Prop where
  made : ∃ i, x.invocation = .ok i
  extended : x.variant = .extended ∧ d.variant = .extended
  path : ∃ path, x.socketPath = some path ∧ path ≠ ""
  config : ∃ config, MailConfig.decode x.stdin = .ok config

theorem exists_eq_ok_iff {ε α : Type} {x : Except ε α} : (∃ a, x = .ok a) ↔ x.isOk = true := by
  cases x <;> simp [Except.isOk, Except.toBool]

instance (x : Call) (d : Dispatcher) : Decidable (x.Asks d) :=
  decidable_of_iff
    (x.invocation.isOk = true ∧
      (x.variant = .extended ∧ d.variant = .extended) ∧ x.socketPath.any (· ≠ "") = true ∧
      (MailConfig.decode x.stdin).isOk = true) <| by
    rw [← exists_eq_ok_iff, ← exists_eq_ok_iff, Option.any_eq_true]
    simp only [decide_eq_true_eq]
    exact ⟨fun ⟨hm, he, hp, hc⟩ => ⟨hm, he, hp, hc⟩, fun ⟨hm, he, hp, hc⟩ => ⟨hm, he, hp, hc⟩⟩

theorem Dispatcher.questions_ne_nil_iff {d : Dispatcher} {i : Invocation} :
    d.questions i ≠ [] ↔ d.variant = .extended ∧ ∃ path, i.socketPath = some path := by
  rw [questions]
  cases d.variant <;> cases i.socketPath <;> simp

namespace Recording

variable (d : Dispatcher) (t : Transport) (source : Source)

/-- What comes of a call when it is the first one. -/
def alone (x : Call) : Except Failure Outcome × Recording :=
  call d (answering t source) x empty

/-! ## One call -/

theorem run_eq_append (i : Invocation) (stdin : Bytes) (r : Recording) :
    d.run (answering t source) i stdin r =
      ((d.run (answering t source) i stdin empty).1,
        r.append (d.run (answering t source) i stdin empty).2) := by
  cases ha : d.accept i stdin with
  | error f =>
    rw [Dispatcher.run_of_reject ha, Dispatcher.run_of_reject ha]
    simp [append, empty]
  | ok config =>
    rw [Dispatcher.run_answering ha, Dispatcher.run_answering ha]
    simp [append, empty]

theorem call_of_fault {x : Call} {fault : InvocationFault} (h : x.invocation = .error fault)
    (c : Collaborators Recording) (r : Recording) :
    call d c x r = (.error (.invocation fault), r) := by
  rw [Call.invocation] at h
  rw [call, h]
  rfl

theorem call_of_invocation {x : Call} {i : Invocation} (h : x.invocation = .ok i)
    (c : Collaborators Recording) (r : Recording) :
    call d c x r = d.run c i x.stdin r := by
  rw [Call.invocation] at h
  rw [call, h]

theorem call_eq_append (x : Call) (r : Recording) :
    call d (answering t source) x r =
      ((alone d t source x).1, r.append (alone d t source x).2) := by
  rw [alone]
  cases h : x.invocation with
  | error fault =>
    rw [call_of_fault d h, call_of_fault d h]
    simp [append, empty]
  | ok i =>
    rw [call_of_invocation d h, call_of_invocation d h]
    exact run_eq_append d t source i x.stdin r

theorem report_own (x : Call) (r : Recording) :
    (report d (answering t source) x r).1.own = alone d t source x := by
  simp only [report, call_eq_append, CallReport.own, append, List.drop_left]

theorem report_snd (x : Call) (r : Recording) :
    (report d (answering t source) x r).2 = r.append (alone d t source x).2 := by
  simp only [report, call_eq_append]

theorem report_total (x : Call) (r : Recording) :
    (report d (answering t source) x r).1.total =
      r.sent.length + (alone d t source x).2.sent.length := by
  simp only [report, call_eq_append, append, List.length_append]

/-! ## Many calls -/

theorem runs_nil (c : Collaborators Recording) (r : Recording) : runs d c [] r = ([], r) := rfl

theorem runs_cons (c : Collaborators Recording) (x : Call) (rest : List Call) (r : Recording) :
    runs d c (x :: rest) r =
      ((report d c x r).1 :: (runs d c rest (report d c x r).2).1,
        (runs d c rest (report d c x r).2).2) := by
  rw [runs, List.mapM_cons]
  rfl

/-- The calls before do not show in what a report says about its own call. -/
theorem runs_own (calls : List Call) (r : Recording) :
    (runs d (answering t source) calls r).1.map CallReport.own =
      calls.map (alone d t source) := by
  induction calls generalizing r with
  | nil => rfl
  | cons x rest ih => rw [runs_cons, List.map_cons, report_own, ih, List.map_cons]

theorem runs_snd (calls : List Call) (r : Recording) :
    (runs d (answering t source) calls r).2 =
      r.append ⟨calls.flatMap fun x => (alone d t source x).2.sent,
        calls.flatMap fun x => (alone d t source x).2.queries⟩ := by
  induction calls generalizing r with
  | nil => simp [runs_nil, append]
  | cons x rest ih =>
    rw [runs_cons, ih, report_snd]
    simp [append]

theorem runs_total (calls : List Call) (r : Recording) (n : Nat) :
    (runs d (answering t source) calls r).1[n]?.map CallReport.total =
      calls[n]?.map fun _ => r.sent.length +
        ((calls.take (n + 1)).flatMap fun x => (alone d t source x).2.sent).length := by
  induction calls generalizing r n with
  | nil => simp [runs_nil]
  | cons x rest ih =>
    rw [runs_cons]
    cases n with
    | zero => simp [report_total]
    | succ n =>
      rw [List.getElem?_cons_succ, List.getElem?_cons_succ, ih, report_snd]
      simp only [append, List.length_append, List.take_succ_cons, List.flatMap_cons, Nat.add_assoc]

/-! ## Numbers of mails and queries -/

/-- A call is refused before anything is asked or sent, or it has a configuration and runs. -/
theorem alone_cases (x : Call) :
    ((∀ i, x.invocation = .ok i → ∀ config, d.accept i x.stdin ≠ .ok config) ∧
      ∃ f, alone d t source x = (.error f, empty)) ∨
    ∃ i config, x.invocation = .ok i ∧ d.accept i x.stdin = .ok config ∧
      alone d t source x = (Dispatcher.resultOf t i config,
        ⟨d.mailsOf t i config (d.told i source), d.questions i⟩) := by
  cases hm : x.invocation with
  | error fault =>
    left
    refine ⟨?_, .invocation fault, ?_⟩
    · intro i hi
      cases hi
    · rw [alone, call_of_fault d hm]
  | ok i =>
    rw [alone, call_of_invocation d hm]
    cases ha : d.accept i x.stdin with
    | error f =>
      left
      refine ⟨fun i' hi config => ?_, f, Dispatcher.run_of_reject ha _ _⟩
      cases hi
      simp [ha]
    | ok config => exact .inr ⟨i, config, rfl, ha, Dispatcher.run_answering ha t source empty⟩

theorem isDispatched_resultOf_iff {i : Invocation} {config : MailConfig} :
    isDispatched (Dispatcher.resultOf t i config) = true ↔
      Due config.trigger i.exitStatus ∧ t ≠ .unavailable := by
  rw [Dispatcher.resultOf]
  by_cases hp : Trigger.ofName? config.trigger = none
  · simp [hp, isDispatched, Trigger.not_due_of_unknown hp]
  · by_cases hd : Due config.trigger i.exitStatus
    · cases t <;> simp [hp, hd, isDispatched, Dispatcher.sendResult]
    · simp [hp, hd, isDispatched]

/-- A mail is recorded in just those calls that end with one. -/
theorem length_sent_alone (x : Call) :
    (alone d t source x).2.sent.length =
      if isDispatched (alone d t source x).1 then 1 else 0 := by
  rcases alone_cases d t source x with ⟨_, f, hx⟩ | ⟨i, config, _, _, hx⟩
  · rw [hx]
    rfl
  · simp only [hx, isDispatched_resultOf_iff, Dispatcher.mailsOf]
    split <;> rfl

theorem sent_alone_unavailable (x : Call) : (alone d .unavailable source x).2.sent = [] := by
  rcases alone_cases d .unavailable source x with ⟨_, f, hx⟩ | ⟨i, config, _, _, hx⟩
  · rw [hx]
    rfl
  · simp [hx, Dispatcher.mailsOf]

theorem asks_iff (x : Call) :
    x.Asks d ↔ ∃ i config, x.invocation = .ok i ∧ d.accept i x.stdin = .ok config ∧
      d.questions i ≠ [] := by
  -- A call has the socket path of its arguments unless that is empty.
  have hpath : ∀ {i : Invocation}, i.socketPath = x.socketPath.filter (· ≠ "") →
      ∀ path, i.socketPath = some path ↔ x.socketPath = some path ∧ path ≠ "" := by
    intro i hi path
    rw [hi, Option.filter_eq_some_iff, decide_eq_true_eq]
  constructor
  · rintro ⟨⟨i, hi⟩, ⟨hx, hd⟩, ⟨path, hp⟩, config, hconfig⟩
    obtain ⟨_, _, hv, _, hs⟩ := Plugin.make_eq_ok_iff.1 hi
    have hvariant : i.variant = d.variant := by rw [hv, hx, hd]
    refine ⟨i, config, hi, Dispatcher.accept_eq_ok_iff_decode.2 ⟨hvariant, hconfig⟩, ?_⟩
    exact Dispatcher.questions_ne_nil_iff.2 ⟨hd, path, (hpath hs path).2 hp⟩
  · rintro ⟨i, config, hi, ha, hq⟩
    obtain ⟨_, _, hv, _, hs⟩ := Plugin.make_eq_ok_iff.1 hi
    obtain ⟨hvariant, hconfig⟩ := Dispatcher.accept_eq_ok_iff_decode.1 ha
    obtain ⟨hd, path, hp⟩ := Dispatcher.questions_ne_nil_iff.1 hq
    have hx : x.variant = .extended := by rw [← hv, hvariant, hd]
    exact ⟨⟨i, hi⟩, ⟨hx, hd⟩, ⟨path, (hpath hs path).1 hp⟩, ⟨config, hconfig⟩⟩

theorem length_queries_alone (x : Call) :
    (alone d t source x).2.queries.length = if x.Asks d then 1 else 0 := by
  rcases alone_cases d t source x with ⟨hnot, f, hx⟩ | ⟨i, config, hi, ha, hx⟩
  · have hasks : ¬ x.Asks d := by
      rw [asks_iff]
      rintro ⟨i, config, hi, ha, _⟩
      exact hnot i hi config ha
    rw [hx, if_neg hasks]
    rfl
  · have hasks : x.Asks d ↔ d.questions i ≠ [] := by
      rw [asks_iff]
      simp [hi, ha]
    simp only [hx, hasks, Dispatcher.questions]
    split <;> rfl

theorem length_flatMap_eq_countP {α β : Type} {f : α → List β} {p : α → Bool}
    (h : ∀ a, (f a).length = if p a then 1 else 0) (l : List α) :
    (l.flatMap f).length = l.countP p := by
  induction l with
  | nil => rfl
  | cons a rest ih =>
    rw [List.flatMap_cons, List.length_append, h, ih, List.countP_cons, Nat.add_comm]

/-! ## Separate calls -/

theorem zip_map_eq_map {α β : Type} (f : α → β) (l : List α) :
    l.zip (l.map f) = l.map fun a => (a, f a) := by
  have h : (l.map id).zip (l.map f) = l.map fun a => (a, f a) := List.zip_map'
  rwa [List.map_id] at h

/-- No call sees another one. What they leave behind is what each of them leaves behind alone, in
the order of the calls, and another order changes nothing but the order. -/
theorem runs_separate (m : Option Metadata) (calls : List Call) :
    let c := collaborators t m
    let reports := (runs d c calls empty).1
    let record := (runs d c calls empty).2
    reports.map CallReport.own = calls.map (fun x => call d c x empty) ∧
    record.sent = calls.flatMap (fun x => (call d c x empty).2.sent) ∧
    record.queries = calls.flatMap (fun x => (call d c x empty).2.queries) ∧
    (∀ n, reports[n]?.map CallReport.total = calls[n]?.map fun _ =>
      ((calls.take (n + 1)).flatMap fun x => (call d c x empty).2.sent).length) ∧
    record.sent.length = reports.countP (fun r => isDispatched r.result) ∧
    (runs d (collaborators .unavailable m) calls empty).2.sent = [] ∧
    record.queries.length = calls.countP (fun x => x.Asks d) ∧
    ∀ calls', calls'.Perm calls →
      let reports' := (runs d c calls' empty).1
      let record' := (runs d c calls' empty).2
      (calls'.zip (reports'.map CallReport.own)).Perm
        (calls.zip (reports.map CallReport.own)) ∧
      record'.sent.Perm record.sent ∧ record'.queries.Perm record.queries := by
  intro c reports record
  have hown : ∀ calls, (runs d c calls empty).1.map CallReport.own =
      calls.map fun x => call d c x empty := by
    intro calls
    simp only [c, collaborators_eq_answering, runs_own]
    rfl
  have hrecord : ∀ t calls, (runs d (collaborators t m) calls empty).2 =
      ⟨calls.flatMap fun x => (call d (collaborators t m) x empty).2.sent,
        calls.flatMap fun x => (call d (collaborators t m) x empty).2.queries⟩ := by
    intro t calls
    simp only [collaborators_eq_answering, runs_snd]
    rfl
  have hr : record = _ := hrecord t calls
  refine ⟨hown calls, by rw [hr], by rw [hr], ?_, ?_, ?_, ?_, ?_⟩
  · intro n
    simp only [reports, c, collaborators_eq_answering, runs_total]
    simp only [empty, List.length_nil, Nat.zero_add]
    rfl
  · have hcount : reports.countP (fun r => isDispatched r.result) =
        (reports.map CallReport.own).countP fun o => isDispatched o.1 := by
      rw [List.countP_map]
      rfl
    rw [hr, hcount, hown, List.countP_map]
    simp only [c, collaborators_eq_answering]
    exact length_flatMap_eq_countP (length_sent_alone d t _) calls
  · rw [hrecord, collaborators_eq_answering]
    exact List.flatMap_eq_nil_iff.2 fun x _ => sent_alone_unavailable d _ x
  · have hqueries : ∀ x, (call d c x empty).2.queries.length =
        if decide (x.Asks d) = true then 1 else 0 := by
      intro x
      simp only [c, collaborators_eq_answering, decide_eq_true_eq]
      exact length_queries_alone d t _ x
    rw [hr]
    exact length_flatMap_eq_countP hqueries calls
  · intro calls' hperm reports' record'
    have hr' : record' = _ := hrecord t calls'
    rw [hr, hr', show reports'.map _ = _ from hown calls', show reports.map _ = _ from hown calls,
      zip_map_eq_map, zip_map_eq_map]
    exact ⟨hperm.map _, hperm.flatMap_right _, hperm.flatMap_right _⟩

/-- Calls that end in every way, once more from the last to the first. -/
theorem runs_separate_reversed :
    let d : Dispatcher := ⟨.extended, none⟩
    let c := collaborators (.exits 3) (some ⟨"nightly", "", ""⟩)
    let config := fun trigger => Utf8.encode
      ("\x7b\"to\":\"a\",\"subject\":\"#NAME#\",\"body\":\"#ID#\",\"when\":\"" ++ trigger ++ "\"\x7d")
    let calls : List Call :=
      [⟨.extended, "1", "0", some "/run/evq.sock", config "ON_BOTH"⟩,
        ⟨.extended, "2", "0", some "/run/evq.sock", config "NEVER"⟩,
        ⟨.basic, "3", "0", none, config "ON_BOTH"⟩,
        ⟨.extended, "4", "-0", some "/run/evq.sock", config "ON_ERROR"⟩,
        ⟨.extended, "5", "0", some "/run/evq.sock", Utf8.encode "\x7b"⟩,
        ⟨.extended, "6", "1", some "", config "ON_ERROR"⟩]
    let record := fun calls => (runs d c calls empty).2
    calls.reverse.Perm calls ∧
      (record calls.reverse).sent.Perm (record calls).sent ∧
      (record calls.reverse).queries.Perm (record calls).queries ∧
      (record calls).sent.map Mail.body = ["1", "6"] ∧
      (record calls.reverse).sent.map Mail.body = ["6", "1"] ∧
      (record calls).queries.map Prod.snd = ["1", "2", "4"] ∧
      (record calls.reverse).queries.map Prod.snd = ["4", "2", "1"] := by
  intro d c config calls record
  have hreorder : ∀ calls : List Call,
      (record calls.reverse).sent.Perm (record calls).sent ∧
        (record calls.reverse).queries.Perm (record calls).queries := by
    intro calls
    have h := runs_separate d (.exits 3) (some ⟨"nightly", "", ""⟩) calls
    exact (h.2.2.2.2.2.2.2 calls.reverse calls.reverse_perm).2
  exact ⟨calls.reverse_perm, (hreorder calls).1, (hreorder calls).2, by decide +kernel⟩

end Recording
end TaskMail
