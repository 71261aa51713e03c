import TaskMail.Proofs.Stages
import TaskMail.Proofs.StatusText

/-!
# TaskMail.Proofs.CallChecks

Which arguments make a call, and what is said of others.

* `Fitting` — a socket path is given just in the extended variant.
* `Checked` — a call next to the arguments that it is made from.
* `Refused` — what is wrong with arguments that make no call. Their number is looked at first.

`make_iff` says that arguments make just the call that is checked, or are refused.
-/

namespace TaskMail
namespace Invocation

/-! ## Calls and refusals -/

/-- A socket path that is empty counts as given. -/
def Fitting (variant : Variant) (socketPath : Option String) : Prop :=
  socketPath.isSome ↔ variant = .extended

structure Checked (variant : Variant) (taskId status : String) (socketPath : Option String)
    (i : Invocation) : Prop where
  fitting : Fitting variant socketPath
  variant : i.variant = variant
  taskId : i.taskId = taskId
  exitStatus : StatusText i.exitStatus status
  socketPath : ∀ path, i.socketPath = some path ↔ socketPath = some path ∧ path ≠ ""

inductive Refused (variant : Variant) (status : String) (socketPath : Option String) :
    InvocationFault → Prop where
  | arity : ¬ Fitting variant socketPath →
      Refused variant status socketPath (.arity variant (2 + socketPath.toList.length))
  | status : Fitting variant socketPath → (∀ n, ¬ StatusText n status) →
      Refused variant status socketPath (.status status)

theorem fitting_iff {variant : Variant} {socketPath : Option String} :
    Fitting variant socketPath ↔ 2 + (if socketPath.isSome then 1 else 0) = variant.arity :=
  Plugin.arity_iff.symm

theorem socketPath_eq_filter_iff {given kept : Option String} :
    kept = given.filter (· ≠ "") ↔ ∀ path, kept = some path ↔ given = some path ∧ path ≠ "" := by
  rw [Option.ext_iff]
  simp only [Option.filter_eq_some_iff, decide_eq_true_eq]

theorem make_eq_ok_iff_checked {variant : Variant} {taskId status : String}
    {socketPath : Option String} {i : Invocation} :
    make variant taskId status socketPath = .ok i ↔
      Checked variant taskId status socketPath i := by
  rw [Plugin.make_eq_ok_iff, status?_eq_some_iff, socketPath_eq_filter_iff]
  constructor
  · rintro ⟨hfit, hstatus, hvariant, htask, hpath⟩
    exact ⟨hfit, hvariant, htask, hstatus, hpath⟩
  · rintro ⟨hfit, hvariant, htask, hstatus, hpath⟩
    exact ⟨hfit, hstatus, hvariant, htask, hpath⟩

theorem make_of_refused {variant : Variant} {status : String} {socketPath : Option String}
    {fault : InvocationFault} (h : Refused variant status socketPath fault) (taskId : String) :
    make variant taskId status socketPath = .error fault := by
  cases h with
  | arity hfit =>
    rw [fitting_iff] at hfit
    rw [make, if_pos hfit]
    cases socketPath <;> rfl
  | status hfit hnone =>
    rw [fitting_iff] at hfit
    have hs : status? status = none :=
      Option.eq_none_iff_forall_ne_some.2 fun n hn => hnone n (status?_eq_some_iff.1 hn)
    rw [make, if_neg (not_not_intro hfit), hs]

theorem exists_checked_or_refused (variant : Variant) (taskId status : String)
    (socketPath : Option String) :
    (∃ i, Checked variant taskId status socketPath i) ∨
      ∃ fault, Refused variant status socketPath fault := by
  by_cases hfit : Fitting variant socketPath
  · by_cases hs : ∃ n, StatusText n status
    · obtain ⟨n, hn⟩ := hs
      exact .inl ⟨⟨variant, taskId, n, socketPath.filter (· ≠ "")⟩, hfit, rfl, rfl, hn,
        socketPath_eq_filter_iff.1 rfl⟩
    · exact .inr ⟨_, .status hfit (not_exists.1 hs)⟩
  · exact .inr ⟨_, .arity hfit⟩

/-- Arguments make a call just if a socket path is given where the variant asks for one, and no
other, and the status is a number of 32 bits. The call keeps the task, that number and a path that
is not empty. Other arguments are refused for their number, and only if that is right for the
status. Zeros in front of a number, behind its sign if there is one, change nothing. -/
theorem make_iff (variant : Variant) (taskId status : String) (socketPath : Option String) :
    ((∃ i, make variant taskId status socketPath = .ok i) ↔
      Fitting variant socketPath ∧ ∃ n, StatusText n status) ∧
    (∀ i, make variant taskId status socketPath = .ok i ↔
      Checked variant taskId status socketPath i) ∧
    (∀ fault, make variant taskId status socketPath = .error fault ↔
      Refused variant status socketPath fault) ∧
    ∀ (n zeros : Nat) (digits : List Char), Numeral 10 n digits → digits ≠ [] →
      SignedText n (List.replicate zeros '0' ++ digits) ∧
      SignedText n ('+' :: (List.replicate zeros '0' ++ digits)) ∧
      SignedText (-n) ('-' :: (List.replicate zeros '0' ++ digits)) := by
  have hrefused : ∀ fault, make variant taskId status socketPath = .error fault ↔
      Refused variant status socketPath fault := by
    intro fault
    constructor
    · intro h
      rcases exists_checked_or_refused variant taskId status socketPath with ⟨i, hi⟩ | ⟨other, ho⟩
      · rw [make_eq_ok_iff_checked.2 hi] at h
        cases h
      · rw [make_of_refused ho taskId] at h
        cases h
        exact ho
    · intro h
      exact make_of_refused h taskId
  refine ⟨?_, fun i => make_eq_ok_iff_checked, hrefused, ?_⟩
  · constructor
    · rintro ⟨i, hi⟩
      have hc := make_eq_ok_iff_checked.1 hi
      exact ⟨hc.fitting, _, hc.exitStatus⟩
    · rintro ⟨hfit, n, hn⟩
      rcases exists_checked_or_refused variant taskId status socketPath with ⟨i, hi⟩ | ⟨_, ho⟩
      · exact ⟨i, make_eq_ok_iff_checked.2 hi⟩
      · cases ho with
        | arity hnot => exact absurd hfit hnot
        | status _ hnone => exact absurd hn (hnone n)
  · intro n zeros digits hn hne
    have hz := hn.zeros_append (by decide) zeros
    have hne' : List.replicate zeros '0' ++ digits ≠ [] := by simp [hne]
    exact ⟨.plain hz hne', .plus hz hne', .minus hz hne'⟩

/-- A minus, zeros and a blank that is not ASCII; a number that is one too large, with the wrong
number of arguments and with the right one. -/
example :
    make .extended "#ID#" "-000\u00a0" (some "") = .ok ⟨.extended, "#ID#", 0, none⟩ ∧
      make .extended "7" "2147483648" none = .error (.arity .extended 2) ∧
      make .basic "7" "2147483648" none = .error (.status "2147483648") ∧
      make .basic "7" "-2147483648" none = .ok ⟨.basic, "7", -2147483648, none⟩ := by
  decide

end Invocation
end TaskMail
