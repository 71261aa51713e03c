import TaskMail.Proofs.ExitCode
import TaskMail.Proofs.Leads
import TaskMail.Proofs.Octets
import TaskMail.Proofs.StatusText

/-!
# TaskMail.Proofs.CommandLine

Which words of the command line make a call.

* `Hyphened`   — words that begin with a hyphen.
* `StatusWord` — words that begin with none, or with one that digits follow.
* `Holds`      — what the reader has taken so far.

A reader that never sees `--` takes each word as a value or refuses it (`step_cases`), so what it
ends with is all the words (`eq_of_read`), and there are as many as the variant asks for or the run
is refused. `read_values` says which words are never refused, and `finish_arguments` is about both.
-/

namespace TaskMail

def Hyphened (s : String) : Prop :=
  s.toList.head? = some '-'

def StatusWord (s : String) : Prop :=
  ∀ rest, s.toList = '-' :: rest → ∀ c ∈ rest, c.isDigit = true

instance (s : String) : Decidable (Hyphened s) :=
  inferInstanceAs (Decidable (_ = _))

/-! ## Words as octets -/

theorem head?_encode {s : String} (h : ¬ Hyphened s) : (Utf8.encode s).head? ≠ some 0x2D := by
  rw [Hyphened] at h
  rw [Utf8.encode_eq_octets]
  cases hs : s.toList with
  | nil => simp
  | cons c rest =>
    cases hc : String.utf8EncodeChar c with
    | nil => exact absurd hc String.utf8EncodeChar_ne_nil
    | cons b more =>
      intro hb
      simp only [Utf8.octets_cons, hc, List.cons_append, List.head?_cons, Option.some.injEq] at hb
      have hmem : (0x2D : UInt8) ∈ String.utf8EncodeChar c := by simp [hc, hb]
      have hchar : c = '-' := Utf8.eq_of_mem_utf8EncodeChar (by decide) hmem
      rw [hs, hchar] at h
      exact h rfl

theorem isAsciiDigit_octets {digits : List Char} (h : ∀ c ∈ digits, c.isDigit = true) :
    ∀ b ∈ Utf8.octets digits, isAsciiDigit b = true := by
  intro b hb
  obtain ⟨c, hc, hb⟩ := List.mem_flatMap.1 hb
  obtain ⟨m, hm, rfl⟩ := exists_of_isDigit (h c hc)
  have hdigit : ∀ m < 10, (Char.ofNat (0x30 + m)).toNat < 0x80 ∧
      isAsciiDigit (UInt8.ofNat (Char.ofNat (0x30 + m)).toNat) = true := by decide
  rw [Utf8.utf8EncodeChar_ascii (hdigit m hm).1, List.mem_singleton] at hb
  rw [hb]
  exact (hdigit m hm).2

theorem isNumeric_of_digits {b : UInt8} {rest : Bytes}
    (h : ∀ c ∈ b :: rest, isAsciiDigit c = true) : isNumeric (b :: rest) = true := by
  have hletter : ∀ c ∈ b :: rest, (!isExponentLetter c) = true := by
    intro c hc
    have hd := h c hc
    cases he : isExponentLetter c with
    | false => rfl
    | true =>
      simp only [isExponentLetter, Bool.or_eq_true, beq_iff_eq] at he
      rcases he with rfl | rfl <;> exact absurd hd (by decide)
  have hrest : rest.dropWhile isAsciiDigit = [] :=
    List.dropWhile_eq_nil_iff.2 fun c hc => h c (List.mem_cons_of_mem b hc)
  have htake : (b :: rest).takeWhile (fun c => !isExponentLetter c) = b :: rest :=
    List.takeWhile_eq_self_iff.2 hletter
  have hdrop : (b :: rest).dropWhile (fun c => !isExponentLetter c) = [] :=
    List.dropWhile_eq_nil_iff.2 hletter
  rw [isNumeric, htake, hdrop, isDecimal, hrest, h b List.mem_cons_self]
  rfl

/-- There is something behind the hyphen of a status. -/
theorem StatusText.digits_ne_nil {n : Int} {status : String} (h : StatusText n status)
    {digits : List Char} (hs : status.toList = '-' :: digits) : digits ≠ [] := by
  rintro rfl
  have hnone : status? (String.ofList ['-']) = none := by decide
  rw [← status?_eq_some_iff, ← String.ofList_toList (s := status), hs, hnone] at h
  cases h

namespace ArgumentReader

/-- The reader has taken these values and has not seen `--`. -/
structure Holds (r : ArgumentReader) (args : List String) : Prop where
  unescaped : r.escaped = false
  values : r.values = .ok args
  count : r.count = args.length

variable {r t : ArgumentReader} {args : List String}

theorem start_holds : Holds start [] := ⟨rfl, rfl, rfl⟩

/-! ## One word -/

theorem takeValue_of_holds (h : Holds r args) (hlen : args.length ≠ 3) (a : String) :
    ∃ t, r.takeValue (Utf8.encode a) = .ok t ∧ Holds t (args ++ [a]) := by
  refine ⟨⟨r.escaped, args, some (Utf8.encode a)⟩, ?_, h.unescaped, ?_, ?_⟩
  · rw [takeValue, h.count, if_neg hlen, h.values]
  · simp [values, Utf8.decode?_encode]
  · simp [count]

theorem takeValue_full (h : Holds r args) (hlen : args.length = 3) (word : Bytes) :
    r.takeValue word = .error (.unexpected (Utf8.decodeLossy word)) := by
  rw [takeValue, h.count, if_pos hlen]

theorem step_cases {word : Bytes} (hr : r.escaped = false) (hw : word ≠ [0x2D, 0x2D]) :
    r.step word = r.takeValue word ∨ ∃ e, r.step word = .error e := by
  rw [step.eq_def, hr, if_neg Bool.false_ne_true]
  split
  · exact absurd rfl hw
  · exact .inr ⟨_, rfl⟩
  · split
    · exact .inl rfl
    · exact .inr ⟨_, rfl⟩
  · exact .inl rfl

theorem step_of_head {word : Bytes} (hw : word.head? ≠ some 0x2D) :
    r.step word = r.takeValue word := by
  rw [step.eq_def]
  split
  · rfl
  · split
    · exact absurd rfl hw
    · exact absurd rfl hw
    · exact absurd rfl hw
    · rfl

/-- A hyphen and digits stand for a number where the status is due. -/
theorem step_of_number {digits : List Char} (hr : r.count = 1) (hne : digits ≠ [])
    (hd : ∀ c ∈ digits, c.isDigit = true) :
    r.step (0x2D :: Utf8.octets digits) = r.takeValue (0x2D :: Utf8.octets digits) := by
  have hoctets := isAsciiDigit_octets hd
  cases hb : Utf8.octets digits with
  | nil => exact absurd (Utf8.octets_eq_nil_iff.1 hb) hne
  | cons b rest =>
    rw [hb] at hoctets
    have hhyphen : b ≠ 0x2D := by
      rintro rfl
      exact absurd (hoctets 0x2D List.mem_cons_self) (by decide)
    rw [step.eq_def]
    split
    · rfl
    · split
      · next heq =>
        cases heq
        exact absurd rfl hhyphen
      · next heq =>
        cases heq
        exact absurd rfl hhyphen
      · next heq =>
        cases heq
        rw [if_pos ⟨hr, isNumeric_of_digits hoctets⟩]
      · rfl

/-! ## All words -/

theorem holds_of_leads {rest : List String} (h : Holds r args) (hlen : args.length ≤ 3)
    (hrest : "--" ∉ rest) (hl : Leads step r (rest.map Utf8.encode) t) :
    Holds t (args ++ rest) ∧ (args ++ rest).length ≤ 3 := by
  induction rest generalizing r args with
  | nil =>
    rw [← leads_nil_iff.1 hl, List.append_nil]
    exact ⟨h, hlen⟩
  | cons a rest ih =>
    rw [List.mem_cons, not_or] at hrest
    obtain ⟨ha, hrest⟩ := hrest
    obtain ⟨u, hu, hl⟩ := leads_cons_iff.1 hl
    have hword : Utf8.encode a ≠ [0x2D, 0x2D] := fun he => ha (Utf8.encode_inj.1 he.symm)
    rcases step_cases h.unescaped hword with hs | ⟨e, he⟩
    · rw [hs] at hu
      by_cases hfull : args.length = 3
      · rw [takeValue_full h hfull] at hu
        cases hu
      · obtain ⟨u', hu', hholds⟩ := takeValue_of_holds h hfull a
        rw [hu'] at hu
        cases hu
        have hnext := ih hholds (by rw [List.length_append, List.length_singleton]; omega) hrest hl
        rwa [List.append_assoc] at hnext
    · rw [he] at hu
      cases hu

theorem leads_value {a : String} (h : Holds r args) (hlen : args.length < 3)
    (hs : r.step (Utf8.encode a) = r.takeValue (Utf8.encode a)) :
    ∃ t, Leads step r [Utf8.encode a] t ∧ Holds t (args ++ [a]) := by
  obtain ⟨t, ht, hholds⟩ := takeValue_of_holds h (Nat.ne_of_lt hlen) a
  exact ⟨t, .single (hs.trans ht), hholds⟩

theorem finish_of_holds {taskId status : String} {rest : List String}
    (h : Holds r (taskId :: status :: rest)) : r.finish = .ok ⟨taskId, status, rest.head?⟩ := by
  rw [finish, h.values]

end ArgumentReader

namespace Arguments

open ArgumentReader

theorem read_of_leads {words : List Bytes} {r : ArgumentReader} (h : Leads step start words r) :
    read words = r.finish := by
  rw [Leads] at h
  rw [read, h]

/-- The arguments are the words as they are. -/
theorem eq_of_read {args : List String} {arguments : Arguments} (hargs : "--" ∉ args)
    (h : read (args.map Utf8.encode) = .ok arguments) :
    args = arguments.taskId :: arguments.status :: arguments.socketPath.toList := by
  cases hl : (args.map Utf8.encode).foldlM step start with
  | error e => simp [read, hl] at h
  | ok r =>
    rw [read_of_leads hl] at h
    obtain ⟨hholds, hlen⟩ := holds_of_leads start_holds (Nat.zero_le 3) hargs hl
    rw [List.nil_append] at hholds hlen
    match args, hholds, hlen with
    | taskId :: status :: [], hholds, _ =>
      rw [finish_of_holds hholds] at h
      cases h
      rfl
    | [taskId, status, path], hholds, _ =>
      rw [finish_of_holds hholds] at h
      cases h
      rfl
    | [], hholds, _ => simp [finish, hholds.values] at h
    | [_], hholds, _ => simp [finish, hholds.values] at h

theorem read_values {taskId status : String} {path : Option String} {n : Int}
    (htask : ¬ Hyphened taskId) (hpath : ∀ q ∈ path, ¬ Hyphened q) (hword : StatusWord status)
    (hn : StatusText n status) :
    read ((taskId :: status :: path.toList).map Utf8.encode) = .ok ⟨taskId, status, path⟩ := by
  obtain ⟨r₁, hl₁, h₁⟩ := leads_value start_holds (by decide) (step_of_head (head?_encode htask))
  have hstep : r₁.step (Utf8.encode status) = r₁.takeValue (Utf8.encode status) := by
    by_cases hh : Hyphened status
    · obtain ⟨digits, hdigits⟩ : ∃ digits, status.toList = '-' :: digits := by
        rw [Hyphened, List.head?_eq_some_iff] at hh
        exact hh
      rw [Utf8.encode_eq_octets, hdigits]
      exact step_of_number h₁.count (hn.digits_ne_nil hdigits) (hword digits hdigits)
    · exact step_of_head (head?_encode hh)
  obtain ⟨r₂, hl₂, h₂⟩ := leads_value h₁ (by simp) hstep
  cases path with
  | none =>
    show read ([Utf8.encode taskId] ++ [Utf8.encode status]) = _
    rw [read_of_leads (hl₁.append hl₂)]
    exact finish_of_holds h₂
  | some q =>
    obtain ⟨r₃, hl₃, h₃⟩ :=
      leads_value h₂ (by simp) (step_of_head (head?_encode (hpath q rfl)))
    show read ([Utf8.encode taskId] ++ [Utf8.encode status] ++ [Utf8.encode q]) = _
    rw [read_of_leads ((hl₁.append hl₂).append hl₃)]
    exact finish_of_holds h₃

end Arguments

/-! ## Calls -/

theorem Plugin.exists_fault_of_count {p : Plugin} {args : List String}
    (hwords : p.words = args.map Utf8.encode) (hargs : "--" ∉ args)
    (hcount : args.length ≠ p.settings.variant.arity) :
    ∃ fault, p.invocation = .error fault := by
  cases hi : p.invocation with
  | error fault => exact ⟨fault, rfl⟩
  | ok i =>
    obtain ⟨arguments, hread, hsome, _⟩ := invocation_eq_ok_iff.1 hi
    rw [hwords] at hread
    rw [Arguments.eq_of_read hargs hread, ← arity_iff.2 hsome] at hcount
    cases hp : arguments.socketPath <;> simp [hp] at hcount

theorem Plugin.invocation_of_values {p : Plugin} {taskId status : String} {path : Option String}
    {n : Int} (hwords : p.words = (taskId :: status :: path.toList).map Utf8.encode)
    (hcount : (taskId :: status :: path.toList).length = p.settings.variant.arity)
    (htask : ¬ Hyphened taskId) (hpath : ∀ q ∈ path, ¬ Hyphened q) (hword : StatusWord status)
    (hn : StatusText n status) :
    p.invocation = .ok ⟨p.settings.variant, taskId, n, path.filter (· ≠ "")⟩ := by
  have hread := Arguments.read_values htask hpath hword hn
  rw [← hwords] at hread
  have hsome : path.isSome ↔ p.settings.variant = .extended := by
    rw [← arity_iff, ← hcount]
    cases path <;> rfl
  exact invocation_eq_ok_iff.2
    ⟨_, hread, hsome, status?_eq_some_iff.2 hn, rfl, rfl, rfl⟩

namespace Start

/-- A run with more or fewer words than its variant asks for ends before anything is read, and
words of the right number are a call if no hyphen makes options of them. What the variant is, the
variables say once they are loaded. -/
theorem finish_arguments (s : Start) {args : List String} (hloads : ¬ s.BreaksOff)
    (hwords : s.words = args.map Utf8.encode) (hargs : "--" ∉ args) :
    let f := s.finish
    ∃ p, s.plugin? = some p ∧
    (args.length ≠ p.settings.variant.arity →
      f.exitCode = 5 ∧ f.session.asked = [] ∧ f.session.queries = [] ∧
        f.session.deliveries = []) ∧
    ∀ (taskId status : String) (path : Option String) (n : Int),
      args = taskId :: status :: path.toList →
      args.length = p.settings.variant.arity →
      ¬ Hyphened taskId → (∀ q ∈ path, ¬ Hyphened q) → StatusWord status → StatusText n status →
      p.invocation = .ok ⟨p.settings.variant, taskId, n, path.filter (· ≠ "")⟩ := by
  intro f
  obtain ⟨p, hp⟩ := exists_plugin hloads
  have hf : f = p.finish := finish_of_loaded hp
  have hpwords : p.words = args.map Utf8.encode := (words_of_loaded hp).trans hwords
  refine ⟨p, hp, ?_, ?_⟩
  · intro hcount
    obtain ⟨fault, hfault⟩ := Plugin.exists_fault_of_count hpwords hargs hcount
    obtain ⟨hexit, heffects⟩ :=
      Plugin.finish_of_refusal (Plugin.admission_of_call_error hfault)
    simp only [Session.effects, Prod.mk.injEq] at heffects
    obtain ⟨hasked, hqueries, hdeliveries⟩ := heffects
    rw [hf]
    exact ⟨hexit, hasked, hqueries, hdeliveries⟩
  · rintro taskId status path n rfl hcount htask hpath hword hn
    exact Plugin.invocation_of_values hpwords hcount htask hpath hword hn

/-- Without a third word the call of an extended plugin is refused, be it empty; a negative status
needs no mark that it is no option. -/
theorem finish_arguments_negative :
    let s : List String → Start := fun args => {
      words := args.map Utf8.encode
      stdin := .error .notFound
      environment := .ofBindings []
      envFile := some "EVQ_NOTIFY_VARIANT=' extended'"
      machine := ⟨fun _ => .ok ⟨0, none, none⟩, fun _ => .ok .resets, Machine.standardLimit⟩ }
    (s ["42", "-007"]).finish.exitCode = 5 ∧
      StatusText (-7) "-007" ∧ StatusWord "-007" ∧
      ∃ p, (s ["42", "-007", ""]).plugin? = some p ∧
        p.invocation = .ok ⟨.extended, "42", -7, none⟩ := by
  intro s
  have hloads : ∀ args, ¬ (s args).BreaksOff := by
    intro args
    refine not_breaksOff ?_
    rw [plugin?, Option.isSome_map]
    show (EnvFile.apply (.ofBindings []) _).isSome = true
    decide +kernel
  have hvariant : ∀ args p, (s args).plugin? = some p → p.settings.variant = .extended := by
    intro args p hp
    have hread : (EnvFile.apply (.ofBindings []) "EVQ_NOTIFY_VARIANT=' extended'").map
        (fun e => (Settings.read e.text?).variant) = some .extended := by decide +kernel
    obtain ⟨e, he, rfl⟩ := plugin?_eq_some_iff.1 hp
    have happly : EnvFile.apply (.ofBindings []) "EVQ_NOTIFY_VARIANT=' extended'" = some e := he
    rw [happly] at hread
    exact Option.some.inj hread
  have hn : StatusText (-7) "-007" := status?_eq_some_iff.1 (by decide)
  have hword : StatusWord "-007" := by
    intro rest hrest
    rw [show "-007".toList = ['-', '0', '0', '7'] from rfl] at hrest
    cases hrest
    exact List.all_eq_true.1 rfl
  obtain ⟨p, hp, hshort, _⟩ := (s ["42", "-007"]).finish_arguments (hloads _) rfl (by decide)
  obtain ⟨q, hq, _, hcall⟩ := (s ["42", "-007", ""]).finish_arguments (hloads _) rfl (by decide)
  have hcalled := hcall "42" "-007" (some "") (-7) rfl
  rw [hvariant _ p hp] at hshort
  rw [hvariant _ q hq] at hcalled
  exact ⟨(hshort (by decide)).1, hn, hword, q, hq,
    hcalled rfl (by decide) (by decide) hword hn⟩

end Start
end TaskMail
