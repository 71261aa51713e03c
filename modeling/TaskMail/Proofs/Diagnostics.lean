import TaskMail.Proofs.CallChecks
import TaskMail.Proofs.FieldOrder
import TaskMail.Proofs.QuotedText
import TaskMail.Recording

/-!
# TaskMail.Proofs.Diagnostics

What the messages of failures look like, whatever they quote.

* `OneLine`  — a text without a line feed.
* `one_line` — the messages of all refusals are on one line: a number, a quoted text, a value and
  the first line of a text are (`oneLine_integer`, `oneLine_quote`, `oneLine_value`,
  `oneLine_firstLine`).
* `message_inj` — the message of a refusal tells which policy or which status has been refused.
-/

namespace TaskMail

def OneLine (s : String) : Prop :=
  '\n' ∉ s.toList

instance (s : String) : Decidable (OneLine s) :=
  inferInstanceAs (Decidable (_ ∉ _))

@[simp]
theorem oneLine_append {s t : String} : OneLine (s ++ t) ↔ OneLine s ∧ OneLine t := by
  simp [OneLine]

@[simp]
theorem oneLine_ofList {cs : List Char} : OneLine (String.ofList cs) ↔ '\n' ∉ cs := by
  simp [OneLine]

theorem oneLine_intercalate {separator : String} {parts : List String} (hs : OneLine separator)
    (h : ∀ s ∈ parts, OneLine s) : OneLine (separator.intercalate parts) := by
  induction parts with
  | nil => simp [OneLine]
  | cons s rest ih =>
    obtain ⟨hfirst, hrest⟩ := List.forall_mem_cons.1 h
    cases rest with
    | nil => simpa using hfirst
    | cons t rest =>
      rw [String.intercalate_cons_cons]
      simp [hfirst, hs, ih hrest]

/-- A text between quotes, its characters escaped one by one. -/
theorem oneLine_escaped {escape : Char → List Char} (h : ∀ c, '\n' ∉ escape c) (cs : List Char) :
    OneLine (String.ofList ('"' :: cs.flatMap escape ++ ['"'])) := by
  rw [OneLine, String.toList_ofList]
  simp [h]

/-! ## Numbers -/

@[simp]
theorem oneLine_repr (n : Nat) : OneLine n.repr := by
  have hr : 1 < 10 := by omega
  have hlow : ('\n').toNat < 0x30 := by decide
  rw [OneLine, Nat.toList_repr]
  exact (Numeral.toDigits hr n).not_mem (by omega) (.inl hlow)

theorem oneLine_integer (n : Int) : OneLine (toString n) := by
  rw [Int.toString_eq_repr, Int.repr_eq_if]
  split <;> simp +decide

namespace Json

theorem oneLine_decimalText (d : Decimal) : OneLine (decimalText d) := by
  have hdigits : '\n' ∉ (toString d.digits).toList := oneLine_repr d.digits
  simp only [decimalText]
  generalize (toString d.digits).toList = digits at hdigits
  have htake : ∀ k, '\n' ∉ digits.take k := fun _ h => hdigits (List.mem_of_mem_take h)
  have hdrop : ∀ k, '\n' ∉ digits.drop k := fun _ h => hdigits (List.mem_of_mem_drop h)
  split
  · split <;> split <;> simp +decide [hdigits, htake, hdrop, -List.drop_one]
  split
  · simp +decide [hdigits]
  · split <;> simp +decide [hdigits, htake, hdrop]

theorem oneLine_numberText (n : Number) : OneLine n.text := by
  cases n with
  | integer n => exact oneLine_integer n
  | float x =>
    simp only [Number.text, floatText]
    split <;> split <;> simp +decide [oneLine_decimalText]

/-! ## Values -/

theorem CompactChar.lineFeed_not_mem {c : Char} {text : List Char} (h : CompactChar c text) :
    '\n' ∉ text := by
  cases h with
  | plain _ _ hprints =>
    intro hmem
    rw [← List.mem_singleton.1 hmem] at hprints
    exact absurd hprints (by decide)
  | @letter letter hmem _ =>
    have hnone : ∀ m ∈ letters, m.2 ≠ '\n' := by decide
    have hne := hnone _ hmem
    simpa using hne.symm
  | code _ _ => simp

theorem oneLine_stringText (s : String) : OneLine (stringText s) :=
  oneLine_escaped (fun c => (compactChar_escape c).lineFeed_not_mem) s.toList

theorem oneLine_memberText {key text : String} (h : OneLine text) :
    OneLine (memberText (key, text)) := by
  rw [memberText]
  simp +decide [oneLine_stringText, h]

/-- By induction on the value; an object shows some of its members. -/
theorem oneLine_value (v : Value) : OneLine v.text := by
  match v with
  | .null => rw [Value.text]; decide
  | .bool b => rw [Value.text]; cases b <;> decide
  | .number n => rw [Value.text]; exact oneLine_numberText n
  | .string s => rw [Value.text]; exact oneLine_stringText s
  | .array items =>
    have hitems : OneLine (",".intercalate (items.map Value.text)) := by
      refine oneLine_intercalate (by decide) fun s hs => ?_
      obtain ⟨item, hitem, rfl⟩ := List.mem_map.1 hs
      exact oneLine_value item
    rw [Value.text]
    simp +decide [hitems]
  | .object members =>
    have hmembers : OneLine
        (",".intercalate ((Members.settled members).map fun m => memberText (m.1, m.2.text))) := by
      refine oneLine_intercalate (by decide) fun s hs => ?_
      obtain ⟨m, hm, rfl⟩ := List.mem_map.1 hs
      have hmem : m ∈ members := Members.mem_of_last? (Members.mem_settled_iff.1 hm)
      exact oneLine_memberText (oneLine_value m.2)
    rw [text_object]
    simp +decide [hmembers]
termination_by sizeOf v
decreasing_by
  · have := List.sizeOf_lt_of_mem hitem
    simp only [Value.array.sizeOf_spec]
    omega
  · have := List.sizeOf_lt_of_mem hmem
    have : sizeOf m = 1 + sizeOf m.1 + sizeOf m.2 := rfl
    simp only [Value.object.sizeOf_spec]
    omega

theorem oneLine_syntaxError (e : SyntaxError) : OneLine e.text := by
  have hcause : OneLine e.cause.text := by
    cases e.cause <;> decide
  rw [SyntaxError.text]
  simp +decide [hcause]

end Json

/-! ## Faults -/

namespace Text

theorem oneLine_quote (s : String) : OneLine (quote s) :=
  oneLine_escaped (fun c => (quotedChar_escape c).lineFeed_not_mem) s.toList

theorem dropReturn_sublist (held : List Char) : (dropReturn held).Sublist held := by
  unfold dropReturn
  split
  · exact List.sublist_cons_self _ _
  · exact .refl _

theorem oneLine_of_mem_linesFrom {cs held : List Char} (h : '\n' ∉ held) :
    ∀ line ∈ linesFrom held cs, OneLine line := by
  induction cs generalizing held with
  | nil =>
    rw [linesFrom]
    split <;> simp [h]
  | cons c rest ih =>
    rw [linesFrom]
    split
    · have hdrop : '\n' ∉ dropReturn held := fun hmem => h ((dropReturn_sublist held).subset hmem)
      intro line hline
      rcases List.mem_cons.1 hline with rfl | hline
      · simpa using hdrop
      · exact ih List.not_mem_nil line hline
    · next hc => exact ih (by simp [h, Ne.symm hc])

theorem oneLine_firstLine (s : String) : OneLine (firstLine s) := by
  have hlines : ∀ line ∈ lines s, OneLine line := oneLine_of_mem_linesFrom List.not_mem_nil
  rw [firstLine]
  cases h : lines s with
  | nil => decide
  | cons line rest => exact hlines line (by simp [h])

end Text

theorem oneLine_argumentFault (fault : ArgumentFault) : OneLine fault.text := by
  unfold ArgumentFault.text
  cases fault with
  | unexpected shown => exact Text.oneLine_firstLine _
  | missing => decide
  | notText => decide

theorem oneLine_invocationFault (fault : InvocationFault) : OneLine fault.text := by
  have hname : ∀ v : Variant, OneLine v.name := by
    intro v
    cases v <;> decide
  unfold InvocationFault.text
  cases fault with
  | arguments fault => exact oneLine_argumentFault fault
  | arity variant given => simp +decide [hname]
  | status raw => simp +decide [Text.oneLine_quote]
  | mismatch called runs => simp +decide [hname]

/-- A fault of a configuration names one of the keys that are looked at. -/
theorem oneLine_configFault {input : Bytes} {fault : ConfigFault}
    (h : MailConfig.decode input = .error fault) : OneLine fault.text := by
  rw [MailConfig.decode] at h
  cases hread : Json.read input with
  | error e =>
    rw [hread] at h
    cases h
    exact Json.oneLine_syntaxError e
  | ok v =>
    rw [hread] at h
    cases v with
    | object fields =>
      obtain ⟨before, key, after, hkeys, _, hcheck⟩ :=
        MailConfig.forM_eq_error_iff.1 (MailConfig.ofFields_eq_error_iff.1 h)
      have hkey : ∀ key ∈ MailConfig.keys, OneLine key := by decide
      have hone : OneLine key := hkey key (by simp [hkeys])
      unfold ConfigFault.text
      rcases MailConfig.check_error hcheck with ⟨rfl, -⟩ | ⟨v, rfl, -⟩
      · simp +decide [hone]
      · simp +decide [hone, Json.oneLine_value]
    | _ => cases h; decide

namespace Failure

theorem oneLine_message {f : Failure} (h : OneLine f.detail) : OneLine f.message := by
  have hheading : ∀ k : Kind, OneLine k.heading := by
    intro k
    cases k <;> decide
  rw [message, Kind.describe]
  simp [hheading, h]

theorem make_eq_error {i : Invocation} {config : MailConfig} {table : Option Substitutions}
    {f : Failure} (h : Request.make i config table = .error f) : f = .trigger config.trigger := by
  rw [Request.make] at h
  split at h <;> cases h
  rfl

theorem oneLine_of_accept {d : Dispatcher} {i : Invocation} {stdin : Bytes} {f : Failure}
    (h : d.accept i stdin = .error f) : OneLine f.message := by
  rw [Dispatcher.accept] at h
  split at h
  · cases h
    exact oneLine_message (oneLine_invocationFault _)
  split at h
  · cases h
    decide
  · cases hd : MailConfig.decode stdin with
    | ok config => rw [hd] at h; cases h
    | error fault =>
      rw [hd] at h
      cases h
      exact oneLine_message (oneLine_configFault hd)

/-- A run that fails is refused, does not know its policy, or sends no mail. -/
theorem oneLine_of_run {σ : Type} {d : Dispatcher} {c : Collaborators σ} {i : Invocation}
    {stdin : Bytes} {s : σ} {f : Failure} (h : (d.run c i stdin s).1 = .error f)
    (hkind : f.kind ≠ .dispatch) : OneLine f.message := by
  cases ha : d.accept i stdin with
  | error f' =>
    rw [Dispatcher.run_of_reject ha] at h
    cases h
    exact oneLine_of_accept ha
  | ok config =>
    rcases Trigger.unknown_or_idle_or_due config.trigger i.exitStatus with hp | hp | hp
    · rw [Dispatcher.run_of_unknown ha hp] at h
      cases h
      exact oneLine_message (Text.oneLine_quote _)
    · obtain ⟨reason, hrun⟩ := Dispatcher.run_of_idle ha hp c s
      rw [hrun] at h
      cases h
    · rw [Dispatcher.run_of_due ha hp] at h
      dsimp only at h
      split at h
      · cases h
        exact absurd rfl hkind
      · cases h

/-! ## Messages -/

/-- Nothing that a refusal quotes breaks its line: not a word of the command line, a status, the
text or a value of the configuration, or the name of a policy. -/
theorem one_line :
    (∀ words fault, Arguments.read words = .error fault →
      OneLine (invocation (.arguments fault)).message) ∧
    (∀ variant taskId status socketPath fault,
      Invocation.make variant taskId status socketPath = .error fault →
      OneLine (invocation fault).message) ∧
    (∀ input fault, MailConfig.decode input = .error fault → OneLine (config fault).message) ∧
    (∀ i config table f, Request.make i config table = .error f → OneLine f.message) ∧
    ∀ {σ : Type} (d : Dispatcher) (c : Collaborators σ) (i : Invocation) (stdin : Bytes) (s : σ)
      (f : Failure), (d.run c i stdin s).1 = .error f → f.kind ≠ .dispatch → OneLine f.message := by
  refine ⟨?_, ?_, ?_, ?_, ?_⟩
  · intro words fault _
    exact oneLine_message (oneLine_argumentFault fault)
  · intro variant taskId status socketPath fault _
    exact oneLine_message (oneLine_invocationFault fault)
  · intro input fault h
    exact oneLine_message (oneLine_configFault h)
  · intro i config table f h
    rw [make_eq_error h]
    exact oneLine_message (Text.oneLine_quote config.trigger)
  · intro σ d c i stdin s f h hkind
    exact oneLine_of_run h hkind

/-- A line feed in a word, in a status, in a key and in a policy. -/
theorem one_line_line_feeds :
    let words := ["7", "0", "", "a\nb"].map Utf8.encode
    let input := Utf8.encode "\x7b\"to\":\x7b\"a\\nb\":1\x7d\x7d"
    let v : Json.Value := .object [("a\nb", .number (.integer 1))]
    let i : Invocation := ⟨.basic, "7", 0, none⟩
    let asked : MailConfig := ⟨"a", none, "", "", "ON\nBOTH"⟩
    let stdin := Utf8.encode
      "\x7b\"to\":\"a\",\"subject\":\"\",\"body\":\"\",\"when\":\"ON\\nBOTH\"\x7d"
    let run := (⟨.basic, none⟩ : Dispatcher).run (Recording.collaborators (.exits 0) none) i stdin
      Recording.empty
    (Arguments.read words = .error (.unexpected "a\nb") ∧
      OneLine (invocation (.arguments (.unexpected "a\nb"))).message) ∧
    (Invocation.make .basic "7" "0\n1" none = .error (.status "0\n1") ∧
      OneLine (invocation (.status "0\n1")).message) ∧
    (MailConfig.decode input = .error (.notText "to" v) ∧
      OneLine (config (.notText "to" v)).message) ∧
    (∃ f, Request.make i asked none = .error f ∧ OneLine f.message) ∧
    ∃ f, run.1 = .error f ∧ f.kind ≠ .dispatch ∧ OneLine f.message := by
  intro words input v i asked stdin run
  obtain ⟨hwords, hcall, hconfig, hpolicy, hrun⟩ := one_line
  have hread : Arguments.read words = .error (.unexpected "a\nb") := by decide
  have hmake : Invocation.make .basic "7" "0\n1" none = .error (.status "0\n1") := by decide
  have hdecode : MailConfig.decode input = .error (.notText "to" v) := by rfl
  have hrefused : Request.make i asked none = .error (.trigger "ON\nBOTH") := by rfl
  have hfails : run.1 = .error (.trigger "ON\nBOTH") := by rfl
  have hkind : (Failure.trigger "ON\nBOTH").kind ≠ .dispatch := by decide
  exact ⟨⟨hread, hwords _ _ hread⟩, ⟨hmake, hcall _ _ _ _ _ hmake⟩,
    ⟨hdecode, hconfig _ _ hdecode⟩, ⟨_, hrefused, hpolicy _ _ _ _ hrefused⟩,
    ⟨_, hfails, hkind, hrun _ _ _ _ _ _ hfails hkind⟩⟩

theorem message_trigger (name : String) :
    (trigger name).message = Kind.policy.heading ++ Text.quote name := rfl

theorem message_status (raw : String) :
    (invocation (.status raw)).message = Kind.invocation.heading ++
      ("exit status " ++ Text.quote raw ++
        " is not a 32-bit integer, cannot tell success from failure") := rfl

theorem fault_of_fitting {variant : Variant} {taskId status : String}
    {socketPath : Option String} {fault : InvocationFault}
    (hfit : Invocation.Fitting variant socketPath)
    (h : Invocation.make variant taskId status socketPath = .error fault) :
    fault = .status status := by
  rw [Invocation.make, if_neg (not_not_intro (Invocation.fitting_iff.1 hfit))] at h
  split at h <;> cases h
  rfl

/-- Two policies that do not exist are refused with one message only if they are the same, and so
are two texts that are no status. -/
theorem message_inj :
    (∀ (i i' : Invocation) (config config' : MailConfig) (table table' : Option Substitutions)
      (f f' : Failure),
      Request.make i config table = .error f → Request.make i' config' table' = .error f' →
      (f.message = f'.message ↔ config.trigger = config'.trigger)) ∧
    ∀ (variant variant' : Variant) (taskId taskId' status status' : String)
      (path path' : Option String) (fault fault' : InvocationFault),
      Invocation.Fitting variant path → Invocation.Fitting variant' path' →
      Invocation.make variant taskId status path = .error fault →
      Invocation.make variant' taskId' status' path' = .error fault' →
      ((invocation fault).message = (invocation fault').message ↔ status = status') := by
  constructor
  · intro i i' config config' table table' f f' h h'
    rw [make_eq_error h, make_eq_error h', message_trigger, message_trigger,
      String.append_right_inj, Text.quote_inj]
  · intro variant variant' taskId taskId' status status' path path' fault fault' hfit hfit' h h'
    rw [fault_of_fitting hfit h, fault_of_fitting hfit' h', message_status, message_status,
      String.append_right_inj, String.append_left_inj, String.append_right_inj, Text.quote_inj]

/-- A combining accent and the text that it is shown as, and a status with a blank that would be
trimmed and without it. -/
theorem message_inj_accent :
    let i : Invocation := ⟨.basic, "7", 0, none⟩
    let config : MailConfig := ⟨"a", none, "", "", "e\u0301"⟩
    let config' : MailConfig := ⟨"a", none, "", "", "e\\u\x7b301\x7d"⟩
    (∃ f f', Request.make i config none = .error f ∧ Request.make i config' none = .error f' ∧
      f.message ≠ f'.message) ∧
    ∃ fault fault', Invocation.Fitting .basic none ∧
      Invocation.make .basic "7" "1.5" none = .error fault ∧
      Invocation.make .basic "7" "1.5\u00a0" none = .error fault' ∧
      (invocation fault).message ≠ (invocation fault').message := by
  intro i config config'
  have hpolicy : Request.make i config none = .error (.trigger "e\u0301") := by rfl
  have hpolicy' : Request.make i config' none = .error (.trigger "e\\u\x7b301\x7d") := by rfl
  have hfit : Invocation.Fitting .basic none := by simp [Invocation.Fitting]
  have hstatus : Invocation.make .basic "7" "1.5" none = .error (.status "1.5") := by decide
  have hstatus' : Invocation.make .basic "7" "1.5\u00a0" none = .error (.status "1.5\u00a0") := by
    decide
  have hpolicies := message_inj.1 _ _ _ _ _ _ _ _ hpolicy hpolicy'
  have hstatuses := message_inj.2 _ _ _ _ _ _ _ _ _ _ hfit hfit hstatus hstatus'
  refine ⟨⟨_, _, hpolicy, hpolicy', mt hpolicies.1 (by decide)⟩,
    _, _, hfit, hstatus, hstatus', mt hstatuses.1 (by decide)⟩

end Failure

end TaskMail
