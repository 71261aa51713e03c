import TaskMail.Proofs.PeerInfluence
import TaskMail.Proofs.VariableScope

/-!
# TaskMail.Proofs.BlankVariables

What a blank variable does, compared with one that is not set.

* `Environment.IsBlank` — a variable is set to a blank text.
* `Start.without`   — a start without some variables in its environment.
* `Settings.withDefaults` — settings with the default sender, or the default variant, or both.
* `Finish.result`   — the exit code, and what has happened, the log apart.
* `Plugin.posted`   — what the mail program is given for a mail.

The settings take a blank variable for one that is not set. The file of variables does not: it
sets no variable that is blank. So `finish_blank` compares the two runs by what the file sets, and
`finish_blank_variant` shows a file that makes a difference.
-/

namespace TaskMail

def Environment.IsBlank (e : Environment) (name : String) : Prop :=
  ∃ v, e.text? name = some v ∧ Text.allBlank v = true

def Start.without (s : Start) (names : List String) : Start :=
  { s with environment := s.environment.without names }

def Finish.result (f : Finish) : Int × List (Bytes × String) × List String × List Delivery :=
  (f.exitCode, f.session.effects)

/-! ## Settings -/

namespace Settings

def withDefaults (names : List String) (s : Settings) : Settings where
  sender := if senderVariable ∈ names then none else s.sender
  mailProgram := s.mailProgram
  variant := if variantVariable ∈ names then .extended else s.variant

variable {lookup lookup' : String → Option String} {names : List String}

theorem value?_of_blank {name v : String} (h : lookup name = some v)
    (hv : Text.allBlank v = true) : value? lookup name = none := by
  simp [value?, h, hv]

theorem read_withDefaults (hmail : mailProgramVariable ∉ names)
    (h : ∀ n, '=' ∉ n.toList → n ∉ names → lookup n = lookup' n)
    (hnone : ∀ n ∈ names, value? lookup n = none) :
    read lookup = (read lookup').withDefaults names := by
  have hvalue : ∀ n, '=' ∉ n.toList → n ∉ names → value? lookup n = value? lookup' n := by
    intro n hn hmem
    rw [value?, value?, h n hn hmem]
  have hsender : value? lookup senderVariable =
      if senderVariable ∈ names then none else value? lookup' senderVariable := by
    split_ifs with hmem
    · exact hnone _ hmem
    · exact hvalue _ (by decide) hmem
  have hvariant : ((variantName? lookup).bind Variant.ofName?).getD .extended =
      if variantVariable ∈ names then .extended
      else ((variantName? lookup').bind Variant.ofName?).getD .extended := by
    rw [variantName?, variantName?]
    split_ifs with hmem
    · rw [hnone _ hmem]
      rfl
    · rw [hvalue _ (by decide) hmem]
  rw [read, hsender, hvariant, hvalue mailProgramVariable (by decide) hmail]
  rfl

end Settings

/-! ## Runs -/

namespace Plugin

/-- What the mail program is given for the mail of a run, if it can be started for it. -/
def posted (p : Plugin) (i : Invocation) (config : MailConfig) : Option Delivery :=
  match p.started (p.mail i config) with
  | .ok b => some (Machine.delivery b (p.mail i config))
  | .error _ => none

theorem posted_of_ok {p : Plugin} {i : Invocation} {config : MailConfig} {b : Behaviour}
    (h : p.started (p.mail i config) = .ok b) :
    p.posted i config = some (Machine.delivery b (p.mail i config)) := by
  rw [posted, h]

theorem posted_of_error {p : Plugin} {i : Invocation} {config : MailConfig} {e : OsError}
    (h : p.started (p.mail i config) = .error e) : p.posted i config = none := by
  rw [posted, h]

theorem result_eq {p : Plugin} {code : Int}
    {effects : List (Bytes × String) × List String × List Delivery}
    (h : p.finish.exitCode = code ∧ p.finish.session.effects = effects) :
    p.finish.result = (code, effects) :=
  Prod.ext h.1 h.2

/-! ### The call -/

theorem result_of_uncalled {p : Plugin} (h : ∀ i, ¬ p.Makes i) :
    p.finish.result = (5, [], [], []) := by
  cases hi : p.invocation with
  | ok i => exact absurd (invocation_eq_ok_iff.1 hi) (h i)
  | error fault => exact result_eq (finish_of_refusal (admission_of_call_error hi))

/-- The mail program may end with 5 as well, but then it has been given a mail. -/
theorem Ending.uncalled {p : Plugin} {code : Int} {deliveries : List Delivery}
    (h : p.Ending code deliveries) (hcode : code = 5) (hnone : deliveries = []) :
    ¬ p.Passes .call := by
  cases h with
  | @refused stage hstage =>
    have hcall : stage = .call := by cases stage <;> simp_all [Stage.exitCode]
    subst hcall
    exact hstage.fails
  | suppressed _ _ => cases hcode
  | unsent _ _ _ => cases hcode
  | exited _ _ _ _ => cases hnone
  | killed _ _ _ _ => cases hnone

/-- No run that goes to its end without a mail has this exit code. -/
theorem Ending.delivers {p : Plugin} {code : Int} {deliveries : List Delivery}
    (h : p.Ending code deliveries) (hcode : code = 101) : deliveries ≠ [] := by
  cases h with
  | @refused stage _ => cases stage <;> cases hcode
  | suppressed _ _ => cases hcode
  | unsent _ _ _ => cases hcode
  | exited _ _ _ _ => exact List.cons_ne_nil _ _
  | killed _ _ _ _ => exact List.cons_ne_nil _ _

theorem result_ne_brokenOff (p : Plugin) : p.finish.result ≠ (101, [], [], []) := by
  intro he
  simp only [Finish.result, Session.effects, Prod.mk.injEq] at he
  obtain ⟨hcode, _, _, hdeliveries⟩ := he
  exact p.ending_of_finish.delivers hcode hdeliveries

theorem result_ne_of_makes {p : Plugin} {i : Invocation} (h : p.Makes i) :
    p.finish.result ≠ (5, [], [], []) := by
  intro he
  simp only [Finish.result, Session.effects, Prod.mk.injEq] at he
  obtain ⟨hcode, _, _, hdeliveries⟩ := he
  exact p.ending_of_finish.uncalled hcode hdeliveries ⟨i, h⟩

/-- No command line is a call in both variants. -/
theorem variant_eq_of_makes {p q : Plugin} (hw : p.words = q.words) {i j : Invocation}
    (hp : p.Makes i) (hq : q.Makes j) : p.settings.variant = q.settings.variant := by
  obtain ⟨a, hread, ha, _⟩ := hp
  obtain ⟨a', hread', ha', _⟩ := hq
  rw [hw, hread'] at hread
  cases hread
  have hiff := ha.symm.trans ha'
  cases hpv : p.settings.variant <;> cases hqv : q.settings.variant <;> simp_all

theorem result_ne_iff_makes {p q : Plugin} (hw : p.words = q.words)
    (hv : p.settings.variant ≠ q.settings.variant) :
    p.finish.result ≠ q.finish.result ↔ ∃ i, p.Makes i ∨ q.Makes i := by
  constructor
  · intro hne
    by_contra hnone
    simp only [not_exists, not_or] at hnone
    exact hne ((result_of_uncalled fun i => (hnone i).1).trans
      (result_of_uncalled fun i => (hnone i).2).symm)
  · rintro ⟨i, hp | hq⟩
    · rw [result_of_uncalled fun j hj => hv (variant_eq_of_makes hw hp hj)]
      exact result_ne_of_makes hp
    · rw [result_of_uncalled fun j hj => hv (variant_eq_of_makes hw hj hq)]
      exact (result_ne_of_makes hq).symm

/-! ### The mail -/

theorem posted_of_due {p : Plugin} {i : Invocation} {config : MailConfig}
    (ha : p.admission = .ok (i, config)) (hp : Due config.trigger i.exitStatus) :
    p.posted i config = p.finish.result.2.2.2.head? := by
  cases hs : p.started (p.mail i config) with
  | error e =>
    rw [posted_of_error hs, result_eq (finish_of_unsent ha hp hs)]
    rfl
  | ok b =>
    rw [posted_of_ok hs, result_eq (finish_of_sent ha hp hs)]
    rfl

theorem posted_of_finds {p : Plugin} {found : Program} (hf : p.Finds found) (i : Invocation)
    (config : MailConfig) :
    p.posted i config = if p.Carries found.path (p.mail i config) then
      some (Machine.delivery found.behaviour (p.mail i config)) else none := by
  split_ifs with hc
  · exact posted_of_ok (started_of_carries hf hc)
  · obtain ⟨e, hs⟩ := started_of_not_carries hf hc
    exact posted_of_error hs

theorem posted_of_unfound {p : Plugin} (hf : ∀ found, ¬ p.Finds found) (i : Invocation)
    (config : MailConfig) : p.posted i config = none := by
  obtain ⟨e, hs⟩ := started_of_unfound hf (p.mail i config)
  exact posted_of_error hs

theorem finds_congr {p q : Plugin} (hm : p.machine = q.machine)
    (hpath : Machine.searchPath p.environment = Machine.searchPath q.environment)
    (hprogram : p.settings.mailProgram = q.settings.mailProgram) (found : Program) :
    p.Finds found ↔ q.Finds found := by
  simp only [Finds, Machine.find, hm, hpath, hprogram]

/-- Two plugins that differ in the sender and in what they pass on, if at all. -/
structure Alike (p q : Plugin) : Prop where
  words : p.words = q.words
  stdin : p.stdin = q.stdin
  machine : p.machine = q.machine
  variant : p.settings.variant = q.settings.variant
  finds : ∀ found, p.Finds found ↔ q.Finds found

namespace Alike

variable {p q : Plugin} (h : p.Alike q)
include h

theorem admission : p.admission = q.admission := by
  have hinvocation : p.invocation = q.invocation := by
    simp only [invocation, h.words, h.variant]
  have hconfig : ∀ i stdin, p.settings.dispatcher.accept i stdin =
      q.settings.dispatcher.accept i stdin := by
    intro i stdin
    have hv : p.settings.dispatcher.variant = q.settings.dispatcher.variant := h.variant
    rw [Dispatcher.accept, Dispatcher.accept, hv]
  simp only [Plugin.admission, accept, hinvocation, h.stdin, hconfig]

theorem exchange (i : Invocation) (deliveries : List Delivery) :
    p.exchange i deliveries = q.exchange i deliveries := by
  simp only [Plugin.exchange, Dispatcher.questions, Settings.dispatcher, h.machine, h.variant]

/-- The same program is run in both, if one is. -/
theorem started_unique {m m' : Mail} {b b' : Behaviour} (hs : p.started m = .ok b)
    (hs' : q.started m' = .ok b') : b = b' := by
  obtain ⟨found, hf, _, rfl⟩ := started_eq_ok_iff.1 hs
  obtain ⟨found', hf', _, rfl⟩ := started_eq_ok_iff.1 hs'
  rw [((h.finds _).1 hf).unique hf']

theorem result_congr_of_due {i : Invocation} {config : MailConfig}
    (ha : p.admission = .ok (i, config)) (hp : Due config.trigger i.exitStatus)
    (hposted : p.posted i config = q.posted i config) : p.finish.result = q.finish.result := by
  have ha' : q.admission = .ok (i, config) := h.admission ▸ ha
  cases hs : p.started (p.mail i config) with
  | error e =>
    rw [posted_of_error hs] at hposted
    cases hs' : q.started (q.mail i config) with
    | error e' =>
      rw [result_eq (finish_of_unsent ha hp hs), result_eq (finish_of_unsent ha' hp hs'),
        h.exchange]
    | ok b =>
      rw [posted_of_ok hs'] at hposted
      cases hposted
  | ok b =>
    rw [posted_of_ok hs] at hposted
    cases hs' : q.started (q.mail i config) with
    | error e =>
      rw [posted_of_error hs'] at hposted
      cases hposted
    | ok b' =>
      rw [posted_of_ok hs', Option.some.injEq] at hposted
      rw [result_eq (finish_of_sent ha hp hs), result_eq (finish_of_sent ha' hp hs'),
        h.exchange, hposted, h.started_unique hs hs']

theorem result_congr
    (hposted : ∀ i config, p.admission = .ok (i, config) → Due config.trigger i.exitStatus →
      p.posted i config = q.posted i config) : p.finish.result = q.finish.result := by
  cases ha : p.admission with
  | error f =>
    have ha' : q.admission = .error f := h.admission ▸ ha
    rw [result_eq (finish_of_refusal ha), result_eq (finish_of_refusal ha')]
  | ok call =>
    obtain ⟨i, config⟩ := call
    have ha' : q.admission = .ok (i, config) := h.admission ▸ ha
    rcases Trigger.unknown_or_idle_or_due config.trigger i.exitStatus with hp | hp | hp
    · rw [result_eq (finish_of_unknown ha hp), result_eq (finish_of_unknown ha' hp), h.exchange]
    · rw [result_eq (finish_of_idle ha hp), result_eq (finish_of_idle ha' hp), h.exchange]
    · exact h.result_congr_of_due ha hp (hposted i config ha hp)

/-- A run is told from the other by what the mail program is given, and by nothing else. -/
theorem result_ne_iff :
    p.finish.result ≠ q.finish.result ↔
      ∃ i config, p.Admits i config ∧ Due config.trigger i.exitStatus ∧
        p.posted i config ≠ q.posted i config := by
  constructor
  · intro hne
    by_contra hnone
    refine hne (h.result_congr fun i config ha hp => ?_)
    by_contra hposted
    exact hnone ⟨i, config, admits_of_due ha hp, hp, hposted⟩
  · rintro ⟨i, config, hadmits, hp, hposted⟩ heq
    have ha := hadmits.admission
    have ha' : q.admission = .ok (i, config) := h.admission ▸ ha
    exact hposted (by rw [posted_of_due ha hp, heq, posted_of_due ha' hp])

theorem posted_ne_iff (hs : p.settings = q.settings) (i : Invocation) (config : MailConfig) :
    p.posted i config ≠ q.posted i config ↔
      ∃ found, p.Finds found ∧
        ¬ (p.Carries found.path (p.mail i config) ↔ q.Carries found.path (q.mail i config)) := by
  have hmail : p.mail i config = q.mail i config := by
    simp only [mail, hs, h.machine]
  constructor
  · intro hne
    by_cases hf : ∃ found, p.Finds found
    · obtain ⟨found, hfound⟩ := hf
      refine ⟨found, hfound, fun hc => hne ?_⟩
      rw [posted_of_finds hfound, posted_of_finds ((h.finds found).1 hfound), hmail]
      rw [hmail] at hc
      simp only [hc]
    · have hf' : ∀ found, ¬ q.Finds found := fun found hb => hf ⟨found, (h.finds found).2 hb⟩
      exact absurd ((posted_of_unfound (not_exists.1 hf) i config).trans
        (posted_of_unfound hf' i config).symm) hne
  · rintro ⟨found, hfound, hc⟩
    rw [posted_of_finds hfound, posted_of_finds ((h.finds found).1 hfound), hmail]
    rw [hmail] at hc
    by_cases hp : p.Carries found.path (q.mail i config) <;>
      by_cases hq : q.Carries found.path (q.mail i config) <;> simp_all

end Alike

end Plugin

/-! ## Blank variables -/

namespace Start

/-- The settings that the plugin reads from variables, its mail program apart. -/
def optionalVariables : List String :=
  [Settings.senderVariable, Settings.variantVariable]

theorem sign_not_mem {names : List String} (h : names ⊆ optionalVariables) :
    ∀ n ∈ names, '=' ∉ n.toList := by
  have hall : ∀ n ∈ optionalVariables, '=' ∉ n.toList := by decide
  exact fun n hn => hall n (h hn)

theorem text?_of_loaded {s : Start} {p : Plugin} {n v : String} (hp : s.plugin? = some p)
    (hn : '=' ∉ n.toList) (h : s.environment.text? n = some v) :
    p.environment.text? n = some v := by
  obtain ⟨e, he, rfl⟩ := plugin?_eq_some_iff.1 hp
  rw [fullEnvironment?] at he
  cases hf : s.envFile with
  | none =>
    rw [hf] at he
    cases he
    exact h
  | some text =>
    rw [hf] at he
    exact EnvFile.text?_apply hn h he

theorem value?_of_loaded {s : Start} {p : Plugin} {n : String} (hp : s.plugin? = some p)
    (hn : '=' ∉ n.toList) (h : s.environment.IsBlank n) :
    Settings.value? p.environment.text? n = none := by
  obtain ⟨v, hv, hblank⟩ := h
  exact Settings.value?_of_blank (text?_of_loaded hp hn hv) hblank

/-- The file has no reference to any of some names. -/
def RefersToNone (s : Start) (names : List String) : Prop :=
  ∀ text, s.envFile = some text → ∀ name ∈ names, ¬ EnvFile.Refers text.toList name

section Loaded

variable {s : Start} {names : List String} {p q : Plugin} (hp : s.plugin? = some p)
  (hq : (s.without names).plugin? = some q)
include hp

theorem settings_blank (hnames : names ⊆ optionalVariables)
    (hblank : ∀ n ∈ names, s.environment.IsBlank n) :
    p.settings = p.settings.withDefaults names := by
  have hmail : Settings.mailProgramVariable ∉ names := fun h => absurd (hnames h) (by decide)
  refine Settings.read_withDefaults hmail (fun _ _ _ => rfl) fun n hn => ?_
  exact value?_of_loaded hp (sign_not_mem hnames n hn) (hblank n hn)

include hq

theorem environment_without (hnames : ∀ n ∈ names, '=' ∉ n.toList) (hr : s.RefersToNone names) :
    p.environment.without names = q.environment.without names := by
  obtain ⟨e, he, rfl⟩ := plugin?_eq_some_iff.1 hp
  obtain ⟨d, hd, rfl⟩ := plugin?_eq_some_iff.1 hq
  rw [fullEnvironment?] at he hd
  cases hf : s.envFile with
  | none =>
    rw [hf] at he
    rw [show (s.without names).envFile = none from hf] at hd
    cases he
    cases hd
    exact (s.environment.without_without names).symm
  | some text =>
    rw [hf] at he
    rw [show (s.without names).envFile = some text from hf] at hd
    exact EnvFile.without_apply hnames (hr text hf) he hd

theorem settings_without (hnames : names ⊆ optionalVariables)
    (hblank : ∀ n ∈ names, s.environment.IsBlank n) (hr : s.RefersToNone names) :
    p.settings = q.settings.withDefaults names := by
  have hmail : Settings.mailProgramVariable ∉ names := fun h => absurd (hnames h) (by decide)
  have hsign := sign_not_mem hnames
  refine Settings.read_withDefaults hmail (fun n hn hmem => ?_) fun n hn => ?_
  · refine Environment.text?_congr (environment_without hp hq hsign hr) fun m hm => ?_
    exact Environment.apart_of_ne hn (hsign m hm) (ne_of_mem_of_not_mem hm hmem).symm
  · exact value?_of_loaded hp (hsign n hn) (hblank n hn)

theorem machine_without : p.machine = q.machine := by
  obtain ⟨e, _, rfl⟩ := plugin?_eq_some_iff.1 hp
  obtain ⟨d, _, rfl⟩ := plugin?_eq_some_iff.1 hq
  rfl

theorem finds_without (hnames : names ⊆ optionalVariables)
    (hblank : ∀ n ∈ names, s.environment.IsBlank n) (hr : s.RefersToNone names)
    (found : Program) : p.Finds found ↔ q.Finds found := by
  have hsign := sign_not_mem hnames
  have hpath : Machine.searchPathVariable ∉ names := fun h => absurd (hnames h) (by decide)
  have hoctets : p.environment.octets? Machine.searchPathVariable =
      q.environment.octets? Machine.searchPathVariable := by
    refine Environment.octets?_congr (environment_without hp hq hsign hr) fun m hm => ?_
    exact Environment.apart_of_ne (by decide) (hsign m hm) (ne_of_mem_of_not_mem hm hpath).symm
  have hprogram : p.settings.mailProgram = q.settings.mailProgram := by
    rw [settings_without hp hq hnames hblank hr]
    rfl
  refine Plugin.finds_congr (machine_without hp hq) ?_ hprogram found
  simp only [Machine.searchPath, hoctets]

theorem alike_without (hv : p.settings.variant = q.settings.variant)
    (hf : ∀ found, p.Finds found ↔ q.Finds found) : p.Alike q := by
  have hm : p.machine = q.machine := machine_without hp hq
  obtain ⟨e, _, rfl⟩ := plugin?_eq_some_iff.1 hp
  obtain ⟨d, _, rfl⟩ := plugin?_eq_some_iff.1 hq
  exact ⟨rfl, rfl, hm, hv, hf⟩

end Loaded

/-- A run that goes to its end is told from one that breaks off. -/
theorem result_eq_brokenOff_iff (s : Start) :
    s.finish.result = (101, [], [], []) ↔ s.BreaksOff := by
  by_cases h : s.BreaksOff
  · rw [finish_of_breaksOff h]
    exact iff_of_true rfl h
  · obtain ⟨p, hp⟩ := exists_plugin h
    rw [finish_of_loaded hp]
    exact iff_of_false p.result_ne_brokenOff h

theorem result_ne_iff_of_brokenOff {s s' : Start} (h : s.BreaksOff ∨ s'.BreaksOff) :
    s.finish.result ≠ s'.finish.result ↔ ¬ (s.BreaksOff ↔ s'.BreaksOff) := by
  rcases h with h | h
  · rw [(result_eq_brokenOff_iff s).2 h, ← result_eq_brokenOff_iff s']
    simp [h, eq_comm]
  · rw [(result_eq_brokenOff_iff s').2 h, ← result_eq_brokenOff_iff s]
    simp [h]

/-- Blank variables have their defaults, whatever the file sets them to, and as long as the file
does not refer to them all else is as in the run in which they are not set. If the file makes the
variant another one, the two runs differ just when the command line is a call in either variant. If
it does not, and the mail program is the same, they differ just when a mail is due and the program
is given another one, or is given one in a single run; and if it changes no setting, only room can
be the cause. If one of the runs breaks off, they differ just when the other one does not. -/
theorem finish_blank (s : Start) (names : List String) (hnames : names ⊆ optionalVariables)
    (hblank : ∀ n ∈ names, s.environment.IsBlank n) :
    let t := s.without names
    let differ := s.finish.result ≠ t.finish.result
    (s.BreaksOff ∨ t.BreaksOff → (differ ↔ ¬ (s.BreaksOff ↔ t.BreaksOff))) ∧
    (∀ p, s.plugin? = some p → p.settings = p.settings.withDefaults names) ∧
    ∀ p q, s.plugin? = some p → t.plugin? = some q →
      (s.RefersToNone names →
        p.settings = q.settings.withDefaults names ∧ ∀ found, p.Finds found ↔ q.Finds found) ∧
      (p.settings.variant ≠ q.settings.variant → (differ ↔ ∃ i, p.Makes i ∨ q.Makes i)) ∧
      (p.settings.variant = q.settings.variant → (∀ found, p.Finds found ↔ q.Finds found) →
        (differ ↔ ∃ i config, p.Admits i config ∧ Due config.trigger i.exitStatus ∧
          p.posted i config ≠ q.posted i config)) ∧
      (p.settings = q.settings → (∀ found, p.Finds found ↔ q.Finds found) →
        (differ ↔ ∃ i config found, p.Admits i config ∧ Due config.trigger i.exitStatus ∧
          p.Finds found ∧
          ¬ (p.Carries found.path (p.mail i config) ↔
            q.Carries found.path (q.mail i config)))) := by
  intro t differ
  refine ⟨result_ne_iff_of_brokenOff, fun p hp => settings_blank hp hnames hblank, ?_⟩
  intro p q hp hq
  have hdiffer : differ = (p.finish.result ≠ q.finish.result) := by
    show (s.finish.result ≠ t.finish.result) = _
    rw [finish_of_loaded hp, finish_of_loaded hq]
  rw [hdiffer]
  have hwords : p.words = q.words := (words_of_loaded hp).trans (words_of_loaded hq).symm
  refine ⟨fun hr => ⟨settings_without hp hq hnames hblank hr,
    finds_without hp hq hnames hblank hr⟩, Plugin.result_ne_iff_makes hwords,
    fun hv hf => (alike_without hp hq hv hf).result_ne_iff, ?_⟩
  intro hs hf
  have h := alike_without hp hq (congrArg Settings.variant hs) hf
  refine h.result_ne_iff.trans ?_
  simp only [h.posted_ne_iff hs]
  constructor
  · rintro ⟨i, config, hadmits, hp, found, hfound, hc⟩
    exact ⟨i, config, found, hadmits, hp, hfound, hc⟩
  · rintro ⟨i, config, found, hadmits, hp, hfound, hc⟩
    exact ⟨i, config, hadmits, hp, found, hfound, hc⟩

/-- A file that sets the mail program alone leaves nothing of the two variables to be seen. -/
theorem finish_blank_mailProgram :
    let s : Start := {
      words := ["42", "0", ""].map Utf8.encode
      stdin := .ok (Utf8.encode
        "\x7b\"to\":\"a\",\"subject\":\"done\",\"body\":\"b\",\"when\":\"ON_BOTH\"\x7d")
      environment := .ofBindings [("EVQ_NOTIFY_FROM", Utf8.encode " "),
        ("EVQ_NOTIFY_VARIANT", Utf8.encode "")]
      envFile := some "export EVQ_NOTIFY_MAIL_BIN=/bin/m # no sender"
      machine := ⟨fun _ => .ok ⟨7, none, none⟩, fun _ => .error .notFound,
        Machine.standardLimit⟩ }
    s.finish.result = (s.without optionalVariables).finish.result ∧ s.finish.exitCode = 7 := by
  intro s
  have hblank : ∀ n ∈ optionalVariables, s.environment.IsBlank n := by
    intro n hn
    simp only [optionalVariables, List.mem_cons, List.not_mem_nil, or_false] at hn
    rcases hn with rfl | rfl
    · exact ⟨" ", by decide +kernel, by decide⟩
    · exact ⟨"", by decide +kernel, by decide⟩
  have hr : s.RefersToNone optionalVariables := by
    rintro text h
    cases h
    decide +kernel
  let e : Environment := .ofBindings [("EVQ_NOTIFY_FROM", Utf8.encode " "),
    ("EVQ_NOTIFY_VARIANT", Utf8.encode ""), ("EVQ_NOTIFY_MAIL_BIN", Utf8.encode "/bin/m")]
  let e' : Environment := .ofBindings [("EVQ_NOTIFY_MAIL_BIN", Utf8.encode "/bin/m")]
  let p : Plugin := ⟨s.words, s.stdin, e, s.machine⟩
  let q : Plugin := ⟨s.words, s.stdin, e', s.machine⟩
  have hp : s.plugin? = some p := plugin?_eq_some_iff.2 ⟨e, by decide +kernel, rfl⟩
  have hq : (s.without optionalVariables).plugin? = some q :=
    plugin?_eq_some_iff.2 ⟨e', by decide +kernel, rfl⟩
  obtain ⟨hreads, _, _, hsame⟩ :=
    (s.finish_blank optionalVariables (List.Subset.refl _) hblank).2.2 p q hp hq
  have hiff := hsame (by decide +kernel) (hreads hr).2
  let i : Invocation := ⟨.extended, "42", 0, none⟩
  let config : MailConfig := ⟨"a", none, "done", "b", "ON_BOTH"⟩
  have hread : p.admission.toOption = some (i, config) := by decide +kernel
  refine ⟨?_, by decide +kernel⟩
  by_contra hne
  obtain ⟨i', config', found, hadmits, _, hfound, hc⟩ := hiff.1 hne
  rw [hadmits.admission] at hread
  cases hread
  have hmail : p.Finds ⟨Utf8.encode "/bin/m", ⟨7, none, none⟩⟩ := by
    unfold Plugin.Finds
    decide +kernel
  cases hmail.unique hfound
  exact hc (iff_of_true (by decide +kernel) (by decide +kernel))

/-- The file asks for the basic variant, which two arguments call. It has its way if the variable
is not set, and not if it is blank: the run is refused. -/
theorem finish_blank_variant :
    let s : Start := {
      words := ["42", "0"].map Utf8.encode
      stdin := .ok (Utf8.encode
        "\x7b\"to\":\"a\",\"subject\":\"s\",\"body\":\"b\",\"when\":\"ON_BOTH\"\x7d")
      environment := .ofBindings [("EVQ_NOTIFY_VARIANT", Utf8.encode "")]
      envFile := some "EVQ_NOTIFY_VARIANT=basic\n"
      machine := ⟨fun _ => .ok ⟨0, none, none⟩, fun _ => .error .notFound,
        Machine.standardLimit⟩ }
    s.environment.IsBlank Settings.variantVariable ∧
      s.finish.result = (5, [], [], []) ∧
      (s.without [Settings.variantVariable]).finish.result =
        (0, [], [], [⟨["-s", "s", "a"], Utf8.encode "b"⟩]) :=
  ⟨⟨"", by decide +kernel, by decide⟩, by decide +kernel, by decide +kernel⟩

end Start

end TaskMail
