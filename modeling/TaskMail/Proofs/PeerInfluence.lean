import TaskMail.Proofs.BestEffort
import TaskMail.Proofs.ExitCode

/-!
# TaskMail.Proofs.PeerInfluence

What the peer behind the socket can do to the exit code.

* `Start.facing`   — a start with other peers behind the sockets, and `Plugin.facing`.
* `Finish.outcome` — the exit code, and whether the mail program has been run.
* `Plugin.Finds`   — the mail program, when there is one.
* `Plugin.Carries` — whether the system passes the arguments of a mail on.

What a peer tells is put into the subject, and the subject is an argument of the mail program.
`finish_outcome_peers` says that two peers make a difference just when one subject can be passed
on and the other cannot, and `finish_outcome_nul` shows two peers that do.
-/

namespace TaskMail

def Plugin.facing (p : Plugin) (peers : Bytes → Except OsError Peer) : Plugin :=
  { p with machine := { p.machine with peerAt := peers } }

def Start.facing (s : Start) (peers : Bytes → Except OsError Peer) : Start :=
  { s with machine := { s.machine with peerAt := peers } }

def Finish.outcome (f : Finish) : Int × Bool :=
  (f.exitCode, !f.session.deliveries.isEmpty)

namespace Machine

/-- No NUL, and not too long for the program at a path. -/
def Passable (m : Machine) (e : Environment) (path : Bytes) (program : String)
    (arguments : List String) : Prop :=
  arguments.any hasNul = false ∧
    m.canPass path ((program :: arguments).map Utf8.encode ++ e.entries) = true

instance (m : Machine) (e : Environment) (path : Bytes) (program : String)
    (arguments : List String) : Decidable (Passable m e path program arguments) :=
  inferInstanceAs (Decidable (_ ∧ _))

theorem start_eq_ok_iff {m : Machine} {e : Environment} {program : String}
    {arguments : List String} {b : Behaviour} :
    m.start e program arguments = .ok b ↔
      ∃ found, (hasNul program = false ∧ m.find e (Utf8.encode program) = .ok found) ∧
        Passable m e found.path program arguments ∧ found.behaviour = b := by
  simp only [start, Passable]
  by_cases hn : (hasNul program || arguments.any hasNul) = true
  · rw [if_pos hn]
    simp only [Bool.or_eq_true] at hn
    constructor
    · intro h
      cases h
    · rintro ⟨_, ⟨hp, _⟩, ⟨ha, _⟩, _⟩
      simp [hp, ha] at hn
  · rw [if_neg hn]
    simp only [Bool.or_eq_true, not_or, Bool.not_eq_true] at hn
    cases hf : m.find e (Utf8.encode program) with
    | error error => simp
    | ok found =>
      cases hc : m.canPass found.path ((program :: arguments).map Utf8.encode ++ e.entries) <;>
        simp [hn.1, hn.2, -List.any_eq_false, -List.map_cons, hc]

theorem search_facing (m : Machine) (peers : Bytes → Except OsError Peer) (name : Bytes)
    (directories : List Bytes) (failure : OsError) :
    ({ m with peerAt := peers } : Machine).search name failure directories =
      m.search name failure directories := by
  induction directories generalizing failure with
  | nil => rfl
  | cons directory rest ih => simp only [search, programIn, ih]

theorem find_facing (m : Machine) (peers : Bytes → Except OsError Peer) (e : Environment)
    (program : Bytes) :
    ({ m with peerAt := peers } : Machine).find e program = m.find e program := by
  simp only [find, programIn, search_facing]

end Machine

namespace Plugin

def Finds (p : Plugin) (found : Program) : Prop :=
  Machine.hasNul p.settings.mailProgram = false ∧
    p.machine.find p.environment (Utf8.encode p.settings.mailProgram) = .ok found

/-- Whether the program at a path can be given a mail. -/
def Carries (p : Plugin) (path : Bytes) (mail : Mail) : Prop :=
  p.machine.Passable p.environment path p.settings.mailProgram mail.arguments

instance (p : Plugin) (path : Bytes) (mail : Mail) : Decidable (p.Carries path mail) :=
  inferInstanceAs (Decidable (Machine.Passable ..))

theorem Finds.unique {p : Plugin} {found found' : Program} (h : p.Finds found)
    (h' : p.Finds found') : found = found' :=
  Except.ok.inj (h.2.symm.trans h'.2)

theorem started_eq_ok_iff {p : Plugin} {mail : Mail} {b : Behaviour} :
    p.started mail = .ok b ↔
      ∃ found, p.Finds found ∧ p.Carries found.path mail ∧ found.behaviour = b :=
  Machine.start_eq_ok_iff

theorem started_of_carries {p : Plugin} {mail : Mail} {found : Program} (hf : p.Finds found)
    (hc : p.Carries found.path mail) : p.started mail = .ok found.behaviour :=
  started_eq_ok_iff.2 ⟨found, hf, hc, rfl⟩

theorem started_of_not_carries {p : Plugin} {mail : Mail} {found : Program} (hf : p.Finds found)
    (hc : ¬ p.Carries found.path mail) : ∃ e, p.started mail = .error e := by
  cases hs : p.started mail with
  | error e => exact ⟨e, rfl⟩
  | ok b =>
    obtain ⟨found', hf', hc', _⟩ := started_eq_ok_iff.1 hs
    exact absurd (hf.unique hf' ▸ hc') hc

theorem started_of_unfound {p : Plugin} (hf : ∀ found, ¬ p.Finds found) (mail : Mail) :
    ∃ e, p.started mail = .error e := by
  cases hs : p.started mail with
  | error e => exact ⟨e, rfl⟩
  | ok b =>
    obtain ⟨found, hfound, _⟩ := started_eq_ok_iff.1 hs
    exact absurd hfound (hf found)

/-! ## Outcomes -/

theorem outcome_of_effects {p : Plugin} {code : Int}
    {effects : List (Bytes × String) × List String × List Delivery}
    (h : p.finish.exitCode = code ∧ p.finish.session.effects = effects) :
    p.finish.outcome = (code, !effects.2.2.isEmpty) := by
  obtain ⟨hcode, heffects⟩ := h
  rw [Finish.outcome, hcode, ← heffects]
  rfl

/-- The outcome of a run whose policy calls for a mail. -/
theorem outcome_of_due {p : Plugin} {i : Invocation} {config : MailConfig}
    (h : p.admission = .ok (i, config)) (hp : Due config.trigger i.exitStatus) :
    p.finish.outcome =
      match p.started (p.mail i config) with
      | .ok b => (b.code, true)
      | .error _ => (4, false) := by
  cases hs : p.started (p.mail i config) with
  | error e => exact outcome_of_effects (finish_of_unsent h hp hs)
  | ok b => exact outcome_of_effects (finish_of_sent h hp hs)

theorem outcome_of_carried {p : Plugin} {i : Invocation} {config : MailConfig} {found : Program}
    (h : p.admission = .ok (i, config)) (hp : Due config.trigger i.exitStatus)
    (hf : p.Finds found) (hc : p.Carries found.path (p.mail i config)) :
    p.finish.outcome = (found.behaviour.code, true) := by
  rw [outcome_of_due h hp, started_of_carries hf hc]

theorem outcome_of_uncarried {p : Plugin} {i : Invocation} {config : MailConfig} {found : Program}
    (h : p.admission = .ok (i, config)) (hp : Due config.trigger i.exitStatus)
    (hf : p.Finds found) (hc : ¬ p.Carries found.path (p.mail i config)) :
    p.finish.outcome = (4, false) := by
  obtain ⟨e, hs⟩ := started_of_not_carries hf hc
  rw [outcome_of_due h hp, hs]

theorem outcome_of_unfound {p : Plugin} {i : Invocation} {config : MailConfig}
    (h : p.admission = .ok (i, config)) (hp : Due config.trigger i.exitStatus)
    (hf : ∀ found, ¬ p.Finds found) : p.finish.outcome = (4, false) := by
  obtain ⟨e, hs⟩ := started_of_unfound hf (p.mail i config)
  rw [outcome_of_due h hp, hs]

theorem outcome_ne_of_carries {p p' : Plugin} {i : Invocation} {config : MailConfig}
    {found found' : Program} (h : p.admission = .ok (i, config))
    (h' : p'.admission = .ok (i, config)) (hp : Due config.trigger i.exitStatus)
    (hf : p.Finds found) (hf' : p'.Finds found') (hc : p.Carries found.path (p.mail i config))
    (hc' : ¬ p'.Carries found'.path (p'.mail i config)) :
    p.finish.outcome ≠ p'.finish.outcome := by
  rw [outcome_of_carried h hp hf hc, outcome_of_uncarried h' hp hf' hc']
  intro he
  exact Bool.noConfusion (congrArg Prod.snd he)

/-- Runs that send no mail are told apart by their admission alone. -/
theorem outcome_congr {p p' : Plugin} (h : p.admission = p'.admission)
    (hd : ∀ i config, p.admission = .ok (i, config) → ¬ Due config.trigger i.exitStatus) :
    p.finish.outcome = p'.finish.outcome := by
  cases ha : p.admission with
  | error f =>
    rw [outcome_of_effects (finish_of_refusal ha), outcome_of_effects (finish_of_refusal (h ▸ ha))]
  | ok call =>
    obtain ⟨i, config⟩ := call
    have ha' : p'.admission = .ok (i, config) := h ▸ ha
    rcases Trigger.unknown_or_idle_or_due config.trigger i.exitStatus with hp | hp | hp
    · rw [outcome_of_effects (finish_of_unknown ha hp),
        outcome_of_effects (finish_of_unknown ha' hp)]
      rfl
    · rw [outcome_of_effects (finish_of_idle ha hp), outcome_of_effects (finish_of_idle ha' hp)]
      rfl
    · exact absurd hp (hd i config ha)

/-- The subject is all that a peer can change among the arguments. -/
theorem arguments_mail_congr {p p' : Plugin} (h : p.settings = p'.settings) (i : Invocation)
    {config : MailConfig} (hp : Plain config.subject) :
    (p.mail i config).arguments = (p'.mail i config).arguments := by
  have hs := p'.settings.dispatcher.replacedBy_congr i (p.settings.dispatcher.heard p.machine i)
    (p'.settings.dispatcher.heard p'.machine i) hp
  rw [mail, mail, Dispatcher.arguments_eq, Dispatcher.arguments_eq]
  simp only [Dispatcher.mailFor, h] at hs ⊢
  rw [hs]

/-! ## Two peers -/

variable (p : Plugin) (peers peers' : Bytes → Except OsError Peer)

theorem finds_facing {found : Program} : (p.facing peers).Finds found ↔ p.Finds found := by
  have hfind := p.machine.find_facing peers p.environment (Utf8.encode p.settings.mailProgram)
  exact and_congr_right fun _ => by rw [← hfind]; rfl

theorem finds_facing_iff {found : Program} :
    (p.facing peers).Finds found ↔ (p.facing peers').Finds found :=
  (p.finds_facing peers).trans (p.finds_facing peers').symm

theorem carries_facing (path : Bytes) {i : Invocation} {config : MailConfig}
    (hp : Plain config.subject) :
    (p.facing peers).Carries path ((p.facing peers).mail i config) ↔
      (p.facing peers').Carries path ((p.facing peers').mail i config) := by
  have hsettings : (p.facing peers).settings = (p.facing peers').settings := rfl
  rw [Carries, Carries, arguments_mail_congr hsettings i hp]
  rfl

/-- The runs with two peers end alike, or a mail is due and can be passed on in one of them
only. -/
theorem outcome_eq_or_carries :
    let q := p.facing peers
    let q' := p.facing peers'
    q.finish.outcome = q'.finish.outcome ∨
      ∃ i config found, q.admission = .ok (i, config) ∧ Due config.trigger i.exitStatus ∧
        q.Finds found ∧
        Xor (q.Carries found.path (q.mail i config)) (q'.Carries found.path (q'.mail i config)) := by
  intro q q'
  have hadm : q.admission = q'.admission := rfl
  by_cases hdue : ∃ i config, q.admission = .ok (i, config) ∧ Due config.trigger i.exitStatus
  · obtain ⟨i, config, h, hp⟩ := hdue
    have h' : q'.admission = .ok (i, config) := h
    by_cases hf : ∃ found, q.Finds found
    · obtain ⟨found, hf⟩ := hf
      have hf' : q'.Finds found := (p.finds_facing_iff peers peers').1 hf
      by_cases hc : q.Carries found.path (q.mail i config) <;>
        by_cases hc' : q'.Carries found.path (q'.mail i config)
      · left
        rw [outcome_of_carried h hp hf hc, outcome_of_carried h' hp hf' hc']
      · exact .inr ⟨i, config, found, h, hp, hf, .inl ⟨hc, hc'⟩⟩
      · exact .inr ⟨i, config, found, h, hp, hf, .inr ⟨hc', hc⟩⟩
      · left
        rw [outcome_of_uncarried h hp hf hc, outcome_of_uncarried h' hp hf' hc']
    · have hf' : ∀ found, ¬ q'.Finds found :=
        fun found hb => hf ⟨found, (p.finds_facing_iff peers peers').2 hb⟩
      left
      rw [outcome_of_unfound h hp (not_exists.1 hf), outcome_of_unfound h' hp hf']
  · exact .inl (outcome_congr hadm fun i config h hp => hdue ⟨i, config, h, hp⟩)

theorem outcome_ne_iff :
    let q := p.facing peers
    let q' := p.facing peers'
    q.finish.outcome ≠ q'.finish.outcome ↔
      ∃ i config found, q.Admits i config ∧ Due config.trigger i.exitStatus ∧ q.Finds found ∧
        ¬ (q.Carries found.path (q.mail i config) ↔ q'.Carries found.path (q'.mail i config)) := by
  intro q q'
  simp only [← xor_iff_not_iff]
  constructor
  · intro hne
    obtain heq | ⟨i, config, found, h, hp, hf, hc⟩ := p.outcome_eq_or_carries peers peers'
    · exact absurd heq hne
    · exact ⟨i, config, found, admits_of_due h hp, hp, hf, hc⟩
  · rintro ⟨i, config, found, ha, hp, hf, hc⟩
    have h : q.admission = .ok (i, config) := ha.admission
    have h' : q'.admission = .ok (i, config) := h
    have hf' : q'.Finds found := (p.finds_facing_iff peers peers').1 hf
    obtain ⟨hc, hc'⟩ | ⟨hc', hc⟩ := hc
    · exact outcome_ne_of_carries h h' hp hf hf' hc hc'
    · exact (outcome_ne_of_carries h' h hp hf' hf hc' hc).symm

theorem outcome_of_plain {i : Invocation} {config : MailConfig}
    (ha : (p.facing peers).Admits i config) (hplain : Plain config.subject) :
    (p.facing peers).finish.outcome = (p.facing peers').finish.outcome := by
  obtain heq | ⟨i', config', found, h, _, _, hc⟩ := p.outcome_eq_or_carries peers peers'
  · exact heq
  · rw [ha.admission] at h
    cases h
    exact absurd (p.carries_facing peers peers' found.path hplain) ((xor_iff_not_iff _ _).1 hc)

theorem outcome_eq_or_unsent :
    (p.facing peers).finish.outcome = (p.facing peers').finish.outcome ∨
      (p.facing peers).finish.outcome = (4, false) ∨
      (p.facing peers').finish.outcome = (4, false) := by
  obtain heq | ⟨i, config, found, h, hp, hf, hc⟩ := p.outcome_eq_or_carries peers peers'
  · exact .inl heq
  · have h' : (p.facing peers').admission = .ok (i, config) := h
    have hf' : (p.facing peers').Finds found := (p.finds_facing_iff peers peers').1 hf
    obtain ⟨_, hc'⟩ | ⟨_, hc⟩ := hc
    · exact .inr (.inr (outcome_of_uncarried h' hp hf' hc'))
    · exact .inr (.inl (outcome_of_uncarried h hp hf hc))

end Plugin

namespace Start

theorem plugin?_facing (s : Start) (peers : Bytes → Except OsError Peer) :
    (s.facing peers).plugin? = s.plugin?.map fun p => p.facing peers := by
  rw [plugin?, plugin?, Option.map_map]
  rfl

theorem finish_facing {s : Start} {p : Plugin} (h : s.plugin? = some p)
    (peers : Bytes → Except OsError Peer) :
    (s.facing peers).finish = (p.facing peers).finish :=
  finish_of_loaded (by rw [plugin?_facing, h]; rfl)

theorem finish_facing_of_breaksOff {s : Start} (h : s.BreaksOff)
    (peers peers' : Bytes → Except OsError Peer) :
    (s.facing peers).finish = (s.facing peers').finish := by
  have hbreaks : ∀ peers, (s.facing peers).BreaksOff := fun _ => h
  rw [finish_of_breaksOff (hbreaks peers), finish_of_breaksOff (hbreaks peers')]

/-- Two peers lead to different outcomes just when a mail is due, the mail program is there, and
only one of the two mails can be passed on to it. They do not if the subject mentions no token of
the workflow, and where they do, one of the runs ends with 4 and without a mail. -/
theorem finish_outcome_peers (s : Start) (peers peers' : Bytes → Except OsError Peer) :
    let outcome := (s.facing peers).finish.outcome
    let outcome' := (s.facing peers').finish.outcome
    (outcome ≠ outcome' ↔
      ∃ p p', (s.facing peers).plugin? = some p ∧ (s.facing peers').plugin? = some p' ∧
      ∃ i config found, p.Admits i config ∧ Due config.trigger i.exitStatus ∧ p.Finds found ∧
        ¬ (p.Carries found.path (p.mail i config) ↔ p'.Carries found.path (p'.mail i config))) ∧
    (∀ p i config, (s.facing peers).plugin? = some p → p.Admits i config → Plain config.subject →
      outcome = outcome') ∧
    (outcome = outcome' ∨ outcome = (4, false) ∨ outcome' = (4, false)) := by
  intro outcome outcome'
  cases hs : s.plugin? with
  | none =>
    have heq : outcome = outcome' :=
      congrArg Finish.outcome
        (finish_facing_of_breaksOff (plugin?_eq_none_iff.1 hs) peers peers')
    refine ⟨⟨fun hne => absurd heq hne, ?_⟩, fun _ _ _ _ _ _ => heq, .inl heq⟩
    rintro ⟨p, _, hp, _⟩
    rw [plugin?_facing, hs] at hp
    cases hp
  | some q =>
    have hplugin : ∀ peers, (s.facing peers).plugin? = some (q.facing peers) := fun peers => by
      rw [plugin?_facing, hs]
      rfl
    have hoq : outcome = (q.facing peers).finish.outcome :=
      congrArg Finish.outcome (finish_facing hs peers)
    have hoq' : outcome' = (q.facing peers').finish.outcome :=
      congrArg Finish.outcome (finish_facing hs peers')
    rw [hoq, hoq', hplugin, hplugin]
    refine ⟨(q.outcome_ne_iff peers peers').trans ?_, ?_, q.outcome_eq_or_unsent peers peers'⟩
    · constructor
      · intro h
        exact ⟨_, _, rfl, rfl, h⟩
      · rintro ⟨_, _, hp, hp', h⟩
        cases hp
        cases hp'
        exact h
    · intro _ i config hp ha hplain
      cases hp
      exact q.outcome_of_plain peers peers' ha hplain

/-- What a workflow is called shows in the body alone, so it may hold a NUL. -/
theorem finish_outcome_peers_body :
    let s : Start := {
      words := ["42", "0", "/run/evq.sock"].map Utf8.encode
      stdin := .ok (Utf8.encode
        "\x7b\"to\":\"a\",\"subject\":\"done\",\"body\":\"#NAME#\",\"when\":\"ON_BOTH\"\x7d")
      environment := .ofBindings []
      envFile := none
      machine := ⟨fun _ => .ok ⟨7, none, none⟩, fun _ => .error .notFound,
        Machine.standardLimit⟩ }
    let silent : Bytes → Except OsError Peer := fun _ => .ok .resets
    let nul : Bytes → Except OsError Peer :=
      fun _ => .ok (.responds (Utf8.encode "<workflow name=\"a\x00b\" />"))
    (s.facing silent).finish.outcome = (s.facing nul).finish.outcome ∧
      (s.facing silent).finish.session.deliveries ≠ (s.facing nul).finish.session.deliveries := by
  intro s silent nul
  let i : Invocation := ⟨.extended, "42", 0, some "/run/evq.sock"⟩
  let config : MailConfig := ⟨"a", none, "done", "#NAME#", "ON_BOTH"⟩
  let p : Plugin := ⟨s.words, s.stdin, s.environment, (s.facing silent).machine⟩
  have hplugin : (s.facing silent).plugin? = some p := rfl
  have hadmission : p.admission = .ok (i, config) := by rfl
  have hadmits := Plugin.admits_of_admission hadmission (by decide)
  have hplain : Plain config.subject := by
    unfold Plain
    decide
  exact ⟨(s.finish_outcome_peers silent nul).2.1 p i config hplugin hadmits hplain,
    by decide +kernel⟩

/-- A NUL in the name of a workflow keeps the mail from being sent when the subject asks for the
name, and the engine that does not answer lets it be sent. -/
theorem finish_outcome_nul :
    let s : Start := {
      words := ["42", "0", "/run/evq.sock"].map Utf8.encode
      stdin := .ok (Utf8.encode
        "\x7b\"to\":\"a\",\"subject\":\"#NAME#\",\"body\":\"done\",\"when\":\"ON_BOTH\"\x7d")
      environment := .ofBindings []
      envFile := none
      machine := ⟨fun _ => .ok ⟨0, none, none⟩, fun _ => .error .notFound,
        Machine.standardLimit⟩ }
    let silent : Bytes → Except OsError Peer := fun _ => .ok .resets
    let nul : Bytes → Except OsError Peer :=
      fun _ => .ok (.responds (Utf8.encode "<workflow name=\"a\x00b\" />"))
    (s.facing silent).finish.outcome = (0, true) ∧
      (s.facing nul).finish.outcome = (4, false) := by
  decide +kernel

end Start
end TaskMail
