import TaskMail.Proofs.Leads
import TaskMail.Proofs.RunPaths

/-!
# TaskMail.Proofs.Truncation

A text that goes on behind a configuration, and one that ends too early.

* `read_eq_ok_iff` — a text has a value when it leads the reader to a state that has it.
* `IsNumber`       — the reader is at a number that nothing encloses, or behind it.
* `Blank`          — white space between the tokens of a text.

A complete value that is no number leaves the reader in one state, which takes white space and
nothing else. `decode_append` draws the conclusions: no text that a configuration is read from is
the beginning of a text with another configuration, or of one that is refused for its fields.
-/

namespace TaskMail
namespace Json

/-! ## Reading by states -/

theorem leads_feed {p : Position} {s : State} {text : Bytes} {r : Reader} :
    Leads Reader.feed ⟨p, s⟩ text r ↔
      Leads State.step s text r.state ∧ r.position = text.foldl Position.advance p := by
  induction text generalizing p s with
  | nil =>
    simp only [leads_nil_iff, List.foldl_nil]
    constructor
    · rintro rfl
      exact ⟨rfl, rfl⟩
    · rintro ⟨rfl, rfl⟩
      rfl
  | cons b rest ih =>
    simp only [leads_cons_iff, Reader.feed, List.foldl_cons]
    cases s.step b with
    | error f => simp
    | ok t =>
      simp only [Except.ok.injEq, exists_eq_left', ih]

theorem read_eq_ok_iff {text : Bytes} {v : Value} :
    read text = .ok v ↔ ∃ s, Leads State.step (.value []) text s ∧ s.finish = .ok v := by
  have hfinish : ∀ r : Reader, r.finish = .ok v ↔ r.state.finish = .ok v := by
    intro r
    rw [Reader.finish]
    cases r.state.finish <;> simp
  rw [read]
  constructor
  · intro h
    split at h
    · next r hr =>
      have hleads : Leads Reader.feed ⟨.start, .value []⟩ text r := hr
      exact ⟨r.state, (leads_feed.1 hleads).1, (hfinish r).1 h⟩
    · cases h
  · rintro ⟨s, hs, hf⟩
    have hleads : Leads Reader.feed Reader.start text ⟨text.foldl Position.advance .start, s⟩ :=
      leads_feed.2 ⟨hs, rfl⟩
    rw [Leads] at hleads
    rw [hleads]
    exact (hfinish _).2 hf

/-! ## Behind a complete value -/

/-- Space, tab, line feed and carriage return. -/
def Blank (text : Bytes) : Prop :=
  ∀ b ∈ text, b ∈ ([0x20, 0x09, 0x0A, 0x0D] : Bytes)

theorem isSpace_iff {b : UInt8} : isSpace b = true ↔ b ∈ ([0x20, 0x09, 0x0A, 0x0D] : Bytes) := by
  simp only [isSpace, Bool.or_eq_true, beq_iff_eq, List.mem_cons, List.not_mem_nil, or_false]
  grind

theorem blank_iff {text : Bytes} : Blank text ↔ text.all isSpace = true := by
  rw [Blank, List.all_eq_true]
  simp only [isSpace_iff]

instance (text : Bytes) : Decidable (Blank text) :=
  decidable_of_iff _ blank_iff.symm

/-- Behind a complete text there is white space or nothing. -/
theorem leads_after_iff {v : Value} {text : Bytes} {s : State} :
    Leads State.step (.after v []) text s ↔ s = .after v [] ∧ Blank text := by
  induction text with
  | nil => simp [leads_nil_iff, Blank, eq_comm]
  | cons b rest ih =>
    have hstep : State.step (.after v []) b =
        if isSpace b then .ok (.after v []) else refuse .trailingCharacters := rfl
    rw [leads_cons_iff, hstep]
    by_cases hb : isSpace b = true
    · simp only [hb, if_true, Except.ok.injEq, exists_eq_left', ih, Blank, List.forall_mem_cons,
        isSpace_iff.1 hb, true_and]
    · have hn : b ∉ ([0x20, 0x09, 0x0A, 0x0D] : Bytes) := fun h => hb (isSpace_iff.2 h)
      simp only [hb, refuse, Blank, List.forall_mem_cons, hn, false_and, and_false]
      simp

theorem finish_eq_object_iff {s : State} {fields : List (String × Value)} :
    s.finish = .ok (.object fields) ↔ s = .after (.object fields) [] := by
  constructor
  · intro h
    cases s with
    | after v stack =>
      cases stack with
      | nil => cases h; rfl
      | cons frame rest => cases frame <;> cases h
    | number scan stack =>
      simp only [State.finish] at h
      split at h
      · cases h
      · cases stack with
        | nil => cases h
        | cons frame rest => cases frame <;> cases h
    | _ => cases h
  · rintro rfl
    rfl

/-! ## Numbers -/

inductive IsNumber : State → Prop where
  | within (scan : NumberScan) : IsNumber (.number scan [])
  | behind (n : Number) : IsNumber (.after (.number n) [])

theorem IsNumber.step {s t : State} {b : UInt8} (h : IsNumber s) (hs : s.step b = .ok t) :
    IsNumber t := by
  have hleave : ∀ n, State.leave (.number n) [] b = .ok t → IsNumber t := by
    intro n hn
    rw [State.leave] at hn
    split at hn
    · cases hn
      exact .behind n
    · cases hn
  cases h with
  | within scan =>
    simp only [State.step] at hs
    split at hs
    · cases hs
    · cases hs
      exact .within _
    · split at hs
      · cases hs
      · exact hleave _ hs
  | behind n => exact hleave n hs

theorem IsNumber.finish {s : State} {v : Value} (h : IsNumber s) (hv : s.finish = .ok v) :
    ∃ n, v = .number n := by
  cases h with
  | within scan =>
    simp only [State.finish] at hv
    split at hv
    · cases hv
    · next n _ =>
      cases hv
      exact ⟨n, rfl⟩
  | behind n =>
    cases hv
    exact ⟨n, rfl⟩

/-- Where a text may end that nothing encloses. -/
theorem after_or_isNumber {s : State} {v : Value} (h : s.finish = .ok v) :
    s = .after v [] ∨ IsNumber s := by
  cases s with
  | after v' stack =>
    cases stack with
    | nil => cases h; exact .inl rfl
    | cons frame rest => cases frame <;> cases h
  | number scan stack =>
    cases stack with
    | nil => exact .inr (.within scan)
    | cons frame rest =>
      simp only [State.finish] at h
      split at h
      · cases h
      · cases frame <;> cases h
  | _ => cases h

end Json

/-! ## Configurations -/

namespace MailConfig

open Json

theorem decode_eq_ok_of_leads {text : Bytes} {c : MailConfig} {s : State}
    (h : Leads State.step (.value []) text s) :
    decode text = .ok c ↔ ∃ fields, s = .after (.object fields) [] ∧ Says fields c := by
  rw [decode_eq_ok_iff]
  constructor
  · rintro ⟨fields, hread, hsays⟩
    obtain ⟨s', hs', hf⟩ := read_eq_ok_iff.1 hread
    exact ⟨fields, h.unique hs' ▸ finish_eq_object_iff.1 hf, hsays⟩
  · rintro ⟨fields, rfl, hsays⟩
    exact ⟨fields, read_eq_ok_iff.2 ⟨_, h, rfl⟩, hsays⟩

theorem decode_malformed {text : Bytes} (h : ∀ v, read text ≠ .ok v) :
    ∃ e, decode text = .error (.malformed e) := by
  cases hr : read text with
  | ok v => exact absurd hr (h v)
  | error e => exact ⟨e, decode_eq_malformed_iff.2 hr⟩

theorem decode_append_blank {p s : Bytes} {c : MailConfig} (h : decode p = .ok c)
    (hs : Blank s) : decode (p ++ s) = .ok c := by
  obtain ⟨fields, hread, hsays⟩ := decode_eq_ok_iff.1 h
  obtain ⟨t, ht, hf⟩ := read_eq_ok_iff.1 hread
  rw [finish_eq_object_iff] at hf
  subst hf
  have hleads := ht.append (leads_after_iff.2 ⟨rfl, hs⟩)
  exact (decode_eq_ok_of_leads hleads).2 ⟨fields, rfl, hsays⟩

theorem decode_append_more {p s : Bytes} {c : MailConfig} (h : decode p = .ok c)
    (hs : ¬ Blank s) : ∃ e, decode (p ++ s) = .error (.malformed e) := by
  obtain ⟨fields, hread, _⟩ := decode_eq_ok_iff.1 h
  obtain ⟨t, ht, hf⟩ := read_eq_ok_iff.1 hread
  rw [finish_eq_object_iff] at hf
  subst hf
  refine decode_malformed fun v hv => ?_
  obtain ⟨u, hu, _⟩ := read_eq_ok_iff.1 hv
  obtain ⟨t', ht', hu'⟩ := leads_append_iff.1 hu
  rw [ht'.unique ht] at hu'
  exact hs (leads_after_iff.1 hu').2

/-- What a configuration begins with is that configuration, or no document. -/
theorem decode_of_append {q s : Bytes} {c : MailConfig} (h : decode (q ++ s) = .ok c) :
    decode q = .ok c ∨ ∃ e, decode q = .error (.malformed e) := by
  obtain ⟨fields, hread, hsays⟩ := decode_eq_ok_iff.1 h
  obtain ⟨u, hu, hf⟩ := read_eq_ok_iff.1 hread
  rw [finish_eq_object_iff] at hf
  subst hf
  obtain ⟨t, ht, hrest⟩ := leads_append_iff.1 hu
  cases hq : read q with
  | error e => exact .inr ⟨e, decode_eq_malformed_iff.2 hq⟩
  | ok v =>
    obtain ⟨t', ht', hv⟩ := read_eq_ok_iff.1 hq
    rw [ht'.unique ht] at hv
    rcases after_or_isNumber hv with rfl | hn
    · obtain ⟨hafter, _⟩ := leads_after_iff.1 hrest
      exact .inl ((decode_eq_ok_of_leads ht).2 ⟨fields, hafter.symm, hsays⟩)
    · -- A number stays one however it goes on.
      have hend := hrest.invariant (fun _ _ _ => IsNumber.step) hn
      obtain ⟨n, hobject⟩ := hend.finish rfl
      cases hobject

end MailConfig

namespace Dispatcher

/-- The run on a part of the input is the run on the whole, or is refused before anything is
done. -/
theorem run_of_append (d : Dispatcher) {σ : Type} (c : Collaborators σ) (i : Invocation)
    {q s : Bytes} {config : MailConfig} (h : MailConfig.decode (q ++ s) = .ok config) (state : σ) :
    d.run c i q state = d.run c i (q ++ s) state ∨
      ∃ f, d.run c i q state = (.error f, state) ∧ f.exitCode = if q = [] then 1 else 2 := by
  by_cases hv : i.variant = d.variant
  · by_cases hq : q = []
    · right
      refine ⟨.read .empty, run_of_reject ?_ c state, by rw [if_pos hq]; rfl⟩
      simp [accept, hv, hq]
    · have hne : q ++ s ≠ [] := by simp [hq]
      rcases MailConfig.decode_of_append h with hd | ⟨e, hd⟩
      · left
        have ha : d.accept i q = .ok config := accept_eq_ok_iff.2 ⟨hv, hq, hd⟩
        have ha' : d.accept i (q ++ s) = .ok config := accept_eq_ok_iff.2 ⟨hv, hne, h⟩
        rw [run_of_accept ha, run_of_accept ha']
      · right
        refine ⟨.config (.malformed e), run_of_reject ?_ c state, by rw [if_neg hq]; rfl⟩
        simp [accept, hv, hq, hd, mapError_error]
  · left
    have hr : ∀ input, d.accept i input = .error (.invocation (.mismatch i.variant d.variant)) :=
      fun input => by rw [accept, if_pos hv]
    rw [run_of_reject (hr q), run_of_reject (hr (q ++ s))]

end Dispatcher

namespace MailConfig

/-- Behind a configuration there may be white space, and whatever else is there makes the whole no
document. A part of the input of a run, from the beginning on, is as good as the whole, or it is
no document: with 2, or with 1 if it is empty, the run ends before anything is done. -/
theorem decode_append (p s : Bytes) (c : MailConfig) (h : decode p = .ok c) :
    (Json.Blank s → decode (p ++ s) = .ok c) ∧
    (¬ Json.Blank s → ∃ e, decode (p ++ s) = .error (.malformed e)) ∧
    ∀ q, q <+: p →
      (decode q = .ok c ∨ ∃ e, decode q = .error (.malformed e) ∧
        (Failure.config (.malformed e)).exitCode = 2) ∧
      ∀ (σ : Type) (d : Dispatcher) (collaborators : Collaborators σ) (i : Invocation) (state : σ),
        d.run collaborators i q state = d.run collaborators i p state ∨
          ∃ f, d.run collaborators i q state = (.error f, state) ∧
            f.exitCode = if q = [] then 1 else 2 := by
  refine ⟨decode_append_blank h, decode_append_more h, ?_⟩
  rintro q ⟨rest, rfl⟩
  refine ⟨?_, fun σ d collaborators i state => d.run_of_append collaborators i h state⟩
  rcases decode_of_append h with hd | ⟨e, hd⟩
  · exact .inl hd
  · exact .inr ⟨e, hd, rfl⟩

/-- A configuration cut within a character of its body, and the same one with a line end and a
second closing brace behind it. -/
theorem decode_append_cut :
    let text := fun body => Utf8.encode
      "\x7b\"to\":\"a\",\"subject\":\"\",\"when\":\"ON_BOTH\",\"body\":\"" ++ body
    let p := text (Utf8.encode "é\"\x7d")
    let c : MailConfig := ⟨"a", none, "", "é", "ON_BOTH"⟩
    decode p = .ok c ∧ decode (p ++ Utf8.encode "\r\n") = .ok c ∧
      (∃ e, decode (p ++ Utf8.encode "\n\x7d") = .error (.malformed e)) ∧
      ∃ e, decode (text [0xC3]) = .error (.malformed e) := by
  intro text p c
  have hp : decode p = .ok c := by rfl
  have hcut : text [0xC3] <+: p := by decide
  refine ⟨hp, (decode_append p _ c hp).1 (by decide),
    (decode_append p _ c hp).2.1 (by decide), ?_⟩
  rcases ((decode_append p [] c hp).2.2 _ hcut).1 with hd | ⟨e, he, _⟩
  · cases hd
  · exact ⟨e, he⟩

end MailConfig
end TaskMail
