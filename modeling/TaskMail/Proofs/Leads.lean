/-!
# TaskMail.Proofs.Leads

Readers that take one item of their input at a time and may refuse it.

* `Leads step s input t` — the input leads a reader with that step from `s` to `t`.

Inputs that follow on each other are composed by `Leads.append` and taken apart by
`leads_append_iff`.
-/

namespace TaskMail

variable {ε σ β : Type} {step : σ → β → Except ε σ}

def Leads (step : σ → β → Except ε σ) (s : σ) (input : List β) (t : σ) : Prop :=
  input.foldlM step s = .ok t

theorem leads_nil_iff {s t : σ} : Leads step s [] t ↔ s = t := by
  rw [Leads, List.foldlM_nil]
  exact Except.ok.injEq s t ▸ Iff.rfl

theorem leads_append_iff {s u : σ} {a b : List β} :
    Leads step s (a ++ b) u ↔ ∃ t, Leads step s a t ∧ Leads step t b u := by
  simp only [Leads, List.foldlM_append]
  cases a.foldlM step s with
  | error e =>
    constructor
    · intro h
      cases h
    · rintro ⟨t, h, _⟩
      cases h
  | ok t' =>
    constructor
    · intro h
      exact ⟨t', rfl, h⟩
    · rintro ⟨t, h, h'⟩
      cases h
      exact h'

theorem leads_singleton_iff {s t : σ} {b : β} : Leads step s [b] t ↔ step s b = .ok t := by
  rw [Leads, List.foldlM_cons]
  cases step s b with
  | error e => exact Iff.rfl
  | ok u => exact Iff.rfl

theorem leads_cons_iff {s u : σ} {b : β} {rest : List β} :
    Leads step s (b :: rest) u ↔ ∃ t, step s b = .ok t ∧ Leads step t rest u := by
  rw [← List.singleton_append, leads_append_iff]
  simp only [leads_singleton_iff]

namespace Leads

theorem nil (s : σ) : Leads step s [] s := leads_nil_iff.2 rfl

theorem single {s t : σ} {b : β} (h : step s b = .ok t) : Leads step s [b] t :=
  leads_singleton_iff.2 h

theorem cons {s t u : σ} {b : β} {rest : List β} (h : step s b = .ok t)
    (hr : Leads step t rest u) : Leads step s (b :: rest) u :=
  leads_cons_iff.2 ⟨t, h, hr⟩

theorem append {s t u : σ} {a b : List β} (ha : Leads step s a t) (hb : Leads step t b u) :
    Leads step s (a ++ b) u :=
  leads_append_iff.2 ⟨t, ha, hb⟩

theorem unique {s t u : σ} {input : List β} (ht : Leads step s input t)
    (hu : Leads step s input u) : t = u := by
  rw [Leads, ht] at hu
  exact Except.ok.inj hu

/-- Input that changes nothing. -/
theorem stay {s : σ} {input : List β} (h : ∀ b ∈ input, step s b = .ok s) :
    Leads step s input s := by
  induction input with
  | nil => exact nil s
  | cons b rest ih =>
    exact cons (h b List.mem_cons_self) (ih fun c hc => h c (List.mem_cons_of_mem b hc))

/-- A reader that keeps what it has read, the latest first. -/
theorem collect (f : List β → σ) {input : List β} (seen : List β)
    (h : ∀ before b after, input = before ++ b :: after →
      step (f (before.reverse ++ seen)) b = .ok (f (b :: (before.reverse ++ seen)))) :
    Leads step (f seen) input (f (input.reverse ++ seen)) := by
  induction input generalizing seen with
  | nil => exact nil _
  | cons b rest ih =>
    rw [List.reverse_cons, List.append_assoc]
    refine cons (h [] b rest rfl) (ih (b :: seen) ?_)
    intro before c after hrest
    have hc := h (b :: before) c after (by rw [hrest, List.cons_append])
    rwa [List.reverse_cons, List.append_assoc] at hc

/-- What holds where the input begins and is kept by every step holds where it leads. -/
theorem invariant {P : σ → Prop} (hstep : ∀ s b t, P s → step s b = .ok t → P t) {s t : σ}
    {input : List β} (h : Leads step s input t) (hs : P s) : P t := by
  induction input generalizing s with
  | nil => exact leads_nil_iff.1 h ▸ hs
  | cons b rest ih =>
    obtain ⟨u, hb, hr⟩ := leads_cons_iff.1 h
    exact ih hr (hstep s b u hs hb)

end Leads
end TaskMail
