import TaskMail.MailConfig

/-!
# TaskMail.Proofs.Fields

What the members of an object have to be for a configuration.

* `Copy` — the copy that a field asks for, if it does.
* `Says` — the configuration that the members of an object say.

`decode_eq_ok_iff` says that a configuration is decoded just from a text that is an object whose
members say it, and `decode_eq_malformed_iff` that a text is called malformed just when it is no
document.
-/

namespace TaskMail
namespace MailConfig

/-- The field of the copy, which may be absent, and the copy. -/
inductive Copy : Option Json.Value → Option String → Prop where
  | absent : Copy none none
  | null : Copy (some .null) none
  | empty : Copy (some (.string "")) none
  | text {s : String} : s ≠ "" → Copy (some (.string s)) (some s)

/-- Of a repeated key the last member counts. -/
structure Says (fields : Fields) (c : MailConfig) : Prop where
  recipient : fields.last? "to" = some (.string c.recipient)
  cc : Copy (fields.last? "cc") c.cc
  subject : fields.last? "subject" = some (.string c.subject)
  body : fields.last? "body" = some (.string c.body)
  trigger : fields.last? "when" = some (.string c.trigger)

theorem required_eq_ok_iff {fields : Fields} {key s : String} :
    required fields key = .ok s ↔ fields.last? key = some (.string s) := by
  rw [required, optional]
  cases h : fields.last? key with
  | none => simp
  | some v => cases v <;> simp

theorem copy_iff {fields : Fields} {cc : Option String} :
    (∃ s, optional fields "cc" = .ok s ∧ s.filter (· ≠ "") = cc) ↔
      Copy (fields.last? "cc") cc := by
  rw [optional]
  constructor
  · rintro ⟨s, hs, rfl⟩
    split at hs
    · next h => cases hs; rw [h]; exact .absent
    · next h => cases hs; rw [h]; exact .null
    · next t h =>
      cases hs
      rw [h]
      by_cases ht : t = ""
      · rw [ht]; exact .empty
      · rw [Option.filter_some, if_pos (by simpa using ht)]
        exact .text ht
    · cases hs
  · intro h
    generalize fields.last? "cc" = field at h
    cases h with
    | absent => exact ⟨none, rfl, rfl⟩
    | null => exact ⟨none, rfl, rfl⟩
    | empty => exact ⟨some "", rfl, by decide⟩
    | @text s hs => exact ⟨some s, rfl, by simp [hs]⟩

theorem ofFields_eq_ok_iff {fields : Fields} {c : MailConfig} :
    ofFields fields = .ok c ↔ Says fields c := by
  constructor
  · intro h
    unfold ofFields at h
    cases h1 : required fields "to" with
    | error e => rw [h1] at h; cases h
    | ok recipient =>
    cases h2 : optional fields "cc" with
    | error e => rw [h1, h2] at h; cases h
    | ok cc =>
    cases h3 : required fields "subject" with
    | error e => rw [h1, h2, h3] at h; cases h
    | ok subject =>
    cases h4 : required fields "body" with
    | error e => rw [h1, h2, h3, h4] at h; cases h
    | ok body =>
    cases h5 : required fields "when" with
    | error e => rw [h1, h2, h3, h4, h5] at h; cases h
    | ok trigger =>
      rw [h1, h2, h3, h4, h5] at h
      cases h
      exact ⟨required_eq_ok_iff.1 h1, copy_iff.1 ⟨cc, h2, rfl⟩, required_eq_ok_iff.1 h3,
        required_eq_ok_iff.1 h4, required_eq_ok_iff.1 h5⟩
  · intro h
    obtain ⟨cc, hcc, heq⟩ := copy_iff.2 h.cc
    unfold ofFields
    rw [required_eq_ok_iff.2 h.recipient, hcc, required_eq_ok_iff.2 h.subject,
      required_eq_ok_iff.2 h.body, required_eq_ok_iff.2 h.trigger]
    show Except.ok _ = Except.ok c
    rw [heq]

theorem decode_eq_ok_iff {input : Bytes} {c : MailConfig} :
    decode input = .ok c ↔ ∃ fields, Json.read input = .ok (.object fields) ∧ Says fields c := by
  rw [decode]
  cases h : Json.read input with
  | error e => simp
  | ok v =>
    cases v with
    | object fields =>
      show ofFields fields = .ok c ↔ _
      simp [ofFields_eq_ok_iff]
    | _ => simp [ofValue]

/-! ## Malformed texts -/

theorem bind_ne_error {ε α β : Type} {x : Except ε α} {f : α → Except ε β} {e : ε}
    (hx : x ≠ .error e) (hf : ∀ a, f a ≠ .error e) : x >>= f ≠ .error e := by
  cases x with
  | error e' =>
    intro h
    cases h
    exact hx rfl
  | ok a => exact hf a

theorem optional_ne_malformed (fields : Fields) (key : String) (e : Json.SyntaxError) :
    optional fields key ≠ .error (.malformed e) := by
  rw [optional]
  intro h
  split at h <;> cases h

theorem required_ne_malformed (fields : Fields) (key : String) (e : Json.SyntaxError) :
    required fields key ≠ .error (.malformed e) := by
  have ho := optional_ne_malformed fields key e
  rw [required]
  intro h
  split at h
  · cases h
  · cases h
  · next f hf =>
    cases h
    exact ho hf

theorem ofFields_ne_malformed (fields : Fields) (e : Json.SyntaxError) :
    ofFields fields ≠ .error (.malformed e) := by
  unfold ofFields
  refine bind_ne_error (required_ne_malformed fields _ e) fun recipient => ?_
  refine bind_ne_error (optional_ne_malformed fields _ e) fun cc => ?_
  refine bind_ne_error (required_ne_malformed fields _ e) fun subject => ?_
  refine bind_ne_error (required_ne_malformed fields _ e) fun body => ?_
  refine bind_ne_error (required_ne_malformed fields _ e) fun trigger => ?_
  intro h
  cases h

theorem ofValue_ne_malformed (v : Json.Value) (e : Json.SyntaxError) :
    ofValue v ≠ .error (.malformed e) := by
  cases v with
  | object fields => exact ofFields_ne_malformed fields e
  | _ => simp [ofValue]

theorem decode_eq_malformed_iff {input : Bytes} {e : Json.SyntaxError} :
    decode input = .error (.malformed e) ↔ Json.read input = .error e := by
  rw [decode]
  cases h : Json.read input with
  | error e' => simp
  | ok v => simp [ofValue_ne_malformed v e]

end MailConfig
end TaskMail
