import Mathlib.Data.List.Induction
import Mathlib.Data.List.TakeWhile
import TaskMail.Invocation
import TaskMail.Proofs.Writing

/-!
# TaskMail.Proofs.StatusText

How an exit status may be written.

* `Blanks`     — white space.
* `SignedText` — one digit or more, behind a sign or not.
* `StatusText` — a number of 32 bits with white space around it.

`status?_eq_some_iff` says that a text is read as a status just if it is written so.
-/

namespace TaskMail

def Blanks (text : List Char) : Prop :=
  ∀ c ∈ text, Text.isBlank c = true

inductive SignedText : Int → List Char → Prop where
  | plain {n : Nat} {digits : List Char} :
      Numeral 10 n digits → digits ≠ [] → SignedText n digits
  | plus {n : Nat} {digits : List Char} :
      Numeral 10 n digits → digits ≠ [] → SignedText n ('+' :: digits)
  | minus {n : Nat} {digits : List Char} :
      Numeral 10 n digits → digits ≠ [] → SignedText (-n) ('-' :: digits)

inductive StatusText : Int → String → Prop where
  | mk {n : Int} {before text behind : List Char} :
      Blanks before → SignedText n text → Blanks behind → -0x80000000 ≤ n → n ≤ 0x7FFFFFFF →
      StatusText n (String.ofList (before ++ text ++ behind))

/-! ## Digits -/

/-- There are but ten digits to look at. -/
theorem exists_of_isDigit {c : Char} (h : c.isDigit = true) : ∃ m < 10, c = Char.ofNat (0x30 + m) := by
  have hc : 0x30 ≤ c.toNat ∧ c.toNat ≤ 0x39 := Char.isDigit_iff_toNat.1 h
  exact ⟨c.toNat - 0x30, by omega, by rw [Nat.add_sub_cancel' hc.1, Char.ofNat_toNat]⟩

theorem digit_iff_isDigit {n : Nat} {c : Char} :
    Digit 10 n c ↔ c.isDigit = true ∧ c.toNat - '0'.toNat = n := by
  have hzero : '0'.toNat = 0x30 := rfl
  constructor
  · intro h
    have hn := h.below
    have hc : c.toNat = 0x30 + n := by rcases h.toNat_eq (by decide) with h | h | h <;> omega
    have hdigit : 0x30 ≤ c.toNat ∧ c.toNat ≤ 0x39 := by omega
    exact ⟨Char.isDigit_iff_toNat.2 hdigit, by omega⟩
  · rintro ⟨hd, rfl⟩
    obtain ⟨m, hm, rfl⟩ := exists_of_isDigit hd
    have hvalue : ∀ m < 10, (Char.ofNat (0x30 + m)).toNat - '0'.toNat = m := by decide
    have hshown : ∀ m < 10, Char.ofNat (0x30 + m) = Nat.digitChar m := by decide
    rw [hvalue m hm]
    exact ⟨hm, .inl (hshown m hm)⟩

theorem digitsValue_snoc (digits : List Char) (c : Char) :
    digitsValue (digits ++ [c]) = digitsValue digits * 10 + (c.toNat - '0'.toNat) := by
  simp [digitsValue]

theorem numeral_iff_digitsValue {n : Nat} {digits : List Char} :
    Numeral 10 n digits ↔ digits.all Char.isDigit = true ∧ digitsValue digits = n := by
  constructor
  · intro h
    induction h with
    | nil => exact ⟨rfl, rfl⟩
    | @snoc n d digits c _ hd ih =>
      obtain ⟨hall, hvalue⟩ := ih
      obtain ⟨hc, hv⟩ := digit_iff_isDigit.1 hd
      refine ⟨by simp [hall, hc], ?_⟩
      rw [digitsValue_snoc, hvalue, hv]
  · rintro ⟨hall, rfl⟩
    induction digits using List.reverseRecOn with
    | nil => exact .nil
    | append_singleton digits c ih =>
      simp only [List.all_append, List.all_cons, List.all_nil, Bool.and_true,
        Bool.and_eq_true] at hall
      rw [digitsValue_snoc]
      exact (ih hall.1).snoc (digit_iff_isDigit.2 ⟨hall.2, rfl⟩)

theorem natural?_eq_some_iff {n : Nat} {digits : List Char} :
    natural? digits = some n ↔ Numeral 10 n digits ∧ digits ≠ [] := by
  rw [natural?, numeral_iff_digitsValue]
  by_cases he : digits = []
  · simp [he]
  · by_cases hall : digits.all Char.isDigit = true <;> simp [he, hall, -List.all_eq_true]

/-! ## Signs -/

/-- A text that begins with a sign is no numeral. -/
theorem not_numeral_of_head {n : Nat} {c : Char} {rest : List Char} (hc : c.isDigit = false) :
    ¬ Numeral 10 n (c :: rest) := by
  intro h
  simp [numeral_iff_digitsValue, hc] at h

theorem signed?_eq_some_iff {n : Int} {text : List Char} :
    signed? text = some n ↔ SignedText n text := by
  have hread : ∀ {digits : List Char} {sign : Int → Int},
      (natural? digits >>= fun k => pure (k : Int)).map sign = some n ↔
        ∃ k : Nat, (Numeral 10 k digits ∧ digits ≠ []) ∧ sign k = n := by
    intro digits sign
    simp [← natural?_eq_some_iff, Option.bind_eq_some_iff]
  constructor
  · intro h
    rw [signed?.eq_def] at h
    split at h
    · obtain ⟨k, ⟨hk, hne⟩, rfl⟩ := hread.1 h
      exact .minus hk hne
    · obtain ⟨k, ⟨hk, hne⟩, rfl⟩ := hread.1 h
      exact .plus hk hne
    · obtain ⟨k, ⟨hk, hne⟩, rfl⟩ := hread.1 h
      exact .plain hk hne
  · intro h
    rw [signed?.eq_def]
    cases h with
    | @minus k _ hk hne => exact hread.2 ⟨k, ⟨hk, hne⟩, rfl⟩
    | @plus k _ hk hne => exact hread.2 ⟨k, ⟨hk, hne⟩, rfl⟩
    | @plain k _ hk hne =>
      split
      · exact absurd hk (not_numeral_of_head rfl)
      · exact absurd hk (not_numeral_of_head rfl)
      · exact hread.2 ⟨k, ⟨hk, hne⟩, rfl⟩

/-! ## White space -/

theorem exists_trimStart (text : List Char) :
    ∃ before, Blanks before ∧ text = before ++ Text.trimStart text :=
  ⟨text.takeWhile Text.isBlank, fun _ hc => List.mem_takeWhile_imp hc,
    List.takeWhile_append_dropWhile.symm⟩

theorem exists_trimEnd (text : List Char) :
    ∃ behind, Blanks behind ∧ text = Text.trimEnd text ++ behind := by
  obtain ⟨before, hb, ht⟩ := exists_trimStart text.reverse
  refine ⟨before.reverse, fun c hc => hb c (List.mem_reverse.1 hc), ?_⟩
  rw [Text.trimEnd, ← Text.trimStart, ← List.reverse_append, ← ht, List.reverse_reverse]

/-- What is neither blank in front nor behind is left of a text with white space around it. -/
theorem trim_padded {before text behind : List Char} (hb : Blanks before) (he : Blanks behind)
    (hfirst : text.head?.any (!Text.isBlank ·) = true)
    (hlast : text.getLast?.any (!Text.isBlank ·) = true) :
    Text.trimEnd (Text.trimStart (before ++ text ++ behind)) = text := by
  have hstart : ∀ {blanks rest : List Char}, Blanks blanks →
      rest.head?.any (!Text.isBlank ·) = true → Text.trimStart (blanks ++ rest) = rest := by
    intro blanks rest hblanks hrest
    rw [Text.trimStart, List.dropWhile_append_of_pos hblanks]
    cases rest with
    | nil => rfl
    | cons c rest =>
      have hc : Text.isBlank c = false := by simpa using hrest
      rw [List.dropWhile_cons_of_neg (by simp [hc])]
  have hfirst' : (text ++ behind).head?.any (!Text.isBlank ·) = true := by
    cases text with
    | nil => cases hfirst
    | cons c rest => exact hfirst
  rw [List.append_assoc, hstart hb hfirst', Text.trimEnd, ← Text.trimStart, List.reverse_append,
    hstart (fun c hc => he c (List.mem_reverse.1 hc)) (by rwa [List.head?_reverse]),
    List.reverse_reverse]

theorem isBlank_of_isDigit {c : Char} (h : c.isDigit = true) : Text.isBlank c = false := by
  obtain ⟨m, hm, rfl⟩ := exists_of_isDigit h
  have hblank : ∀ m < 10, Text.isBlank (Char.ofNat (0x30 + m)) = false := by decide
  exact hblank m hm

theorem SignedText.tight {n : Int} {text : List Char} (h : SignedText n text) :
    text.head?.any (!Text.isBlank ·) = true ∧ text.getLast?.any (!Text.isBlank ·) = true := by
  have hdigits : ∀ {k : Nat} {digits : List Char}, Numeral 10 k digits → digits ≠ [] →
      digits.head?.any (!Text.isBlank ·) = true ∧
        digits.getLast?.any (!Text.isBlank ·) = true := by
    intro k digits hk hne
    obtain ⟨hall, _⟩ := numeral_iff_digitsValue.1 hk
    rw [List.all_eq_true] at hall
    rw [List.head?_eq_some_head hne, List.getLast?_eq_some_getLast hne]
    simp [isBlank_of_isDigit (hall _ (List.head_mem hne)),
      isBlank_of_isDigit (hall _ (List.getLast_mem hne))]
  cases h with
  | plain hk hne => exact hdigits hk hne
  | plus hk hne =>
    obtain ⟨_, hl⟩ := hdigits hk hne
    exact ⟨rfl, by rwa [List.getLast?_cons_of_ne_nil hne]⟩
  | minus hk hne =>
    obtain ⟨_, hl⟩ := hdigits hk hne
    exact ⟨rfl, by rwa [List.getLast?_cons_of_ne_nil hne]⟩

/-! ## Statuses -/

theorem inInt32_iff {n : Int} : inInt32 n = true ↔ -0x80000000 ≤ n ∧ n ≤ 0x7FFFFFFF := by
  simp [inInt32]

theorem status?_eq_some_iff {s : String} {n : Int} : status? s = some n ↔ StatusText n s := by
  rw [status?, Option.filter_eq_some_iff, signed?_eq_some_iff, inInt32_iff, Text.trim,
    String.toList_ofList]
  constructor
  · rintro ⟨h, hlow, hhigh⟩
    obtain ⟨before, hb, hs⟩ := exists_trimStart s.toList
    obtain ⟨behind, he, ht⟩ := exists_trimEnd (Text.trimStart s.toList)
    rw [ht, ← List.append_assoc] at hs
    rw [← String.ofList_toList (s := s), hs]
    exact .mk hb h he hlow hhigh
  · rintro ⟨hb, h, he, hlow, hhigh⟩
    obtain ⟨hfirst, hlast⟩ := h.tight
    rw [String.toList_ofList, trim_padded hb he hfirst hlast]
    exact ⟨h, hlow, hhigh⟩

end TaskMail
