import TaskMail.Proofs.Octets

/-!
# TaskMail.Proofs.Writing

What the ways of writing different things have in common.

* `Joined`  — texts that follow on each other.
* `Digit`   — the digit of a number; those above nine are letters of either case.
* `Numeral` — the digits of a number, the first one first; zeros may stand in front.
-/

namespace TaskMail

inductive Joined {α β : Type} (Shown : α → List β → Prop) : List α → List β → Prop where
  | nil : Joined Shown [] []
  | cons {a : α} {items : List α} {text texts : List β} :
      Shown a text → Joined Shown items texts → Joined Shown (a :: items) (text ++ texts)

theorem Joined.unique {α β : Type} {Shown : α → List β → Prop} {items : List α}
    {text text' : List β} (h : Joined Shown items text) (h' : Joined Shown items text')
    (hone : ∀ a t t', Shown a t → Shown a t' → t = t') : text = text' := by
  induction h generalizing text' with
  | nil => cases h'; rfl
  | cons ha _ ih =>
    cases h' with
    | cons ha' hrest => rw [hone _ _ _ ha ha', ih hrest]

/-- Texts of which none is empty, or begins with another, show where they follow on each other. -/
theorem Joined.items_unique {α β : Type} {Shown : α → List β → Prop} {items items' : List α}
    {text : List β} (h : Joined Shown items text) (h' : Joined Shown items' text)
    (hne : ∀ a, ¬ Shown a [])
    (hone : ∀ {a b : α} {s t rest rest' : List β}, Shown a s → Shown b t →
      s ++ rest = t ++ rest' → a = b ∧ rest = rest') : items = items' := by
  have hnonempty : ∀ {a : α} {s rest : List β}, Shown a s → s ++ rest ≠ [] := by
    intro a s rest ha heq
    rw [(List.append_eq_nil_iff.1 heq).1] at ha
    exact hne a ha
  generalize htext : text = text' at h'
  induction h generalizing items' text' with
  | nil =>
    cases h' with
    | nil => rfl
    | cons ha' _ => exact absurd htext.symm (hnonempty ha')
  | cons ha _ ih =>
    cases h' with
    | nil => exact absurd htext (hnonempty ha)
    | cons ha' hrest =>
      obtain ⟨rfl, htexts⟩ := hone ha ha' htext
      rw [ih _ htexts hrest]

structure Digit (radix n : Nat) (c : Char) : Prop where
  below : n < radix
  shown : c = Nat.digitChar n ∨ c = (Nat.digitChar n).toUpper

inductive Numeral (radix : Nat) : Nat → List Char → Prop where
  | nil : Numeral radix 0 []
  | snoc {n d : Nat} {digits : List Char} {c : Char} :
      Numeral radix n digits → Digit radix d c → Numeral radix (n * radix + d) (digits ++ [c])

namespace Digit

/-- There are but 32 digits to look at, two for each number. -/
theorem toNat_eq {radix n : Nat} {c : Char} (h : Digit radix n c) (hr : radix ≤ 16) :
    (n < 10 ∧ c.toNat = 0x30 + n) ∨ (10 ≤ n ∧ c.toNat = 0x41 + (n - 10)) ∨
      (10 ≤ n ∧ c.toNat = 0x61 + (n - 10)) := by
  have hlower : ∀ n < 16, (Nat.digitChar n).toNat =
      if n < 10 then 0x30 + n else 0x61 + (n - 10) := by decide
  have hupper : ∀ n < 16, (Nat.digitChar n).toUpper.toNat =
      if n < 10 then 0x30 + n else 0x41 + (n - 10) := by decide
  have hn := Nat.lt_of_lt_of_le h.below hr
  rcases h.shown with rfl | rfl
  · rw [hlower n hn]
    split <;> omega
  · rw [hupper n hn]
    split <;> omega

theorem octets_eq {radix n : Nat} {c : Char} (h : Digit radix n c) (hr : radix ≤ 16) :
    String.utf8EncodeChar c = [UInt8.ofNat c.toNat] := by
  have hn := h.below
  exact Utf8.utf8EncodeChar_ascii (by rcases h.toNat_eq hr with h | h | h <;> omega)

theorem unique {radix m n : Nat} {c : Char} (h : Digit radix m c) (h' : Digit radix n c)
    (hr : radix ≤ 16) : m = n := by
  have hm := h.below
  have hn := h'.below
  rcases h.toNat_eq hr with h | h | h <;> rcases h'.toNat_eq hr with h' | h' | h' <;> omega

end Digit

namespace Numeral

theorem eq_zero_of_nil {radix n : Nat} (h : Numeral radix n []) : n = 0 := by
  generalize hd : [] = digits at h
  cases h with
  | nil => rfl
  | snoc _ _ => simp at hd

theorem exists_digit {radix n : Nat} {digits : List Char} (h : Numeral radix n digits) :
    ∀ c ∈ digits, ∃ d, Digit radix d c := by
  induction h with
  | nil => simp
  | @snoc _ d _ _ _ hd ih =>
    intro e he
    rcases List.mem_append.1 he with he | he
    · exact ih e he
    · exact ⟨d, List.mem_singleton.1 he ▸ hd⟩

theorem not_mem {radix n : Nat} {digits : List Char} (h : Numeral radix n digits)
    (hr : radix ≤ 16) {c : Char} (hc : c.toNat < 0x30 ∨ 0x66 < c.toNat) : c ∉ digits := by
  intro hmem
  obtain ⟨d, hd⟩ := h.exists_digit c hmem
  have hbelow := hd.below
  rcases hd.toNat_eq hr with h | h | h <;> omega

theorem length_octets {radix n : Nat} {digits : List Char} (h : Numeral radix n digits)
    (hr : radix ≤ 16) : (Utf8.octets digits).length = digits.length := by
  induction h with
  | nil => rfl
  | snoc _ hd ih => simp [ih, hd.octets_eq hr]

theorem zeros {radix : Nat} (hr : 0 < radix) (count : Nat) :
    Numeral radix 0 (List.replicate count '0') := by
  induction count with
  | zero => exact .nil
  | succ k ih =>
    have hzero : Digit radix 0 '0' := ⟨hr, .inl rfl⟩
    rw [List.replicate_succ']
    simpa only [Nat.zero_mul] using ih.snoc hzero

theorem zeros_append {radix n : Nat} {digits : List Char} (h : Numeral radix n digits)
    (hr : 0 < radix) (count : Nat) : Numeral radix n (List.replicate count '0' ++ digits) := by
  induction h with
  | nil =>
    rw [List.append_nil]
    exact zeros hr count
  | snoc _ hd ih =>
    rw [← List.append_assoc]
    exact ih.snoc hd

theorem unique {radix m n : Nat} {digits : List Char} (h : Numeral radix m digits)
    (h' : Numeral radix n digits) (hr : radix ≤ 16) : m = n := by
  induction h generalizing n with
  | nil => exact h'.eq_zero_of_nil.symm
  | @snoc _ _ before c _ hd ih =>
    generalize hdigits : before ++ [c] = digits at h'
    cases h' with
    | nil => simp at hdigits
    | snoc h' hd' =>
      obtain ⟨rfl, rfl⟩ := List.append_singleton_inj.1 hdigits
      rw [ih h', hd.unique hd' hr]

/-- By the last digit, and the others before it. -/
theorem toDigits {radix : Nat} (hr : 1 < radix) (n : Nat) :
    Numeral radix n (Nat.toDigits radix n) := by
  induction n using Nat.strongRecOn with
  | ind n ih =>
    rw [Nat.toDigits_eq_if hr]
    split
    · next hlt => simpa using nil.snoc ⟨hlt, .inl rfl⟩
    · next hle =>
      have hpos : 0 < n := by omega
      have hlast : Digit radix (n % radix) (n % radix).digitChar :=
        ⟨Nat.mod_lt n (by omega), .inl rfl⟩
      have hall := (ih (n / radix) (Nat.div_lt_self hpos hr)).snoc hlast
      rwa [Nat.div_add_mod'] at hall

end Numeral
end TaskMail
