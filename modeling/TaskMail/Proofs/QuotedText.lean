import TaskMail.Proofs.Writing
import TaskMail.Text.Quoted

/-!
# TaskMail.Proofs.QuotedText

How a text is quoted in a message.

* `QuotedChar` — a character between the quotes: as it is, by a letter, or by its code in braces.
* `QuotedChar.append_inj` — where a character ends, and which one it is, is seen from its text.
* `quote_inj`  — two texts are quoted alike only if they are equal.
-/

namespace TaskMail.Text

/-- The characters that have a letter, and the letter behind the backslash. -/
def quoteLetters : List (Char × Char) :=
  [('"', '"'), ('\\', '\\'), ('\x00', '0'), ('\t', 't'), ('\n', 'n'), ('\r', 'r')]

inductive QuotedChar : Char → List Char → Prop where
  | plain {c : Char} : c ≠ '"' → c ≠ '\\' → isUnprintable c = false → QuotedChar c [c]
  | letter {c letter : Char} : (c, letter) ∈ quoteLetters → QuotedChar c ['\\', letter]
  | code {c : Char} {digits : List Char} :
      Numeral 16 c.toNat digits → QuotedChar c ('\\' :: 'u' :: '\x7b' :: digits ++ ['\x7d'])

theorem quotedChar_escape (c : Char) : QuotedChar c (escape c) := by
  have hletter : ∀ letter, (c, letter) ∈ quoteLetters → QuotedChar c ['\\', letter] :=
    fun _ => .letter
  rw [escape]
  split
  · next h => subst h; exact hletter _ (by simp [quoteLetters])
  split
  · next h => subst h; exact hletter _ (by simp [quoteLetters])
  split
  · next h => subst h; exact hletter _ (by simp [quoteLetters])
  split
  · next h => subst h; exact hletter _ (by simp [quoteLetters])
  split
  · next h => subst h; exact hletter _ (by simp [quoteLetters])
  split
  · next h => subst h; exact hletter _ (by simp [quoteLetters])
  next hquote hslash _ _ _ _ =>
  split
  · have hr : 1 < 16 := by omega
    exact .code (Numeral.toDigits hr c.toNat)
  · next hprints => exact .plain hquote hslash (by simpa using hprints)

theorem joined_escape (cs : List Char) : Joined QuotedChar cs (cs.flatMap escape) := by
  induction cs with
  | nil => exact .nil
  | cons c rest ih => exact .cons (quotedChar_escape c) ih

/-! ## Reading back -/

theorem eq_of_letter_eq : ∀ m ∈ quoteLetters, ∀ n ∈ quoteLetters, m.2 = n.2 → m.1 = n.1 := by
  decide

theorem letter_ne_code : ∀ m ∈ quoteLetters, m.2 ≠ 'u' := by
  decide

/-- What stands in front of the first character of a kind, and what stands behind it. -/
theorem cut_unique {c : Char} {a b x y : List Char} (ha : c ∉ a) (hb : c ∉ b)
    (h : a ++ c :: x = b ++ c :: y) : a = b ∧ x = y := by
  induction a generalizing b with
  | nil =>
    cases b with
    | nil => simpa using h
    | cons d rest => exact absurd (List.mem_cons.2 (.inl (List.cons.inj h).1)) hb
  | cons e rest ih =>
    cases b with
    | nil => exact absurd (List.mem_cons.2 (.inl (List.cons.inj h).1.symm)) ha
    | cons d rest' =>
      simp only [List.mem_cons, not_or] at ha hb
      obtain ⟨rfl, hrest⟩ := List.cons.inj h
      obtain ⟨rfl, hxy⟩ := ih ha.2 hb.2 hrest
      exact ⟨rfl, hxy⟩

namespace QuotedChar

variable {c d : Char} {s t x y : List Char}

theorem append_inj (h : QuotedChar c s) (h' : QuotedChar d t) (heq : s ++ x = t ++ y) :
    c = d ∧ x = y := by
  cases h with
  | plain _ hslash _ =>
    cases h' with
    | plain _ _ _ => exact List.cons.inj heq
    | letter _ => exact absurd (List.cons.inj heq).1 hslash
    | code _ => exact absurd (List.cons.inj heq).1 hslash
  | @letter letter hmem =>
    have hcode := letter_ne_code _ hmem
    cases h' with
    | plain _ hslash _ => exact absurd (List.cons.inj heq).1.symm hslash
    | @letter letter' hmem' =>
      simp only [List.cons_append, List.nil_append, List.cons.injEq, true_and] at heq
      exact ⟨eq_of_letter_eq _ hmem _ hmem' heq.1, heq.2⟩
    | code _ =>
      simp only [List.cons_append, List.nil_append, List.cons.injEq, true_and] at heq
      exact absurd heq.1 hcode
  | @code digits hn =>
    cases h' with
    | plain _ hslash _ => exact absurd (List.cons.inj heq).1.symm hslash
    | @letter letter' hmem' =>
      have hcode := letter_ne_code _ hmem'
      simp only [List.cons_append, List.nil_append, List.cons.injEq, true_and] at heq
      exact absurd heq.1.symm hcode
    | @code digits' hn' =>
      simp only [List.cons_append, List.append_assoc, List.nil_append, List.cons.injEq,
        true_and] at heq
      have hr := Nat.le_refl 16
      have hbrace : 0x66 < ('\x7d').toNat := by decide
      obtain ⟨rfl, hxy⟩ :=
        cut_unique (hn.not_mem hr (.inr hbrace)) (hn'.not_mem hr (.inr hbrace)) heq
      exact ⟨Char.toNat_inj.1 (hn.unique hn' hr), hxy⟩

theorem ne_nil (h : QuotedChar c s) : s ≠ [] := by
  cases h <;> simp

theorem lineFeed_not_mem (h : QuotedChar c s) : '\n' ∉ s := by
  cases h with
  | plain _ _ hprints =>
    intro hmem
    rw [← List.mem_singleton.1 hmem] at hprints
    cases hprints
  | @letter letter hmem =>
    have hnone : ∀ m ∈ quoteLetters, m.2 ≠ '\n' := by decide
    have hne := hnone _ hmem
    simpa using hne.symm
  | code hn =>
    have hdigits : '\n' ∉ _ := hn.not_mem (Nat.le_refl 16) (.inl (by decide))
    simpa using hdigits

end QuotedChar

theorem toList_quote (s : String) :
    (quote s).toList = '"' :: s.toList.flatMap escape ++ ['"'] :=
  String.toList_ofList ..

/-- No text is quoted like another. -/
theorem quote_inj {s t : String} : quote s = quote t ↔ s = t := by
  refine ⟨fun h => ?_, fun h => h ▸ rfl⟩
  rw [← String.toList_inj, toList_quote, toList_quote] at h
  have htext := List.append_cancel_right (List.cons.inj h).2
  have hs := joined_escape s.toList
  rw [htext] at hs
  exact String.toList_inj.1 (hs.items_unique (joined_escape t.toList)
    (fun _ hnil => hnil.ne_nil rfl) QuotedChar.append_inj)

end TaskMail.Text
