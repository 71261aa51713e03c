import TaskMail.Json.StringScan
import TaskMail.Proofs.JsonText
import TaskMail.Proofs.Leads

/-!
# TaskMail.Proofs.StringReading

Every way of writing a string is read as that string.

* `leads_charText` — a character adds its octets to those that are done.
* `leads_joined`   — so do the characters of a string, one after the other.
* `close_octets`   — the closing quote gives the string.
-/

namespace TaskMail.Json.StringScan

open Utf8

/-! ## Codes -/

theorem hexValue?_digit {n : Nat} {c : Char} (h : Digit 16 n c) :
    hexValue? (UInt8.ofNat c.toNat) = some n := by
  have hn := h.below
  have hc := h.toNat_eq (Nat.le_refl 16)
  have hb : (UInt8.ofNat c.toNat).toNat = c.toNat := by
    rw [UInt8.toNat_ofNat']
    omega
  simp only [hexValue?, hb]
  rcases hc with ⟨_, hc⟩ | ⟨_, hc⟩ | ⟨_, hc⟩
  · rw [if_pos (by omega), hc, Nat.add_sub_cancel_left]
  · rw [if_neg (by omega), if_pos (by omega)]
    congr 1
    omega
  · rw [if_neg (by omega), if_neg (by omega), if_pos (by omega)]
    congr 1
    omega

theorem hexNumber?_numeral {n : Nat} {digits : List Char} (h : Numeral 16 n digits) :
    hexNumber? (octets digits) = some n := by
  induction h with
  | nil => rfl
  | snoc _ hd ih =>
    rw [hexNumber?] at ih ⊢
    rw [octets_append, List.foldl_append, ih, octets_cons, hd.octets_eq (Nat.le_refl 16)]
    simp [hexValue?_digit hd]

theorem leads_code {n : Nat} {digits : List Char} (h : CodeText n digits) (done : Bytes)
    (high : Option Nat) {s : StringScan} (hs : takeCode done high n = .ok s) :
    Leads step (.code done high []) (octets digits) s := by
  obtain ⟨hn, hl⟩ := h
  have hvalue := hexNumber?_numeral hn
  have hlength := hn.length_octets (Nat.le_refl 16)
  rw [hl] at hlength
  match octets digits, hlength, hvalue with
  | [a, b, c, d], _, hvalue =>
    refine .cons rfl (.cons rfl (.cons rfl (.single ?_)))
    simp [step, hvalue, hs]

theorem lt_of_codeText {n : Nat} {digits : List Char} (h : CodeText n digits) : n < 0x10000 := by
  have hall : ∀ {n : Nat} {digits : List Char}, Numeral 16 n digits → n < 16 ^ digits.length := by
    intro n digits h
    induction h with
    | nil => simp
    | snoc _ hd ih =>
      have := hd.below
      rw [List.length_append, List.length_singleton, Nat.pow_succ]
      omega
  have := hall h.1
  rw [h.2] at this
  exact this

/-! ## Characters -/

theorem leads_plain {text : Bytes} (h : ∀ b ∈ text, b ≠ 0x22 ∧ b ≠ 0x5C ∧ ¬ b < 0x20)
    (done : Bytes) : Leads step (.plain done) text (.plain (text.reverse ++ done)) := by
  refine .collect plain done ?_
  rintro before b after rfl
  obtain ⟨hquote, hslash, hcontrol⟩ := h b (by simp)
  simp [step, hquote, hslash, hcontrol]

theorem plain_octets {c : Char} (hquote : c ≠ '"') (hslash : c ≠ '\\') (hc : 0x20 ≤ c.toNat) :
    ∀ b ∈ String.utf8EncodeChar c, b ≠ 0x22 ∧ b ≠ 0x5C ∧ ¬ b < 0x20 := by
  intro b hb
  have hne : ∀ d : Char, d.toNat < 0x80 → c ≠ d → b ≠ UInt8.ofNat d.toNat := by
    rintro d hd hcd rfl
    exact hcd (eq_of_mem_utf8EncodeChar hd hb)
  refine ⟨hne '"' (by decide) hquote, hne '\\' (by decide) hslash, fun h => ?_⟩
  have hlt : b.toNat < 0x20 := h
  rcases mem_utf8EncodeChar hb with ⟨_, h⟩ | h <;> omega

/-- A character is written by a code only if it is below all surrogates or above them. -/
theorem takeCode_char {c : Char} (h : c.toNat < 0x10000) (done : Bytes) :
    takeCode done none c.toNat = .ok (.plain ((String.utf8EncodeChar c).reverse ++ done)) := by
  have hvalid : c.toNat < 0xD800 ∨ 0xDFFF < c.toNat ∧ c.toNat < 0x110000 := c.valid
  rw [takeCode, if_neg (by omega), if_neg (by omega), pushChar, Char.ofNat_toNat]

theorem leads_pair {c : Char} {high low : List Char} (hc : 0x10000 ≤ c.toNat)
    (hh : CodeText (0xD800 + (c.toNat - 0x10000) / 0x400) high)
    (hl : CodeText (0xDC00 + (c.toNat - 0x10000) % 0x400) low) (done : Bytes) :
    Leads step (.code done none []) (octets (high ++ '\\' :: 'u' :: low))
      (.plain ((String.utf8EncodeChar c).reverse ++ done)) := by
  have hvalid : c.toNat < 0xD800 ∨ 0xDFFF < c.toNat ∧ c.toNat < 0x110000 := c.valid
  have hhigh : takeCode done none (0xD800 + (c.toNat - 0x10000) / 0x400) =
      .ok (.pair done (0xD800 + (c.toNat - 0x10000) / 0x400)) := by
    rw [takeCode, if_neg (by omega), if_pos (by omega)]
  have hlow : takeCode done (some (0xD800 + (c.toNat - 0x10000) / 0x400))
      (0xDC00 + (c.toNat - 0x10000) % 0x400) =
      .ok (.plain ((String.utf8EncodeChar c).reverse ++ done)) := by
    have hcode : 0x10000 + (0xD800 + (c.toNat - 0x10000) / 0x400 - 0xD800) * 0x400 +
        (0xDC00 + (c.toNat - 0x10000) % 0x400 - 0xDC00) = c.toNat := by omega
    rw [takeCode, if_pos (by omega), hcode, pushChar, Char.ofNat_toNat]
  rw [octets_append]
  exact (leads_code hh done none hhigh).append (.cons rfl (.cons rfl (leads_code hl done _ hlow)))

theorem leads_charText {c : Char} {text : List Char} (h : CharText c text) (done : Bytes) :
    Leads step (.plain done) (octets text)
      (.plain ((String.utf8EncodeChar c).reverse ++ done)) := by
  cases h with
  | plain hquote hslash hc =>
    rw [octets_cons, octets_nil, List.append_nil]
    exact leads_plain (plain_octets hquote hslash hc) done
  | letter h =>
    simp only [letters, List.mem_cons, Prod.mk.injEq, List.not_mem_nil, or_false] at h
    rcases h with ⟨rfl, rfl⟩ | ⟨rfl, rfl⟩ | ⟨rfl, rfl⟩ | ⟨rfl, rfl⟩ | ⟨rfl, rfl⟩ | ⟨rfl, rfl⟩ |
      ⟨rfl, rfl⟩ | ⟨rfl, rfl⟩ <;> exact .cons rfl (.single rfl)
  | code h =>
    have hcode := takeCode_char (lt_of_codeText h) done
    exact .cons rfl (.cons rfl (leads_code h done none hcode))
  | pair hc hh hl => exact .cons rfl (.cons rfl (leads_pair hc hh hl done))

theorem leads_joined {chars text : List Char} (h : Joined CharText chars text) (done : Bytes) :
    Leads step (.plain done) (octets text) (.plain ((octets chars).reverse ++ done)) := by
  induction h generalizing done with
  | nil => exact .nil _
  | cons hc _ ih =>
    rw [octets_append, octets_cons, List.reverse_append, List.append_assoc]
    exact (leads_charText hc done).append (ih _)

theorem close_octets (s : String) :
    step (.plain (octets s.toList).reverse) 0x22 = .ok (.closed s) := by
  have hclose : step (.plain (octets s.toList).reverse) 0x22 =
      close (octets s.toList).reverse := rfl
  rw [hclose, close, List.reverse_reverse, ← encode_eq_octets, decode?_encode]

end TaskMail.Json.StringScan
