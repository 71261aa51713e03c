import TaskMail.Metadata
import TaskMail.Proofs.Leads
import TaskMail.Proofs.XmlText

/-!
# TaskMail.Proofs.ReferenceReading

A value that spells a text is read as that text.

* `resolve_named`, `resolve_code` — a reference stands for its character.
* `leads_charText`                — a character adds itself to those that are done.
* `valueText_spells`              — a whole value.
-/

namespace TaskMail
namespace Xml

/-! ## Codes -/

theorem digitValue?_digit {radix n : Nat} {c : Char} (h : Digit radix n c) (hr : radix ≤ 16) :
    digitValue? radix c = some n := by
  have hn := h.below
  have hvalue : ∀ d, d = n → (if d < radix then some d else none) = some n := by
    rintro d rfl
    exact if_pos hn
  refine hvalue _ ?_
  rcases h.toNat_eq hr with ⟨_, hc⟩ | ⟨_, hc⟩ | ⟨_, hc⟩
  · rw [if_pos (by omega)]
    omega
  · rw [if_neg (by omega), if_pos (by omega)]
    omega
  · rw [if_neg (by omega), if_neg (by omega), if_pos (by omega)]
    omega

theorem leads_numeral {radix n : Nat} {digits : List Char} (h : Numeral radix n digits)
    (hr : radix ≤ 16) (hn : n < 0x100000000) : Leads (takeDigit radix) 0 digits n := by
  induction h with
  | nil => exact .nil 0
  | @snoc m d digits c _ hd ih =>
    have hradix : 0 < radix := Nat.lt_of_le_of_lt (Nat.zero_le d) hd.below
    have hle : m ≤ m * radix := Nat.le_mul_of_pos_right m hradix
    refine (ih (by omega)).append (.single ?_)
    rw [takeDigit, digitValue?_digit hd hr]
    exact if_pos hn

theorem codeOf_numeral {radix n : Nat} {digits : List Char} (h : Numeral radix n digits)
    (hr : radix ≤ 16) (hpos : n ≠ 0) (hn : n < 0x100000000) : codeOf radix digits = .ok n := by
  have hdigits := h.exists_digit
  have hlead := leads_numeral h hr hn
  match digits, hdigits, h, hlead with
  | [], _, h, _ => exact absurd h.eq_zero_of_nil hpos
  | c :: rest, hdigits, _, hlead =>
    obtain ⟨d, hd⟩ := hdigits c List.mem_cons_self
    have hc := hd.toNat_eq hr
    have hsign : ¬(c = '+' ∨ c = '-') := by
      rintro (rfl | rfl) <;> simp at hc <;> omega
    rw [codeOf, if_neg hsign]
    exact hlead

theorem charOf_toNat {c : Char} (h : c ≠ '\x00') : charOf c.toNat = .ok c := by
  have hne : c.toNat ≠ 0 := fun h0 => h (Char.toNat_inj.1 h0)
  have hvalid : c.toNat.isValidChar := c.valid
  rw [charOf, if_neg hne, if_pos hvalid, Char.ofNat_toNat]

/-! ## References -/

theorem resolve_named {c : Char} {name : String} (h : (c, name) ∈ named) (start stop : Nat) :
    resolve start stop name.toList = .ok c := by
  simp only [named, List.mem_cons, Prod.mk.injEq, List.not_mem_nil, or_false] at h
  rcases h with ⟨rfl, rfl⟩ | ⟨rfl, rfl⟩ | ⟨rfl, rfl⟩ | ⟨rfl, rfl⟩ | ⟨rfl, rfl⟩ <;> rfl

theorem resolve_code {c : Char} {radix : Nat} {digits behind : List Char} (hc : c ≠ '\x00')
    (h : Numeral radix c.toNat digits) (hr : radix ≤ 16)
    (hbehind : resolveCode behind = codeOf radix digits >>= charOf) (start stop : Nat) :
    resolve start stop ('#' :: behind) = .ok c := by
  have hne : c.toNat ≠ 0 := fun h0 => hc (Char.toNat_inj.1 h0)
  have hlt : c.toNat < 0x100000000 := c.val.toNat_lt
  have hresolve : resolve start stop ('#' :: behind) = (resolveCode behind).mapError .code := rfl
  rw [hresolve, hbehind, codeOf_numeral h hr hne hlt]
  exact congrArg (Except.mapError ReferenceFault.code) (charOf_toNat hc)

/-- A decimal digit is not the letter that announces hexadecimal ones. -/
theorem resolveCode_decimal {n : Nat} {digits : List Char} (h : Numeral 10 n digits) :
    resolveCode digits = codeOf 10 digits >>= charOf := by
  unfold resolveCode
  split
  · obtain ⟨d, hd⟩ := h.exists_digit 'x' List.mem_cons_self
    have hbelow := hd.below
    have hx : 'x'.toNat = 0x78 := rfl
    have := hd.toNat_eq (by decide)
    omega
  · rfl

theorem resolveCode_hexadecimal (digits : List Char) :
    resolveCode ('x' :: digits) = codeOf 16 digits >>= charOf := rfl

namespace Unescape

theorem leads_name {name : List Char} (hsemicolon : ';' ∉ name) (hampersand : '&' ∉ name)
    (size p start : Nat) (done seen : List Char) :
    ∃ q, Leads (step size) ⟨p, done, some (start, seen)⟩ name
      ⟨q, done, some (start, name.reverse ++ seen)⟩ := by
  induction name generalizing p seen with
  | nil => exact ⟨p, .nil _⟩
  | cons c rest ih =>
    rw [List.mem_cons, not_or] at hsemicolon hampersand
    obtain ⟨q, hq⟩ := ih hsemicolon.2 hampersand.2 (p + c.utf8Size) (c :: seen)
    rw [List.reverse_cons, List.append_assoc]
    exact ⟨q, .cons (by simp [step, Ne.symm hsemicolon.1, Ne.symm hampersand.1]) hq⟩

theorem leads_reference {name : List Char} {c : Char} (h : ';' ∉ name ∧ '&' ∉ name)
    (hc : ∀ start stop, resolve start stop name = .ok c) (size p : Nat) (done : List Char) :
    ∃ q, Leads (step size) ⟨p, done, none⟩ ('&' :: name ++ [';']) ⟨q, c :: done, none⟩ := by
  obtain ⟨q, hq⟩ := leads_name h.1 h.2 size (p + '&'.utf8Size) p done []
  refine ⟨q + ';'.utf8Size, .cons rfl (hq.append (.single ?_))⟩
  simp [step, hc]

theorem leads_charText {c : Char} {text : List Char} (h : CharText c text) (size p : Nat)
    (done : List Char) :
    ∃ q, Leads (step size) ⟨p, done, none⟩ text ⟨q, c :: done, none⟩ := by
  have hdigits : ∀ {n radix digits}, Numeral radix n digits → radix ≤ 16 →
      ';' ∉ digits ∧ '&' ∉ digits := by
    intro n radix digits hn hr
    constructor <;>
    · intro hd
      obtain ⟨m, hm⟩ := hn.exists_digit _ hd
      have hm := hm.toNat_eq hr
      simp at hm
      omega
  cases h with
  | plain hc =>
    have hamp : c ≠ '&' := by
      rintro rfl
      exact hc (by decide)
    exact ⟨p + c.utf8Size, .single (by simp [step, hamp])⟩
  | named hn =>
    have hletters : ∀ entry ∈ Xml.named, ';' ∉ entry.2.toList ∧ '&' ∉ entry.2.toList := by decide
    exact leads_reference (hletters _ hn) (resolve_named hn) size p done
  | @decimal digits hc hn =>
    have hname : ';' ∉ '#' :: digits ∧ '&' ∉ '#' :: digits := by
      simpa using hdigits hn (by decide)
    have hcode := resolve_code hc hn (by decide) (resolveCode_decimal hn)
    exact leads_reference hname hcode size p done
  | @hexadecimal digits hc hn =>
    have hname : ';' ∉ '#' :: 'x' :: digits ∧ '&' ∉ '#' :: 'x' :: digits := by
      simpa using hdigits hn (by decide)
    have hcode := resolve_code hc hn (by decide) (resolveCode_hexadecimal digits)
    exact leads_reference hname hcode size p done

theorem leads_joined {chars text : List Char} (h : Joined CharText chars text) (size p : Nat)
    (done : List Char) :
    ∃ q, Leads (step size) ⟨p, done, none⟩ text ⟨q, chars.reverse ++ done, none⟩ := by
  induction h generalizing p done with
  | nil => exact ⟨p, .nil _⟩
  | @cons c rest text texts hc _ ih =>
    obtain ⟨q, hq⟩ := leads_charText hc size p done
    obtain ⟨q', hq'⟩ := ih q (c :: done)
    rw [List.reverse_cons, List.append_assoc]
    exact ⟨q', hq.append hq'⟩

end Unescape

theorem unescape_joined {s : String} {text : List Char} (h : Joined CharText s.toList text) :
    unescape (String.ofList text) = .ok s := by
  obtain ⟨q, hq⟩ := Unescape.leads_joined h (String.ofList text).utf8ByteSize 0 []
  rw [Leads] at hq
  rw [unescape, String.toList_ofList, Unescape.start, hq]
  simp [Unescape.finish]

end Xml

theorem Metadata.valueText_spells {s : String} {value : Bytes} (h : Xml.Spells s value) :
    valueText value = .ok s := by
  cases h with
  | mk h =>
    rw [valueText, Utf8.decode?_octets]
    simp only [Xml.unescape_joined h]
    rfl

end TaskMail
