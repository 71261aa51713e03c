import TaskMail.Text.Utf8

/-!
# TaskMail.Proofs.Octets

Characters as octets, and back.

* `octets` — the octets of a list of characters; those of a text are `Utf8.encode`.

`decode?_octets` says that what has been encoded is decoded to what it was, and
`mem_utf8EncodeChar` that the octets of a character that is not ASCII are not ASCII either, so
that a reader of octets never takes a part of a character for a delimiter.
-/

namespace TaskMail
namespace Utf8

def octets (chars : List Char) : Bytes :=
  chars.flatMap String.utf8EncodeChar

@[simp] theorem octets_nil : octets [] = [] := rfl

@[simp] theorem octets_cons (c : Char) (chars : List Char) :
    octets (c :: chars) = String.utf8EncodeChar c ++ octets chars := rfl

@[simp] theorem octets_append (a b : List Char) : octets (a ++ b) = octets a ++ octets b :=
  List.flatMap_append

theorem encode_eq_octets (s : String) : encode s = octets s.toList := rfl

theorem octets_eq_nil_iff {chars : List Char} : octets chars = [] ↔ chars = [] := by
  cases chars <;> simp

theorem utf8EncodeChar_ascii {c : Char} (h : c.toNat < 0x80) :
    String.utf8EncodeChar c = [UInt8.ofNat c.toNat] := by
  have hv : c.val.toNat ≤ 127 := Nat.le_of_lt_succ h
  simp only [String.utf8EncodeChar, if_pos hv]
  rfl

theorem mem_utf8EncodeChar {c : Char} {b : UInt8} (h : b ∈ String.utf8EncodeChar c) :
    (c.toNat < 0x80 ∧ b.toNat = c.toNat) ∨ 0x80 ≤ b.toNat := by
  by_cases hc : c.toNat < 0x80
  · rw [utf8EncodeChar_ascii hc, List.mem_singleton] at h
    left
    rw [h, UInt8.toNat_ofNat']
    omega
  · right
    have hv : ¬ c.val.toNat ≤ 127 := fun hle => hc (Nat.lt_succ_of_le hle)
    simp only [String.utf8EncodeChar, if_neg hv] at h
    split at h
    · simp only [List.mem_cons, List.not_mem_nil, or_false] at h
      rcases h with rfl | rfl <;> rw [UInt8.toNat_ofNat'] <;> omega
    · split at h
      · simp only [List.mem_cons, List.not_mem_nil, or_false] at h
        rcases h with rfl | rfl | rfl <;> rw [UInt8.toNat_ofNat'] <;> omega
      · have hmax : c.val.toNat < 0x110000 := by
          rcases c.valid with hlt | ⟨_, hlt⟩
          · exact Nat.lt_trans hlt (by decide)
          · exact hlt
        simp only [List.mem_cons, List.not_mem_nil, or_false] at h
        rcases h with rfl | rfl | rfl | rfl <;> rw [UInt8.toNat_ofNat'] <;> omega

/-- An octet below 0x80 comes from the character with that code. -/
theorem eq_of_mem_utf8EncodeChar {c d : Char} (hd : d.toNat < 0x80)
    (h : UInt8.ofNat d.toNat ∈ String.utf8EncodeChar c) : c = d := by
  have hn : (UInt8.ofNat d.toNat).toNat = d.toNat := by rw [UInt8.toNat_ofNat']; omega
  rcases mem_utf8EncodeChar h with ⟨_, heq⟩ | hle
  · exact Char.toNat_inj.1 (heq.symm.trans hn)
  · omega

theorem mem_of_mem_octets {d : Char} (hd : d.toNat < 0x80) {chars : List Char}
    (h : UInt8.ofNat d.toNat ∈ octets chars) : d ∈ chars := by
  obtain ⟨c, hc, hb⟩ := List.mem_flatMap.1 h
  exact eq_of_mem_utf8EncodeChar hd hb ▸ hc

/-! ## Decoding one character -/

namespace Decoder

theorem first_ascii (done : List Piece) {n : Nat} (h : n < 0x80) :
    first done (UInt8.ofNat n) = ⟨.char (Char.ofNat n) :: done, none⟩ := by
  have hn : (UInt8.ofNat n).toNat = n := by rw [UInt8.toNat_ofNat']; omega
  rw [first, hn, if_pos h]

theorem first_lead (done : List Piece) {n : Nat} {p : Partial} (hlow : 0x80 ≤ n) (h : n < 0x100)
    (hp : Partial.ofLead? n = some p) : first done (UInt8.ofNat n) = ⟨done, some p⟩ := by
  have hn : (UInt8.ofNat n).toNat = n := by rw [UInt8.toNat_ofNat']; omega
  rw [first, hn, if_neg (by omega), hp]

/-- An octet behind the first one of a character, not the last. -/
theorem step_more (done : List Piece) {seen missing code low high n : Nat} (hlow : low ≤ n)
    (hhigh : n ≤ high) (h : n < 0x100) :
    step ⟨done, some ⟨seen, missing + 2, code, low, high⟩⟩ (UInt8.ofNat n) =
      ⟨done, some ⟨seen + 1, missing + 1, code * 64 + (n - 0x80), 0x80, 0xBF⟩⟩ := by
  have hn : (UInt8.ofNat n).toNat = n := by rw [UInt8.toNat_ofNat']; omega
  simp [step, hn, hlow, hhigh]

theorem step_last (done : List Piece) {seen code low high n : Nat} (hlow : low ≤ n)
    (hhigh : n ≤ high) (h : n < 0x100) :
    step ⟨done, some ⟨seen, 1, code, low, high⟩⟩ (UInt8.ofNat n) =
      ⟨.char (Char.ofNat (code * 64 + (n - 0x80))) :: done, none⟩ := by
  have hn : (UInt8.ofNat n).toNat = n := by rw [UInt8.toNat_ofNat']; omega
  simp [step, hn, hlow, hhigh]

theorem ofLead?_two {v : Nat} (hl : 0x80 ≤ v) (hh : v < 0x800) :
    Partial.ofLead? (v / 64 % 32 + 192) = some ⟨1, 1, v / 64, 0x80, 0xBF⟩ := by
  have hcode : v / 64 % 32 + 192 - 0xC0 = v / 64 := by omega
  rw [Partial.ofLead?, if_neg (by omega), if_pos (by omega), hcode]

/-- The second octet of three has narrower bounds behind two of the first octets. -/
theorem ofLead?_three {v : Nat} (hl : 0x800 ≤ v) (hh : v < 0x10000)
    (hs : v < 0xD800 ∨ 0xDFFF < v) :
    ∃ low high, Partial.ofLead? (v / 4096 % 16 + 224) = some ⟨1, 2, v / 4096, low, high⟩ ∧
      low ≤ v / 64 % 64 + 128 ∧ v / 64 % 64 + 128 ≤ high := by
  rw [Partial.ofLead?, if_neg (by omega), if_neg (by omega)]
  split
  · have hcode : v / 4096 = 0 := by omega
    exact ⟨0xA0, 0xBF, by rw [hcode], by omega, by omega⟩
  · split
    · have hcode : v / 4096 = 0xD := by omega
      exact ⟨0x80, 0x9F, by rw [hcode], by omega, by omega⟩
    · have hcode : v / 4096 % 16 + 224 - 0xE0 = v / 4096 := by omega
      rw [if_pos (by omega), hcode]
      exact ⟨0x80, 0xBF, rfl, by omega, by omega⟩

theorem ofLead?_four {v : Nat} (hl : 0x10000 ≤ v) (hh : v < 0x110000) :
    ∃ low high, Partial.ofLead? (v / 262144 % 8 + 240) = some ⟨1, 3, v / 262144, low, high⟩ ∧
      low ≤ v / 4096 % 64 + 128 ∧ v / 4096 % 64 + 128 ≤ high := by
  rw [Partial.ofLead?, if_neg (by omega), if_neg (by omega), if_neg (by omega),
    if_neg (by omega), if_neg (by omega)]
  split
  · have hcode : v / 262144 = 0 := by omega
    exact ⟨0x90, 0xBF, by rw [hcode], by omega, by omega⟩
  · split
    · have hcode : v / 262144 % 8 + 240 - 0xF0 = v / 262144 := by omega
      exact ⟨0x80, 0xBF, by rw [hcode], by omega, by omega⟩
    · have hcode : v / 262144 = 4 := by omega
      rw [if_pos (by omega), hcode]
      exact ⟨0x80, 0x8F, rfl, by omega, by omega⟩

theorem foldl_utf8EncodeChar (done : List Piece) (c : Char) :
    (String.utf8EncodeChar c).foldl step ⟨done, none⟩ = ⟨.char c :: done, none⟩ := by
  have hc : ∀ n, n = c.val.toNat → Char.ofNat n = c := by
    rintro n rfl
    exact Char.ofNat_toNat c
  have hvalid : c.val.toNat < 0xD800 ∨ 0xDFFF < c.val.toNat ∧ c.val.toNat < 0x110000 := c.valid
  have hfirst : ∀ b, step ⟨done, none⟩ b = first done b := fun _ => rfl
  simp only [String.utf8EncodeChar]
  generalize c.val.toNat = v at hc hvalid ⊢
  split
  · rw [List.foldl_cons, List.foldl_nil, hfirst, first_ascii done (by omega), hc v rfl]
  split
  · have hp := ofLead?_two (v := v) (by omega) (by omega)
    simp only [List.foldl_cons, List.foldl_nil, hfirst]
    rw [first_lead done (by omega) (by omega) hp, step_last done (by omega) (by omega) (by omega),
      hc _ (by omega)]
  split
  · obtain ⟨low, high, hp, hlow, hhigh⟩ := ofLead?_three (v := v) (by omega) (by omega) (by omega)
    simp only [List.foldl_cons, List.foldl_nil, hfirst]
    rw [first_lead done (by omega) (by omega) hp, step_more done hlow hhigh (by omega),
      step_last done (by omega) (by omega) (by omega), hc _ (by omega)]
  · obtain ⟨low, high, hp, hlow, hhigh⟩ := ofLead?_four (v := v) (by omega) (by omega)
    simp only [List.foldl_cons, List.foldl_nil, hfirst]
    rw [first_lead done (by omega) (by omega) hp, step_more done hlow hhigh (by omega),
      step_more done (by omega) (by omega) (by omega),
      step_last done (by omega) (by omega) (by omega), hc _ (by omega)]

theorem foldl_octets (done : List Piece) (chars : List Char) :
    (octets chars).foldl step ⟨done, none⟩ = ⟨(chars.map Piece.char).reverse ++ done, none⟩ := by
  induction chars generalizing done with
  | nil => rfl
  | cons c rest ih => simp [foldl_utf8EncodeChar, ih]

end Decoder

/-! ## Decoding a text -/

theorem pieces_octets (chars : List Char) : pieces (octets chars) = chars.map Piece.char := by
  rw [pieces, Decoder.foldl_octets, Decoder.finish]
  simp

theorem decode?_octets (chars : List Char) :
    decode? (octets chars) = some (String.ofList chars) := by
  have hchars : ∀ l : List Char, (l.map Piece.char).mapM Piece.char? = some l := by
    intro l
    induction l with
    | nil => rfl
    | cons c rest ih => simp [List.mapM_cons, Piece.char?, ih]
  rw [decode?, pieces_octets, hchars]
  rfl

theorem decode?_encode (s : String) : decode? (encode s) = some s := by
  rw [encode_eq_octets, decode?_octets, String.ofList_toList]

theorem encode_inj {s t : String} : encode s = encode t ↔ s = t := by
  constructor
  · intro h
    have hdecode := decode?_encode s
    rw [h, decode?_encode t] at hdecode
    exact (Option.some.inj hdecode).symm
  · rintro rfl
    rfl

end Utf8
end TaskMail
