import TaskMail.Proofs.StringReading
import TaskMail.Proofs.Truncation

/-!
# TaskMail.Proofs.ValueReading

Every way of writing a value is read as that value.

* `Passes`   — a state that white space does not change.
* `Awaits`   — a state in which the next octet may begin a value, inside of some frames.
* `Complete` — a state in which a value is complete, inside of some frames.

`leads_valueText` says that the text of a value leads from the one to the other, as long as there
are frames left for what is nested in it; `read_valueText` applies that to a whole text.
-/

namespace TaskMail.Json

open Utf8

/-! ## White space -/

theorem blank_octets {text : List Char} (h : Spaces text) : Blank (octets text) := by
  intro b hb
  rw [octets, List.mem_flatMap] at hb
  obtain ⟨c, hc, hb⟩ := hb
  have hc := h c hc
  simp only [List.mem_cons, List.not_mem_nil, or_false] at hc
  rcases hc with rfl | rfl | rfl | rfl <;>
  · rw [utf8EncodeChar_ascii (by decide), List.mem_singleton] at hb
    subst hb
    decide

namespace State

/-- A state that white space does not change. -/
def Passes (s : State) : Prop :=
  ∀ b, isSpace b = true → s.step b = .ok s

theorem passes_value (stack : List Frame) : Passes (.value stack) := by
  intro b hb
  simp [step, hb]

theorem passes_item (first : Bool) (before : List Value) (stack : List Frame) :
    Passes (.item first before stack) := by
  intro b hb
  simp [step, hb]

theorem passes_key (first : Bool) (before : Members Value) (stack : List Frame) :
    Passes (.key first before stack) := by
  intro b hb
  simp [step, hb]

theorem passes_colon (before : Members Value) (key : String) (stack : List Frame) :
    Passes (.colon before key stack) := by
  intro b hb
  simp [step, hb]

theorem passes_after (v : Value) (stack : List Frame) : Passes (.after v stack) := by
  intro b hb
  simp [step, State.leave, hb]

theorem Passes.leads {s : State} {text : List Char} (hs : Passes s) (h : Spaces text) :
    Leads step s (octets text) s :=
  .stay fun b hb => hs b (isSpace_iff.2 (blank_octets h b hb))

/-! ## Where values begin and end -/

def Awaits (s : State) (stack : List Frame) : Prop :=
  ∀ b, isSpace b = false → b ≠ 0x5D → s.step b = enter stack b

/-- What may follow is white space, a comma or a closing bracket. -/
structure Complete (s : State) (v : Value) (stack : List Frame) : Prop where
  finish : s.finish = finishAfter v stack
  leave : ∀ b ∈ ([0x20, 0x09, 0x0A, 0x0D, 0x2C, 0x5D, 0x7D] : Bytes),
    s.step b = State.leave v stack b

theorem awaits_value (stack : List Frame) : Awaits (.value stack) stack := by
  intro b hb _
  simp [step, hb]

theorem awaits_item (first : Bool) (before : List Value) (stack : List Frame) :
    Awaits (.item first before stack) (.items before :: stack) := by
  intro b hb hne
  simp [step, hb, hne]

theorem complete_after (v : Value) (stack : List Frame) : Complete (.after v stack) v stack :=
  ⟨rfl, fun _ _ => rfl⟩

theorem Complete.spaces {s : State} {v : Value} {stack : List Frame} (h : Complete s v stack)
    {text : List Char} (ht : Spaces text) :
    ∃ t, Leads step s (octets text) t ∧ Complete t v stack := by
  have hb := blank_octets ht
  have hafter := passes_after v stack
  generalize octets text = input at hb ⊢
  cases input with
  | nil => exact ⟨s, .nil s, h⟩
  | cons b rest =>
    obtain ⟨hb, hrest⟩ := List.forall_mem_cons.1 hb
    refine ⟨.after v stack, .cons ?_ (.stay fun c hc => hafter c (isSpace_iff.2 (hrest c hc))),
      complete_after v stack⟩
    rw [h.leave b (by simp only [List.mem_cons] at hb ⊢; grind)]
    exact hafter b (isSpace_iff.2 hb)

/-! ## Scalars -/

theorem leads_string {scan scan' : StringScan} {text : Bytes}
    (h : Leads StringScan.step scan text scan') (hopen : ∀ s, scan' ≠ .closed s) (role : Role)
    (stack : List Frame) :
    Leads step (.string scan role stack) text (.string scan' role stack) := by
  induction text generalizing scan with
  | nil =>
    rw [leads_nil_iff] at h
    exact h ▸ .nil _
  | cons b rest ih =>
    obtain ⟨mid, hb, hrest⟩ := leads_cons_iff.1 h
    -- A string that is closed stays so, and would be closed at the end.
    have hmid : ∀ s, mid ≠ .closed s := by
      rintro s rfl
      exact hopen s (hrest.unique (.stay fun _ _ => rfl))
    refine .cons ?_ (ih hrest)
    simp only [step, hb]

theorem leads_stringText {s : String} {text : List Char} (h : StringText s text) {t : State}
    {role : Role} {stack : List Frame} (ht : t.step 0x22 = .ok (.string (.plain []) role stack)) :
    Leads step t (octets text) (settle s role stack) := by
  cases h with
  | mk h =>
    have hchars := leads_string (StringScan.leads_joined h []) (by simp) role stack
    rw [List.append_nil] at hchars
    have hclose : step (.string (.plain (octets s.toList).reverse) role stack) 0x22 =
        .ok (settle s role stack) := by
      simp only [step, StringScan.close_octets]
    rw [List.cons_append, octets_cons, octets_append]
    exact .cons ht (hchars.append (.single hclose))

theorem octet_digit {n : Nat} {c : Char} (h : Digit 10 n c) :
    (UInt8.ofNat c.toNat).toNat = 0x30 + n := by
  have hn := h.below
  have hc : c.toNat = 0x30 + n := by rcases h.toNat_eq (by decide) with h | h | h <;> omega
  rw [UInt8.toNat_ofNat', hc]
  omega

theorem isDigit_digit {n : Nat} {c : Char} (h : Digit 10 n c) :
    isDigit (UInt8.ofNat c.toNat) = true := by
  have hn := h.below
  have hlow : 0x30 ≤ 0x30 + n := Nat.le_add_right _ _
  have hhigh : 0x30 + n ≤ 0x39 := by omega
  simpa [isDigit, UInt8.le_iff_toNat_le, octet_digit h] using hhigh

theorem digitValue_digit {n : Nat} {c : Char} (h : Digit 10 n c) :
    digitValue (UInt8.ofNat c.toNat) = n := by
  rw [digitValue, octet_digit h, Nat.add_sub_cancel_left]

theorem ofDigit_digit {n : Nat} {c : Char} (h : Digit 10 n c) (hc : c ≠ '0') (negative : Bool) :
    NumberScan.ofDigit negative (UInt8.ofNat c.toNat) = .integer ⟨negative, n, 0⟩ := by
  have hne : UInt8.ofNat c.toNat ≠ 0x30 := by
    intro hb
    have hzero := octet_digit h
    rw [hb] at hzero
    have hn : n = 0 := by
      change 0x30 = 0x30 + n at hzero
      omega
    subst hn
    rcases h.shown with rfl | rfl <;> exact hc rfl
  rw [NumberScan.ofDigit, if_neg hne, digitValue_digit h]

/-- The digits of a number, the first of which is read by what comes before. -/
theorem leads_numeral {n : Nat} {digits : List Char} (h : Numeral 10 n digits)
    (hne : digits ≠ []) (hzero : digits.head? ≠ some '0') (hlt : n < 0x10000000000000000)
    {t : State} {stack : List Frame} {negative : Bool}
    (ht : ∀ b, isDigit b = true → t.step b = .ok (.number (NumberScan.ofDigit negative b) stack)) :
    Leads step t (octets digits) (.number (.integer ⟨negative, n, 0⟩) stack) := by
  induction h with
  | nil => exact absurd rfl hne
  | @snoc n d digits c hn hd ih =>
    have hdigit := isDigit_digit hd
    rw [octets_append, octets_cons, octets_nil, hd.octets_eq (by decide)]
    by_cases hfirst : digits = []
    · subst hfirst
      rw [hn.eq_zero_of_nil, Nat.zero_mul, Nat.zero_add]
      have hc : c ≠ '0' := fun hc => hzero (by rw [hc]; rfl)
      refine .single ?_
      rw [ht _ hdigit, ofDigit_digit hd hc]
    · have hhead : digits.head? ≠ some '0' := by
        intro hh
        exact hzero (by rw [List.head?_append, hh]; rfl)
      refine (ih hfirst hhead (by omega)).append (.single ?_)
      simp only [step, NumberScan.step, hdigit, if_true, Magnitude.fits, digitValue_digit hd,
        Magnitude.push]
      rw [if_pos (by simpa using hlt)]

theorem complete_number {scan : NumberScan} {n : Number} (hfinish : scan.finish = .ok n)
    (hstep : ∀ b ∈ ([0x20, 0x09, 0x0A, 0x0D, 0x2C, 0x5D, 0x7D] : Bytes), scan.step b = .ok none)
    (stack : List Frame) : Complete (.number scan stack) (.number n) stack := by
  constructor
  · simp only [finish, hfinish]
  · intro b hb
    simp only [step, hstep b hb, hfinish]

/-- What may follow a value ends a number. -/
theorem step_integer (m : Magnitude) :
    ∀ b ∈ ([0x20, 0x09, 0x0A, 0x0D, 0x2C, 0x5D, 0x7D] : Bytes),
      (NumberScan.integer m).step b = .ok none ∧ (NumberScan.zero m).step b = .ok none := by
  intro b hb
  have hb : isDigit b = false ∧ NumberScan.afterInteger m b = none := by
    simp only [List.mem_cons, List.not_mem_nil, or_false] at hb
    rcases hb with rfl | rfl | rfl | rfl | rfl | rfl | rfl <;> exact ⟨rfl, rfl⟩
  simp [NumberScan.step, hb.1, hb.2]

theorem awaits_digit {s : State} {stack : List Frame} (h : Awaits s stack) (b : UInt8)
    (hb : isDigit b = true) : s.step b = .ok (.number (NumberScan.ofDigit false b) stack) := by
  have hne : ∀ d, isDigit d = false → b ≠ d := by
    rintro d hd rfl
    rw [hb] at hd
    cases hd
  have hspace : isSpace b = false := by
    simp [isSpace, hne 0x20 rfl, hne 0x0A rfl, hne 0x09 rfl, hne 0x0D rfl]
  rw [h b hspace (hne _ rfl)]
  simp [enter, hne 0x6E rfl, hne 0x74 rfl, hne 0x66 rfl, hne 0x2D rfl, hb]

theorem finish_minusZero : (NumberScan.zero ⟨true, 0, 0⟩).finish = .ok (.float (-0.0)) := by
  have h : (0 : Nat).toUInt64.toFloat * Magnitude.power 0 = 0.0 := by decide +kernel
  rw [NumberScan.finish, Magnitude.integer, if_neg (by decide), if_neg (by decide),
    Magnitude.value, Magnitude.scaled]
  simp only [Int.natAbs_zero, Nat.zero_le, if_true, Int.le_refl, Int.toNat_zero, h]
  rfl

theorem leads_minus {s : State} {stack : List Frame} (h : Awaits s stack) :
    s.step 0x2D = .ok (.number .minus stack) :=
  h 0x2D rfl (by decide)

theorem step_minus (stack : List Frame) (b : UInt8) (hb : isDigit b = true) :
    step (.number .minus stack) b = .ok (.number (NumberScan.ofDigit true b) stack) := by
  simp [step, NumberScan.step, hb]

theorem ne_nil_of_numeral {n : Nat} {digits : List Char} (h : Numeral 10 n digits) (hn : 0 < n) :
    digits ≠ [] := by
  rintro rfl
  rw [h.eq_zero_of_nil] at hn
  exact Nat.lt_irrefl 0 hn

theorem leads_integerText {n : Int} {text : List Char} (h : IntegerText n text) {s : State}
    {stack : List Frame} (hs : Awaits s stack) :
    ∃ t, Leads step s (octets text) t ∧ Complete t (.number (.integer n)) stack := by
  cases h with
  | zero =>
    exact ⟨.number (.zero ⟨false, 0, 0⟩) stack, .single (awaits_digit hs 0x30 rfl),
      complete_number rfl (fun b hb => (step_integer _ b hb).2) stack⟩
  | @positive n digits h hzero hpos hlt =>
    exact ⟨.number (.integer ⟨false, n, 0⟩) stack,
      leads_numeral h (ne_nil_of_numeral h hpos) hzero hlt (awaits_digit hs),
      complete_number rfl (fun b hb => (step_integer _ b hb).1) stack⟩
  | @negative n digits h hzero hpos hle =>
    have hlt : n < 0x10000000000000000 := by omega
    have hfinish : (NumberScan.integer ⟨true, n, 0⟩).finish = .ok (.integer (-n)) := by
      simp only [NumberScan.finish, Magnitude.integer]
      rw [if_neg (by decide), if_pos ⟨hpos, hle⟩]
    have hdigits := leads_numeral h (ne_nil_of_numeral h hpos) hzero hlt (step_minus stack)
    exact ⟨.number (.integer ⟨true, n, 0⟩) stack, .cons (leads_minus hs) hdigits,
      complete_number hfinish (fun b hb => (step_integer _ b hb).1) stack⟩

theorem leads_scalarText {v : Value} {text : List Char} (h : ScalarText v text) {s : State}
    {stack : List Frame} (hs : Awaits s stack) :
    ∃ t, Leads step s (octets text) t ∧ Complete t v stack := by
  cases h with
  | null =>
    exact ⟨.after .null stack,
      .cons (hs 0x6E rfl (by decide)) (.cons rfl (.cons rfl (.single rfl))), complete_after _ _⟩
  | true =>
    exact ⟨.after (.bool true) stack,
      .cons (hs 0x74 rfl (by decide)) (.cons rfl (.cons rfl (.single rfl))), complete_after _ _⟩
  | false =>
    exact ⟨.after (.bool false) stack,
      .cons (hs 0x66 rfl (by decide)) (.cons rfl (.cons rfl (.cons rfl (.single rfl)))),
      complete_after _ _⟩
  | integer h => exact leads_integerText h hs
  | minusZero =>
    exact ⟨.number (.zero ⟨true, 0, 0⟩) stack,
      .cons (leads_minus hs) (.single (step_minus stack 0x30 rfl)),
      complete_number finish_minusZero (fun b hb => (step_integer _ b hb).2) stack⟩
  | string h =>
    have hopen := hs 0x22 rfl (by decide)
    exact ⟨.after (.string _) stack, leads_stringText h hopen, complete_after _ _⟩

/-! ## Arrays and objects -/

/-- What is shown is read, inside of the given frames. -/
def ReadsIn (Shown : Value → List Char → Prop) (stack : List Frame) : Prop :=
  ∀ v text, Shown v text → ∀ s, Awaits s stack →
    ∃ t, Leads step s (octets text) t ∧ Complete t v stack

theorem leads_padded {Shown : Value → List Char → Prop} {stack : List Frame}
    (hshown : ReadsIn Shown stack) {v : Value} {text : List Char} (h : Padded Shown v text)
    {s : State} (hs : Awaits s stack) (hspace : Passes s) :
    ∃ t, Leads step s (octets text) t ∧ Complete t v stack := by
  cases h with
  | mk hbefore hv hbehind =>
    obtain ⟨t, ht, hc⟩ := hshown _ _ hv s hs
    obtain ⟨u, hu, hc'⟩ := hc.spaces hbehind
    rw [octets_append, octets_append]
    exact ⟨u, ((hspace.leads hbefore).append ht).append hu, hc'⟩

theorem leads_items {Shown : Value → List Char → Prop} {stack : List Frame}
    (hshown : ∀ before, ReadsIn Shown (.items before :: stack)) {items : List Value}
    {text : List Char} (h : Separated (Padded Shown) items text) (first : Bool)
    (before : List Value) :
    Leads step (.item first before stack) (octets (text ++ [']']))
      (.after (.array (before.reverse ++ items)) stack) := by
  induction h generalizing first before with
  | last hv =>
    obtain ⟨t, ht, hc⟩ := leads_padded (hshown before) hv (awaits_item first before stack)
      (passes_item first before stack)
    rw [octets_append]
    refine ht.append (.single ((hc.leave 0x5D (by decide)).trans ?_))
    simp [State.leave, isSpace]
  | @more v items text rest hv _ ih =>
    obtain ⟨t, ht, hc⟩ := leads_padded (hshown before) hv (awaits_item first before stack)
      (passes_item first before stack)
    have hcomma : step t 0x2C = .ok (.item false (v :: before) stack) :=
      (hc.leave 0x2C (by decide)).trans (by simp [State.leave, isSpace])
    have hrest := ih false (v :: before)
    rw [List.reverse_cons, List.append_assoc] at hrest
    rw [List.append_assoc, octets_append]
    exact ht.append (.cons hcomma hrest)

theorem leads_key {stack : List Frame} {first : Bool} {before : Members Value} {key : String}
    {text : List Char} (h : Padded StringText key text) :
    Leads step (.key first before stack) (octets text) (.colon before key stack) := by
  cases h with
  | mk hbefore hkey hbehind =>
    have hopen : step (.key first before stack) 0x22 =
        .ok (.string (.plain []) (.key before) stack) := rfl
    have hstring := leads_stringText hkey hopen
    rw [octets_append, octets_append]
    exact (((passes_key first before stack).leads hbefore).append hstring).append
      ((passes_colon before key stack).leads hbehind)

theorem leads_member {Shown : Value → List Char → Prop} {stack : List Frame}
    {before : Members Value} {m : String × Value} {text : List Char}
    (hshown : ReadsIn Shown (.members before m.1 :: stack)) (h : MemberText Shown m text)
    (first : Bool) :
    ∃ t, Leads step (.key first before stack) (octets text) t ∧
      Complete t m.2 (.members before m.1 :: stack) := by
  cases h with
  | @mk key v keyText text hkey hv =>
    obtain ⟨t, ht, hc⟩ := leads_padded hshown hv (awaits_value _) (passes_value _)
    rw [octets_append]
    exact ⟨t, (leads_key hkey).append (.cons rfl ht), hc⟩

theorem leads_members {Shown : Value → List Char → Prop} {stack : List Frame}
    (hshown : ∀ before key, ReadsIn Shown (.members before key :: stack)) {members : Members Value}
    {text : List Char} (h : Separated (MemberText Shown) members text) (first : Bool)
    (before : Members Value) :
    Leads step (.key first before stack) (octets (text ++ ['\x7d']))
      (.after (.object (before.reverse ++ members)) stack) := by
  induction h generalizing first before with
  | @last m text hm =>
    obtain ⟨t, ht, hc⟩ := leads_member (hshown before m.1) hm first
    rw [octets_append]
    refine ht.append (.single ((hc.leave 0x7D (by decide)).trans ?_))
    simp [State.leave, isSpace]
  | @more m members text rest hm _ ih =>
    obtain ⟨t, ht, hc⟩ := leads_member (hshown before m.1) hm first
    have hcomma : step t 0x2C = .ok (.key false (m :: before) stack) :=
      (hc.leave 0x2C (by decide)).trans (by simp [State.leave, isSpace])
    have hrest := ih false (m :: before)
    rw [List.reverse_cons, List.append_assoc] at hrest
    rw [List.append_assoc, octets_append]
    exact ht.append (.cons hcomma hrest)

theorem leads_containerText {Shown : Value → List Char → Prop} {stack : List Frame}
    (hshown : ∀ frame, ReadsIn Shown (frame :: stack)) (hroom : stack.length < depthLimit)
    {v : Value} {text : List Char} (h : ContainerText Shown v text) {s : State}
    (hs : Awaits s stack) : Leads step s (octets text) (.after v stack) := by
  have hopen : s.step 0x5B = .ok (.item true [] stack) := by
    rw [hs 0x5B rfl (by decide)]
    simp [enter, isDigit, hroom]
  have hopen' : s.step 0x7B = .ok (.key true [] stack) := by
    rw [hs 0x7B rfl (by decide)]
    simp [enter, isDigit, hroom]
  cases h with
  | emptyArray hspaces =>
    have hspaces := (passes_item true [] stack).leads hspaces
    rw [List.cons_append, octets_cons, octets_append]
    exact .cons hopen (hspaces.append (.single rfl))
  | array hitems => exact .cons hopen (leads_items (fun _ => hshown _) hitems true [])
  | emptyObject hspaces =>
    have hspaces := (passes_key true [] stack).leads hspaces
    rw [List.cons_append, octets_cons, octets_append]
    exact .cons hopen' (hspaces.append (.single rfl))
  | object hmembers => exact .cons hopen' (leads_members (fun _ _ => hshown _) hmembers true [])

/-- By induction on the depth: each array or object that is opened takes one frame. -/
theorem readsIn_valueText (depth : Nat) (stack : List Frame)
    (hroom : stack.length + depth ≤ depthLimit) : ReadsIn (ValueText depth) stack := by
  induction depth generalizing stack with
  | zero =>
    intro v text h s hs
    exact leads_scalarText h hs
  | succ depth ih =>
    intro v text h s hs
    rcases h with h | h
    · exact leads_scalarText h hs
    · have hshown : ∀ frame, ReadsIn (ValueText depth) (frame :: stack) := by
        intro frame
        refine ih (frame :: stack) ?_
        rw [List.length_cons]
        omega
      exact ⟨_, leads_containerText hshown (by omega) h hs, complete_after v stack⟩

end State

/-! ## Whole texts -/

/-- Whatever text a value has been given, it is the value that is read. -/
theorem read_valueText {v : Value} {text : List Char}
    (h : Padded (ValueText depthLimit) v text) : read (octets text) = .ok v := by
  have hroom : ([] : List Frame).length + depthLimit ≤ depthLimit := by simp
  obtain ⟨s, hs, hc⟩ := State.leads_padded (State.readsIn_valueText depthLimit [] hroom) h
    (State.awaits_value []) (State.passes_value [])
  exact read_eq_ok_iff.2 ⟨s, hs, hc.finish⟩

end TaskMail.Json
