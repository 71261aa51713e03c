import TaskMail.Failure
import TaskMail.Proofs.CompactText
import TaskMail.Proofs.ConfigText

/-!
# TaskMail.Proofs.FieldOrder

Which of the members of an object decide over a configuration, and which fault is reported.

* `Sound`     — what the last member with a key may hold, if there is one.
* `Complaint` — what is said of a field that is not sound.
* `SoundAt`   — the field of a key is sound.
* `Reports`   — what is said of the first field that is not sound.
* `check`     — the check of one field. To decode a configuration is to check its keys in order
  (`ofFields_checked`).

The order of the fields is that of `keys`, and that of the members does not matter:
`decode_fields`.
-/

namespace TaskMail
namespace MailConfig

open Json
open Json.Members (Last last?_of_last last?_eq_iff exists_last)

/-- Only the copy may be left out. -/
inductive Sound (key : String) : Option Value → Prop where
  | text (s : String) : Sound key (some (.string s))
  | absent : key = "cc" → Sound key none
  | null : key = "cc" → Sound key (some .null)

inductive Complaint (key : String) : Option Value → String → Prop where
  | absent : key ≠ "cc" → Complaint key none ("missing required field '" ++ key ++ "'")
  | null : key ≠ "cc" → Complaint key (some .null) ("missing required field '" ++ key ++ "'")
  | notText {v : Value} {text : List Char} :
      v ≠ .null → (∀ s, v ≠ .string s) → CompactText v text →
      Complaint key (some v) ("field '" ++ key ++ "' must be a string, got " ++ String.ofList text)

def SoundAt (fields : Fields) (key : String) : Prop :=
  ∃ field, Last fields key field ∧ Sound key field

inductive Reports (fields : Fields) : String → Prop where
  | mk {before after : List String} {key complaint : String} {field : Option Value} :
      keys = before ++ key :: after → (∀ k ∈ before, SoundAt fields k) →
      Last fields key field → Complaint key field complaint → Reports fields complaint

/-! ## Checks in a row -/

section

variable {ε α β : Type} {check : α → Except ε Unit} {e : ε}

theorem forM_eq_ok_iff {items : List α} :
    forM items check = .ok () ↔ ∀ a ∈ items, check a = .ok () := by
  induction items with
  | nil => exact ⟨fun _ _ ha => absurd ha List.not_mem_nil, fun _ => rfl⟩
  | cons a rest ih =>
    rw [List.forM_cons, List.forall_mem_cons, ← ih]
    cases check a with
    | error e =>
      constructor
      · intro h
        cases h
      · rintro ⟨h, -⟩
        cases h
    | ok u => exact (and_iff_right rfl).symm

theorem forM_append_cons_error {before after : List α} {a : α}
    (hbefore : ∀ b ∈ before, check b = .ok ()) (ha : check a = .error e) :
    forM (before ++ a :: after) check = .error e := by
  induction before with
  | nil =>
    rw [List.nil_append, List.forM_cons, ha]
    rfl
  | cons b rest ih =>
    obtain ⟨hb, hrest⟩ := List.forall_mem_cons.1 hbefore
    rw [List.cons_append, List.forM_cons, hb]
    exact ih hrest

/-- The first check that fails is the one that is reported. -/
theorem forM_eq_error_iff {items : List α} :
    forM items check = .error e ↔ ∃ before a after, items = before ++ a :: after ∧
      (∀ b ∈ before, check b = .ok ()) ∧ check a = .error e := by
  constructor
  · intro h
    induction items with
    | nil => cases h
    | cons a rest ih =>
      rw [List.forM_cons] at h
      cases ha : check a with
      | error e' =>
        rw [ha] at h
        cases h
        exact ⟨[], a, rest, rfl, fun _ hb => absurd hb List.not_mem_nil, ha⟩
      | ok u =>
        rw [ha] at h
        obtain ⟨before, b, after, heq, hbefore, hb⟩ := ih h
        exact ⟨a :: before, b, after, by rw [heq, List.cons_append],
          List.forall_mem_cons.2 ⟨ha, hbefore⟩, hb⟩
  · rintro ⟨before, a, after, rfl, hbefore, ha⟩
    exact forM_append_cons_error hbefore ha

/-- A check that is followed by others, whose outcome does not depend on what it gives. -/
theorem map_bind_const {x : Except ε α} {f : α → Except ε β} {rest : Except ε Unit}
    (h : ∀ a, (f a).map (fun _ => ()) = rest) :
    (x >>= f).map (fun _ => ()) = x.map (fun _ => ()) >>= fun _ => rest := by
  cases x with
  | error e => rfl
  | ok a => exact h a

end

variable {fields : Fields} {key complaint : String} {field : Option Value} {e : ConfigFault}

def check (key : String) : Option Value → Except ConfigFault Unit
  | some (.string _) => .ok ()
  | none | some .null => if key = "cc" then .ok () else .error (.missing key)
  | some v => .error (.notText key v)

def checkAll (fields : Fields) : Except ConfigFault Unit :=
  forM keys fun key => check key (fields.last? key)

theorem optional_checked (fields : Fields) :
    (optional fields "cc").map (fun _ => ()) = check "cc" (fields.last? "cc") := by
  rw [optional]
  cases fields.last? "cc" with
  | none => rfl
  | some v => cases v <;> rfl

theorem required_checked (fields : Fields) {key : String} (h : key ≠ "cc") :
    (required fields key).map (fun _ => ()) = check key (fields.last? key) := by
  rw [required, optional]
  cases fields.last? key with
  | none => rw [check, if_neg h]; rfl
  | some v =>
    cases v with
    | null => rw [check, if_neg h]; rfl
    | _ => rfl

theorem ofFields_checked (fields : Fields) :
    (ofFields fields).map (fun _ => ()) = checkAll fields := by
  have hall : checkAll fields =
      (check "to" (fields.last? "to") >>= fun _ => check "cc" (fields.last? "cc") >>= fun _ =>
        check "subject" (fields.last? "subject") >>= fun _ =>
        check "body" (fields.last? "body") >>= fun _ =>
        check "when" (fields.last? "when") >>= fun _ => .ok ()) := rfl
  have hto : "to" ≠ "cc" := by decide
  have hsubject : "subject" ≠ "cc" := by decide
  have hbody : "body" ≠ "cc" := by decide
  have hwhen : "when" ≠ "cc" := by decide
  rw [hall, ← required_checked fields hto, ← optional_checked,
    ← required_checked fields hsubject, ← required_checked fields hbody,
    ← required_checked fields hwhen]
  unfold ofFields
  refine map_bind_const fun recipient => ?_
  refine map_bind_const fun cc => ?_
  refine map_bind_const fun subject => ?_
  refine map_bind_const fun body => ?_
  refine map_bind_const fun trigger => ?_
  rfl

theorem exists_ofFields_eq_ok_iff :
    (∃ c, ofFields fields = .ok c) ↔ checkAll fields = .ok () := by
  rw [← ofFields_checked]
  cases ofFields fields <;> simp [Except.map]

theorem ofFields_eq_error_iff : ofFields fields = .error e ↔ checkAll fields = .error e := by
  rw [← ofFields_checked]
  cases ofFields fields <;> simp [Except.map]

theorem ofFields_congr {others : Fields} (h : ∀ key ∈ keys, others.last? key = fields.last? key) :
    ofFields others = ofFields fields := by
  have hoptional : ∀ key ∈ keys, optional others key = optional fields key := by
    intro key hkey
    rw [optional, optional, h key hkey]
  have hrequired : ∀ key ∈ keys, required others key = required fields key := by
    intro key hkey
    rw [required, required, hoptional key hkey]
  unfold ofFields
  rw [hrequired "to" (by decide), hoptional "cc" (by decide), hrequired "subject" (by decide),
    hrequired "body" (by decide), hrequired "when" (by decide)]

/-! ## One field -/

theorem check_eq_ok_iff : check key field = .ok () ↔ Sound key field := by
  constructor
  · intro h
    cases field with
    | none =>
      rw [check] at h
      split at h
      · next hcopy => exact .absent hcopy
      · cases h
    | some v =>
      cases v with
      | string s => exact .text s
      | null =>
        rw [check] at h
        split at h
        · next hcopy => exact .null hcopy
        · cases h
      | _ => cases h
  · intro h
    cases h with
    | text s => rfl
    | absent hcopy => rw [check, if_pos hcopy]
    | null hcopy => rw [check, if_pos hcopy]

theorem check_notText {v : Value} (hnull : v ≠ .null) (hstring : ∀ s, v ≠ .string s) :
    check key (some v) = .error (.notText key v) := by
  cases v with
  | null => exact absurd rfl hnull
  | string s => exact absurd rfl (hstring s)
  | _ => rfl

theorem check_error (h : check key field = .error e) :
    e = .missing key ∧ key ≠ "cc" ∧ (field = none ∨ field = some .null) ∨
      ∃ v, e = .notText key v ∧ field = some v ∧ v ≠ .null ∧ ∀ s, v ≠ .string s := by
  cases field with
  | none =>
    rw [check] at h
    split at h
    · cases h
    · next hkey => cases h; exact .inl ⟨rfl, hkey, .inl rfl⟩
  | some v =>
    cases v with
    | string s => cases h
    | null =>
      rw [check] at h
      split at h
      · cases h
      · next hkey => cases h; exact .inl ⟨rfl, hkey, .inr rfl⟩
    | _ => cases h; exact .inr ⟨_, rfl, rfl, by simp, by simp⟩

theorem kind_of_check (h : check key field = .error e) :
    (Failure.config e).kind = .configValidation := by
  rcases check_error h with ⟨rfl, -⟩ | ⟨v, rfl, -⟩ <;> rfl

theorem text_notText {v : Value} {text : List Char} (hshown : CompactText v v.text.toList)
    (h : CompactText v text) : (ConfigFault.notText key v).text =
      "field '" ++ key ++ "' must be a string, got " ++ String.ofList text := by
  obtain rfl : v.text.toList = text := hshown.unique h
  rw [String.ofList_toList]
  rfl

theorem complaint_iff (hshown : ∀ v, field = some v → CompactText v v.text.toList) :
    Complaint key field complaint ↔ ∃ e, check key field = .error e ∧ e.text = complaint := by
  constructor
  · intro h
    cases h with
    | absent hkey => exact ⟨.missing key, by rw [check, if_neg hkey], rfl⟩
    | null hkey => exact ⟨.missing key, by rw [check, if_neg hkey], rfl⟩
    | @notText v text hnull hstring htext =>
      exact ⟨.notText key v, check_notText hnull hstring, text_notText (hshown v rfl) htext⟩
  · rintro ⟨e, he, rfl⟩
    rcases check_error he with ⟨rfl, hkey, rfl | rfl⟩ | ⟨v, rfl, rfl, hnull, hstring⟩
    · exact .absent hkey
    · exact .null hkey
    · rw [text_notText (hshown v rfl) (hshown v rfl)]
      exact .notText hnull hstring (hshown v rfl)

/-! ## The first fault -/

theorem soundAt_iff : SoundAt fields key ↔ check key (fields.last? key) = .ok () := by
  rw [check_eq_ok_iff]
  constructor
  · rintro ⟨field, hlast, hsound⟩
    rwa [last?_of_last hlast]
  · exact fun h => ⟨_, last?_eq_iff.1 rfl, h⟩

theorem checkAll_eq_ok_iff : checkAll fields = .ok () ↔ ∀ key ∈ keys, SoundAt fields key := by
  simp only [checkAll, forM_eq_ok_iff, soundAt_iff]

theorem reports_iff
    (hshown : ∀ key v, Last fields key (some v) → CompactText v v.text.toList) :
    Reports fields complaint ↔ ∃ e, checkAll fields = .error e ∧ e.text = complaint := by
  have hfield : ∀ key v, fields.last? key = some v → CompactText v v.text.toList :=
    fun key v h => hshown key v (last?_eq_iff.1 h)
  simp only [checkAll, forM_eq_error_iff]
  constructor
  · rintro ⟨heq, hbefore, hlast, hcomplaint⟩
    rw [← last?_of_last hlast, complaint_iff (hfield _)] at hcomplaint
    obtain ⟨e, he, htext⟩ := hcomplaint
    exact ⟨e, ⟨_, _, _, heq, fun k hk => soundAt_iff.1 (hbefore k hk), he⟩, htext⟩
  · rintro ⟨e, ⟨before, key, after, heq, hbefore, he⟩, htext⟩
    exact .mk heq (fun k hk => soundAt_iff.2 (hbefore k hk)) (last?_eq_iff.1 rfl)
      ((complaint_iff (hfield key)).2 ⟨e, he, htext⟩)

/-! ## Texts -/

theorem decode_of_valueText {text : String}
    (h : Padded (ValueText 127) (.object fields) text.toList) :
    decode (Utf8.encode text) = ofFields fields := by
  rw [decode, Utf8.encode_eq_octets, read_valueText h]
  rfl

theorem compactText_of_last {text : List Char}
    (h : Padded (ValueText 127) (.object fields) text) {v : Value}
    (hlast : Last fields key (some v)) : CompactText v v.text.toList := by
  have hmem := Members.mem_of_last? (last?_of_last hlast)
  cases h with
  | mk _ hvalue _ =>
    rcases hvalue with hscalar | hobject
    · cases hscalar
    cases hobject with
    | emptyObject _ => cases hmem
    | object hmembers =>
      obtain ⟨_, hshown⟩ := exists_valueText_of_mem hmembers hmem
      exact compactText_text hshown

/-- Of an object, however it is written, the last member of each key decides: it is decoded when
all five fields are sound, and otherwise the first one that is not is reported, and nothing else. -/
theorem decode_fields (fields : Fields) (text : String)
    (htext : Padded (ValueText 127) (.object fields) text.toList) :
    (∀ (others : Fields) (otherText : String),
      Padded (ValueText 127) (.object others) otherText.toList →
      (∀ key ∈ keys, ∀ field, Last others key field ↔ Last fields key field) →
      decode (Utf8.encode otherText) = decode (Utf8.encode text)) ∧
    ((∃ c, decode (Utf8.encode text) = .ok c) ↔ ∀ key ∈ keys, SoundAt fields key) ∧
    ∀ e, decode (Utf8.encode text) = .error e →
      (Failure.config e).kind = .configValidation ∧
        ∃ complaint, (∀ other, Reports fields other ↔ other = complaint) ∧
          (Failure.config e).message = "invalid configuration: " ++ complaint := by
  rw [decode_of_valueText htext]
  refine ⟨?_, ?_, ?_⟩
  · intro others otherText hother hsame
    rw [decode_of_valueText hother]
    refine ofFields_congr fun key hkey => ?_
    exact last?_of_last ((hsame key hkey _).2 (last?_eq_iff.1 rfl))
  · rw [exists_ofFields_eq_ok_iff, checkAll_eq_ok_iff]
  · intro e he
    rw [ofFields_eq_error_iff] at he
    obtain ⟨before, key, after, _, _, hcheck⟩ := forM_eq_error_iff.1 he
    have hkind := kind_of_check hcheck
    refine ⟨hkind, e.text, fun other => ?_, ?_⟩
    · rw [reports_iff fun key v => compactText_of_last htext, he]
      simp [eq_comm]
    · rw [Failure.message, hkind]
      rfl

/-- A second recipient, whose key is written with a code, takes the place of the first, and its
fault is reported although that of the body stands in front of it. -/
theorem decode_fields_repeated :
    let v : Value := .object [("b", .null), ("a", .array [.bool true, .string "\x01/"]),
      ("b", .number (.integer 1))]
    let fields : Fields := [("to", .string "a"), ("body", .number (.integer 7)), ("to", v)]
    let text := "\x7b\"to\":\"a\",\"body\":7,\"t\\u006f\":" ++
      "\x7b\"b\":null,\"a\":[true,\"\\u0001\\/\"],\"b\":1\x7d\x7d"
    let complaint := "field 'to' must be a string, got \x7b\"a\":[true,\"\\u0001/\"],\"b\":1\x7d"
    Padded (ValueText 127) (.object fields) text.toList ∧
      decode (Utf8.encode text) = .error (.notText "to" v) ∧
      Reports fields complaint ∧
      (Failure.config (.notText "to" v)).message = "invalid configuration: " ++ complaint := by
  intro v fields text complaint
  have hplain : ∀ s ∈ ["to", "a", "b", "body"], StringText s ('"' :: s.toList ++ ['"']) := by
    intro s hs
    have hall : ∀ s ∈ ["to", "a", "b", "body"],
        (s.toList.all fun c => decide (c ≠ '"' ∧ c ≠ '\\' ∧ 0x20 ≤ c.toNat)) = true := by decide
    exact stringText_plain fun c hc => of_decide_eq_true (List.all_eq_true.1 (hall s hs) c hc)
  have hzero : Digit 16 0 '0' := ⟨by decide, .inl rfl⟩
  have hone : Digit 16 1 '1' := ⟨by decide, .inl rfl⟩
  have hsix : Digit 16 6 '6' := ⟨by decide, .inl rfl⟩
  have hfifteen : Digit 16 15 'f' := ⟨by decide, .inl rfl⟩
  have hkey : StringText "to" "\"t\\u006f\"".toList := by
    have hcode : CodeText ('o').toNat ['0', '0', '6', 'f'] :=
      codeText_of_digits hzero hzero hsix hfifteen
    exact .mk (s := "to") (.cons (.plain (by decide) (by decide) (by decide))
      (.cons (.code hcode) .nil))
  have hstring : StringText "\x01/" "\"\\u0001\\/\"".toList := by
    have hcode : CodeText ('\x01').toNat ['0', '0', '0', '1'] :=
      codeText_of_digits hzero hzero hzero hone
    have hsolidus : ('/', '/') ∈ letters := by decide
    exact .mk (s := "\x01/") (.cons (.code hcode) (.cons (.letter hsolidus) .nil))
  have hdigit : ∀ {n c}, Digit 10 n c → 0 < n → c ≠ '0' → IntegerText n [c] := by
    intro n c hdigit hpos hc
    have hbelow := hdigit.below
    have hnumeral : Numeral 10 n [c] := by simpa using Numeral.nil.snoc hdigit
    exact .positive hnumeral (by simpa using hc) hpos (by omega)
  have hseven : IntegerText (7 : Nat) ['7'] :=
    hdigit ⟨by decide, .inl rfl⟩ (by decide) (by decide)
  have hunit : IntegerText (1 : Nat) ['1'] :=
    hdigit ⟨by decide, .inl rfl⟩ (by decide) (by decide)
  have hnone : Spaces [] := by decide
  have harray : ContainerText (ValueText 124) (.array [.bool true, .string "\x01/"]) _ :=
    .array (.more (.tight (ScalarText.true.valueText 124))
      (.last (.tight ((ScalarText.string hstring).valueText 124))))
  have hobject : ContainerText (ValueText 125) v _ :=
    .object (.more (.mk (.tight (hplain "b" (by decide))) (.tight (ScalarText.null.valueText 125)))
      (.more (.mk (.tight (hplain "a" (by decide))) (.tight harray.valueText))
        (.last (.mk (.tight (hplain "b" (by decide)))
          (.tight ((ScalarText.integer hunit).valueText 125))))))
  have hfields : ContainerText (ValueText 126) (.object fields) _ :=
    .object (.more (.mk (.tight (hplain "to" (by decide)))
        (.tight ((ScalarText.string (hplain "a" (by decide))).valueText 126)))
      (.more (.mk (.tight (hplain "body" (by decide)))
          (.tight ((ScalarText.integer hseven).valueText 126)))
        (.last (.mk (.tight hkey) (.tight hobject.valueText)))))
  have htext : Padded (ValueText 127) (.object fields) text.toList := by
    refine cast (congrArg (Padded (ValueText 127) (.object fields)) ?_)
      (Padded.tight hfields.valueText)
    decide
  have hdecode : decode (Utf8.encode text) = .error (.notText "to" v) :=
    (decode_of_valueText htext).trans rfl
  have hmessage : (Failure.config (.notText "to" v)).message =
      "invalid configuration: " ++ complaint := by
    decide +kernel
  obtain ⟨-, c, hreports, hc⟩ := (decode_fields fields text htext).2.2 _ hdecode
  have heq : complaint = c := String.append_right_inj _ |>.1 (hmessage.symm.trans hc)
  exact ⟨htext, hdecode, (hreports complaint).2 heq, hmessage⟩

end MailConfig
end TaskMail
