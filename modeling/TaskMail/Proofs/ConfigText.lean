import TaskMail.Proofs.Fields
import TaskMail.Proofs.LastMembers
import TaskMail.Proofs.ValueReading

/-!
# TaskMail.Proofs.ConfigText

Every way of writing a configuration is decoded to that configuration.

* `CopyField`  — how the field of the copy is written, if it is.
* `obligatory` — the members that a configuration cannot do without.

The members stand in any order, and others with other keys may stand among them: `decode_text`.
-/

namespace TaskMail

namespace MailConfig

open Json

inductive CopyField where
  | omitted
  | null
  | text (s : String)

namespace CopyField

def members : CopyField → Fields
  | .omitted => []
  | .null => [("cc", .null)]
  | .text s => [("cc", .string s)]

def copy : CopyField → Option String
  | .text s => if s = "" then none else some s
  | _ => none

theorem copy_eq_none_iff {cc : CopyField} :
    cc.copy = none ↔ cc = .omitted ∨ cc = .null ∨ cc = .text "" := by
  cases cc with
  | text s => by_cases hs : s = "" <;> simp [copy, hs]
  | _ => simp [copy]

end CopyField

def keys : List String := ["to", "cc", "subject", "body", "when"]

def obligatory (recipient subject body trigger : String) : Fields :=
  [("to", .string recipient), ("subject", .string subject), ("body", .string body),
    ("when", .string trigger)]

section

variable {recipient subject body trigger : String} {cc : CopyField} {further fields : Fields}

theorem mem_fields_iff
    (horder : fields.Perm (obligatory recipient subject body trigger ++ cc.members ++ further))
    (hfurther : ∀ m ∈ further, m.1 ∉ keys) {key : String} (hkey : key ∈ keys) (v : Value) :
    (key, v) ∈ fields ↔
      (key, v) ∈ obligatory recipient subject body trigger ∨ (key, v) ∈ cc.members := by
  have hnot : (key, v) ∉ further := fun h => hfurther _ h hkey
  simp [horder.mem_iff, hnot]

theorem copy_members (cc : CopyField) {field : Option Value}
    (hsome : ∀ v, ("cc", v) ∈ cc.members → field = some v)
    (hnone : cc.members = [] → field = none) : Copy field cc.copy := by
  cases cc with
  | omitted => rw [hnone rfl]; exact .absent
  | null => rw [hsome .null (by simp [CopyField.members])]; exact .null
  | text s =>
    rw [hsome (.string s) (by simp [CopyField.members]), CopyField.copy]
    by_cases hs : s = ""
    · rw [if_pos hs, hs]
      exact .empty
    · rw [if_neg hs]
      exact .text hs

theorem says_of_perm
    (horder : fields.Perm (obligatory recipient subject body trigger ++ cc.members ++ further))
    (hfurther : ∀ m ∈ further, m.1 ∉ keys) :
    Says fields ⟨recipient, cc.copy, subject, body, trigger⟩ := by
  have hmem := fun {key} (hkey : key ∈ keys) => mem_fields_iff horder hfurther hkey
  have hcopy : ∀ key v, key ≠ "cc" → (key, v) ∉ cc.members := by
    intro key v hkey
    cases cc <;> simp [CopyField.members, hkey]
  have hfield : ∀ key v, (key, v) ∈ obligatory recipient subject body trigger →
      fields.last? key = some v := by
    intro key v hm
    have hm' := hm
    simp only [obligatory, List.mem_cons, Prod.mk.injEq, List.not_mem_nil, or_false] at hm'
    rcases hm' with ⟨rfl, rfl⟩ | ⟨rfl, rfl⟩ | ⟨rfl, rfl⟩ | ⟨rfl, rfl⟩ <;>
      exact Members.last?_eq_some ((hmem (by decide) _).2 (.inl hm))
        fun w hw => by simpa [obligatory, hcopy] using (hmem (by decide) w).1 hw
  refine ⟨hfield "to" _ (by simp [obligatory]), copy_members cc ?_ ?_,
    hfield "subject" _ (by simp [obligatory]), hfield "body" _ (by simp [obligatory]),
    hfield "when" _ (by simp [obligatory])⟩
  · intro v hv
    refine Members.last?_eq_some ((hmem (by decide) v).2 (.inr hv)) fun w hw => ?_
    have hw : ("cc", w) ∈ cc.members := by simpa [obligatory] using (hmem (by decide) w).1 hw
    cases cc <;> simp_all [CopyField.members]
  · intro hnil
    refine Members.last?_of_last (.absent ?_)
    rintro ⟨key, v⟩ hm rfl
    simpa [obligatory, hnil] using (hmem (by decide) v).1 hm

end

/-- However a configuration is written, it is decoded: its members may stand in any order, with
others among them in which arrays and objects are nested at most 126 deep, and no copy is asked
for by an absent field, by null and by the empty text. -/
theorem decode_text (recipient subject body trigger : String) (cc : CopyField)
    (further fields : Fields) (text : String)
    (horder : fields.Perm (obligatory recipient subject body trigger ++ cc.members ++ further))
    (hfurther : ∀ m ∈ further, m.1 ∉ keys)
    (htext : Padded (ValueText 127) (.object fields) text.toList) :
    decode (Utf8.encode text) = .ok ⟨recipient, cc.copy, subject, body, trigger⟩ ∧
      (cc.copy = none ↔ cc = .omitted ∨ cc = .null ∨ cc = .text "") :=
  ⟨decode_eq_ok_iff.2 ⟨fields, read_valueText htext, says_of_perm horder hfurther⟩,
    CopyField.copy_eq_none_iff⟩

/-- A subject written as a surrogate pair, a body as a letter, and in front of them a further
member that holds arrays and a number. -/
theorem decode_text_pair :
    let further : Fields := [("x", .array [.array [], .number (.integer (-10))])]
    let fields : Fields := [("when", .string "ON_BOTH")] ++ further ++
      [("to", .string "a"), ("subject", .string "😀"), ("body", .string "\n")]
    let text := "\x7b\"when\":\"ON_BOTH\",\"x\":[[ ],-10],\"to\" :\"a\"," ++
      "\"subject\":\"\\uD83d\\uDE00\",\"body\":\"\\n\"\x7d\n"
    fields.Perm (obligatory "a" "😀" "\n" "ON_BOTH" ++ CopyField.omitted.members ++ further) ∧
      Padded (ValueText 127) (.object fields) text.toList ∧
      decode (Utf8.encode text) = .ok ⟨"a", none, "😀", "\n", "ON_BOTH"⟩ := by
  intro further fields text
  have horder : fields.Perm
      (obligatory "a" "😀" "\n" "ON_BOTH" ++ CopyField.omitted.members ++ further) :=
    show List.Perm ([_, _] ++ _) _ from List.perm_append_comm
  have hplain : ∀ s ∈ ["when", "ON_BOTH", "x", "to", "a", "subject", "body"],
      StringText s ('"' :: s.toList ++ ['"']) := by
    intro s hs
    have hall : ∀ s ∈ ["when", "ON_BOTH", "x", "to", "a", "subject", "body"],
        (s.toList.all fun c => decide (c ≠ '"' ∧ c ≠ '\\' ∧ 0x20 ≤ c.toNat)) = true := by decide
    exact stringText_plain fun c hc => of_decide_eq_true (List.all_eq_true.1 (hall s hs) c hc)
  have hstring : ∀ {s text}, StringText s text → ValueText 126 (.string s) text :=
    fun h => (ScalarText.string h).valueText 126
  have hten : Numeral 10 10 ['1', '0'] := by
    have hone : Digit 10 1 '1' := ⟨by decide, .inl rfl⟩
    have hzero : Digit 10 0 '0' := ⟨by decide, .inl rfl⟩
    exact (Numeral.nil.snoc hone).snoc hzero
  have hnumber : IntegerText (-(10 : Nat)) ['-', '1', '0'] :=
    .negative hten (by decide) (by decide) (by decide)
  have hspace : Spaces [' '] := by decide
  have hempty : ValueText 125 (.array []) "[ ]".toList :=
    (ContainerText.emptyArray hspace).valueText
  have harray : ContainerText (ValueText 125) (.array [.array [], .number (.integer (-10))])
      "[[ ],-10]".toList :=
    .array (.more (.tight hempty) (.last (.tight ((ScalarText.integer hnumber).valueText 125))))
  have hpair : StringText "😀" "\"\\uD83d\\uDE00\"".toList := by
    have hD : Digit 16 0xD 'D' := ⟨by decide, .inr (by decide)⟩
    have h8 : Digit 16 0x8 '8' := ⟨by decide, .inl rfl⟩
    have h3 : Digit 16 0x3 '3' := ⟨by decide, .inl rfl⟩
    have hd : Digit 16 0xD 'd' := ⟨by decide, .inl rfl⟩
    have hE : Digit 16 0xE 'E' := ⟨by decide, .inr (by decide)⟩
    have h0 : Digit 16 0 '0' := ⟨by decide, .inl rfl⟩
    have hhigh : CodeText 0xD83D ['D', '8', '3', 'd'] := codeText_of_digits hD h8 h3 hd
    have hlow : CodeText 0xDE00 ['D', 'E', '0', '0'] := codeText_of_digits hD hE h0 h0
    exact .mk (s := "😀") (.cons (.pair (c := '😀') (by decide) hhigh hlow) .nil)
  have hletter : StringText "\n" "\"\\n\"".toList :=
    have hn : ('\n', 'n') ∈ letters := by decide
    .mk (s := "\n") (.cons (.letter hn) .nil)
  have hmember : ∀ key ∈ ["when", "x", "subject", "body"], ∀ {v text}, ValueText 126 v text →
      MemberText (ValueText 126) (key, v) ('"' :: key.toList ++ ['"'] ++ ':' :: text) := by
    intro key hkey v text hv
    refine .mk (.tight (hplain key ?_)) (.tight hv)
    revert key
    decide
  have hnone : Spaces [] := by decide
  have hto : MemberText (ValueText 126) ("to", .string "a") "\"to\" :\"a\"".toList :=
    .mk (.mk hnone (hplain "to" (by decide)) hspace) (.tight (hstring (hplain "a" (by decide))))
  have hobject : ContainerText (ValueText 126) (.object fields) _ :=
    .object (.more (hmember "when" (by decide) (hstring (hplain "ON_BOTH" (by decide))))
      (.more (hmember "x" (by decide) harray.valueText)
        (.more hto
          (.more (hmember "subject" (by decide) (hstring hpair))
            (.last (hmember "body" (by decide) (hstring hletter)))))))
  have hline : Spaces ['\n'] := by decide
  have htext : Padded (ValueText 127) (.object fields) text.toList := by
    refine cast (congrArg (Padded (ValueText 127) (.object fields)) ?_)
      (Padded.mk hnone hobject.valueText hline)
    decide
  exact ⟨horder, htext,
    (decode_text "a" "😀" "\n" "ON_BOTH" .omitted further fields text horder (by decide) htext).1⟩

end MailConfig
end TaskMail
