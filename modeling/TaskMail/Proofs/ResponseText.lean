import TaskMail.Proofs.AttributeReading
import TaskMail.Proofs.ReferenceReading

/-!
# TaskMail.Proofs.ResponseText

Every way of writing a response is read as what it tells.

* `Told`  — what a field is after some attributes, given what it was before them.
* `Tells` — the same for all that is known about a task.

The attributes stand in any order and others may stand among them; those are not looked at, so
their values need not spell anything: `ofResponse_text`.
-/

namespace TaskMail
namespace Metadata

open Xml

inductive Told (attributes : List Attribute) (key before : String) : String → Prop where
  | absent : (∀ a ∈ attributes, a.key ≠ Utf8.encode key) → Told attributes key before before
  | present {a : Attribute} {s : String} :
      a ∈ attributes → a.key = Utf8.encode key → Spells s a.value → Told attributes key before s

structure Tells (attributes : List Attribute) (m m' : Metadata) : Prop where
  name : Told attributes "name" m.name m'.name
  startTime : Told attributes "start_time" m.startTime m'.startTime
  endTime : Told attributes "end_time" m.endTime m'.endTime

namespace Told

theorem nil_iff {key before s : String} : Told [] key before s ↔ s = before := by
  constructor
  · intro h
    cases h with
    | absent _ => rfl
    | present ha _ _ => exact absurd ha List.not_mem_nil
  · rintro rfl
    exact .absent fun _ ha => absurd ha List.not_mem_nil

theorem eq_of_ne {a : Attribute} {key before s : String} (h : Told [a] key before s)
    (hne : a.key ≠ Utf8.encode key) : s = before := by
  cases h with
  | absent _ => rfl
  | present ha hkey _ => exact absurd (List.mem_singleton.1 ha ▸ hkey) hne

theorem valueText {a : Attribute} {key before s : String} (h : Told [a] key before s)
    (hkey : a.key = Utf8.encode key) : valueText a.value = .ok s := by
  cases h with
  | absent hnone => exact absurd hkey (hnone a List.mem_cons_self)
  | present ha _ hs => exact valueText_spells (List.mem_singleton.1 ha ▸ hs)

/-- The first attribute and then the others, of which none has the same key. -/
theorem cons {a : Attribute} {rest : List Attribute} {key before s : String}
    (h : Told (a :: rest) key before s) (hnew : ∀ b ∈ rest, b.key ≠ a.key) :
    ∃ mid, Told [a] key before mid ∧ Told rest key mid s := by
  cases h with
  | absent hnone =>
    obtain ⟨ha, hrest⟩ := List.forall_mem_cons.1 hnone
    exact ⟨before, .absent (List.forall_mem_singleton.2 ha), .absent hrest⟩
  | @present b _ hb hkey hs =>
    rcases List.mem_cons.1 hb with rfl | hb
    · exact ⟨s, .present List.mem_cons_self hkey hs, .absent fun c hc => hkey ▸ hnew c hc⟩
    · have hne : a.key ≠ Utf8.encode key := fun heq => hnew b hb (hkey.trans heq.symm)
      exact ⟨before, .absent (List.forall_mem_singleton.2 hne), .present hb hkey hs⟩

end Told

/-- An attribute has one key, so it tells but one of the fields. -/
theorem assign_tells {a : Attribute} {m m' : Metadata} (h : Tells [a] m m') :
    assign m a = .ok m' := by
  obtain ⟨name, startTime, endTime⟩ := m
  obtain ⟨name', startTime', endTime'⟩ := m'
  obtain ⟨hname, hstart, hend⟩ := h
  have hother : ∀ {key key'}, a.key = Utf8.encode key → Utf8.encode key ≠ Utf8.encode key' →
      a.key ≠ Utf8.encode key' := fun hkey hne => hkey ▸ hne
  by_cases hn : a.key = Utf8.encode "name"
  · obtain rfl : startTime' = startTime := hstart.eq_of_ne (hother hn (by decide))
    obtain rfl : endTime' = endTime := hend.eq_of_ne (hother hn (by decide))
    rw [assign, if_pos hn, hname.valueText hn]
    rfl
  obtain rfl : name' = name := hname.eq_of_ne hn
  by_cases hs : a.key = Utf8.encode "start_time"
  · obtain rfl : endTime' = endTime := hend.eq_of_ne (hother hs (by decide))
    rw [assign, if_neg hn, if_pos hs, hstart.valueText hs]
    rfl
  obtain rfl : startTime' = startTime := hstart.eq_of_ne hs
  by_cases he : a.key = Utf8.encode "end_time"
  · rw [assign, if_neg hn, if_neg hs, if_pos he, hend.valueText he]
    rfl
  obtain rfl : endTime' = endTime := hend.eq_of_ne he
  rw [assign, if_neg hn, if_neg hs, if_neg he]

theorem foldlM_assign {attributes : List Attribute} {m m' : Metadata}
    (hnodup : (attributes.map Attribute.key).Nodup) (h : Tells attributes m m') :
    attributes.foldlM assign m = .ok m' := by
  induction attributes generalizing m with
  | nil =>
    have heq : m' = m := by
      cases m
      cases m'
      simp only [Metadata.mk.injEq]
      exact ⟨Told.nil_iff.1 h.name, Told.nil_iff.1 h.startTime, Told.nil_iff.1 h.endTime⟩
    rw [heq]
    rfl
  | cons a rest ih =>
    rw [List.map_cons, List.nodup_cons] at hnodup
    have hnew : ∀ b ∈ rest, b.key ≠ a.key := fun b hb heq =>
      hnodup.1 (heq ▸ List.mem_map_of_mem hb)
    obtain ⟨name, hname, hname'⟩ := h.name.cons hnew
    obtain ⟨startTime, hstart, hstart'⟩ := h.startTime.cons hnew
    obtain ⟨endTime, hend, hend'⟩ := h.endTime.cons hnew
    have hstep : assign m a = .ok ⟨name, startTime, endTime⟩ := assign_tells ⟨hname, hstart, hend⟩
    rw [List.foldlM_cons, hstep]
    exact ih hnodup.2 ⟨hname', hstart', hend'⟩

/-- However a response is written, what it tells is read: its tag stands behind any number of
things that are passed over, and whatever stands behind it is not looked at. -/
theorem ofResponse_text (pieces : List Bytes) (attributes : List Attribute) (tag suffix : Bytes)
    (m : Metadata) (hpieces : ∀ p ∈ pieces, Skipped p) (htag : TagText attributes tag)
    (htells : Tells attributes {} m) :
    ofResponse (pieces.flatten ++ tag ++ suffix) = .ok m := by
  cases htag with
  | @mk name text close _ hname htext hnodup hclose =>
    obtain ⟨space, hspace, hlead⟩ := Scan.leads_close hname htext hclose
    have hread := Scan.leads_tag hname htext
    rw [ofResponse, firstElement_eq suffix hpieces (hread.append hlead)]
    simp only [ofTag, attributes_content hname htext hnodup hspace, foldlM_assign hnodup htells]

/-- A declaration, a line end and a comment in front of the tag; an attribute that is not looked
at, a name that is not ASCII and a reference of each kind in it. -/
theorem ofResponse_text_references :
    let pieces := [Utf8.encode "<?xml version=\"1.0\"?>", Utf8.encode "\n", Utf8.encode "<!-->-->"]
    let attributes : List Attribute := [⟨Utf8.encode "note", Utf8.encode "1 > 0 &or;"⟩,
      ⟨Utf8.encode "start_time", Utf8.encode "&#x4a;&amp;"⟩,
      ⟨Utf8.encode "name", Utf8.encode "é&#010;"⟩]
    let tag := Utf8.encode
      "<task note=\"1 > 0 &or;\" start_time=\"&#x4a;&amp;\" name=\"é&#010;\" />"
    let m : Metadata := ⟨"é\n", "J&", ""⟩
    (∀ p ∈ pieces, Skipped p) ∧ TagText attributes tag ∧ Tells attributes {} m ∧
      ofResponse (pieces.flatten ++ tag ++ Utf8.encode "<") = .ok m := by
  intro pieces attributes tag m
  have hpieces : ∀ p ∈ pieces, Skipped p := by
    have hmark : (0x3F : UInt8) ∉ Utf8.encode "xml version=\"1.0\"" := by decide
    have hversion : ¬ Utf8.encode "?>" <:+: Utf8.encode "xml version=\"1.0\"" := fun h =>
      hmark (h.subset List.mem_cons_self)
    have hbracket : ¬ Utf8.encode "-->" <:+: Utf8.encode ">" := by decide
    have hdeclaration : Skipped (Utf8.encode "<?xml version=\"1.0\"?>") :=
      .instruction (by decide) hversion
    have hline : Skipped (Utf8.encode "\n") := .text (by decide)
    have hcomment : Skipped (Utf8.encode "<!-->-->") := .comment hbracket
    simp [pieces, hdeclaration, hline, hcomment]
  have hword : ∀ word ∈ ["task", "note", "start_time", "name"], NameText (Utf8.encode word) := by
    intro word hword
    refine nameText_of_all ?_ ?_ <;> revert word <;> decide
  have hspace : ∀ b ∈ Utf8.encode " ", isSpace b = true := List.all_eq_true.1 rfl
  have hattribute : ∀ word ∈ ["note", "start_time", "name"], ∀ value, 0x22 ∉ value →
      AttributeText ⟨Utf8.encode word, value⟩ (Utf8.encode " " ++ Utf8.encode word ++
        Utf8.encode "=\"" ++ value ++ Utf8.encode "\"") := fun word hmem _ hvalue =>
    .mk (by decide) hspace (hword word (List.mem_cons_of_mem _ hmem)) hvalue
  have htag : TagText attributes tag := by
    have hjoined : Joined AttributeText attributes _ :=
      .cons (hattribute "note" (by decide) _ (by decide))
        (.cons (hattribute "start_time" (by decide) _ (by decide))
          (.cons (hattribute "name" (by decide) _ (by decide)) .nil))
    have hnodup : (attributes.map Attribute.key).Nodup := by decide
    refine cast (congrArg (TagText attributes) ?_)
      (TagText.mk (hword "task" (by decide)) hjoined hnodup (.inr rfl))
    decide
  have htells : Tells attributes {} m := by
    have hone : Digit 10 1 '1' := ⟨by decide, .inl rfl⟩
    have hzero : Digit 10 0 '0' := ⟨by decide, .inl rfl⟩
    have hfour : Digit 16 4 '4' := ⟨by decide, .inl rfl⟩
    have hten : Digit 16 10 'a' := ⟨by decide, .inl rfl⟩
    have hdecimal : Numeral 10 '\n'.toNat ['0', '1', '0'] :=
      ((Numeral.nil.snoc hzero).snoc hone).snoc hzero
    have hhexadecimal : Numeral 16 'J'.toNat ['4', 'a'] := (Numeral.nil.snoc hfour).snoc hten
    have haccent : CharText 'é' ['é'] := .plain (by decide)
    have hline := CharText.decimal (by decide) hdecimal
    have hletter := CharText.hexadecimal (by decide) hhexadecimal
    have hamp := @CharText.named '&' "amp" (by decide)
    have hname : Spells "é\n" (Utf8.encode "é&#010;") :=
      .mk (s := "é\n") (.cons haccent (.cons hline .nil))
    have hstart : Spells "J&" (Utf8.encode "&#x4a;&amp;") :=
      .mk (s := "J&") (.cons hletter (.cons hamp .nil))
    exact ⟨.present (a := attributes[2]) (by simp [attributes]) rfl hname,
      .present (a := attributes[1]) (by simp [attributes]) rfl hstart, .absent (by decide)⟩
  exact ⟨hpieces, htag, htells, ofResponse_text pieces attributes tag _ m hpieces htag htells⟩

end Metadata
end TaskMail
