import TaskMail.Proofs.AttributeReading
import TaskMail.Proofs.ReferenceReading

/-!
# TaskMail.Proofs.QueryText

The question about a task, as an engine reads it.

* `Sealed`    — a value that opens and closes nothing: no bracket, no quote, and no ampersand but
  those of references by name.
* `quoted`    — what stands between the first double quote of a text and the last.
* `SingleTag` — a document that is one tag with some attributes, and nothing behind it.

Each character is written as itself or by its name, so what has been escaped is sealed
(`sealed_escape`) and loses nothing (`unescape_escape`), whatever it was. So the question is one
empty element for every task, and its only attribute spells the task: `workflowQuery_element`.
-/

namespace TaskMail
namespace Xml

structure Sealed (value : List Char) : Prop where
  delimiters : ∀ c ∈ ['<', '>', '\'', '"'], c ∉ value
  references : ∀ before behind, value = before ++ '&' :: behind →
    ∃ entry ∈ named, entry.2.toList ++ [';'] <+: behind

/-- The first quote is looked for from the front, the last one from the end. -/
def quoted (text : List Char) : List Char :=
  let inner := (text.dropWhile (· ≠ '"')).tail
  (inner.reverse.dropWhile (· ≠ '"')).tail.reverse

structure SingleTag (items : List Attribute) (document : Bytes) : Prop where
  content : ∃ content, firstElement document = .ok content ∧ attributes content = (items, none)
  /-- The last octet closes the tag, and no other does. -/
  whole : ∀ part, part <+: document → part ≠ document →
    ∃ fault, firstElement part = .error fault

/-! ## Escaping -/

theorem escapeChar_cases (c : Char) :
    (c ∉ ['<', '>', '&', '\'', '"'] ∧ escapeChar c = [c]) ∨
      ∃ name, (c, name) ∈ named ∧ escapeChar c = '&' :: name.toList ++ [';'] := by
  cases h : named.lookup c with
  | none =>
    refine .inl ⟨fun hc => ?_, by rw [escapeChar, h]⟩
    obtain ⟨entry, hentry, rfl⟩ := List.mem_map.1 (show c ∈ named.map Prod.fst from hc)
    exact bne_iff_ne.1 (List.lookup_eq_none_iff.1 h entry hentry) rfl
  | some name =>
    obtain ⟨before, after, heq, _⟩ := List.lookup_eq_some_iff.1 h
    refine .inr ⟨name, ?_, by rw [escapeChar, h]⟩
    rw [heq]
    exact List.mem_append_right _ List.mem_cons_self

theorem toList_escape (s : String) : (escape s).toList = s.toList.flatMap escapeChar :=
  String.toList_ofList

theorem charText_escapeChar (c : Char) : CharText c (escapeChar c) := by
  rcases escapeChar_cases c with ⟨hc, heq⟩ | ⟨name, hname, heq⟩
  · rw [heq]
    exact .plain hc
  · rw [heq]
    exact .named hname

theorem joined_escape (chars : List Char) : Joined CharText chars (chars.flatMap escapeChar) := by
  induction chars with
  | nil => exact .nil
  | cons c rest ih => exact .cons (charText_escapeChar c) ih

/-- Nothing is escaped twice, and nothing is left as it is that could be read as a reference. -/
theorem unescape_escape (s : String) : unescape (escape s) = .ok s :=
  unescape_joined (joined_escape s.toList)

theorem escape_inj {s t : String} : escape s = escape t ↔ s = t := by
  constructor
  · intro h
    have hs := unescape_escape s
    rw [h, unescape_escape t] at hs
    exact (Except.ok.inj hs).symm
  · rintro rfl
    rfl

/-! ## Sealed values -/

namespace Sealed

theorem nil : Sealed [] :=
  ⟨fun _ _ => List.not_mem_nil, fun before behind h => by simp at h⟩

/-- A reference that begins in one of two values also ends there. -/
theorem append {a b : List Char} (ha : Sealed a) (hb : Sealed b) : Sealed (a ++ b) := by
  constructor
  · intro c hc hm
    rcases List.mem_append.1 hm with hm | hm
    · exact ha.delimiters c hc hm
    · exact hb.delimiters c hc hm
  · intro before behind h
    rcases List.append_eq_append_iff.1 h with ⟨more, _, hb'⟩ | ⟨more, ha', hbehind⟩
    · exact hb.references more behind hb'
    · cases more with
      | nil => exact hb.references [] behind hbehind.symm
      | cons c more =>
        obtain ⟨rfl, rfl⟩ := List.cons.inj hbehind
        obtain ⟨entry, hentry, hend⟩ := ha.references before more ha'
        exact ⟨entry, hentry, List.prefix_append_of_prefix hend⟩

theorem plain {c : Char} (h : c ∉ ['<', '>', '&', '\'', '"']) : Sealed [c] := by
  constructor
  · intro d hd hm
    obtain rfl := List.mem_singleton.1 hm
    have hsub : ['<', '>', '\'', '"'].Sublist ['<', '>', '&', '\'', '"'] := by decide
    exact h (hsub.subset hd)
  · intro before behind heq
    have hmem : '&' ∈ [c] := by simp [heq]
    obtain rfl := List.mem_singleton.1 hmem
    exact absurd (by decide) h

/-- In a reference by name there is but one ampersand. -/
theorem reference {entry : Char × String} (h : entry ∈ named) :
    Sealed ('&' :: entry.2.toList ++ [';']) := by
  have hletters : ∀ entry ∈ named,
      ['<', '>', '\'', '"'].all (· ∉ '&' :: entry.2.toList ++ [';']) = true ∧
        '&' ∉ entry.2.toList ++ [';'] := by decide
  obtain ⟨hdelimiters, hamp⟩ := hletters entry h
  rw [List.all_eq_true] at hdelimiters
  refine ⟨fun c hc => of_decide_eq_true (hdelimiters c hc), fun before behind heq =>
    ⟨entry, h, ?_⟩⟩
  rw [List.cons_append] at heq
  cases before with
  | nil =>
    obtain ⟨-, hbehind⟩ := List.cons.inj heq
    exact hbehind ▸ List.prefix_rfl
  | cons c before =>
    obtain ⟨-, hrest⟩ := List.cons.inj heq
    exact absurd (by simp [hrest]) hamp

end Sealed

theorem sealed_escapeChar (c : Char) : Sealed (escapeChar c) := by
  rcases escapeChar_cases c with ⟨hc, heq⟩ | ⟨name, hname, heq⟩
  · rw [heq]
    exact .plain hc
  · rw [heq]
    exact .reference hname

theorem sealed_escape (s : String) : Sealed (escape s).toList := by
  rw [toList_escape]
  induction s.toList with
  | nil => exact .nil
  | cons c rest ih => exact (sealed_escapeChar c).append ih

/-! ## The question -/

theorem quoted_eq {before inner behind : List Char} (hbefore : '"' ∉ before)
    (hbehind : '"' ∉ behind) : quoted (before ++ '"' :: (inner ++ '"' :: behind)) = inner := by
  have hskip : ∀ {skipped rest : List Char}, '"' ∉ skipped →
      ((skipped ++ '"' :: rest).dropWhile (· ≠ '"')).tail = rest := by
    intro skipped rest h
    have hall : ∀ c ∈ skipped, decide (c ≠ '"') = true := by
      intro c hc
      rw [decide_eq_true_eq]
      rintro rfl
      exact h hc
    rw [List.dropWhile_append_of_pos hall, List.dropWhile_cons_of_neg (by decide), List.tail_cons]
  have hreverse : (inner ++ '"' :: behind).reverse = behind.reverse ++ '"' :: inner.reverse := by
    simp
  rw [quoted, hskip hbefore, hreverse, hskip (by simpa using hbehind), List.reverse_reverse]

/-- A tag that is closed by its last octet has no part that is a tag. -/
theorem singleTag_of_leads {document content seen : Bytes} {items : List Attribute}
    (htag : Leads Scan.step .text document (.tag seen none))
    (hclose : Scan.closeTag seen = .ok (.element content))
    (hitems : attributes content = (items, none)) : SingleTag items (document ++ [0x3E]) := by
  have hwhole := htag.append (.single (show Scan.step (.tag seen none) 0x3E = _ from hclose))
  refine ⟨⟨content, firstElement_eq_ok_iff.2 hwhole, hitems⟩, ?_⟩
  intro part hpart hne
  cases hf : firstElement part with
  | error fault => exact ⟨fault, rfl⟩
  | ok early =>
    -- An element that was complete would still be there where the tag is still open.
    rcases List.prefix_concat_iff.1 hpart with heq | ⟨rest, rfl⟩
    · exact absurd heq hne
    · have hearly := firstElement_eq_ok_iff.1 hf
      have helement : Leads Scan.step .text (part ++ rest) (.element early) :=
        hearly.append Scan.leads_element
      cases helement.unique htag

theorem singleTag_empty {name text : Bytes} {items : List Attribute} (hname : NameText name)
    (htext : Joined AttributeText items text) (hnodup : (items.map Attribute.key).Nodup) :
    SingleTag items (Utf8.encode "<" ++ name ++ text ++ Utf8.encode " />") := by
  have htag := Scan.leads_tag hname htext
  have hopen : Leads Scan.step (.tag (name ++ text).reverse none) [0x20, 0x2F]
      (.tag (0x2F :: 0x20 :: (name ++ text).reverse) none) := .cons rfl (.single rfl)
  have hspace : (0x20 :: (name ++ text).reverse).reverse = name ++ text ++ [0x20] := by simp
  have hclose : Scan.closeTag (0x2F :: 0x20 :: (name ++ text).reverse) =
      .ok (.element (name ++ text ++ [0x20])) := by
    cases hname with
    | mk hb _ =>
      have hslash := ne_of_isNameOctet (isNameOctet_of_isLetter hb) (c := 0x2F) rfl
      exact Scan.closeTag_slash hspace hslash
  have hblank : ∀ b ∈ [(0x20 : UInt8)], isSpace b = true := by simp [isSpace]
  have hitems := attributes_content hname htext hnodup hblank
  have hend : Utf8.encode "<" ++ name ++ text ++ Utf8.encode " />" =
      Utf8.encode "<" ++ name ++ text ++ [0x20, 0x2F] ++ [0x3E] := by
    rw [List.append_assoc _ [0x20, 0x2F]]
    rfl
  rw [hend]
  exact singleTag_of_leads (htag.append hopen) hclose hitems

/-- What tells nothing about a workflow is well formed all the same. -/
theorem SingleTag.ofResponse {items : List Attribute} {document : Bytes}
    (h : SingleTag items document)
    (hother : ∀ a ∈ items, a.key ∉ ["name", "start_time", "end_time"].map Utf8.encode) :
    Metadata.ofResponse document = .ok {} := by
  obtain ⟨content, hfirst, hitems⟩ := h.content
  have hassign : Leads Metadata.assign {} items {} := by
    refine .stay fun a ha => ?_
    have hkey := hother a ha
    simp only [List.map_cons, List.map_nil, List.mem_cons, List.not_mem_nil, or_false,
      not_or] at hkey
    rw [Metadata.assign, if_neg hkey.1, if_neg hkey.2.1, if_neg hkey.2.2]
  rw [Leads] at hassign
  rw [Metadata.ofResponse, hfirst]
  simp only [Metadata.ofTag, hitems, hassign]

theorem attributeText_id {value : List Char} (h : Sealed value) :
    AttributeText ⟨Utf8.encode "id", Utf8.octets value⟩ (Utf8.encode " " ++ Utf8.encode "id" ++
      Utf8.encode "=\"" ++ Utf8.octets value ++ Utf8.encode "\"") := by
  have hquote : (0x22 : UInt8) ∉ Utf8.octets value := fun hb =>
    h.delimiters '"' (by decide) (Utf8.mem_of_mem_octets (d := '"') (by decide) hb)
  exact .mk (by decide) (List.all_eq_true.1 rfl) (nameText_of_all rfl rfl) hquote

theorem toList_query (taskId : String) :
    (workflowQuery taskId).toList =
      "<workflow id=\"".toList ++ (escape taskId).toList ++ "\" />".toList := by
  show ("<workflow id=\"" ++ escape taskId ++ "\" />").toList = _
  rw [String.toList_append, String.toList_append]

theorem singleTag_query (taskId : String) :
    SingleTag [⟨Utf8.encode "id", Utf8.octets (escape taskId).toList⟩]
      (Utf8.encode (workflowQuery taskId)) := by
  have hname : NameText (Utf8.encode "workflow") := nameText_of_all rfl rfl
  have hjoined := Joined.cons (attributeText_id (sealed_escape taskId)) .nil
  have h := singleTag_empty hname hjoined (by simp)
  have hopen : Utf8.octets "<workflow id=\"".toList = Utf8.encode "<" ++ Utf8.encode "workflow" ++
      (Utf8.encode " " ++ Utf8.encode "id" ++ Utf8.encode "=\"") := by decide
  have hclose : Utf8.octets "\" />".toList = Utf8.encode "\"" ++ Utf8.encode " />" := by decide
  rw [Utf8.encode_eq_octets (workflowQuery taskId), toList_query, Utf8.octets_append, Utf8.octets_append, hopen, hclose]
  simpa only [List.append_assoc, List.nil_append] using h

theorem quoted_query (taskId : String) :
    quoted (workflowQuery taskId).toList = (escape taskId).toList := by
  have hbefore : '"' ∉ "<workflow id=".toList := by decide
  have hbehind : '"' ∉ " />".toList := by decide
  have hquery : (workflowQuery taskId).toList =
      "<workflow id=".toList ++ '"' :: ((escape taskId).toList ++ '"' :: " />".toList) := by
    have hopen : "<workflow id=\"".toList = "<workflow id=".toList ++ ['"'] := by decide
    have hclose : "\" />".toList = '"' :: " />".toList := by decide
    rw [toList_query, hopen, hclose, List.append_assoc, List.append_assoc, List.singleton_append]
  rw [hquery]
  exact quoted_eq hbefore hbehind

theorem workflowQuery_inj {a b : String} : workflowQuery a = workflowQuery b ↔ a = b := by
  constructor
  · intro h
    have hquoted := quoted_query a
    rw [h, quoted_query, String.toList_inj] at hquoted
    exact (escape_inj.1 hquoted).symm
  · rintro rfl
    rfl

/-- Whatever a task is called, the question about it is one empty element with one attribute: what
stands in its quotes is sealed, and is the name of the task once its references are resolved. So
no two tasks are asked about alike, no part of a question is one, and read as an answer a question
tells nothing. -/
theorem workflowQuery_element (taskId : String) :
    (∃ value, quoted (workflowQuery taskId).toList = value ∧
      (workflowQuery taskId).toList = "<workflow id=\"".toList ++ value ++ "\" />".toList ∧
      Sealed value ∧
      Spells taskId (Utf8.octets value) ∧ unescape (String.ofList value) = .ok taskId ∧
      SingleTag [⟨Utf8.encode "id", Utf8.octets value⟩] (Utf8.encode (workflowQuery taskId))) ∧
    (∀ other, workflowQuery other = workflowQuery taskId ↔ other = taskId) ∧
    Metadata.ofResponse (Utf8.encode (workflowQuery taskId)) = .ok ⟨"", "", ""⟩ := by
  have htag := singleTag_query taskId
  have hspells : Spells taskId (Utf8.octets (escape taskId).toList) := by
    rw [toList_escape]
    exact .mk (joined_escape taskId.toList)
  have hunescape : unescape (String.ofList (escape taskId).toList) = .ok taskId := by
    rw [String.ofList_toList]
    exact unescape_escape taskId
  refine ⟨⟨_, quoted_query taskId, toList_query taskId, sealed_escape taskId, hspells, hunescape,
    htag⟩, fun other => workflowQuery_inj, ?_⟩
  have hid : Utf8.encode "id" ∉ ["name", "start_time", "end_time"].map Utf8.encode := by decide
  refine htag.ofResponse fun a ha => ?_
  rw [List.mem_singleton.1 ha]
  exact hid

/-- A task whose name would close the tag and open another. -/
example : workflowQuery "1\" name='&amp;'/>" =
    "<workflow id=\"1&quot; name=&apos;&amp;amp;&apos;/&gt;\" />" := by
  decide

end Xml
end TaskMail
