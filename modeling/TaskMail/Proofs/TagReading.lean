import TaskMail.Proofs.Leads
import TaskMail.Proofs.XmlText
import TaskMail.Xml.Element

/-!
# TaskMail.Proofs.TagReading

The first tag of a document is found, and its attributes are read from it.

* `Scan.leads_skipped`     — what may stand in front of a tag is passed over.
* `Scan.leads_tag`         — a tag is collected up to the bracket that closes it.
* `firstElement_eq_ok_iff` — what is collected by then is the content of the first element.
-/

namespace TaskMail.Xml

/-! ## Octets -/

theorem ne_of_isNameOctet {b c : UInt8} (h : isNameOctet b = true) (hc : isNameOctet c = false) :
    b ≠ c := by
  rintro rfl
  rw [h] at hc
  cases hc

theorem ne_of_isSpace {b c : UInt8} (h : isSpace b = true) (hc : isSpace c = false) : b ≠ c := by
  rintro rfl
  rw [h] at hc
  cases hc

theorem isNameOctet_of_isLetter {b : UInt8} (h : isLetter b = true) : isNameOctet b = true := by
  rw [isNameOctet, h, Bool.true_or, Bool.true_or]

theorem isSpace_of_isNameOctet {b : UInt8} (h : isNameOctet b = true) : isSpace b = false := by
  have hne := fun c => @ne_of_isNameOctet b c h
  simp [isSpace, hne 0x20 rfl, hne 0x09 rfl, hne 0x0A rfl, hne 0x0D rfl]

/-- What stands for itself in a tag, outside of a value. -/
def Bare (b : UInt8) : Prop :=
  b ≠ 0x3E ∧ b ≠ 0x22 ∧ b ≠ 0x27

theorem bare_of_isNameOctet {b : UInt8} (h : isNameOctet b = true) : Bare b :=
  ⟨ne_of_isNameOctet h rfl, ne_of_isNameOctet h rfl, ne_of_isNameOctet h rfl⟩

theorem bare_of_isSpace {b : UInt8} (h : isSpace b = true) : Bare b :=
  ⟨ne_of_isSpace h rfl, ne_of_isSpace h rfl, ne_of_isSpace h rfl⟩

theorem NameText.octets {name : Bytes} (h : NameText name) : ∀ b ∈ name, isNameOctet b = true := by
  cases h with
  | mk hb hrest => exact List.forall_mem_cons.2 ⟨isNameOctet_of_isLetter hb, hrest⟩

/-! ## In front of the tag -/

namespace Scan

theorem encode_commentEnd : Utf8.encode "-->" = [0x2D, 0x2D, 0x3E] := rfl

theorem encode_equals : Utf8.encode "=\"" = [0x3D, 0x22] := rfl

theorem encode_quote : Utf8.encode "\"" = [0x22] := rfl

theorem encode_instructionEnd : Utf8.encode "?>" = [0x3F, 0x3E] := rfl

/-- The two dashes that open a comment are not those that close it. -/
theorem leads_comment {content : Bytes} (h : ¬ Utf8.encode "-->" <:+: content) :
    Leads step (.comment [0x2D, 0x2D, 0x21]) content
      (.comment (content.reverse ++ [0x2D, 0x2D, 0x21])) := by
  refine .collect comment _ ?_
  rintro before b after rfl
  refine if_neg ?_
  rintro ⟨rfl, hdashes, hlong⟩
  match hb : before.reverse, hdashes, hlong with
  | [], _, hlong => simp at hlong
  | [_], _, hlong => simp at hlong
  | x :: y :: rest, hdashes, _ =>
    have hxy : x = 0x2D ∧ y = 0x2D := by simpa [letters] using hdashes
    obtain ⟨rfl, rfl⟩ := hxy
    refine h ⟨rest.reverse, after, ?_⟩
    rw [List.reverse_eq_iff.1 hb, encode_commentEnd]
    simp

theorem leads_instruction {b : UInt8} {rest : Bytes} (hb : isLetter b = true)
    (h : ¬ Utf8.encode "?>" <:+: b :: rest) :
    Leads step (.instruction [0x3F]) (b :: rest)
      (.instruction ((b :: rest).reverse ++ [0x3F])) := by
  refine .collect instruction _ ?_
  intro before c after hsplit
  refine if_neg ?_
  rintro ⟨rfl, hmark⟩
  match hc : before.reverse, hmark with
  | [], _ =>
    rw [List.reverse_eq_nil_iff] at hc
    subst hc
    rw [List.nil_append] at hsplit
    exact ne_of_isNameOctet (isNameOctet_of_isLetter hb) (by decide) (List.cons.inj hsplit).1
  | x :: rest', hmark =>
    have hx : x = 0x3F := by simpa [letters] using hmark
    subst hx
    refine h ⟨rest'.reverse, after, ?_⟩
    rw [hsplit, List.reverse_eq_iff.1 hc, encode_instructionEnd]
    simp

theorem leads_skipped {piece : Bytes} (h : Skipped piece) : Leads step .text piece .text := by
  cases h with
  | text h =>
    refine .stay fun b hb => ?_
    have hne : b ≠ 0x3C := fun heq => h (heq ▸ hb)
    simp [step, hne]
  | @comment content h =>
    have hopen : Leads step .text (Utf8.encode "<!--") (.comment [0x2D, 0x2D, 0x21]) :=
      .cons rfl (.cons rfl (.cons rfl (.single rfl)))
    have hclose : Leads step (.comment (content.reverse ++ [0x2D, 0x2D, 0x21])) (Utf8.encode "-->")
        .text := by
      rw [encode_commentEnd]
      refine .cons rfl (.cons rfl (.single ?_))
      simp [step, letters]
    exact (hopen.append (leads_comment h)).append hclose
  | @instruction b rest hb h =>
    have hopen : Leads step .text (Utf8.encode "<?") (.instruction [0x3F]) :=
      .cons rfl (.single rfl)
    have hclose : Leads step (.instruction ((b :: rest).reverse ++ [0x3F])) (Utf8.encode "?>")
        .text := by
      rw [encode_instructionEnd]
      refine .cons rfl (.single ?_)
      simp [step, letters]
    exact (hopen.append (leads_instruction hb h)).append hclose

theorem leads_prolog {pieces : List Bytes} (h : ∀ p ∈ pieces, Skipped p) :
    Leads step .text pieces.flatten .text := by
  induction pieces with
  | nil => exact .nil _
  | cons p rest ih =>
    obtain ⟨hp, hrest⟩ := List.forall_mem_cons.1 h
    exact (leads_skipped hp).append (ih hrest)

/-! ## The tag -/

theorem leads_bare {text : Bytes} (h : ∀ b ∈ text, Bare b) (seen : Bytes) :
    Leads step (.tag seen none) text (.tag (text.reverse ++ seen) none) := by
  refine .collect (fun seen => tag seen none) seen ?_
  rintro before b after rfl
  obtain ⟨hgt, hdouble, hsingle⟩ := h b (by simp)
  simp [step, takeTag, hgt, hdouble, hsingle]

theorem leads_quoted {value : Bytes} (h : 0x22 ∉ value) (seen : Bytes) :
    Leads step (.tag seen none) (0x22 :: value ++ [0x22])
      (.tag (0x22 :: (value.reverse ++ 0x22 :: seen)) none) := by
  have hvalue : Leads step (.tag (0x22 :: seen) (some 0x22)) value
      (.tag (value.reverse ++ 0x22 :: seen) (some 0x22)) := by
    refine .collect (fun seen => tag seen (some 0x22)) _ ?_
    rintro before b after rfl
    have hne : b ≠ 0x22 := fun heq => h (by simp [heq])
    simp [step, takeTag, hne]
  exact .cons rfl (hvalue.append (.single rfl))

theorem leads_attributeText {a : Attribute} {text : Bytes} (h : AttributeText a text)
    (seen : Bytes) : Leads step (.tag seen none) text (.tag (text.reverse ++ seen) none) := by
  cases h with
  | @mk space key value _ hspace hkey hvalue =>
    have hbare : ∀ b ∈ space ++ key ++ [0x3D], Bare b := by
      intro b hb
      simp only [List.mem_append, List.mem_singleton] at hb
      rcases hb with (hb | hb) | rfl
      · exact bare_of_isSpace (hspace b hb)
      · exact bare_of_isNameOctet (hkey.octets b hb)
      · exact ⟨by decide, by decide, by decide⟩
    have hall := (leads_bare hbare seen).append (leads_quoted hvalue _)
    simpa [encode_equals, encode_quote] using hall

theorem leads_attributes {items : List Attribute} {text : Bytes}
    (h : Joined AttributeText items text) (seen : Bytes) :
    Leads step (.tag seen none) text (.tag (text.reverse ++ seen) none) := by
  induction h generalizing seen with
  | nil => exact .nil _
  | cons hitem _ ih =>
    rw [List.reverse_append, List.append_assoc]
    exact (leads_attributeText hitem seen).append (ih _)

/-- A slash in front would make the tag a closing one, one at its end an empty one. -/
theorem closeTag_open {seen rest : Bytes} {b : UInt8} (hrev : seen.reverse = b :: rest)
    (hb : b ≠ 0x2F) (hlast : seen.head? ≠ some 0x2F) :
    closeTag seen = .ok (.element (b :: rest)) := by
  unfold closeTag
  rw [hrev]
  split
  · rename_i hslash
    exact absurd (List.cons.inj hslash).1 hb
  · split
    · exact absurd rfl hlast
    · rfl

theorem closeTag_slash {seen rest : Bytes} {b : UInt8} (hrev : seen.reverse = b :: rest)
    (hb : b ≠ 0x2F) : closeTag (0x2F :: seen) = .ok (.element (b :: rest)) := by
  unfold closeTag
  rw [List.reverse_cons, hrev]
  split
  · rename_i hslash
    exact absurd (List.cons.inj hslash).1 hb
  · exact congrArg (fun content => Except.ok (element content)) hrev

theorem last_attribute {items : List Attribute} {text : Bytes}
    (h : Joined AttributeText items text) : text = [] ∨ ∃ before, text = before ++ [0x22] := by
  induction h with
  | nil => exact .inl rfl
  | cons hitem _ ih =>
    right
    rcases ih with rfl | ⟨before, rfl⟩
    · cases hitem with
      | mk => exact ⟨_, List.append_nil _⟩
    · exact ⟨_, (List.append_assoc _ _ _).symm⟩

theorem leads_tag {name text : Bytes} {items : List Attribute} (hname : NameText name)
    (h : Joined AttributeText items text) :
    Leads step .text (Utf8.encode "<" ++ name ++ text) (.tag (name ++ text).reverse none) := by
  cases hname with
  | @mk b rest hb hrest =>
    have hne := fun c => @ne_of_isNameOctet b c (isNameOctet_of_isLetter hb)
    have hfirst : step .opened b = .ok (.tag [b] none) := by
      simp [step, takeTag, hne 0x21 rfl, hne 0x3F rfl, hne 0x3E rfl, hne 0x22 rfl, hne 0x27 rfl]
    have hname := leads_bare (fun c hc => bare_of_isNameOctet (hrest c hc)) [b]
    have hall := (Leads.cons hfirst hname).append (leads_attributes h _)
    have hbegin : Leads step .text (Utf8.encode "<") .opened := .single rfl
    simpa using hbegin.append hall

/-- What is collected may have a space at its end, where the slash has been. -/
theorem leads_close {name text close : Bytes} {items : List Attribute} (hname : NameText name)
    (h : Joined AttributeText items text)
    (hclose : close = Utf8.encode ">" ∨ close = Utf8.encode " />") :
    ∃ space, (∀ b ∈ space, isSpace b = true) ∧
      Leads step (.tag (name ++ text).reverse none) close (.element (name ++ text ++ space)) := by
  have hlast : (name ++ text).reverse.head? ≠ some 0x2F := by
    rw [List.head?_reverse]
    rcases last_attribute h with rfl | ⟨before, rfl⟩
    · rw [List.append_nil]
      exact fun hslash => absurd (hname.octets _ (List.mem_of_getLast? hslash)) (by decide)
    · rw [← List.append_assoc, List.getLast?_concat]
      decide
  cases hname with
  | @mk b rest hb _ =>
    have hslash := ne_of_isNameOctet (isNameOctet_of_isLetter hb) (c := 0x2F) rfl
    rcases hclose with rfl | rfl
    · refine ⟨[], by simp, .single ?_⟩
      rw [List.append_nil]
      exact closeTag_open (List.reverse_reverse _) hslash hlast
    · refine ⟨[0x20], by simp [isSpace], ?_⟩
      have hspace : (0x20 :: (b :: rest ++ text).reverse).reverse =
          b :: rest ++ text ++ [0x20] := by simp
      exact .cons rfl (.cons rfl (.single (closeTag_slash hspace hslash)))

/-! ## The first element -/

theorem leads_element {content more : Bytes} :
    Leads step (.element content) more (.element content) :=
  .stay fun _ _ => rfl

theorem finish_eq_ok_iff {s : Scan} {content : Bytes} :
    s.finish = .ok content ↔ s = .element content := by
  cases s <;> simp [finish]

end Scan

theorem firstElement_of_leads {document : Bytes} {s : Scan} (h : Leads Scan.step .text document s) :
    firstElement document = s.finish := by
  rw [Leads] at h
  rw [firstElement, h]

theorem firstElement_eq_ok_iff {document content : Bytes} :
    firstElement document = .ok content ↔ Leads Scan.step .text document (.element content) := by
  constructor
  · intro h
    cases hf : document.foldlM Scan.step .text with
    | error fault =>
      rw [firstElement, hf] at h
      cases h
    | ok s =>
      rw [firstElement_of_leads hf] at h
      rw [Scan.finish_eq_ok_iff] at h
      exact h ▸ hf
  · intro h
    rw [firstElement_of_leads h]
    rfl

theorem firstElement_eq {pieces : List Bytes} {tag content : Bytes} (suffix : Bytes)
    (hpieces : ∀ p ∈ pieces, Skipped p) (htag : Leads Scan.step .text tag (.element content)) :
    firstElement (pieces.flatten ++ tag ++ suffix) = .ok content := by
  have hall := (Scan.leads_prolog hpieces).append htag
  exact firstElement_eq_ok_iff.2 (hall.append Scan.leads_element)

end TaskMail.Xml
