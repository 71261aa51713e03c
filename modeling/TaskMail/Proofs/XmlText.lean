import TaskMail.Proofs.Writing
import TaskMail.Xml.Attribute
import TaskMail.Xml.Reference

/-!
# TaskMail.Proofs.XmlText

How a document may be written up to its first tag, and what a value spells.

* `Skipped`       — what may stand in front of the tag, any number of times.
* `AttributeText` — an attribute with the white space before it.
* `TagText`       — a tag, whose attributes have different keys.
* `Spells`        — the value of an attribute spells a text.

Values stand in double quotes and are otherwise any octets at all; only one that spells a text
has to be UTF-8.
-/

namespace TaskMail.Xml

def isLetter (b : UInt8) : Bool :=
  (0x41 ≤ b && b ≤ 0x5A) || (0x61 ≤ b && b ≤ 0x7A)

def isNameOctet (b : UInt8) : Bool :=
  isLetter b || (0x30 ≤ b && b ≤ 0x39) || b == 0x5F

inductive NameText : Bytes → Prop where
  | mk {b : UInt8} {rest : Bytes} :
      isLetter b = true → (∀ c ∈ rest, isNameOctet c = true) → NameText (b :: rest)

theorem nameText_of_all {name : Bytes} (hfirst : name.head?.any isLetter = true)
    (hall : name.all isNameOctet = true) : NameText name := by
  cases name with
  | nil => cases hfirst
  | cons b rest =>
    rw [List.all_cons, Bool.and_eq_true, List.all_eq_true] at hall
    exact .mk hfirst hall.2

/-- Text, a comment, or an instruction; an XML declaration is written like an instruction. -/
inductive Skipped : Bytes → Prop where
  | text {content : Bytes} : 0x3C ∉ content → Skipped content
  | comment {content : Bytes} :
      ¬ Utf8.encode "-->" <:+: content →
      Skipped (Utf8.encode "<!--" ++ content ++ Utf8.encode "-->")
  | instruction {b : UInt8} {rest : Bytes} :
      isLetter b = true → ¬ Utf8.encode "?>" <:+: b :: rest →
      Skipped (Utf8.encode "<?" ++ b :: rest ++ Utf8.encode "?>")

inductive AttributeText : Attribute → Bytes → Prop where
  | mk {space key value : Bytes} :
      space ≠ [] → (∀ b ∈ space, isSpace b = true) → NameText key → 0x22 ∉ value →
      AttributeText ⟨key, value⟩ (space ++ key ++ Utf8.encode "=\"" ++ value ++ Utf8.encode "\"")

inductive TagText : List Attribute → Bytes → Prop where
  | mk {name text close : Bytes} {attributes : List Attribute} :
      NameText name → Joined AttributeText attributes text →
      (attributes.map Attribute.key).Nodup →
      close = Utf8.encode ">" ∨ close = Utf8.encode " />" →
      TagText attributes (Utf8.encode "<" ++ name ++ text ++ close)

/-! ## Values -/

inductive CharText : Char → List Char → Prop where
  | plain {c : Char} : c ∉ ['<', '>', '&', '\'', '"'] → CharText c [c]
  | named {c : Char} {name : String} :
      (c, name) ∈ named → CharText c ('&' :: name.toList ++ [';'])
  | decimal {c : Char} {digits : List Char} :
      c ≠ '\x00' → Numeral 10 c.toNat digits → CharText c ('&' :: '#' :: digits ++ [';'])
  | hexadecimal {c : Char} {digits : List Char} :
      c ≠ '\x00' → Numeral 16 c.toNat digits → CharText c ('&' :: '#' :: 'x' :: digits ++ [';'])

inductive Spells : String → Bytes → Prop where
  | mk {s : String} {text : List Char} :
      Joined CharText s.toList text → Spells s (Utf8.octets text)

end TaskMail.Xml
