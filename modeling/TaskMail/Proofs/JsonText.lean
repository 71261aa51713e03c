import TaskMail.Json.Value
import TaskMail.Proofs.Writing

/-!
# TaskMail.Proofs.JsonText

How a JSON value may be written, apart from numbers that are not whole.

* `CharText`   — a character inside of a string: as it is, by a letter, or by its code.
* `StringText`, `IntegerText` — a string with its quotes, a whole number within 64 bits.
* `Separated`  — texts with commas between them.
* `ValueText`  — a value; its first argument bounds how deep arrays and objects are nested.

White space may stand between any two tokens (`Padded`), and a value has many texts.
-/

namespace TaskMail.Json

def Spaces (text : List Char) : Prop :=
  ∀ c ∈ text, c ∈ [' ', '\t', '\n', '\r']

instance (text : List Char) : Decidable (Spaces text) :=
  decidable_of_iff (text.all fun c => [' ', '\t', '\n', '\r'].contains c) (by simp [Spaces])

/-- Something with white space around it. -/
inductive Padded {α : Type} (Shown : α → List Char → Prop) : α → List Char → Prop where
  | mk {a : α} {before text behind : List Char} :
      Spaces before → Shown a text → Spaces behind → Padded Shown a (before ++ text ++ behind)

theorem Padded.tight {α : Type} {Shown : α → List Char → Prop} {a : α} {text : List Char}
    (h : Shown a text) : Padded Shown a text := by
  have hnil : Spaces [] := fun _ hc => absurd hc List.not_mem_nil
  simpa using Padded.mk hnil h hnil

/-- At least one text, with commas between them. -/
inductive Separated {α : Type} (Shown : α → List Char → Prop) : List α → List Char → Prop where
  | last {a : α} {text : List Char} : Shown a text → Separated Shown [a] text
  | more {a : α} {items : List α} {text rest : List Char} :
      Shown a text → Separated Shown items rest →
      Separated Shown (a :: items) (text ++ ',' :: rest)

/-! ## Strings -/

/-- The characters that have a letter, and the letter behind the backslash. -/
def letters : List (Char × Char) :=
  [('"', '"'), ('\\', '\\'), ('/', '/'), ('\x08', 'b'), ('\x0c', 'f'), ('\n', 'n'), ('\r', 'r'),
    ('\t', 't')]

/-- Four hexadecimal digits. -/
def CodeText (n : Nat) (digits : List Char) : Prop :=
  Numeral 16 n digits ∧ digits.length = 4

inductive CharText : Char → List Char → Prop where
  | plain {c : Char} : c ≠ '"' → c ≠ '\\' → 0x20 ≤ c.toNat → CharText c [c]
  | letter {c letter : Char} : (c, letter) ∈ letters → CharText c ['\\', letter]
  | code {c : Char} {digits : List Char} :
      CodeText c.toNat digits → CharText c ('\\' :: 'u' :: digits)
  /-- A surrogate pair. -/
  | pair {c : Char} {high low : List Char} :
      0x10000 ≤ c.toNat → CodeText (0xD800 + (c.toNat - 0x10000) / 0x400) high →
      CodeText (0xDC00 + (c.toNat - 0x10000) % 0x400) low →
      CharText c ('\\' :: 'u' :: high ++ '\\' :: 'u' :: low)

inductive StringText : String → List Char → Prop where
  | mk {s : String} {text : List Char} :
      Joined CharText s.toList text → StringText s ('"' :: text ++ ['"'])

theorem codeText_of_digits {a b c d : Nat} {p q r s : Char} (ha : Digit 16 a p)
    (hb : Digit 16 b q) (hc : Digit 16 c r) (hd : Digit 16 d s) :
    CodeText (((a * 16 + b) * 16 + c) * 16 + d) [p, q, r, s] := by
  refine ⟨?_, rfl⟩
  simpa using (((Numeral.nil.snoc ha).snoc hb).snoc hc).snoc hd

/-- A string may be written as it is if nothing in it has to be escaped. -/
theorem stringText_plain {s : String}
    (h : ∀ c ∈ s.toList, c ≠ '"' ∧ c ≠ '\\' ∧ 0x20 ≤ c.toNat) :
    StringText s ('"' :: s.toList ++ ['"']) := by
  have hall : ∀ chars : List Char, (∀ c ∈ chars, c ≠ '"' ∧ c ≠ '\\' ∧ 0x20 ≤ c.toNat) →
      Joined CharText chars chars := by
    intro chars hchars
    induction chars with
    | nil => exact .nil
    | cons c rest ih =>
      obtain ⟨hc, hrest⟩ := List.forall_mem_cons.1 hchars
      exact .cons (.plain hc.1 hc.2.1 hc.2.2) (ih hrest)
  exact .mk (hall s.toList h)

/-! ## Values -/

/-- No zero in front, and within 64 bits with a sign or without. -/
inductive IntegerText : Int → List Char → Prop where
  | zero : IntegerText 0 ['0']
  | positive {n : Nat} {digits : List Char} :
      Numeral 10 n digits → digits.head? ≠ some '0' → 0 < n → n < 0x10000000000000000 →
      IntegerText n digits
  | negative {n : Nat} {digits : List Char} :
      Numeral 10 n digits → digits.head? ≠ some '0' → 0 < n → n ≤ 0x8000000000000000 →
      IntegerText (-n) ('-' :: digits)

/-- A value that holds no other. -/
inductive ScalarText : Value → List Char → Prop where
  | null : ScalarText .null ['n', 'u', 'l', 'l']
  | true : ScalarText (.bool true) ['t', 'r', 'u', 'e']
  | false : ScalarText (.bool false) ['f', 'a', 'l', 's', 'e']
  | integer {n : Int} {text : List Char} :
      IntegerText n text → ScalarText (.number (.integer n)) text
  /-- The one whole number that is no integer to the reader. -/
  | minusZero : ScalarText (.number (.float (-0.0))) ['-', '0']
  | string {s : String} {text : List Char} : StringText s text → ScalarText (.string s) text

/-- A key, a colon and a value. -/
inductive MemberText (Shown : Value → List Char → Prop) : String × Value → List Char → Prop where
  | mk {key : String} {v : Value} {keyText text : List Char} :
      Padded StringText key keyText → Padded Shown v text →
      MemberText Shown (key, v) (keyText ++ ':' :: text)

/-- A value that holds others. -/
inductive ContainerText (Shown : Value → List Char → Prop) : Value → List Char → Prop where
  | emptyArray {text : List Char} :
      Spaces text → ContainerText Shown (.array []) ('[' :: text ++ [']'])
  | array {items : List Value} {text : List Char} :
      Separated (Padded Shown) items text →
      ContainerText Shown (.array items) ('[' :: text ++ [']'])
  | emptyObject {text : List Char} :
      Spaces text → ContainerText Shown (.object []) ('\x7b' :: text ++ ['\x7d'])
  | object {members : Members Value} {text : List Char} :
      Separated (MemberText Shown) members text →
      ContainerText Shown (.object members) ('\x7b' :: text ++ ['\x7d'])

/-- A value in which at most so many arrays and objects are open at a time. -/
def ValueText : Nat → Value → List Char → Prop
  | 0 => ScalarText
  | depth + 1 => fun v text => ScalarText v text ∨ ContainerText (ValueText depth) v text

theorem ScalarText.valueText {v : Value} {text : List Char} (h : ScalarText v text) :
    ∀ depth, ValueText depth v text
  | 0 => h
  | _ + 1 => .inl h

theorem ContainerText.valueText {v : Value} {text : List Char} {depth : Nat}
    (h : ContainerText (ValueText depth) v text) : ValueText (depth + 1) v text :=
  .inr h

end TaskMail.Json
