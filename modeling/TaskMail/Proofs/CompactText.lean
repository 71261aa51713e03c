import TaskMail.Json.Printer
import TaskMail.Proofs.JsonText
import TaskMail.Proofs.LastMembers

/-!
# TaskMail.Proofs.CompactText

How a value is shown in a message: on one line, and without white space between its tokens.

* `CompactChar`   — a character inside of a string; none is escaped that need not be.
* `CompactMember` — a key, a colon and a value.
* `CompactText`   — a value. An object shows the members that count, in the order of their keys.

A value is shown in one way (`CompactText.unique`), and that is what the printer writes of every
value that has been read from a text without doubles (`compactText_text`).
-/

namespace TaskMail.Json

inductive CompactChar : Char → List Char → Prop where
  | plain {c : Char} : c ≠ '"' → c ≠ '\\' → 0x20 ≤ c.toNat → CompactChar c [c]
  | letter {c letter : Char} :
      (c, letter) ∈ letters → c ≠ '/' → CompactChar c ['\\', letter]
  /-- A control character that has no letter. -/
  | code {c : Char} :
      c.toNat < 0x20 → (∀ letter, (c, letter) ∉ letters) →
      CompactChar c
        ['\\', 'u', '0', '0', Nat.digitChar (c.toNat / 16), Nat.digitChar (c.toNat % 16)]

inductive CompactString : String → List Char → Prop where
  | mk {s : String} {text : List Char} :
      Joined CompactChar s.toList text → CompactString s ('"' :: text ++ ['"'])

inductive CompactMember (Shown : Value → List Char → Prop) : String × Value → List Char → Prop where
  | mk {key : String} {v : Value} {keyText text : List Char} :
      CompactString key keyText → Shown v text →
      CompactMember Shown (key, v) (keyText ++ ':' :: text)

inductive CompactText : Value → List Char → Prop where
  | null : CompactText .null ['n', 'u', 'l', 'l']
  | true : CompactText (.bool true) ['t', 'r', 'u', 'e']
  | false : CompactText (.bool false) ['f', 'a', 'l', 's', 'e']
  | integer (n : Int) : CompactText (.number (.integer n)) (toString n).toList
  /-- The one whole number that is no integer to the reader. -/
  | minusZero : CompactText (.number (.float (-0.0))) ['-', '0', '.', '0']
  | string {s : String} {text : List Char} :
      CompactString s text → CompactText (.string s) text
  | emptyArray : CompactText (.array []) ['[', ']']
  | array {items : List Value} {text : List Char} :
      Separated CompactText items text → CompactText (.array items) ('[' :: text ++ [']'])
  | emptyObject : CompactText (.object []) ['\x7b', '\x7d']
  | object {members shown : Members Value} {text : List Char} :
      Members.Ascending shown →
      (∀ key v, (key, v) ∈ shown ↔ Members.Last members key (some v)) →
      Separated (CompactMember CompactText) shown text →
      CompactText (.object members) ('\x7b' :: text ++ ['\x7d'])

/-! ## Strings -/

theorem compactChar_escape (c : Char) : CompactChar c (escape c) := by
  have hletter : ∀ letter, (c, letter) ∈ letters → c ≠ '/' → CompactChar c ['\\', letter] :=
    fun _ => .letter
  rw [escape]
  split
  · next h => subst h; exact hletter _ (by decide) (by decide)
  split
  · next h => subst h; exact hletter _ (by decide) (by decide)
  split
  · next h => subst h; exact hletter _ (by decide) (by decide)
  split
  · next h => subst h; exact hletter _ (by decide) (by decide)
  split
  · next h => subst h; exact hletter _ (by decide) (by decide)
  split
  · next h => subst h; exact hletter _ (by decide) (by decide)
  split
  · next h => subst h; exact hletter _ (by decide) (by decide)
  next hquote hslash hb hf hn hr ht =>
  split
  · next hcontrol =>
    refine .code hcontrol fun letter hmem => ?_
    have hsolidus : c ≠ '/' := by
      rintro rfl
      exact absurd hcontrol (by decide)
    simp [letters, hquote, hslash, hb, hf, hn, hr, ht, hsolidus] at hmem
  · next hcontrol => exact .plain hquote hslash (Nat.le_of_not_lt hcontrol)

theorem compactString_stringText (s : String) : CompactString s (stringText s).toList := by
  rw [stringText, String.toList_ofList]
  refine .mk ?_
  induction s.toList with
  | nil => exact .nil
  | cons c rest ih => exact .cons (compactChar_escape c) ih

theorem compactMember_memberText {Shown : Value → List Char → Prop} {m : String × Value}
    (h : Shown m.2 m.2.text.toList) :
    CompactMember Shown m (memberText (m.1, m.2.text)).toList := by
  rw [memberText, String.toList_append, String.toList_append, List.append_assoc]
  exact .mk (compactString_stringText m.1) h

/-! ## Values -/

theorem separated_intercalate {α : Type} {Shown : α → List Char → Prop} (f : α → String)
    {items : List α} (hne : items ≠ []) (h : ∀ a ∈ items, Shown a (f a).toList) :
    Separated Shown items (",".intercalate (items.map f)).toList := by
  induction items with
  | nil => exact absurd rfl hne
  | cons a rest ih =>
    obtain ⟨ha, hrest⟩ := List.forall_mem_cons.1 h
    cases rest with
    | nil =>
      rw [List.map_singleton, String.intercalate_singleton]
      exact .last ha
    | cons b rest =>
      rw [List.map_cons, List.map_cons, String.intercalate_cons_cons, String.toList_append,
        String.toList_append, List.append_assoc]
      exact .more ha (ih (List.cons_ne_nil b rest) hrest)

theorem Separated.ne_nil {α : Type} {Shown : α → List Char → Prop} {items : List α}
    {text : List Char} (h : Separated Shown items text) : items ≠ [] := by
  cases h <;> exact List.cons_ne_nil _ _

theorem Separated.exists_shown {α : Type} {Shown : α → List Char → Prop} {items : List α}
    {text : List Char} (h : Separated Shown items text) : ∀ a ∈ items, ∃ t, Shown a t := by
  induction h with
  | last ha =>
    intro b hb
    exact ⟨_, List.mem_singleton.1 hb ▸ ha⟩
  | more ha _ ih =>
    intro b hb
    rcases List.mem_cons.1 hb with rfl | hb
    · exact ⟨_, ha⟩
    · exact ih b hb

theorem compactText_scalar {v : Value} {text : List Char} (h : ScalarText v text) :
    CompactText v v.text.toList := by
  cases h with
  | null => rw [Value.text]; exact .null
  | true => rw [Value.text]; exact .true
  | false => rw [Value.text]; exact .false
  | @integer n _ _ =>
    rw [Value.text, Number.text]
    exact .integer n
  | minusZero =>
    have htext : floatText (-0.0) = "-0.0" := by
      rw [floatText]
      decide +kernel
    rw [Value.text, Number.text, htext]
    exact .minusZero
  | @string s _ _ =>
    rw [Value.text]
    exact .string (compactString_stringText s)

theorem compactText_array {items : List Value} (hne : items ≠ [])
    (h : ∀ v ∈ items, CompactText v v.text.toList) :
    CompactText (.array items) (Value.array items).text.toList := by
  rw [Value.text, String.toList_append, String.toList_append]
  exact .array (separated_intercalate Value.text hne h)

theorem text_object (members : Members Value) :
    (Value.object members).text =
      "\x7b" ++ ",".intercalate (members.settled.map fun m => memberText (m.1, m.2.text)) ++
        "\x7d" := by
  rw [Value.text, Members.settled_map Value.text, List.map_map]
  rfl

theorem compactText_object {members : Members Value} (hne : members ≠ [])
    (h : ∀ m ∈ members, CompactText m.2 m.2.text.toList) :
    CompactText (.object members) (Value.object members).text.toList := by
  have hmem : ∀ key v, (key, v) ∈ members.settled ↔ Members.Last members key (some v) :=
    fun key v => Members.mem_settled_iff.trans Members.last?_eq_iff
  have hshown : ∀ m ∈ members.settled, CompactMember CompactText m
      (memberText (m.1, m.2.text)).toList := by
    intro m hm
    exact compactMember_memberText (h m (Members.mem_of_last? (Members.mem_settled_iff.1 hm)))
  have htext := separated_intercalate (fun m : String × Value => memberText (m.1, m.2.text))
    (Members.settled_ne_nil hne) hshown
  rw [text_object, String.toList_append, String.toList_append]
  exact .object (Members.ascending_settled members) hmem htext

theorem exists_valueText_of_mem {depth : Nat} {members : Members Value} {text : List Char}
    (h : Separated (MemberText (ValueText depth)) members text) {m : String × Value}
    (hm : m ∈ members) : ∃ t, ValueText depth m.2 t := by
  obtain ⟨_, hmember⟩ := h.exists_shown m hm
  cases hmember with
  | mk _ hpadded =>
    cases hpadded with
    | mk _ hshown _ => exact ⟨_, hshown⟩

/-- By induction on the depth, as the text of the value is written. -/
theorem compactText_text {depth : Nat} {v : Value} {text : List Char}
    (h : ValueText depth v text) : CompactText v v.text.toList := by
  induction depth generalizing v text with
  | zero => exact compactText_scalar h
  | succ depth ih =>
    rcases h with h | h
    · exact compactText_scalar h
    cases h with
    | emptyArray _ => rw [Value.text]; exact .emptyArray
    | array h =>
      refine compactText_array h.ne_nil fun v hv => ?_
      obtain ⟨_, hpadded⟩ := h.exists_shown v hv
      cases hpadded with
      | mk _ hshown _ => exact ih hshown
    | emptyObject _ => rw [Value.text]; exact .emptyObject
    | object h =>
      refine compactText_object h.ne_nil fun m hm => ?_
      obtain ⟨_, hshown⟩ := exists_valueText_of_mem h hm
      exact ih hshown

/-! ## Uniqueness -/

theorem escaped_of_mem_letters :
    ∀ m ∈ letters, m.1 ≠ '/' → m.1 = '"' ∨ m.1 = '\\' ∨ m.1.toNat < 0x20 := by
  decide

theorem letter_unique : ∀ m ∈ letters, ∀ n ∈ letters, m.1 = n.1 → m.2 = n.2 := by
  decide

theorem CompactChar.unique {c : Char} {text text' : List Char} (h : CompactChar c text)
    (h' : CompactChar c text') : text = text' := by
  have hplain : c ≠ '"' → c ≠ '\\' → 0x20 ≤ c.toNat → ∀ {letter}, (c, letter) ∈ letters →
      c = '/' := by
    intro hquote hslash hprints letter hmem
    by_contra hne
    rcases escaped_of_mem_letters _ hmem hne with heq | heq | hcontrol
    · exact hquote heq
    · exact hslash heq
    · exact absurd hprints (Nat.not_le.2 hcontrol)
  cases h with
  | plain hquote hslash hprints =>
    cases h' with
    | plain _ _ _ => rfl
    | letter hmem hne => exact absurd (hplain hquote hslash hprints hmem) hne
    | code hcontrol _ => exact absurd hprints (Nat.not_le.2 hcontrol)
  | @letter letter hmem hne =>
    cases h' with
    | plain hquote hslash hprints => exact absurd (hplain hquote hslash hprints hmem) hne
    | @letter letter' hmem' _ =>
      obtain rfl : letter = letter' := letter_unique _ hmem _ hmem' rfl
      rfl
    | code _ hnone => exact absurd hmem (hnone _)
  | code hcontrol hnone =>
    cases h' with
    | plain _ _ hprints => exact absurd hprints (Nat.not_le.2 hcontrol)
    | letter hmem _ => exact absurd hmem (hnone _)
    | code _ _ => rfl

theorem CompactString.unique {s : String} {text text' : List Char} (h : CompactString s text)
    (h' : CompactString s text') : text = text' := by
  cases h with
  | mk hs =>
    cases h' with
    | mk hs' => rw [hs.unique hs' fun _ _ _ => CompactChar.unique]

theorem CompactMember.unique {Shown : Value → List Char → Prop} {m : String × Value}
    {text text' : List Char} (h : CompactMember Shown m text) (h' : CompactMember Shown m text')
    (hone : ∀ t t', Shown m.2 t → Shown m.2 t' → t = t') : text = text' := by
  cases h with
  | mk hkey hv =>
    cases h' with
    | mk hkey' hv' => rw [hkey.unique hkey', hone _ _ hv hv']

theorem Separated.unique {α : Type} {Shown : α → List Char → Prop} {items : List α}
    {text text' : List Char} (h : Separated Shown items text) (h' : Separated Shown items text')
    (hone : ∀ a ∈ items, ∀ t t', Shown a t → Shown a t' → t = t') : text = text' := by
  induction h generalizing text' with
  | last ha =>
    cases h' with
    | last ha' => exact hone _ List.mem_cons_self _ _ ha ha'
    | more _ hnil => exact absurd rfl hnil.ne_nil
  | more ha hrest ih =>
    obtain ⟨hfirst, hone⟩ := List.forall_mem_cons.1 hone
    cases h' with
    | last _ => exact absurd rfl hrest.ne_nil
    | more ha' hrest' => rw [hfirst _ _ ha ha', ih hrest' hone]

theorem compactText_array_unique {items : List Value} {text text' : List Char}
    (hone : ∀ v ∈ items, ∀ t t', CompactText v t → CompactText v t' → t = t')
    (h : CompactText (.array items) text) (h' : CompactText (.array items) text') :
    text = text' := by
  cases h with
  | emptyArray =>
    cases h' with
    | emptyArray => rfl
    | array h' => exact absurd rfl h'.ne_nil
  | array h =>
    cases h' with
    | emptyArray => exact absurd rfl h.ne_nil
    | array h' => rw [h.unique h' hone]

theorem compactText_object_unique {members : Members Value} {text text' : List Char}
    (hone : ∀ m ∈ members, ∀ t t', CompactText m.2 t → CompactText m.2 t' → t = t')
    (h : CompactText (.object members) text) (h' : CompactText (.object members) text') :
    text = text' := by
  have hnonempty : ∀ {shown : Members Value} {text : List Char},
      (∀ key v, (key, v) ∈ shown ↔ Members.Last [] key (some v)) →
      ¬ Separated (CompactMember CompactText) shown text := by
    intro shown text hmem hsep
    obtain ⟨m, _, rfl⟩ := List.exists_cons_of_ne_nil hsep.ne_nil
    cases (hmem m.1 m.2).1 List.mem_cons_self with
    | present heq _ => simp at heq
  cases h with
  | emptyObject =>
    cases h' with
    | emptyObject => rfl
    | object _ hmem' h' => exact absurd h' (hnonempty hmem')
  | object hasc hmem h =>
    cases h' with
    | emptyObject => exact absurd h (hnonempty hmem)
    | object hasc' hmem' h' =>
      obtain rfl := hasc.unique hasc' fun m => (hmem m.1 m.2).trans (hmem' m.1 m.2).symm
      rw [h.unique h' fun m hm _ _ hm₁ hm₂ => hm₁.unique hm₂ (hone m ?_)]
      exact Members.mem_of_last? (Members.last?_of_last ((hmem m.1 m.2).1 hm))

/-- A value is shown in one way. -/
theorem CompactText.unique {v : Value} {text text' : List Char} (h : CompactText v text)
    (h' : CompactText v text') : text = text' := by
  match v with
  | .array items =>
    exact compactText_array_unique (fun v hv t t' => CompactText.unique) h h'
  | .object members =>
    exact compactText_object_unique (fun m hm t t' => CompactText.unique) h h'
  | .string s =>
    cases h with
    | string h =>
      cases h' with
      | string h' => exact h.unique h'
  | .null => cases h; cases h'; rfl
  | .bool b => cases h <;> cases h' <;> rfl
  | .number n => cases h <;> cases h' <;> rfl
termination_by sizeOf v
decreasing_by
  · have := List.sizeOf_lt_of_mem hv
    simp only [Value.array.sizeOf_spec]
    omega
  · have := List.sizeOf_lt_of_mem hm
    have : sizeOf m = 1 + sizeOf m.1 + sizeOf m.2 := rfl
    simp only [Value.object.sizeOf_spec]
    omega

end TaskMail.Json
