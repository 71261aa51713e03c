import Mathlib.Data.List.TakeWhile
import TaskMail.EnvFile
import TaskMail.Proofs.Octets
import TaskMail.Proofs.Replacement

/-!
# TaskMail.Proofs.VariableScope

Which variables a file of assignments reads, and which it sets.

* `Environment.Apart`   — no entry is one for both of two names.
* `Environment.without` — an environment less the entries for some names.
* `EnvFile.Refers`      — a text has a reference to a name, or to a longer one.
* `ValueScan.Pending`   — the name under way stands at the end of what has been read.

`lineOf_congr` says that a line depends on no other variables than those it refers to. From it,
`without_apply`: a file does the same to the other variables whether some to which it does not
refer are set or not. And `text?_apply`: a variable that is set is left alone by every file.
-/

namespace TaskMail
namespace Environment

/-! ## Entries -/

theorem behind?_eq_some_iff {first s t : Bytes} : behind? first s = some t ↔ s = first ++ t := by
  induction first generalizing s with
  | nil => simp [behind?]
  | cons a rest ih =>
    cases s with
    | nil => simp [behind?]
    | cons b s =>
      by_cases h : a = b
      · simp [behind?, h, ih]
      · simp [behind?, h, Ne.symm h]

theorem behind?_eq_none_iff {first s : Bytes} : behind? first s = none ↔ ∀ t, s ≠ first ++ t := by
  simp only [Option.eq_none_iff_forall_ne_some, ne_eq, behind?_eq_some_iff]

/-- No entry is one for both names. -/
def Apart (n m : String) : Prop :=
  ∀ s t, start n ++ s ≠ start m ++ t

theorem equalsSign_not_mem {n : String} (h : '=' ∉ n.toList) : equalsSign ∉ Utf8.encode n :=
  fun hmem => h (Utf8.mem_of_mem_octets (d := '=') (by decide) hmem)

/-- An entry for two names has the one in front that holds no equals sign. -/
theorem prefix_of_entry {n m : String} (hm : '=' ∉ m.toList) {s t : Bytes}
    (h : start n ++ s = start m ++ t) : m.toList <+: n.toList := by
  rw [← Utf8.encode_prefix_iff]
  simp only [start, List.append_assoc, List.singleton_append] at h
  rcases List.append_eq_append_iff.1 h with ⟨rest, hrest, hsign⟩ | ⟨rest, hrest, _⟩
  · cases rest with
    | nil => exact ⟨[], by simpa using hrest⟩
    | cons b rest =>
      have hb : equalsSign = b := (List.cons.inj hsign).1
      have hmem : equalsSign ∈ Utf8.encode m := by simp [hrest, hb]
      exact absurd hmem (equalsSign_not_mem hm)
  · exact ⟨rest, hrest.symm⟩

theorem apart_of_ne {n m : String} (hn : '=' ∉ n.toList) (hm : '=' ∉ m.toList) (h : n ≠ m) :
    Apart n m := by
  intro s t heq
  have hle := (prefix_of_entry hm heq).length_le
  have hpre := prefix_of_entry hn heq.symm
  exact h (String.toList_inj.1 (hpre.eq_of_length (Nat.le_antisymm hpre.length_le hle)))

theorem findSome?_replace_of_apart {first other : Bytes} (h : ∀ s t, first ++ s ≠ other ++ t)
    (value : Bytes) (entries : List Bytes) :
    (replace first value entries).findSome? (behind? other) =
      entries.findSome? (behind? other) := by
  have hnone : ∀ s, behind? other (first ++ s) = none := fun s => behind?_eq_none_iff.2 (h s)
  induction entries with
  | nil => simp [replace, hnone]
  | cons s rest ih =>
    rw [replace]
    cases hs : behind? first s with
    | none => simp [List.findSome?_cons, ih]
    | some t =>
      rw [behind?_eq_some_iff.1 hs]
      simp [hnone]

theorem set_eq_some_iff {e e' : Environment} {n : String} {value : Bytes} :
    e.set n value = some e' ↔
      isName n = true ∧ 0 ∉ value ∧ e' = ⟨replace (start n) value e.entries⟩ := by
  have htaken : (isName n && !value.contains 0) = true ↔ isName n = true ∧ 0 ∉ value := by simp
  rw [set]
  by_cases h : isName n = true ∧ 0 ∉ value
  · rw [if_pos (htaken.2 h)]
    simp [h.1, h.2, eq_comm]
  · rw [if_neg (mt htaken.1 h), ← and_assoc]
    simp [h]

theorem not_mem_of_isName {n : String} (h : isName n = true) : '=' ∉ n.toList := by
  simp only [isName, Bool.and_eq_true, Bool.not_eq_true', List.contains_eq_mem,
    decide_eq_false_iff_not] at h
  exact h.1.2

theorem text?_set_of_apart {n m : String} (h : Apart n m) {e e' : Environment} {value : Bytes}
    (hs : e.set n value = some e') : e'.text? m = e.text? m := by
  obtain ⟨_, _, rfl⟩ := set_eq_some_iff.1 hs
  simp only [text?, octets?, findSome?_replace_of_apart h]

/-- A default is set if nothing is, and else changes nothing. -/
theorem setDefault_eq_some_iff {e e' : Environment} {n value : String} :
    e.setDefault n value = some e' ↔
      (e.text? n ≠ none ∧ e' = e) ∨
        (e.text? n = none ∧ e.set n (Utf8.encode value) = some e') := by
  rw [setDefault]
  cases e.text? n with
  | some v => simp [eq_comm]
  | none => simp

/-- A variable that is set is not set by default, nor changed with another one. -/
theorem text?_setDefault {e e' : Environment} {n m v value : String} (hn : '=' ∉ n.toList)
    (hm : '=' ∉ m.toList) (h : e.text? m = some v) (hs : e.setDefault n value = some e') :
    e'.text? m = some v := by
  obtain ⟨_, rfl⟩ | ⟨hnone, hset⟩ := setDefault_eq_some_iff.1 hs
  · exact h
  · have hnm : n ≠ m := by
      rintro rfl
      rw [hnone] at h
      cases h
    exact (text?_set_of_apart (apart_of_ne hn hm hnm) hset).trans h

/-! ## Environments less some variables -/

/-- An entry for none of some names. -/
def spares (names : List String) (s : Bytes) : Bool :=
  names.all fun name => (behind? (start name) s).isNone

def without (e : Environment) (names : List String) : Environment :=
  ⟨e.entries.filter (spares names)⟩

theorem spares_start {names : List String} {n : String} (h : ∀ m ∈ names, Apart n m) (s : Bytes) :
    spares names (start n ++ s) = true := by
  simp only [spares, List.all_eq_true, Option.isNone_iff_eq_none]
  intro m hm
  exact behind?_eq_none_iff.2 (h m hm s)

theorem spares_start_of_mem {names : List String} {n : String} (h : n ∈ names) (s : Bytes) :
    spares names (start n ++ s) = false := by
  rw [Bool.eq_false_iff]
  intro hs
  have hnone := List.all_eq_true.1 hs n h
  rw [behind?_append] at hnone
  cases hnone

@[simp] theorem without_without (e : Environment) (names : List String) :
    (e.without names).without names = e.without names := by
  simp [without, List.filter_filter]

theorem findSome?_filter {first : Bytes} {keep : Bytes → Bool} (h : ∀ s, keep (first ++ s) = true)
    (entries : List Bytes) :
    (entries.filter keep).findSome? (behind? first) = entries.findSome? (behind? first) := by
  induction entries with
  | nil => rfl
  | cons s rest ih =>
    cases hs : behind? first s with
    | none =>
      cases hk : keep s <;> simp [hk, hs, ih]
    | some t =>
      have hk : keep s = true := by rw [behind?_eq_some_iff.1 hs, h]
      simp [hk, hs]

theorem filter_replace {first : Bytes} {keep : Bytes → Bool} (h : ∀ s, keep (first ++ s) = true)
    (value : Bytes) (entries : List Bytes) :
    (replace first value entries).filter keep = replace first value (entries.filter keep) := by
  induction entries with
  | nil => simp [replace, h]
  | cons s rest ih =>
    rw [replace]
    cases hs : behind? first s with
    | none =>
      cases hk : keep s <;> simp [hk, replace, hs, ih]
    | some t =>
      have hk : keep s = true := by rw [behind?_eq_some_iff.1 hs, h]
      simp [hk, replace, hs, h]

theorem filter_replace_of_dropped {first : Bytes} {keep : Bytes → Bool}
    (h : ∀ s, keep (first ++ s) = false) (value : Bytes) (entries : List Bytes) :
    (replace first value entries).filter keep = entries.filter keep := by
  induction entries with
  | nil => simp [replace, h]
  | cons s rest ih =>
    rw [replace]
    cases hs : behind? first s with
    | none => simp [List.filter_cons, ih]
    | some t =>
      have hk : keep s = false := by rw [behind?_eq_some_iff.1 hs, h]
      simp [hk, h]

section
variable {e e' : Environment} {names : List String} {n : String}

theorem octets?_without (h : ∀ m ∈ names, Apart n m) :
    (e.without names).octets? n = e.octets? n := by
  simp only [octets?, without, findSome?_filter (spares_start h)]

/-- Environments that differ in some variables only give the others the same values. -/
theorem octets?_congr (he : e.without names = e'.without names) (h : ∀ m ∈ names, Apart n m) :
    e.octets? n = e'.octets? n := by
  rw [← octets?_without h, he, octets?_without h]

theorem text?_congr (he : e.without names = e'.without names) (h : ∀ m ∈ names, Apart n m) :
    e.text? n = e'.text? n := by
  rw [text?, text?, octets?_congr he h]

/-- Setting one of the variables that are left out leaves no trace. -/
theorem without_setDefault_of_mem {d : Environment} {value : String} (hmem : n ∈ names)
    (hs : e.setDefault n value = some d) : d.without names = e.without names := by
  obtain ⟨_, rfl⟩ | ⟨_, hset⟩ := setDefault_eq_some_iff.1 hs
  · rfl
  · obtain ⟨_, _, rfl⟩ := set_eq_some_iff.1 hset
    simp only [without, filter_replace_of_dropped (spares_start_of_mem hmem)]

/-- They still differ in no others when a variable has been set in both. -/
theorem without_setDefault (hnames : ∀ m ∈ names, '=' ∉ m.toList) (hn : '=' ∉ n.toList)
    (he : e.without names = e'.without names) {d d' : Environment} {value : String}
    (hs : e.setDefault n value = some d) (hs' : e'.setDefault n value = some d') :
    d.without names = d'.without names := by
  by_cases hmem : n ∈ names
  · rw [without_setDefault_of_mem hmem hs, without_setDefault_of_mem hmem hs', he]
  · have hapart : ∀ m ∈ names, Apart n m := fun m hm =>
      apart_of_ne hn (hnames m hm) (ne_of_mem_of_not_mem hm hmem).symm
    have htext : e.text? n = e'.text? n := text?_congr he hapart
    rw [setDefault_eq_some_iff, htext] at hs
    rw [setDefault_eq_some_iff] at hs'
    cases h : e'.text? n with
    | some v =>
      simp only [h, ne_eq, reduceCtorEq, not_false_iff, true_and, false_and, or_false] at hs hs'
      rw [hs, hs', he]
    | none =>
      simp only [h, ne_eq, not_true_eq_false, false_and, true_and, false_or] at hs hs'
      obtain ⟨_, _, rfl⟩ := set_eq_some_iff.1 hs
      obtain ⟨_, _, rfl⟩ := set_eq_some_iff.1 hs'
      simp only [without, Environment.mk.injEq] at he
      simp only [without, filter_replace (spares_start hapart), he]

end

end Environment

/-! ## References -/

namespace EnvFile

/-- A dollar sign in front of the name, or in front of a brace and the name, stands somewhere in
the text. -/
def Refers (text : List Char) (name : String) : Prop :=
  ('$' :: name.toList) <:+: text ∨ ('$' :: '\x7b' :: name.toList) <:+: text

instance (text : List Char) (name : String) : Decidable (Refers text name) :=
  inferInstanceAs (Decidable (_ ∨ _))

theorem Refers.of_infix {text text' : List Char} {name : String} (h : Refers text name)
    (ht : text <:+: text') : Refers text' name :=
  h.imp (·.trans ht) (·.trans ht)

theorem Refers.of_prefix {text : List Char} {name name' : String} (h : Refers text name)
    (hn : name'.toList <+: name.toList) : Refers text name' := by
  have hcons : ∀ c {a b : List Char}, a <+: b → c :: a <+: c :: b := fun c _ _ hab =>
    (List.prefix_cons_inj c).2 hab
  exact h.imp (hcons _ hn).isInfix.trans (hcons _ (hcons _ hn)).isInfix.trans

/-- Who refers to no name of a list looks up no variable that an entry for them could answer. -/
theorem apart_of_refers {text : List Char} {names : List String}
    (hnames : ∀ m ∈ names, '=' ∉ m.toList) (hr : ∀ m ∈ names, ¬ Refers text m) {n : String}
    (h : Refers text n) : ∀ m ∈ names, Environment.Apart n m :=
  fun m hm _ _ heq => hr m hm (h.of_prefix (Environment.prefix_of_entry (hnames m hm) heq))

end EnvFile

open EnvFile (Refers)

namespace ValueScan

/-- The name of a reference under way stands, with its dollar sign, at the end of what has been
read. -/
def Pending (s : ValueScan) (before : List Char) : Prop :=
  match s.phase with
  | .reference name => ('$' :: name.reverse) <:+ before
  | .braced name => ('$' :: '\x7b' :: name.reverse) <:+ before
  | _ => True

theorem Pending.takePlain {s : ValueScan} (before : List Char) (c : Char)
    (h : s.phase = .plain) : (s.takePlain c).Pending (before ++ [c]) := by
  rw [ValueScan.takePlain]
  by_cases hc : c = '$'
  · rw [if_pos hc, hc]
    exact List.suffix_append _ _
  · rw [if_neg hc]
    split_ifs <;> simp [Pending, goto, push, h]

theorem Pending.step {lookup : String → String} {s s' : ValueScan} {before : List Char} {c : Char}
    (h : s.Pending before) (hs : s.step lookup c = some s') : s'.Pending (before ++ [c]) := by
  have hmore : ∀ {a : List Char}, a <:+ before → (a ++ [c]) <:+ (before ++ [c]) := by
    rintro a ⟨front, rfl⟩
    exact ⟨front, by simp⟩
  rw [ValueScan.step] at hs
  cases hp : s.phase with
  | plain =>
    simp only [hp, Option.some.injEq] at hs
    exact hs ▸ Pending.takePlain before c hp
  | strong =>
    simp only [hp, Option.some.injEq] at hs
    subst hs
    split_ifs <;> simp [Pending, goto, push, hp]
  | escape =>
    simp only [hp] at hs
    split_ifs at hs <;> cases hs <;> trivial
  | reference name =>
    simp only [hp] at hs
    simp only [Pending, hp] at h
    split_ifs at hs with halnum hbrace hdollar
    · cases hs
      simpa [Pending, goto] using hmore h
    · obtain ⟨rfl, rfl⟩ := hbrace
      cases hs
      simpa [Pending, goto] using hmore h
    · cases hs
      rw [hdollar]
      exact List.suffix_append _ _
    · cases hs
      trivial
  | braced name =>
    simp only [hp] at hs
    simp only [Pending, hp] at h
    split_ifs at hs with hbrace
    · cases hs
      trivial
    · cases hs
      simpa [Pending, goto] using hmore h
  | ended =>
    simp only [hp] at hs
    split_ifs at hs <;> cases hs <;> simp [Pending, goto, hp]
  | comment =>
    simp only [hp, Option.some.injEq] at hs
    subst hs
    simp [Pending, hp]

theorem pending_foldlM {lookup : String → String} {s s' : ValueScan} {before cs : List Char}
    (h : s.Pending before) (hs : cs.foldlM (ValueScan.step lookup) s = some s') :
    s'.Pending (before ++ cs) := by
  induction cs generalizing s before with
  | nil =>
    rw [List.foldlM_nil] at hs
    cases hs
    simpa using h
  | cons c rest ih =>
    rw [List.foldlM_cons] at hs
    obtain ⟨s₁, hstep, hrest⟩ := Option.bind_eq_some_iff.1 hs
    simpa using ih (h.step hstep) hrest

section
variable {lookup lookup' : String → String} {cs : List Char}

theorem putIn_congr (hl : ∀ n, Refers cs n → lookup n = lookup' n) (s : ValueScan)
    {name : List Char} (h : ('$' :: name.reverse) <:+: cs ∨ ('$' :: '\x7b' :: name.reverse) <:+: cs) :
    s.putIn lookup name = s.putIn lookup' name := by
  have hname : Refers cs (String.ofList name.reverse) := by
    rw [EnvFile.Refers, String.toList_ofList]
    exact h
  rw [putIn, putIn, hl _ hname]

theorem step_congr (hl : ∀ n, Refers cs n → lookup n = lookup' n) {s : ValueScan}
    {before : List Char} (h : s.Pending before) (hcs : before <+: cs) (c : Char) :
    s.step lookup c = s.step lookup' c := by
  rw [step, step]
  cases hp : s.phase with
  | reference name =>
    simp only [Pending, hp] at h
    simp only [putIn_congr hl s (.inl (h.isInfix.trans hcs.isInfix))]
  | braced name =>
    simp only [Pending, hp] at h
    simp only [putIn_congr hl s (.inr (h.isInfix.trans hcs.isInfix))]
  | _ => rfl

theorem foldlM_congr (hl : ∀ n, Refers cs n → lookup n = lookup' n) {s : ValueScan}
    {before rest : List Char} (h : s.Pending before) (hcs : before ++ rest = cs) :
    rest.foldlM (ValueScan.step lookup) s = rest.foldlM (ValueScan.step lookup') s := by
  induction rest generalizing s before with
  | nil => rfl
  | cons c rest ih =>
    rw [List.foldlM_cons, List.foldlM_cons, ← step_congr hl h ⟨_, hcs⟩ c]
    cases hs : s.step lookup c with
    | none => rfl
    | some s₁ => exact ih (h.step hs) (by simpa using hcs)

theorem finish_congr (hl : ∀ n, Refers cs n → lookup n = lookup' n) {s : ValueScan}
    (h : s.Pending cs) : s.finish lookup = s.finish lookup' := by
  rw [finish, finish]
  cases hp : s.phase with
  | reference name =>
    simp only [Pending, hp] at h
    simp only [putIn_congr hl s (.inl h.isInfix)]
  | _ => rfl

end
end ValueScan

/-! ## Lines -/

namespace EnvFile

section
variable {lookup lookup' : String → String}

theorem valueOf_congr {cs : List Char} (hl : ∀ n, Refers cs n → lookup n = lookup' n) :
    valueOf lookup cs = valueOf lookup' cs := by
  have hstart : ValueScan.start.Pending [] := trivial
  rw [valueOf, valueOf, ← ValueScan.foldlM_congr hl hstart rfl]
  cases hs : cs.foldlM (ValueScan.step lookup) ValueScan.start with
  | none => rfl
  | some s => exact ValueScan.finish_congr hl (ValueScan.pending_foldlM hstart hs)

theorem assignmentOf_congr {cs : List Char} (hl : ∀ n, Refers cs n → lookup n = lookup' n)
    (name : String) : assignmentOf lookup name cs = assignmentOf lookup' name cs := by
  have hsuffix : Text.trimStart cs <:+ cs := List.dropWhile_suffix _
  rw [assignmentOf, assignmentOf]
  cases ht : Text.trimStart cs with
  | nil => rfl
  | cons c rest =>
    rw [ht] at hsuffix
    simp only [valueOf_congr fun n hn => hl n (Refers.of_infix hn hsuffix.isInfix)]

/-- What is read is a name, and what is behind it is an end of the text. -/
theorem of_nameOf? {cs rest : List Char} {name : String} (h : nameOf? cs = some (name, rest)) :
    Environment.isName name = true ∧ rest <:+ cs := by
  cases cs with
  | nil => cases h
  | cons c tail =>
    rw [nameOf?] at h
    split_ifs at h with hstart
    cases h
    refine ⟨?_, ((List.dropWhile_suffix _).trans (List.dropWhile_suffix _)).trans
      (List.suffix_cons _ _)⟩
    have hfree : ∀ d, isNameStart d = false → isNameChar d = false →
        d ∉ c :: tail.takeWhile isNameChar := by
      intro d hs hc hmem
      rcases List.mem_cons.1 hmem with rfl | hmem
      · exact absurd hstart (by simp [hs])
      · exact absurd (List.mem_takeWhile_imp hmem) (by simp [hc])
    have hne : String.ofList (c :: tail.takeWhile isNameChar) ≠ "" := by
      intro h
      have hnil := congrArg String.toList h
      rw [String.toList_ofList] at hnil
      cases hnil
    simp only [Environment.isName, String.toList_ofList, List.contains_eq_mem, Bool.and_eq_true,
      Bool.not_eq_true', decide_eq_true_eq, decide_eq_false_iff_not]
    exact ⟨⟨hne, hfree _ (by decide) (by decide)⟩, hfree _ (by decide) (by decide)⟩

theorem trimmed_infix (cs : List Char) : Text.trimStart (Text.trimEnd cs) <:+: cs := by
  refine (List.dropWhile_suffix _).isInfix.trans (List.IsPrefix.isInfix ?_)
  rw [Text.trimEnd, ← List.reverse_suffix, List.reverse_reverse]
  exact List.dropWhile_suffix _

/-- Whatever the variables are, a line is blank, or it is bad, or it sets the same name to what the
same text gives. -/
theorem lineOf_cases (line : String) :
    (∀ lookup, lineOf lookup line = .blank) ∨ (∀ lookup, lineOf lookup line = .bad) ∨
      ∃ name rest, Environment.isName name = true ∧ rest <:+: line.toList ∧
        ∀ lookup, lineOf lookup line = assignmentOf lookup name rest := by
  have hinfix := trimmed_infix line.toList
  cases ht : Text.trimStart (Text.trimEnd line.toList) with
  | nil => exact .inl fun lookup => by rw [lineOf, ht]
  | cons c cs =>
    rw [ht] at hinfix
    by_cases hplain : ∃ name rest, nameOf? (c :: cs) = some (name, '=' :: rest)
    · obtain ⟨name, rest, hn⟩ := hplain
      obtain ⟨hname, hrest⟩ := of_nameOf? hn
      refine .inr (.inr ⟨name, rest, hname, ?_, fun lookup => by simp only [lineOf, ht, hn]⟩)
      exact ((List.suffix_cons _ _).trans hrest).isInfix.trans hinfix
    by_cases hexport : ∃ behind name rest, nameOf? (c :: cs) = some ("export", behind) ∧
        nameOf? behind = some (name, '=' :: rest)
    · obtain ⟨behind, name, rest, hn, hn'⟩ := hexport
      obtain ⟨_, hbehind⟩ := of_nameOf? hn
      obtain ⟨hname, hrest⟩ := of_nameOf? hn'
      refine .inr (.inr ⟨name, rest, hname, ?_, fun lookup => ?_⟩)
      · exact (((List.suffix_cons _ _).trans hrest).trans hbehind).isInfix.trans hinfix
      · simp only [lineOf, ht]
        split
        · next h => cases hn.symm.trans h
        · next h => exact absurd ⟨_, _, h⟩ hplain
        · next h =>
          cases hn.symm.trans h
          simp only [hn', if_true]
    · refine .inr (.inl fun lookup => ?_)
      simp only [lineOf, ht]
      split
      · rfl
      · next h => exact absurd ⟨_, _, h⟩ hplain
      · next h =>
        split
        · next he =>
          split
          · next h' => exact absurd ⟨_, _, _, he ▸ h, h'⟩ hexport
          · rfl
        · rfl

theorem lineOf_congr {line : String} (hl : ∀ n, Refers line.toList n → lookup n = lookup' n) :
    lineOf lookup line = lineOf lookup' line := by
  obtain h | h | ⟨name, rest, _, hrest, h⟩ := lineOf_cases line
  · rw [h, h]
  · rw [h, h]
  · rw [h, h, assignmentOf_congr fun n hn => hl n (Refers.of_infix hn hrest)]

theorem of_lineOf_assignment {line name value : String}
    (h : lineOf lookup line = .assignment name value) : Environment.isName name = true := by
  obtain hb | hb | ⟨name', rest, hname, _, hb⟩ := lineOf_cases line
  · cases (hb lookup).symm.trans h
  · cases (hb lookup).symm.trans h
  · rw [hb, assignmentOf] at h
    split at h
    · cases h
      exact hname
    · split_ifs at h
      · cases h
        exact hname
      · split at h <;> cases h
        exact hname

end

/-! ## Files -/

theorem mem_linesFrom {d : Division} {held cs : List Char} {line : String}
    (h : line ∈ linesFrom d held cs) : line.toList <:+: held.reverse ++ cs := by
  induction cs generalizing d held with
  | nil =>
    rw [linesFrom] at h
    split_ifs at h
    · rw [List.mem_singleton.1 h, String.toList_ofList, List.append_nil]
    · cases h
  | cons c rest ih =>
    have hrest : ∀ {d'}, line ∈ linesFrom d' [] rest → line.toList <:+: held.reverse ++ c :: rest :=
      fun h => (ih h).trans (((List.suffix_cons c rest).trans (List.suffix_append _ _)).isInfix)
    by_cases hends : d.endsAt c = true
    · simp only [linesFrom, if_pos hends] at h
      by_cases hin : d.inLine = true
      · rw [if_pos hin] at h
        rcases List.mem_cons.1 h with rfl | h
        · rw [String.toList_ofList]
          exact (List.prefix_append _ _).isInfix
        · exact hrest h
      · rw [if_neg hin] at h
        exact hrest h
    · rw [linesFrom, if_neg hends] at h
      simpa using ih h

theorem mem_lines {text line : String} (h : line ∈ lines text) : line.toList <:+: text.toList := by
  have hmark : (withoutMark text).toList <:+ text.toList := by
    rw [withoutMark]
    split
    · next c rest hc =>
      split_ifs
      · rw [hc, String.toList_ofList]
        exact List.suffix_cons _ _
      · exact List.suffix_rfl
    · exact List.suffix_rfl
  exact (mem_linesFrom h).trans hmark.isInfix

theorem text?_applyLines {name : String} (hname : '=' ∉ name.toList) {v : String}
    (ls : List String) {e d : Environment} (h : e.text? name = some v)
    (hd : applyLines e ls = some d) : d.text? name = some v := by
  induction ls generalizing e with
  | nil =>
    cases hd
    exact h
  | cons line rest ih =>
    rw [applyLines] at hd
    cases hline : lineOf (valueIn e) line with
    | blank =>
      rw [hline] at hd
      exact ih h hd
    | assignment n value =>
      rw [hline] at hd
      obtain ⟨e', hset, hrest⟩ := Option.bind_eq_some_iff.1 hd
      have hn : '=' ∉ n.toList := Environment.not_mem_of_isName (of_lineOf_assignment hline)
      exact ih (Environment.text?_setDefault hn hname h hset) hrest
    | bad =>
      rw [hline] at hd
      cases hd
      exact h

/-- A file leaves alone what is set. -/
theorem text?_apply {name : String} (hname : '=' ∉ name.toList) {e d : Environment} {v : String}
    (h : e.text? name = some v) {text : String} (hd : apply e text = some d) :
    d.text? name = some v :=
  text?_applyLines hname (lines text) h hd

section
variable {names : List String} (hnames : ∀ m ∈ names, '=' ∉ m.toList)
include hnames

theorem without_applyLines {ls : List String}
    (hr : ∀ line ∈ ls, ∀ m ∈ names, ¬ Refers line.toList m) {e e' d d' : Environment}
    (he : e.without names = e'.without names) (hd : applyLines e ls = some d)
    (hd' : applyLines e' ls = some d') : d.without names = d'.without names := by
  induction ls generalizing e e' with
  | nil =>
    cases hd
    cases hd'
    exact he
  | cons line rest ih =>
    have hrest := fun {e e'} => @ih (fun line hl => hr line (List.mem_cons_of_mem _ hl)) e e'
    have hcongr : lineOf (valueIn e) line = lineOf (valueIn e') line := by
      refine lineOf_congr fun n hn => ?_
      rw [valueIn, valueIn, Environment.text?_congr he
        (apart_of_refers hnames (hr line (List.mem_cons_self ..)) hn)]
    rw [applyLines, hcongr] at hd
    rw [applyLines] at hd'
    cases hline : lineOf (valueIn e') line with
    | blank =>
      rw [hline] at hd hd'
      exact hrest he hd hd'
    | assignment n value =>
      rw [hline] at hd hd'
      obtain ⟨f, hset, hd⟩ := Option.bind_eq_some_iff.1 hd
      obtain ⟨f', hset', hd'⟩ := Option.bind_eq_some_iff.1 hd'
      have hn : '=' ∉ n.toList := Environment.not_mem_of_isName (of_lineOf_assignment hline)
      exact hrest (Environment.without_setDefault hnames hn he hset hset') hd hd'
    | bad =>
      rw [hline] at hd hd'
      cases hd
      cases hd'
      exact he

/-- A file that refers to none of some variables does the same to the others whether those are set
or not. -/
theorem without_apply {text : String} (hr : ∀ m ∈ names, ¬ Refers text.toList m)
    {e d d' : Environment} (hd : apply e text = some d)
    (hd' : apply (e.without names) text = some d') : d.without names = d'.without names := by
  refine without_applyLines hnames (fun line hl m hm h => ?_) (e.without_without names).symm hd hd'
  exact hr m hm (h.of_infix (mem_lines hl))

end

end EnvFile
end TaskMail
