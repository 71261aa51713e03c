import Mathlib.Data.List.Infix
import TaskMail.Proofs.ScanLoop

/-!
# TaskMail.Proofs.Replacement

Replacing the tokens of a text, said without a table: from left to right, always the longest token
that begins what is left, and never a look at what has been put in.

* `Longest`  — the longest of some tokens that begin a text.
* `Division` — a text as tokens and as characters that no token covers.
* `Replaced` — a text and what it becomes when the tokens have some values.

The division asks which tokens there are and not for their values. `replaced_iff` says that
`apply` on a table in order is this replacement, and `apply_leftmost_longest` that it is for the
table of every history, with the values that were inserted last.
-/

namespace TaskMail

/-! ## Octets -/

namespace Utf8

theorem char_eq_of_encoded {c d : Char} {x y : Bytes}
    (h : String.utf8EncodeChar c ++ x = String.utf8EncodeChar d ++ y) : c = d := by
  have hdecode : ∀ (c : Char) (x : Bytes),
      (String.utf8EncodeChar c ++ x).toByteArray.utf8DecodeChar? 0 = some c := by
    intro c x
    rw [List.toByteArray_append]
    exact ByteArray.utf8DecodeChar?_utf8EncodeChar_append
  have hc := hdecode c x
  rw [h, hdecode d y] at hc
  cases hc
  rfl

/-- The scan compares characters; to compare octets comes to the same. -/
theorem encode_prefix_iff {t s : String} : encode t <+: encode s ↔ t.toList <+: s.toList := by
  rw [encode, encode]
  generalize t.toList = l
  generalize s.toList = m
  constructor
  · intro h
    induction l generalizing m with
    | nil => exact List.nil_prefix
    | cons c l ih =>
      obtain ⟨x, hx⟩ := h
      cases m with
      | nil => simp at hx
      | cons d m =>
        rw [List.flatMap_cons, List.flatMap_cons, List.append_assoc] at hx
        obtain rfl := char_eq_of_encoded hx
        have hrest := List.append_cancel_left hx
        exact List.cons_prefix_cons.2 ⟨rfl, ih m ⟨x, hrest⟩⟩
  · rintro ⟨x, rfl⟩
    rw [List.flatMap_append]
    exact List.prefix_append _ _

end Utf8

namespace Substitutions

/-! ## Divisions -/

structure Longest (known : String → Prop) (token : String) (text : List Char) : Prop where
  isKnown : known token
  begins : token.toList <+: text
  longest : ∀ t, known t → t.toList <+: text → t.length ≤ token.length

/-- A stretch of a text. -/
inductive Stretch where
  | token (t : String)
  /-- A character at which no token begins. -/
  | plain (c : Char)
  deriving Repr, DecidableEq

namespace Stretch

def text : Stretch → List Char
  | .token t => t.toList
  | .plain c => [c]

/-- What is put in the place of a stretch. -/
def emitted (values : String → Option String) : Stretch → List Char
  | .token t => ((values t).getD "").toList
  | .plain c => [c]

end Stretch

inductive Division (known : String → Prop) : List Char → List Stretch → Prop where
  | done : Division known [] []
  | token {t : String} {text rest : List Char} {parts : List Stretch} :
      Longest known t text → t.toList ++ rest = text → Division known rest parts →
      Division known text (.token t :: parts)
  | plain {c : Char} {rest : List Char} {parts : List Stretch} :
      (∀ t, known t → ¬ t.toList <+: c :: rest) → Division known rest parts →
      Division known (c :: rest) (.plain c :: parts)

/-- What a text becomes when each token that has a value gives way to it. -/
def Replaced (values : String → Option String) (text out : List Char) : Prop :=
  ∃ parts, Division (fun t => (values t).isSome) text parts ∧
    out = parts.flatMap (Stretch.emitted values)

theorem Longest.unique {known : String → Prop} {t u : String} {text : List Char}
    (ht : Longest known t text) (hu : Longest known u text) : t = u := by
  have hlen : t.toList.length = u.toList.length := by
    rw [String.length_toList, String.length_toList]
    exact Nat.le_antisymm (hu.longest t ht.isKnown ht.begins) (ht.longest u hu.isKnown hu.begins)
  have hpre : t.toList <+: u.toList :=
    List.prefix_of_prefix_length_le ht.begins hu.begins (Nat.le_of_eq hlen)
  exact String.toList_inj.1 (hpre.eq_of_length hlen)

theorem Longest.ne_nil {known : String → Prop} (hne : ¬ known "") {t : String} {text : List Char}
    (h : Longest known t text) : text ≠ [] := by
  rintro rfl
  have ht : t = "" := String.toList_inj.1 (List.prefix_nil.1 h.begins)
  exact hne (ht ▸ h.isKnown)

theorem Division.flatMap_text {known : String → Prop} {text : List Char} {parts : List Stretch}
    (h : Division known text parts) : parts.flatMap Stretch.text = text := by
  induction h with
  | done => rfl
  | token _ heq _ ih => rw [List.flatMap_cons, ih, Stretch.text, heq]
  | plain _ _ ih => rw [List.flatMap_cons, ih, Stretch.text, List.singleton_append]

/-- Without an empty token there is one division. -/
theorem Division.unique {known : String → Prop} (hne : ¬ known "") {text : List Char}
    {parts parts' : List Stretch} (h : Division known text parts)
    (h' : Division known text parts') : parts = parts' := by
  induction h generalizing parts' with
  | done =>
    cases h' with
    | done => rfl
    | token hl _ _ => exact absurd rfl (hl.ne_nil hne)
  | @token t text rest parts hl heq _ ih =>
    cases h' with
    | done => exact absurd rfl (hl.ne_nil hne)
    | @token u _ rest' _ hl' heq' hd' =>
      have htu : t = u := hl.unique hl'
      subst htu
      have hrest : rest = rest' := List.append_cancel_left (heq.trans heq'.symm)
      subst hrest
      rw [ih hd']
    | plain hnone _ => exact absurd hl.begins (hnone t hl.isKnown)
  | plain hnone _ ih =>
    cases h' with
    | token hl' _ _ => exact absurd hl'.begins (hnone _ hl'.isKnown)
    | plain _ hd' => rw [ih hd']

theorem Division.of_none {known : String → Prop} (h : ∀ t, ¬ known t) (text : List Char) :
    Division known text (text.map .plain) := by
  induction text with
  | nil => exact .done
  | cons c rest ih => exact .plain (fun t ht => absurd ht (h t)) ih

/-- Only the tokens that occur in a text matter for its division. -/
theorem Division.congr {known known' : String → Prop} {text : List Char} {parts : List Stretch}
    (h : Division known text parts)
    (hk : ∀ t : String, t.toList <:+: text → (known t ↔ known' t)) :
    Division known' text parts := by
  induction h with
  | done => exact .done
  | @token t text rest parts hl heq _ ih =>
    refine .token ⟨(hk t hl.begins.isInfix).1 hl.isKnown, hl.begins, fun u hu hb => ?_⟩ heq
      (ih fun u hu => hk u ?_)
    · exact hl.longest u ((hk u hb.isInfix).2 hu) hb
    · exact hu.trans (heq ▸ (List.suffix_append _ _).isInfix)
  | @plain c rest parts hnone _ ih =>
    refine .plain (fun u hu hb => hnone u ((hk u hb.isInfix).2 hu) hb) (ih fun u hu => hk u ?_)
    exact hu.trans (List.suffix_cons c rest).isInfix

theorem Division.infix_of_mem {known : String → Prop} {text : List Char} {parts : List Stretch}
    (h : Division known text parts) {t : String} (ht : .token t ∈ parts) : t.toList <:+: text := by
  rw [← h.flatMap_text]
  obtain ⟨before, after, rfl⟩ := List.append_of_mem ht
  rw [List.flatMap_append, List.flatMap_cons]
  exact ⟨_, _, List.append_assoc _ _ _⟩

theorem Replaced.unique {values : String → Option String} (hne : values "" = none)
    {text out out' : List Char} (h : Replaced values text out) (h' : Replaced values text out') :
    out = out' := by
  obtain ⟨parts, hd, rfl⟩ := h
  obtain ⟨parts', hd', rfl⟩ := h'
  rw [hd.unique (by simp [hne]) hd']

/-- Only the values of the tokens that occur in a text matter for what it becomes. -/
theorem Replaced.congr {values values' : String → Option String} {text out : List Char}
    (h : Replaced values text out)
    (hv : ∀ t : String, t.toList <:+: text → values t = values' t) :
    Replaced values' text out := by
  obtain ⟨parts, hd, rfl⟩ := h
  refine ⟨parts, hd.congr fun t ht => by rw [hv t ht], ?_⟩
  refine List.flatMap_congr fun part hpart => ?_
  cases part with
  | token t => rw [Stretch.emitted, Stretch.emitted, hv t (hd.infix_of_mem hpart)]
  | plain c => rfl

/-! ## The scan -/

/-- Of two tokens that begin a text, the one with more octets has more characters. -/
theorem length_le_of_size_le {t u : String} {text : List Char} (ht : t.toList <+: text)
    (hu : u.toList <+: text) (h : u.utf8ByteSize ≤ t.utf8ByteSize) : u.length ≤ t.length := by
  by_contra hlt
  have hpre : t.toList <+: u.toList :=
    List.prefix_of_prefix_length_le ht hu (by simp only [String.length_toList]; omega)
  -- Were `u` the longer one, what it has beyond `t` would take no octets, and so be nothing.
  obtain ⟨more, heq⟩ := hpre
  have hu' : u = t ++ String.ofList more := by
    rw [← String.toList_inj, String.toList_append, String.toList_ofList, heq]
  have hsize : (String.ofList more).utf8ByteSize = 0 := by
    rw [hu', String.utf8ByteSize_append] at h
    omega
  rw [String.utf8ByteSize_eq_zero_iff] at hsize
  rw [hu', hsize, String.append_empty] at hlt
  exact hlt (Nat.le_refl _)

/-- Everything that a step can do with a table in order. -/
theorem step_cases {s : Substitutions} (h : s.Ordered) (c : Char) (rest : List Char) :
    (∃ t v left, s.value? t = some v ∧ t.toList ++ left = c :: rest ∧
      Longest (fun t => (s.value? t).isSome) t (c :: rest) ∧
      Scan.step (Scan.tableOf s) (c :: rest) = (v.toList, left)) ∨
    ((∀ t, (s.value? t).isSome → ¬ t.toList <+: c :: rest) ∧
      Scan.step (Scan.tableOf s) (c :: rest) = ([c], rest)) := by
  rcases step_takes s (c :: rest) with
    ⟨front, ⟨t, v⟩, back, left, hentries, hfront, heq, hstep⟩ | ⟨hnone, hstep⟩
  · have he : (t, v) ∈ s.entries := hentries ▸ List.mem_append_right _ List.mem_cons_self
    have hv : s.value? t = some v := h.value?_of_mem he
    have hb : t.toList <+: c :: rest := ⟨left, heq⟩
    refine .inl ⟨t, v, left, hv, heq, ⟨by rw [hv]; rfl, hb, fun u hu hbu => ?_⟩, hstep⟩
    obtain ⟨w, hw⟩ := Option.isSome_iff_exists.1 hu
    have hmem : (u, w) ∈ front ++ (t, v) :: back := hentries ▸ mem_entries_of_value? hw
    have hs := h.longestFirst
    rw [tokens, hentries] at hs
    exact length_le_of_size_le hb hbu (size_le_of_first hs hfront hmem hbu)
  · refine .inr ⟨fun t ht => ?_, hstep⟩
    obtain ⟨v, hv⟩ := Option.isSome_iff_exists.1 ht
    exact hnone (t, v) (mem_entries_of_value? hv)

/-- The scan divides the text and emits what stands in the places of the stretches. -/
theorem run_replaces {s : Substitutions} (h : s.Ordered) (fuel : Nat) (before text : List Char)
    (hf : text.length ≤ fuel) :
    ∃ parts, Division (fun t => (s.value? t).isSome) text parts ∧
      Scan.run (Scan.tableOf s) fuel before text =
        before.reverse ++ parts.flatMap (Stretch.emitted s.value?) := by
  -- A step shortens the text, so what fuel there is then is enough for what text there is then.
  induction fuel generalizing before text with
  | zero =>
    have : text = [] := List.eq_nil_of_length_eq_zero (by omega)
    subst this
    exact ⟨[], .done, by simp [Scan.run]⟩
  | succ fuel ih =>
    cases text with
    | nil => exact ⟨[], .done, by simp [Scan.run]⟩
    | cons c rest =>
      have hlt := step_shorter h.nonempty (List.cons_ne_nil c rest)
      rw [Scan.run]
      obtain ⟨parts, hd, hrun⟩ := ih ((Scan.step (Scan.tableOf s) (c :: rest)).1.reverse ++ before)
        (Scan.step (Scan.tableOf s) (c :: rest)).2 (by omega)
      rcases step_cases h c rest with ⟨t, v, left, hv, heq, hl, hstep⟩ | ⟨hnone, hstep⟩
      · rw [hstep] at hd hrun ⊢
        refine ⟨.token t :: parts, .token hl heq hd, ?_⟩
        rw [hrun]
        simp [Stretch.emitted, hv]
      · rw [hstep] at hd hrun ⊢
        refine ⟨.plain c :: parts, .plain hnone hd, ?_⟩
        rw [hrun]
        simp [Stretch.emitted]

theorem apply_replaces {s : Substitutions} (h : s.Ordered) (text : String) :
    Replaced s.value? text.toList (s.apply text).toList := by
  rw [apply]
  split
  · next he =>
    have hnone : ∀ t, s.value? t = none := by
      intro t
      rw [value?, List.isEmpty_iff.1 he]
      rfl
    refine ⟨_, .of_none (fun t => by simp [hnone t]) text.toList, ?_⟩
    simp [List.flatMap_map, Stretch.emitted]
  · obtain ⟨parts, hd, hrun⟩ := run_replaces h text.toList.length [] text.toList (Nat.le_refl _)
    exact ⟨parts, hd, by rw [String.toList_ofList, hrun]; rfl⟩

/-- `apply` on a table in order is the replacement by its values. -/
theorem replaced_iff {s : Substitutions} (h : s.Ordered) (text out : String) :
    Replaced s.value? text.toList out.toList ↔ s.apply text = out := by
  constructor
  · intro hr
    exact String.toList_inj.1 ((apply_replaces h text).unique h.value?_empty hr)
  · rintro rfl
    exact apply_replaces h text

/-! ## Histories -/

theorem replaced_latest_iff (history : List Edit) (text out : String) :
    Replaced (latest history) text.toList out.toList ↔ (build history).apply text = out := by
  have hv : (build history).value? = latest history := funext (value?_build history)
  rw [← hv]
  exact replaced_iff (build_ordered history) text out

/-- What a history makes of a text is the replacement by the values that it inserted last. Two
histories that know the same tokens divide each text alike, so a value that has been put in is
never read; and if their values are the same too, so is what they make of it. -/
theorem apply_leftmost_longest (history : List Edit) :
    (∀ text out : String, (build history).apply text = out ↔
      Replaced (latest history) text.toList out.toList) ∧
    (∀ other, (∀ t, (latest other t).isSome = (latest history t).isSome) → ∀ text : String,
      ∃ parts : List Stretch,
        Division (fun t => (latest history t).isSome) text.toList parts ∧
        ((build history).apply text).toList = parts.flatMap (Stretch.emitted (latest history)) ∧
        ((build other).apply text).toList = parts.flatMap (Stretch.emitted (latest other))) ∧
    (∀ other, (∀ t, latest other t = latest history t) → ∀ text : String,
      (build other).apply text = (build history).apply text) := by
  refine ⟨fun text out => (replaced_latest_iff history text out).symm, ?_, ?_⟩
  · intro other hk text
    obtain ⟨parts, hd, hout⟩ := (replaced_latest_iff history text _).2 rfl
    obtain ⟨parts', hd', hout'⟩ := (replaced_latest_iff other text _).2 rfl
    have hsame : parts' = parts := by
      refine hd'.unique (by simp [latest]) (hd.congr fun t _ => ?_)
      rw [hk t]
    exact ⟨parts, hd, hout, hsame ▸ hout'⟩
  · intro other hv text
    have hsame : latest other = latest history := funext hv
    rw [← replaced_latest_iff other, hsame, replaced_latest_iff]

/-- Tokens that begin alike and stand in each other's values, inserted in two orders. -/
theorem apply_leftmost_longest_nested :
    let history : List Edit := [.insert "#A" "#AB#", .insert "#AB#" "#A"]
    let other : List Edit :=
      [.insert "#AB#" "old", .insert "" "none", .insert "#A" "#AB#", .insert "#AB#" "#A"]
    (∀ t, latest other t = latest history t) ∧
      (build other).apply "#AB##A#" = (build history).apply "#AB##A#" ∧
      (build history).apply "#AB##A#" = "#A#AB##" := by
  intro history other
  have hv : ∀ t, latest other t = latest history t := by
    intro t
    by_cases h1 : t = "#A"
    · subst h1
      decide
    · by_cases h2 : t = "#AB#"
      · subst h2
        decide
      · by_cases h3 : t = ""
        · subst h3
          decide
        · simp [latest, insertions, history, other, Edit.inserts, Edit.restarts, lookup_pair, h1,
            h2, h3]
  exact ⟨hv, (apply_leftmost_longest history).2.2 other hv "#AB##A#", by decide⟩

end Substitutions
end TaskMail
