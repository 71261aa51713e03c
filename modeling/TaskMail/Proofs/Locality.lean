import TaskMail.Proofs.Replacement

/-!
# TaskMail.Proofs.Locality

What a replacement does in one place, whatever stands elsewhere and whatever else the table holds.

* `Straddles` — a token that begins in one text and ends in the next.

A token that begins the end of a text together with what follows it straddles, or it is no longer
than that end and begins the end alone. So two texts that no token straddles are divided each by
itself: `Division.append` and `apply_append`. A token that a text does not mention has no part in
its division: `apply_congr` and `apply_insert_of_absent`.
-/

namespace TaskMail
namespace Substitutions

def Straddles (token : String) (x y : List Char) : Prop :=
  ∃ p q, token.toList = p ++ q ∧ p ≠ [] ∧ q ≠ [] ∧ p <:+ x ∧ q <+: y

/-- It is enough to look at the places within the token. -/
theorem straddles_iff {token : String} {x y : List Char} :
    Straddles token x y ↔ ∃ n < token.toList.length, 0 < n ∧
      token.toList.take n <:+ x ∧ token.toList.drop n <+: y := by
  constructor
  · rintro ⟨p, q, heq, hp, hq, hx, hy⟩
    have hplen := List.length_pos_iff.2 hp
    have hqlen := List.length_pos_iff.2 hq
    refine ⟨p.length, ?_, hplen, ?_, ?_⟩
    · rw [heq, List.length_append]
      omega
    · rwa [heq, List.take_left]
    · rwa [heq, List.drop_left]
  · rintro ⟨n, hn, hpos, hx, hy⟩
    refine ⟨_, _, (List.take_append_drop n _).symm, ?_, ?_, hx, hy⟩
    · rw [← List.length_pos_iff, List.length_take]
      omega
    · rw [← List.length_pos_iff, List.length_drop]
      omega

instance (token : String) (x y : List Char) : Decidable (Straddles token x y) :=
  decidable_of_iff _ straddles_iff.symm

/-! ## Texts that follow on each other -/

/-- What straddles the end of a text straddles the text. -/
theorem Straddles.of_suffix {token : String} {x rest y : List Char} (h : Straddles token rest y)
    (hrest : rest <:+ x) : Straddles token x y := by
  obtain ⟨p, q, heq, hp, hq, hx, hy⟩ := h
  exact ⟨p, q, heq, hp, hq, hx.trans hrest, hy⟩

/-- A token that begins a text with another one behind it either begins that text or straddles. -/
theorem begins_or_straddles {token : String} {x y : List Char} (hx : x ≠ [])
    (h : token.toList <+: x ++ y) : token.toList <+: x ∨ Straddles token x y := by
  rcases Nat.le_total token.toList.length x.length with hle | hle
  · exact .inl (List.prefix_of_prefix_length_le h (List.prefix_append x y) hle)
  · obtain ⟨q, hq⟩ := List.prefix_of_prefix_length_le (List.prefix_append x y) h hle
    by_cases hnil : q = []
    · rw [hnil, List.append_nil] at hq
      exact .inl (hq ▸ List.prefix_rfl)
    · rw [← hq, List.prefix_append_right_inj] at h
      exact .inr ⟨x, q, hq.symm, hx, hnil, List.suffix_rfl, h⟩

/-- The longest token is still the longest one: no longer one gets the better of it. -/
theorem Longest.append {known : String → Prop} {t : String} {x y : List Char} (hx : x ≠ [])
    (h : Longest known t x) (hy : ∀ u, known u → ¬ Straddles u x y) :
    Longest known t (x ++ y) := by
  refine ⟨h.isKnown, h.begins.trans (List.prefix_append x y), fun u hu hb => ?_⟩
  rcases begins_or_straddles hx hb with hb | hs
  · exact h.longest u hu hb
  · exact absurd hs (hy u hu)

theorem Division.append {known : String → Prop} (hne : ¬ known "") {x y : List Char}
    {parts parts' : List Stretch} (h : Division known x parts) (h' : Division known y parts')
    (hy : ∀ t, known t → ¬ Straddles t x y) : Division known (x ++ y) (parts ++ parts') := by
  -- What is left of the first text is an end of it, so nothing straddles that either.
  induction h with
  | done => exact h'
  | @token t text rest parts hl heq _ ih =>
    have hrest : ∀ u, known u → ¬ Straddles u rest y := fun u hu hs =>
      hy u hu (hs.of_suffix ⟨t.toList, heq⟩)
    have hsplit : t.toList ++ (rest ++ y) = text ++ y := by rw [← List.append_assoc, heq]
    exact .token (hl.append (hl.ne_nil hne) hy) hsplit (ih hrest)
  | @plain c rest parts hnone _ ih =>
    have hrest : ∀ t, known t → ¬ Straddles t rest y := fun t ht hs =>
      hy t ht (hs.of_suffix (List.suffix_cons c rest))
    refine .plain (fun t ht hb => ?_) (ih hrest)
    rcases begins_or_straddles (List.cons_ne_nil c rest) hb with hb | hs
    · exact hnone t ht hb
    · exact hy t ht hs

theorem Replaced.append {values : String → Option String} (hne : values "" = none)
    {x y out out' : List Char} (h : Replaced values x out) (h' : Replaced values y out')
    (hy : ∀ t, (values t).isSome → ¬ Straddles t x y) :
    Replaced values (x ++ y) (out ++ out') := by
  obtain ⟨parts, hd, rfl⟩ := h
  obtain ⟨parts', hd', rfl⟩ := h'
  exact ⟨parts ++ parts', hd.append (by simp [hne]) hd' hy, List.flatMap_append.symm⟩

/-- Where no token of a table begins in one text and ends in the next, the two together become
what each becomes by itself. -/
theorem apply_append (history : List Edit) (x y : String)
    (h : ∀ t ∈ (build history).tokens, ¬ Straddles t x.toList y.toList) :
    (build history).apply (x ++ y) = (build history).apply x ++ (build history).apply y := by
  have hordered := build_ordered history
  have hy : ∀ t, ((build history).value? t).isSome → ¬ Straddles t x.toList y.toList :=
    fun t ht => h t (mem_tokens_iff.2 (Option.isSome_iff_exists.1 ht))
  refine (replaced_iff hordered (x ++ y) _).1 ?_
  rw [String.toList_append, String.toList_append]
  exact (apply_replaces hordered x).append hordered.value?_empty (apply_replaces hordered y) hy

/-- Tokens within tokens, one of which begins where the first text ends; and the same texts cut
where it is straddled, which then become something else. -/
theorem apply_append_nested :
    let history : List Edit := [.insert "ab" "1", .insert "abc" "ab", .insert "bcb" "3"]
    (∀ t ∈ (build history).tokens, ¬ Straddles t "xabc".toList "abca".toList) ∧
      (build history).apply ("xabc" ++ "abca") =
        (build history).apply "xabc" ++ (build history).apply "abca" ∧
      (build history).apply "xabcabca" ≠
        (build history).apply "xab" ++ (build history).apply "cabca" := by
  intro history
  have h : ∀ t ∈ (build history).tokens, ¬ Straddles t "xabc".toList "abca".toList := by decide
  exact ⟨h, apply_append history "xabc" "abca" h, by decide⟩

/-! ## Tokens that a text does not mention -/

/-- Tables that give the same values to the tokens in a text make the same of it. -/
theorem apply_congr {s s' : Substitutions} (h : s.Ordered) (h' : s'.Ordered) {text : String}
    (hv : ∀ t : String, t.toList <:+: text.toList → s.value? t = s'.value? t) :
    s.apply text = s'.apply text :=
  ((replaced_iff h' text _).1 ((apply_replaces h text).congr hv)).symm

/-- A text that does not mention a token becomes the same whether the token is inserted or not. -/
theorem apply_insert_of_absent (history : List Edit) (text token value : String)
    (h : ¬ token.toList <:+: text.toList) :
    ((build history).insert token value).apply text = (build history).apply text := by
  have hordered := build_ordered history
  have hne : token ≠ "" := by
    rintro rfl
    exact h List.nil_infix
  refine apply_congr (hordered.insert token value) hordered fun t ht => ?_
  have htoken : t ≠ token := fun heq => h (heq ▸ ht)
  rw [value?_insert hne, if_neg htoken]

/-- A token with a token of the table in front of it, and one that is in the table already. -/
theorem apply_insert_of_absent_nested :
    let history : List Edit := [.insert "#A" "1", .insert "#AB#" "2"]
    let text := "#AB #A#AB"
    ¬ "#A#A#".toList <:+: text.toList ∧ ¬ "#AB#".toList <:+: text.toList ∧
      ((build history).insert "#A#A#" "#A").apply text = (build history).apply text ∧
      ((build history).insert "#AB#" "#A").apply text = (build history).apply text := by
  intro history text
  have hnew : ¬ "#A#A#".toList <:+: text.toList := by decide
  have hknown : ¬ "#AB#".toList <:+: text.toList := by decide
  exact ⟨hnew, hknown, apply_insert_of_absent history text _ _ hnew,
    apply_insert_of_absent history text _ _ hknown⟩

end Substitutions
end TaskMail
