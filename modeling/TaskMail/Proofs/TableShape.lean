import TaskMail.Proofs.Table

/-!
# TaskMail.Proofs.TableShape

The entries of a table, in their order, however it was built.

* `distinct` — the tokens of some insertions but the empty one, each where it stands first.
* `recorded` — those tokens and the values that they were inserted with last.
* `arranged` — the record in the order that a stable sort by size gives it.
* `Stable`   — entries in order of size, those of one size as they stand in a given list.

A table places a new token, or overwrites an old one where it stands. Either keeps the entries
stable over what is recorded (`Stable.place`, `Stable.overwrite`), and a list has one stable order
(`Stable.unique`), so the entries are what one stable sort makes of the record: `build_entries`.
-/

namespace TaskMail
namespace Substitutions

def distinct (pairs : List (String × String)) : List String :=
  ((pairs.map Prod.fst).filter (· ≠ "")).eraseDups

def recorded (pairs : List (String × String)) : List (String × String) :=
  (distinct pairs).map fun token => (token, (pairs.reverse.lookup token).getD "")

/-- The order by size in octets, the largest first. -/
def largerFirst (d e : String × String) : Bool :=
  e.1.utf8ByteSize ≤ d.1.utf8ByteSize

def arranged (pairs : List (String × String)) : List (String × String) :=
  (recorded pairs).mergeSort largerFirst

def ofSize (n : Nat) (entries : List (String × String)) : List (String × String) :=
  entries.filter fun e => e.1.utf8ByteSize = n

structure Stable (order entries : List (String × String)) : Prop where
  largest : entries.Pairwise fun d e => largerFirst d e
  sameSize : ∀ n, ofSize n entries = ofSize n order

/-! ## Stable orders -/

theorem mem_ofSize {n : Nat} {e : String × String} {entries : List (String × String)} :
    e ∈ ofSize n entries ↔ e ∈ entries ∧ e.1.utf8ByteSize = n := by
  simp [ofSize]

theorem ofSize_cons_self (e : String × String) (rest : List (String × String)) :
    ofSize e.1.utf8ByteSize (e :: rest) = e :: ofSize e.1.utf8ByteSize rest := by
  simp [ofSize]

theorem ofSize_cons_of_ne {n : Nat} {e : String × String} (h : e.1.utf8ByteSize ≠ n)
    (rest : List (String × String)) : ofSize n (e :: rest) = ofSize n rest := by
  simp [ofSize, h]

theorem ofSize_append (n : Nat) (a b : List (String × String)) :
    ofSize n (a ++ b) = ofSize n a ++ ofSize n b :=
  List.filter_append ..

theorem largerFirst_iff {d e : String × String} :
    largerFirst d e = true ↔ e.1.utf8ByteSize ≤ d.1.utf8ByteSize := by
  simp [largerFirst]

theorem largerFirst_trans (a b c : String × String) (hab : largerFirst a b)
    (hbc : largerFirst b c) : largerFirst a c := by
  rw [largerFirst_iff] at *
  exact Nat.le_trans hbc hab

theorem largerFirst_total (a b : String × String) : largerFirst a b || largerFirst b a := by
  rw [Bool.or_eq_true, largerFirst_iff, largerFirst_iff]
  exact Nat.le_total _ _

namespace Stable

variable {order entries : List (String × String)}

theorem mem_iff (h : Stable order entries) {e : String × String} : e ∈ entries ↔ e ∈ order := by
  have hsame := h.sameSize e.1.utf8ByteSize
  have hentries := @mem_ofSize e.1.utf8ByteSize e entries
  have horder := @mem_ofSize e.1.utf8ByteSize e order
  rw [hsame, horder] at hentries
  simpa using hentries.symm

/-- Two stable orders of a list begin with the same entry, and so do what is behind it. -/
theorem unique {entries' : List (String × String)} (h : Stable order entries)
    (h' : Stable order entries') : entries = entries' := by
  have hsame : ∀ n, ofSize n entries = ofSize n entries' := fun n =>
    (h.sameSize n).trans (h'.sameSize n).symm
  have hmem : ∀ e, e ∈ entries ↔ e ∈ entries' := fun e => h.mem_iff.trans h'.mem_iff.symm
  have hl := h.largest
  have hl' := h'.largest
  clear h h'
  induction entries generalizing entries' with
  | nil =>
    cases entries' with
    | nil => rfl
    | cons e rest => exact absurd ((hmem e).2 List.mem_cons_self) List.not_mem_nil
  | cons d rest ih =>
    cases entries' with
    | nil => exact absurd ((hmem d).1 List.mem_cons_self) List.not_mem_nil
    | cons e rest' =>
      rw [List.pairwise_cons] at hl hl'
      have hsize : d.1.utf8ByteSize = e.1.utf8ByteSize := by
        apply Nat.le_antisymm
        · rcases List.mem_cons.1 ((hmem d).1 List.mem_cons_self) with rfl | hd
          · exact Nat.le_refl _
          · exact largerFirst_iff.1 (hl'.1 d hd)
        · rcases List.mem_cons.1 ((hmem e).2 List.mem_cons_self) with rfl | he
          · exact Nat.le_refl _
          · exact largerFirst_iff.1 (hl.1 e he)
      have hfirst := hsame d.1.utf8ByteSize
      rw [ofSize_cons_self, hsize, ofSize_cons_self, List.cons.injEq] at hfirst
      obtain ⟨rfl, hfirst⟩ := hfirst
      have hrest : ∀ n, ofSize n rest = ofSize n rest' := by
        intro n
        by_cases hn : d.1.utf8ByteSize = n
        · exact hn ▸ hfirst
        · have hcons := hsame n
          rwa [ofSize_cons_of_ne hn, ofSize_cons_of_ne hn] at hcons
      have hmem' : ∀ c, c ∈ rest ↔ c ∈ rest' := by
        intro c
        have hc := @mem_ofSize c.1.utf8ByteSize c rest
        rw [hrest, mem_ofSize] at hc
        simpa using hc.symm
      rw [ih hrest hmem' hl.2 hl'.2]

theorem mergeSort (order : List (String × String)) :
    Stable order (order.mergeSort largerFirst) := by
  refine ⟨List.pairwise_mergeSort largerFirst_trans largerFirst_total order, fun n => ?_⟩
  have hequal : (ofSize n order).Pairwise fun d e => largerFirst d e := by
    refine List.pairwise_of_forall_mem_list fun d hd e he => ?_
    exact largerFirst_iff.2 (Nat.le_of_eq ((mem_ofSize.1 he).2.trans (mem_ofSize.1 hd).2.symm))
  -- The entries of one size are in order among themselves, so the sort leaves them as they stand.
  have hsub : (ofSize n order).Sublist (ofSize n (order.mergeSort largerFirst)) := by
    have hsub := (List.sublist_mergeSort largerFirst_trans largerFirst_total hequal
      List.filter_sublist).filter fun e => e.1.utf8ByteSize = n
    simpa only [ofSize, List.filter_filter, Bool.and_self] using hsub
  have hlength := ((List.mergeSort_perm order largerFirst).filter
    fun e => e.1.utf8ByteSize = n).length_eq
  exact (hsub.eq_of_length hlength.symm).symm

theorem eq_mergeSort (h : Stable order entries) : entries = order.mergeSort largerFirst :=
  h.unique (mergeSort order)

/-! ## One insertion -/

theorem ofSize_place {token : String} (value : String) (n : Nat)
    (h : entries.Pairwise fun d e => largerFirst d e) :
    ofSize n (place token value entries) = ofSize n (entries ++ [(token, value)]) := by
  induction entries with
  | nil => rfl
  | cons e rest ih =>
    rw [List.pairwise_cons] at h
    rw [Substitutions.place]
    split
    · by_cases hn : e.1.utf8ByteSize = n
      · subst hn
        rw [List.cons_append, ofSize_cons_self, ofSize_cons_self, ih h.2]
      · rw [List.cons_append, ofSize_cons_of_ne hn, ofSize_cons_of_ne hn, ih h.2]
    · next hlt =>
      by_cases hn : token.utf8ByteSize = n
      · -- Those that are shorter than the token make no difference among those of its size.
        have hshorter : ofSize n (e :: rest) = [] := by
          refine List.eq_nil_iff_forall_not_mem.2 fun c hc => ?_
          obtain ⟨hc, hsize⟩ := mem_ofSize.1 hc
          rcases List.mem_cons.1 hc with rfl | hc
          · omega
          · have := largerFirst_iff.1 (h.1 c hc)
            omega
        subst hn
        rw [ofSize_append, hshorter, ofSize_cons_self (token, value), hshorter]
        simp [ofSize]
      · have hne : (token, value).1.utf8ByteSize ≠ n := hn
        rw [ofSize_cons_of_ne hne, ofSize_append, ofSize_cons_of_ne hne]
        simp [ofSize]

theorem place (h : Stable order entries) (token value : String) :
    Stable (order ++ [(token, value)]) (place token value entries) := by
  constructor
  · have hlongest : (entries.map Prod.fst).Pairwise fun t u => u.utf8ByteSize ≤ t.utf8ByteSize :=
      List.pairwise_map.2 (h.largest.imp largerFirst_iff.1)
    exact (List.pairwise_map.1 (longestFirst_place hlongest)).imp largerFirst_iff.2
  · intro n
    rw [ofSize_place value n h.largest, ofSize_append, ofSize_append, h.sameSize]

/-- To place a token is to add it at the end and to sort all entries anew. -/
theorem place_eq_mergeSort (h : entries.Pairwise fun d e => largerFirst d e)
    (token value : String) :
    Substitutions.place token value entries =
      (entries ++ [(token, value)]).mergeSort largerFirst :=
  (Stable.place ⟨h, fun _ => rfl⟩ token value).eq_mergeSort

theorem size_overwrite (token value : String) (e : String × String) :
    (if e.1 = token then (token, value) else e).1 = e.1 := by
  split
  · next h => exact h.symm
  · rfl

theorem ofSize_overwrite (token value : String) (n : Nat) (entries : List (String × String)) :
    ofSize n (overwrite token value entries) = overwrite token value (ofSize n entries) := by
  rw [ofSize, overwrite, List.filter_map, ofSize, overwrite]
  congr 1
  refine List.filter_congr fun e _ => ?_
  rw [Function.comp_apply, size_overwrite]

theorem overwrite (h : Stable order entries) (token value : String) :
    Stable (overwrite token value order) (overwrite token value entries) := by
  constructor
  · refine List.pairwise_map.2 (h.largest.imp fun {d e} hde => ?_)
    rw [largerFirst_iff] at hde ⊢
    rwa [size_overwrite, size_overwrite]
  · intro n
    rw [ofSize_overwrite, ofSize_overwrite, h.sameSize]

end Stable

/-! ## The record -/

variable {pairs : List (String × String)}

theorem mem_distinct_iff {token : String} :
    token ∈ distinct pairs ↔ token ≠ "" ∧ ∃ value, (token, value) ∈ pairs := by
  simp [distinct, and_comm]

theorem distinct_eq_nil_iff : distinct pairs = [] ↔ ∀ e ∈ pairs, e.1 = "" := by
  rw [List.eq_nil_iff_forall_not_mem]
  simp only [mem_distinct_iff]
  constructor
  · intro h e he
    by_contra hne
    exact h e.1 ⟨hne, e.2, he⟩
  · rintro h token ⟨hne, value, hmem⟩
    exact hne (h _ hmem)

theorem eraseDups_snoc (words : List String) (word : String) :
    (words ++ [word]).eraseDups =
      if word ∈ words then words.eraseDups else words.eraseDups ++ [word] := by
  rw [List.eraseDups_append, List.removeAll]
  by_cases h : word ∈ words <;> simp [h, List.eraseDups_cons]

theorem distinct_snoc_empty (value : String) :
    distinct (pairs ++ [("", value)]) = distinct pairs := by
  simp [distinct]

theorem distinct_snoc {token : String} (hne : token ≠ "") (value : String) :
    distinct (pairs ++ [(token, value)]) =
      if token ∈ distinct pairs then distinct pairs else distinct pairs ++ [token] := by
  have hlast : [token].filter (· ≠ "") = [token] := by simp [hne]
  simp only [distinct, List.map_append, List.map_cons, List.map_nil, List.filter_append, hlast,
    eraseDups_snoc, List.mem_eraseDups]

theorem recorded_snoc_empty (value : String) :
    recorded (pairs ++ [("", value)]) = recorded pairs := by
  rw [recorded, distinct_snoc_empty]
  refine List.map_congr_left fun t ht => ?_
  rw [List.reverse_append, List.reverse_singleton, List.singleton_append, lookup_pair,
    if_neg (mem_distinct_iff.1 ht).1]

theorem recorded_snoc_known {token : String} (value : String) (h : token ∈ distinct pairs) :
    recorded (pairs ++ [(token, value)]) = overwrite token value (recorded pairs) := by
  rw [recorded, distinct_snoc (mem_distinct_iff.1 h).1, if_pos h, overwrite, recorded,
    List.map_map]
  refine List.map_congr_left fun t _ => ?_
  rw [List.reverse_append, List.reverse_singleton, List.singleton_append, lookup_pair]
  by_cases ht : t = token <;> simp [ht]

theorem recorded_snoc_new {token : String} (value : String) (hne : token ≠ "")
    (h : token ∉ distinct pairs) :
    recorded (pairs ++ [(token, value)]) = recorded pairs ++ [(token, value)] := by
  rw [recorded, distinct_snoc hne, if_neg h, List.map_append, recorded]
  congr 1
  · refine List.map_congr_left fun t ht => ?_
    have htoken : t ≠ token := fun heq => h (heq ▸ ht)
    rw [List.reverse_append, List.reverse_singleton, List.singleton_append, lookup_pair,
      if_neg htoken]
  · simp

theorem map_fst_recorded : (recorded pairs).map Prod.fst = distinct pairs := by
  rw [recorded, List.map_map]
  exact List.map_id _

/-! ## Histories -/

theorem eq_iff_entries {s t : Substitutions} : s = t ↔ s.entries = t.entries := by
  cases s
  cases t
  simp

theorem Stable.mem_tokens_iff {s : Substitutions} (h : Stable (recorded pairs) s.entries)
    {token : String} : token ∈ s.tokens ↔ token ∈ distinct pairs := by
  rw [← map_fst_recorded, tokens, List.mem_map, List.mem_map]
  simp only [h.mem_iff]

theorem stable_insert {s : Substitutions} (h : Stable (recorded pairs) s.entries)
    (token value : String) :
    Stable (recorded (pairs ++ [(token, value)])) (s.insert token value).entries := by
  by_cases hne : token = ""
  · rw [hne, insert_empty, recorded_snoc_empty]
    exact h
  by_cases hk : token ∈ s.tokens
  · rw [insert_known value hne hk, recorded_snoc_known value (h.mem_tokens_iff.1 hk)]
    exact h.overwrite token value
  · rw [insert_new value hne hk, recorded_snoc_new value hne (mt h.mem_tokens_iff.2 hk)]
    exact h.place token value

theorem stable_insertAll (pairs : List (String × String)) :
    Stable (recorded pairs) (empty.insertAll pairs).entries := by
  induction pairs using List.reverseRecOn with
  | nil => exact ⟨.nil, fun _ => rfl⟩
  | append_singleton before e ih =>
    obtain ⟨token, value⟩ := e
    rw [insertAll, List.foldl_append]
    exact stable_insert ih token value

/-- The entries are what a stable sort by size makes of the tokens in the order of their first
insertion, each with its last value. So no token is empty, none is there twice, there are as many
as have been inserted, and tables are equal when they hold the same entries in this order. -/
theorem build_entries (history : List Edit) :
    (build history).entries = arranged (insertions history) ∧
      "" ∉ (build history).tokens ∧ (build history).tokens.Nodup ∧
      (build history).size = (distinct (insertions history)).length ∧
      ((build history).isEmpty = true ↔ ∀ e ∈ insertions history, e.1 = "") ∧
      ∀ other, build other = build history ↔
        arranged (insertions other) = arranged (insertions history) := by
  have hentries : ∀ history, (build history).entries = arranged (insertions history) := by
    intro history
    rw [build_eq_insertAll]
    exact (stable_insertAll (insertions history)).eq_mergeSort
  have hordered := build_ordered history
  have hsize : (build history).size = (distinct (insertions history)).length := by
    rw [size, hentries, arranged, List.length_mergeSort, recorded, List.length_map]
  refine ⟨hentries history, hordered.nonempty, hordered.distinct, hsize, ?_, fun other => ?_⟩
  · rw [← distinct_eq_nil_iff, ← List.length_eq_zero_iff, ← hsize, isEmpty, List.isEmpty_iff, size,
      List.length_eq_zero_iff]
  · rw [← hentries, ← hentries]
    exact eq_iff_entries

/-- A restart, a token overwritten where it stands, and tokens of two and of three octets. -/
example :
    (build [.insert "zz" "0", .clear, .insert "ab" "1", .insert "é" "2", .insert "xyz" "3",
      .insert "" "4", .insert "ab" "5"]).entries = [("xyz", "3"), ("ab", "5"), ("é", "2")] := by
  decide

end Substitutions
end TaskMail
