import TaskMail.Proofs.TableShape

/-!
# TaskMail.Proofs.InsertionOrder

When the order of two insertions shows in a table.

* `overwrite_comm`, `overwrite_place` — an entry that is overwritten stays where it is.
* `place_comm_iff`  — two new tokens are placed alike in either order unless they are as long.
* `insert_comm_iff` — the same for tables, however they were built.
-/

namespace TaskMail
namespace Substitutions

variable {t u : String} (v w : String)

/-! ## Entries -/

theorem overwrite_comm (h : t ≠ u) (entries : List (String × String)) :
    overwrite u w (overwrite t v entries) = overwrite t v (overwrite u w entries) := by
  simp only [overwrite, List.map_map]
  refine List.map_congr_left fun e _ => ?_
  by_cases ht : e.1 = t
  · simp [ht, h]
  · by_cases hu : e.1 = u
    · simp [hu, h.symm]
    · simp [ht, hu]

theorem overwrite_place (h : t ≠ u) (entries : List (String × String)) :
    overwrite t v (place u w entries) = place u w (overwrite t v entries) := by
  induction entries with
  | nil => simp [place, overwrite, h.symm]
  | cons e rest ih =>
    rw [overwrite] at ih
    simp only [place, overwrite, List.map_cons, Stable.size_overwrite]
    split
    · rw [List.map_cons, ih, overwrite]
    · simp [h.symm]

theorem ofSize_pair_comm (h : t.utf8ByteSize ≠ u.utf8ByteSize) (n : Nat) :
    ofSize n [(t, v), (u, w)] = ofSize n [(u, w), (t, v)] := by
  by_cases ht : t.utf8ByteSize = n
  · have hu : u.utf8ByteSize ≠ n := fun hu => h (ht.trans hu.symm)
    simp [ofSize, ht, hu]
  · by_cases hu : u.utf8ByteSize = n <;> simp [ofSize, ht, hu]

theorem stable_place_place {entries : List (String × String)}
    (h : entries.Pairwise fun d e => largerFirst d e) :
    Stable (entries ++ [(t, v), (u, w)]) (place u w (place t v entries)) := by
  have hstable : Stable entries entries := ⟨h, fun _ => rfl⟩
  have hplaced := (hstable.place t v).place u w
  rwa [List.append_assoc] at hplaced

theorem place_comm_iff (hne : t ≠ u) {entries : List (String × String)}
    (h : entries.Pairwise fun d e => largerFirst d e) :
    place u w (place t v entries) = place t v (place u w entries) ↔
      t.utf8ByteSize ≠ u.utf8ByteSize := by
  have hfirst := stable_place_place (t := t) (u := u) v w h
  have hsecond := stable_place_place (t := u) (u := t) w v h
  constructor
  · intro heq hsize
    -- Of one size, the two stand behind all others in the order of their insertion.
    have hsame := hfirst.sameSize u.utf8ByteSize
    rw [heq, hsecond.sameSize, ofSize_append, ofSize_append] at hsame
    have hpair := List.append_cancel_left hsame
    simp only [ofSize, hsize, decide_true, List.filter_cons_of_pos, List.cons.injEq,
      Prod.mk.injEq] at hpair
    exact hne hpair.1.1.symm
  · intro hsize
    refine hfirst.unique ⟨hsecond.largest, fun n => ?_⟩
    rw [hsecond.sameSize, ofSize_append, ofSize_append, ofSize_pair_comm w v hsize.symm]

theorem place_place_perm (entries : List (String × String)) :
    (place u w (place t v entries)).Perm ((u, w) :: (t, v) :: entries) :=
  (place_perm u w _).trans ((place_perm t v entries).cons (u, w))

/-! ## Tables -/

variable {s : Substitutions}

theorem mem_tokens_insert (h : t ≠ u) : u ∈ (s.insert t v).tokens ↔ u ∈ s.tokens := by
  by_cases ht : t = ""
  · rw [ht, insert_empty]
  · rw [mem_tokens_iff, mem_tokens_iff, value?_insert ht, if_neg h.symm]

theorem insert_comm_of_known (h : t ≠ u) (ht : t ≠ "") (hu : u ≠ "") (hk : t ∈ s.tokens) :
    (s.insert t v).insert u w = (s.insert u w).insert t v := by
  have hk' : t ∈ (s.insert u w).tokens := (mem_tokens_insert w h.symm).2 hk
  have hlast := mem_tokens_insert (s := s) v h
  rw [insert_known v ht hk] at hlast
  rw [insert_known v ht hk', insert_known v ht hk]
  by_cases hm : u ∈ s.tokens
  · rw [insert_known w hu (hlast.2 hm), insert_known w hu hm, overwrite_comm v w h]
  · rw [insert_new w hu (mt hlast.1 hm), insert_new w hu hm, overwrite_place v w h]

theorem insert_comm_of_settled (h : t ≠ u)
    (hs : t = "" ∨ u = "" ∨ t ∈ s.tokens ∨ u ∈ s.tokens) :
    (s.insert t v).insert u w = (s.insert u w).insert t v := by
  by_cases ht : t = ""
  · rw [ht, insert_empty, insert_empty]
  by_cases hu : u = ""
  · rw [hu, insert_empty, insert_empty]
  rcases hs with hs | hs | hk | hk
  · exact absurd hs ht
  · exact absurd hs hu
  · exact insert_comm_of_known v w h ht hu hk
  · exact (insert_comm_of_known w v h.symm hu ht hk).symm

theorem insert_insert_new (h : t ≠ u) (ht : t ≠ "") (hu : u ≠ "") (hm : t ∉ s.tokens)
    (hm' : u ∉ s.tokens) :
    (s.insert t v).insert u w = ⟨place u w (place t v s.entries)⟩ := by
  have hlast : u ∉ (s.insert t v).tokens := mt (mem_tokens_insert v h).1 hm'
  rw [insert_new w hu hlast, insert_new v ht hm]

/-- Two insertions lead to one table in either order just if one of them leaves the order of the
entries as it is, or the tokens differ in size. The entries are the same in any case, and so is
their number. -/
theorem insert_comm_iff (history : List Edit) {t u : String} (h : t ≠ u) (v w : String) :
    let s := build history
    let first := (s.insert t v).insert u w
    let second := (s.insert u w).insert t v
    (first = second ↔
      t = "" ∨ u = "" ∨ t ∈ s.tokens ∨ u ∈ s.tokens ∨ t.utf8ByteSize ≠ u.utf8ByteSize) ∧
    first.entries.Perm second.entries ∧ first.size = second.size := by
  intro s first second
  by_cases hs : t = "" ∨ u = "" ∨ t ∈ s.tokens ∨ u ∈ s.tokens
  · have heq : first = second := insert_comm_of_settled v w h hs
    rw [heq]
    refine ⟨⟨fun _ => ?_, fun _ => rfl⟩, .refl _, rfl⟩
    rcases hs with hs | hs | hs | hs <;> simp [hs]
  · simp only [not_or] at hs
    obtain ⟨ht, hu, hm, hm'⟩ := hs
    have hfirst : first = ⟨place u w (place t v s.entries)⟩ := insert_insert_new v w h ht hu hm hm'
    have hsecond : second = ⟨place t v (place u w s.entries)⟩ :=
      insert_insert_new w v h.symm hu ht hm' hm
    have hlongest : s.entries.Pairwise fun d e => largerFirst d e :=
      (List.pairwise_map.1 (build_ordered history).longestFirst).imp largerFirst_iff.2
    have hperm : first.entries.Perm second.entries := by
      rw [hfirst, hsecond]
      exact (place_place_perm v w _).trans ((List.Perm.swap _ _ _).trans
        (place_place_perm w v _).symm)
    refine ⟨?_, hperm, hperm.length_eq⟩
    rw [hfirst, hsecond, eq_iff_entries, place_comm_iff v w h hlongest]
    simp [ht, hu, hm, hm']

/-- Two tokens of two octets each, the one of two characters and the other of one. -/
theorem insert_comm_iff_two_octets :
    let s := build [.forTask "7", .insert "z" "0"]
    let first := (s.insert "xy" "1").insert "é" "2"
    let second := (s.insert "é" "2").insert "xy" "1"
    "xy" ≠ "é" ∧ first ≠ second ∧ first.size = second.size := by
  intro s first second
  have hne : "xy" ≠ "é" := by decide
  have h := insert_comm_iff [.forTask "7", .insert "z" "0"] hne "1" "2"
  refine ⟨hne, fun heq => ?_, h.2.2⟩
  have hor := h.1.1 heq
  revert hor
  decide

end Substitutions
end TaskMail
