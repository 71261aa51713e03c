import Mathlib.Data.List.Induction
import TaskMail.Substitutions

/-!
# TaskMail.Proofs.Table

What a table of tokens holds, however it was built.

* `build`      — the table behind a history of edits.
* `insertions` — what a history has inserted since the table was last begun anew.
* `latest`     — the value that a token was inserted with last.
* `Ordered`    — the invariant of a table: no empty token, no token twice, the longest first.

`build_ordered` is the invariant for every history, and `value?_build` says that the table gives
to each token the value of its last insertion.
-/

namespace TaskMail
namespace Substitutions

def tokens (s : Substitutions) : List String :=
  s.entries.map Prod.fst

def value? (s : Substitutions) (token : String) : Option String :=
  s.entries.lookup token

/-- The order is by size in octets. -/
structure Ordered (s : Substitutions) : Prop where
  nonempty : "" ∉ s.tokens
  distinct : s.tokens.Nodup
  longestFirst : s.tokens.Pairwise fun t u => u.utf8ByteSize ≤ t.utf8ByteSize

theorem lookup_pair (t u value : String) (rest : List (String × String)) :
    List.lookup t ((u, value) :: rest) = if t = u then some value else rest.lookup t := by
  by_cases h : t = u
  · simp [h]
  · simp [List.lookup_cons, h, beq_eq_false_iff_ne.2 h]

theorem mem_tokens_iff {s : Substitutions} {token : String} :
    token ∈ s.tokens ↔ ∃ value, s.value? token = some value := by
  rw [← Option.isSome_iff_exists, value?, List.lookup_isSome_iff]
  simp [tokens]

theorem mem_entries_of_value? {s : Substitutions} {token value : String}
    (h : s.value? token = some value) : (token, value) ∈ s.entries := by
  obtain ⟨before, after, heq, _⟩ := List.lookup_eq_some_iff.1 h
  rw [heq]
  exact List.mem_append_right _ List.mem_cons_self

theorem Ordered.value?_of_mem {s : Substitutions} (h : s.Ordered) {token value : String}
    (hm : (token, value) ∈ s.entries) : s.value? token = some value := by
  obtain ⟨before, after, heq⟩ := List.append_of_mem hm
  have hd := h.distinct
  rw [tokens, heq, List.map_append, List.map_cons, List.nodup_append] at hd
  refine List.lookup_eq_some_iff.2 ⟨before, after, heq, fun e he => ?_⟩
  have hne : e.1 ≠ token := hd.2.2 e.1 (List.mem_map_of_mem he) token List.mem_cons_self
  exact bne_iff_ne.2 hne.symm

/-! ## One insertion -/

theorem contains_iff {s : Substitutions} {token : String} :
    s.contains token = true ↔ token ∈ s.tokens := by
  simp [contains, tokens, List.any_eq_true]

theorem map_fst_overwrite (token value : String) (entries : List (String × String)) :
    (overwrite token value entries).map Prod.fst = entries.map Prod.fst := by
  rw [overwrite, List.map_map]
  refine List.map_congr_left fun e _ => ?_
  by_cases h : e.1 = token <;> simp [h]

theorem lookup_overwrite (token value t : String) (entries : List (String × String)) :
    (overwrite token value entries).lookup t =
      if t = token then (entries.lookup t).map fun _ => value else entries.lookup t := by
  induction entries with
  | nil => simp [overwrite]
  | cons e rest ih =>
    obtain ⟨u, w⟩ := e
    rw [overwrite] at ih ⊢
    by_cases hu : u = token
    · subst hu
      by_cases ht : t = u
      · simp [ht]
      · simpa [lookup_pair, ht] using ih
    · by_cases ht : t = u
      · simp [hu, ht]
      · simpa [lookup_pair, hu, ht] using ih

theorem place_perm (token value : String) (entries : List (String × String)) :
    (place token value entries).Perm ((token, value) :: entries) := by
  induction entries with
  | nil => exact .refl _
  | cons e rest ih =>
    rw [place]
    split
    · exact (ih.cons e).trans (.swap _ _ _)
    · exact .refl _

/-- A token that the table does not have is placed in front of those that are shorter. -/
theorem longestFirst_place {token value : String} {entries : List (String × String)}
    (h : (entries.map Prod.fst).Pairwise fun t u => u.utf8ByteSize ≤ t.utf8ByteSize) :
    ((place token value entries).map Prod.fst).Pairwise
      fun t u => u.utf8ByteSize ≤ t.utf8ByteSize := by
  induction entries with
  | nil => simp [place]
  | cons e rest ih =>
    rw [List.map_cons, List.pairwise_cons] at h
    rw [place]
    split
    · next hle =>
      rw [List.map_cons, List.pairwise_cons]
      refine ⟨fun t ht => ?_, ih h.2⟩
      rw [((place_perm token value rest).map Prod.fst).mem_iff, List.map_cons, List.mem_cons] at ht
      rcases ht with rfl | ht
      · exact hle
      · exact h.1 t ht
    · next hlt =>
      simp only [List.map_cons, List.pairwise_cons, List.mem_cons]
      refine ⟨fun t ht => ?_, h⟩
      rcases ht with rfl | ht
      · omega
      · have := h.1 t ht
        omega

theorem lookup_place {token : String} (value t : String) {entries : List (String × String)}
    (h : token ∉ entries.map Prod.fst) :
    (place token value entries).lookup t =
      if t = token then some value else entries.lookup t := by
  induction entries with
  | nil => simp [place]
  | cons e rest ih =>
    obtain ⟨u, w⟩ := e
    rw [List.map_cons, List.mem_cons, not_or] at h
    rw [place]
    split
    · by_cases ht : t = u
      · have hne : u ≠ token := fun hu => h.1 hu.symm
        simp [ht, hne]
      · simpa [lookup_pair, ht] using ih h.2
    · rw [lookup_pair]

theorem insert_empty (s : Substitutions) (value : String) : s.insert "" value = s := by
  simp [insert]

theorem insert_known {s : Substitutions} {token : String} (value : String) (hne : token ≠ "")
    (h : token ∈ s.tokens) : s.insert token value = ⟨overwrite token value s.entries⟩ := by
  rw [insert, if_neg hne, if_pos (contains_iff.2 h)]

theorem insert_new {s : Substitutions} {token : String} (value : String) (hne : token ≠ "")
    (h : token ∉ s.tokens) : s.insert token value = ⟨place token value s.entries⟩ := by
  rw [insert, if_neg hne, if_neg (by rwa [contains_iff])]

theorem value?_insert {token : String} (hne : token ≠ "") (s : Substitutions) (value t : String) :
    (s.insert token value).value? t = if t = token then some value else s.value? t := by
  by_cases h : token ∈ s.tokens
  · rw [insert_known value hne h, value?, lookup_overwrite]
    split
    · next ht =>
      obtain ⟨old, hold⟩ := mem_tokens_iff.1 h
      rw [ht, ← value?, hold, Option.map_some]
    · rfl
  · rw [insert_new value hne h, value?, lookup_place value t h, value?]

theorem Ordered.insert {s : Substitutions} (h : s.Ordered) (token value : String) :
    (s.insert token value).Ordered := by
  by_cases hne : token = ""
  · rw [hne, insert_empty]
    exact h
  by_cases hk : token ∈ s.tokens
  · have same : (s.insert token value).tokens = s.tokens := by
      rw [insert_known value hne hk]
      exact map_fst_overwrite token value s.entries
    exact ⟨same ▸ h.nonempty, same ▸ h.distinct, same ▸ h.longestFirst⟩
  · rw [insert_new value hne hk]
    have perm : (place token value s.entries |>.map Prod.fst).Perm (token :: s.tokens) :=
      (place_perm token value s.entries).map Prod.fst
    refine ⟨?_, ?_, longestFirst_place h.longestFirst⟩
    · rw [tokens, perm.mem_iff, List.mem_cons, not_or]
      exact ⟨Ne.symm hne, h.nonempty⟩
    · rw [tokens, perm.nodup_iff, List.nodup_cons]
      exact ⟨hk, h.distinct⟩

/-! ## Histories -/

/-- The table behind a history, which begins with the empty one. -/
def build (history : List Edit) : Substitutions :=
  history.foldl edit empty

/-- Whether an edit begins the table anew. -/
def Edit.restarts : Edit → Bool
  | .clear | .forTask _ => true
  | .insert _ _ | .metadata _ => false

/-- The tokens that an edit inserts, in their order, and their values. -/
def Edit.inserts : Edit → List (String × String)
  | .clear => []
  | .forTask taskId => [(idToken, taskId)]
  | .insert token value => [(token, value)]
  | .metadata m =>
    [(nameToken, m.name), (startTimeToken, m.startTime), (endTimeToken, m.endTime)]

/-- What a history has inserted since the table was last begun anew, in its order. -/
def insertions (history : List Edit) : List (String × String) :=
  history.foldl (fun done e => if e.restarts then e.inserts else done ++ e.inserts) []

/-- The value that a token was inserted with last. The empty token is never inserted. -/
def latest (history : List Edit) (token : String) : Option String :=
  if token = "" then none else (insertions history).reverse.lookup token

def insertAll (s : Substitutions) (pairs : List (String × String)) : Substitutions :=
  pairs.foldl (fun s e => s.insert e.1 e.2) s

theorem edit_eq (s : Substitutions) (e : Edit) :
    s.edit e = insertAll (if e.restarts then empty else s) e.inserts := by
  cases e <;> rfl

theorem build_eq_insertAll (history : List Edit) :
    build history = insertAll empty (insertions history) := by
  -- A restart forgets what is in front of it, so the induction takes the latest edit off.
  induction history using List.reverseRecOn with
  | nil => rfl
  | append_singleton before e ih =>
    have hb : build (before ++ [e]) = (build before).edit e := by
      rw [build, List.foldl_append]
      rfl
    have hi : insertions (before ++ [e]) =
        if e.restarts then e.inserts else insertions before ++ e.inserts := by
      rw [insertions, List.foldl_append]
      rfl
    rw [hb, hi, edit_eq, ih]
    by_cases hr : e.restarts = true
    · rw [if_pos hr, if_pos hr]
    · rw [if_neg hr, if_neg hr, insertAll, insertAll, insertAll, List.foldl_append]

theorem Ordered.insertAll {s : Substitutions} (h : s.Ordered) (pairs : List (String × String)) :
    (s.insertAll pairs).Ordered := by
  induction pairs generalizing s with
  | nil => exact h
  | cons e rest ih => exact ih (h.insert e.1 e.2)

theorem value?_insertAll {t : String} (ht : t ≠ "") (s : Substitutions)
    (pairs : List (String × String)) :
    (s.insertAll pairs).value? t = (pairs.reverse.lookup t).or (s.value? t) := by
  induction pairs generalizing s with
  | nil => rfl
  | cons e rest ih =>
    obtain ⟨token, value⟩ := e
    have step : (s.insertAll ((token, value) :: rest)).value? t =
        (rest.reverse.lookup t).or ((s.insert token value).value? t) := ih _
    rw [step, List.reverse_cons, List.lookup_append, Option.or_assoc]
    congr 1
    by_cases hne : token = ""
    · subst hne
      simp [insert_empty, ht]
    · rw [value?_insert hne, List.lookup_singleton]
      by_cases h : t = token <;> simp [h]

theorem empty_ordered : empty.Ordered :=
  ⟨by simp [tokens, empty], by simp [tokens, empty], by simp [tokens, empty]⟩

/-- The invariant, for every history. -/
theorem build_ordered (history : List Edit) : (build history).Ordered := by
  rw [build_eq_insertAll]
  exact empty_ordered.insertAll _

theorem Ordered.value?_empty {s : Substitutions} (h : s.Ordered) : s.value? "" = none := by
  cases hv : s.value? "" with
  | none => rfl
  | some value => exact absurd (mem_tokens_iff.2 ⟨value, hv⟩) h.nonempty

/-- A table gives to each token the value of its last insertion. -/
theorem value?_build (history : List Edit) (token : String) :
    (build history).value? token = latest history token := by
  by_cases h : token = ""
  · rw [h, (build_ordered history).value?_empty]
    rfl
  · rw [build_eq_insertAll, value?_insertAll h, latest, if_neg h]
    exact Option.or_none

end Substitutions
end TaskMail
