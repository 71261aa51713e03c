import Mathlib.Data.List.Induction
import Mathlib.Data.List.Sort
import Mathlib.Data.String.Basic
import TaskMail.Json.Value

/-!
# TaskMail.Proofs.LastMembers

Which members of an object count.

* `Last`      — what the last member with a key holds, if there is one.
* `Ascending` — members in the order of their keys, each key once.

A look-up gives what the last member holds (`last?_eq_iff`), and the settled members are those that
a look-up gives, in ascending order (`ascending_settled`, `mem_settled_iff`).
-/

namespace TaskMail.Json.Members

variable {α β : Type} {members : Members α} {key : String}

inductive Last (members : Members α) (key : String) : Option α → Prop where
  | absent : (∀ m ∈ members, m.1 ≠ key) → Last members key none
  | present {before after : Members α} {v : α} :
      members = before ++ (key, v) :: after → (∀ m ∈ after, m.1 ≠ key) →
      Last members key (some v)

def Ascending (members : Members α) : Prop :=
  members.Pairwise fun m n => m.1 < n.1

/-! ## Look-ups -/

theorem last?_snoc (members : Members α) (m : String × α) (key : String) :
    last? (members ++ [m]) key = if m.1 = key then some m.2 else last? members key := by
  rw [last?, List.reverse_append, List.reverse_singleton, List.singleton_append, List.find?_cons]
  by_cases h : m.1 = key
  · rw [if_pos h, beq_iff_eq.2 h, Option.map_some]
  · rw [if_neg h, beq_eq_false_iff_ne.2 h, last?]

theorem find?_reverse_eq_none (h : ∀ m ∈ members, m.1 ≠ key) :
    members.reverse.find? (fun m => m.1 == key) = none := by
  refine List.find?_eq_none.2 fun m hm => ?_
  simpa using h m (List.mem_reverse.1 hm)

theorem last?_of_last {o : Option α} (h : Last members key o) : members.last? key = o := by
  cases h with
  | absent h => rw [last?, find?_reverse_eq_none h, Option.map_none]
  | @present before after v heq h =>
    rw [last?, heq, List.reverse_append, List.reverse_cons, List.find?_append, List.find?_append,
      find?_reverse_eq_none h]
    simp

theorem last_snoc_of_eq {m : String × α} (h : m.1 = key) :
    Last (members ++ [m]) key (some m.2) := by
  subst h
  exact .present rfl fun _ hn => absurd hn List.not_mem_nil

theorem Last.snoc_of_ne {o : Option α} (h : Last members key o) {m : String × α}
    (hm : m.1 ≠ key) : Last (members ++ [m]) key o := by
  have hlast : ∀ {front : Members α}, (∀ n ∈ front, n.1 ≠ key) →
      ∀ n ∈ front ++ [m], n.1 ≠ key := by
    intro front hfront n hn
    rcases List.mem_append.1 hn with hn | hn
    · exact hfront n hn
    · exact List.mem_singleton.1 hn ▸ hm
  cases h with
  | absent h => exact .absent (hlast h)
  | @present before after v heq h =>
    rw [heq, List.append_assoc, List.cons_append]
    exact .present rfl (hlast h)

theorem exists_last (members : Members α) (key : String) : ∃ o, Last members key o := by
  induction members using List.reverseRecOn with
  | nil => exact ⟨none, .absent fun _ hm => absurd hm List.not_mem_nil⟩
  | append_singleton before m ih =>
    by_cases hm : m.1 = key
    · exact ⟨some m.2, last_snoc_of_eq hm⟩
    · obtain ⟨o, h⟩ := ih
      exact ⟨o, h.snoc_of_ne hm⟩

theorem last?_eq_iff {o : Option α} : members.last? key = o ↔ Last members key o := by
  constructor
  · rintro rfl
    obtain ⟨o, h⟩ := exists_last members key
    rwa [last?_of_last h]
  · exact last?_of_last

theorem mem_of_last? {v : α} (h : members.last? key = some v) : (key, v) ∈ members := by
  cases last?_eq_iff.1 h with
  | present heq _ =>
    rw [heq]
    exact List.mem_append_right _ List.mem_cons_self

theorem last?_eq_some {v : α} (hmem : (key, v) ∈ members) (hv : ∀ w, (key, w) ∈ members → w = v) :
    members.last? key = some v := by
  obtain ⟨o, ho⟩ := exists_last members key
  cases ho with
  | absent hnone => exact absurd rfl (hnone _ hmem)
  | present heq hafter =>
    have hlast := last?_of_last (.present heq hafter)
    rw [hlast, hv _ (mem_of_last? hlast)]

/-! ## Settled members -/

theorem mem_insert_iff {v w : α} {name : String} (h : Ascending members) :
    (name, w) ∈ insert key v members ↔ if name = key then w = v else (name, w) ∈ members := by
  induction members with
  | nil =>
    rw [insert, List.mem_singleton, Prod.mk.injEq]
    split <;> simp [*]
  | cons m rest ih =>
    obtain ⟨hfirst, hrest⟩ := List.pairwise_cons.1 h
    rw [insert]
    split
    · next hlt =>
      -- The key is below all that are there, so none of them has it.
      have hnew : (key, w) ∉ m :: rest := by
        intro hm
        rcases List.mem_cons.1 hm with heq | hm
        · exact absurd (heq ▸ hlt) (lt_irrefl _)
        · exact absurd (lt_trans hlt (hfirst _ hm)) (lt_irrefl _)
      rw [List.mem_cons, Prod.mk.injEq]
      by_cases hn : name = key
      · subst hn
        simp [hnew]
      · simp [hn]
    · split
      · next heq =>
        have hnew : (key, w) ∉ rest := fun hm => absurd (heq ▸ hfirst _ hm) (lt_irrefl _)
        have hne : name ≠ key → (name, w) ≠ m := fun hn h => hn (heq ▸ h ▸ rfl)
        rw [List.mem_cons, Prod.mk.injEq]
        by_cases hn : name = key
        · subst hn
          simp [hnew]
        · simp [hn, hne hn]
      · next hne =>
        rw [List.mem_cons, ih hrest]
        by_cases hn : name = key
        · subst hn
          have hm : (name, w) ≠ m := fun heq => hne (heq ▸ rfl)
          simp [hm]
        · simp [hn]

theorem ascending_insert (h : Ascending members) (key : String) (v : α) :
    Ascending (insert key v members) := by
  induction members with
  | nil => exact List.pairwise_singleton _ _
  | cons m rest ih =>
    obtain ⟨hfirst, hrest⟩ := List.pairwise_cons.1 h
    rw [insert]
    split
    · next hlt =>
      refine List.pairwise_cons.2 ⟨fun n hn => ?_, h⟩
      rcases List.mem_cons.1 hn with rfl | hn
      · exact hlt
      · exact lt_trans hlt (hfirst n hn)
    · next hge =>
      split
      · next heq =>
        exact List.pairwise_cons.2 ⟨fun n hn => heq ▸ hfirst n hn, hrest⟩
      · next hne =>
        refine List.pairwise_cons.2 ⟨fun n hn => ?_, ih hrest⟩
        obtain ⟨name, w⟩ := n
        rw [mem_insert_iff hrest] at hn
        split at hn
        · next hkey => exact hkey ▸ lt_of_le_of_ne (not_lt.1 hge) (Ne.symm hne)
        · exact hfirst _ hn

theorem Ascending.unique {others : Members α}
    (h : Ascending members) (h' : Ascending others)
    (hmem : ∀ m, m ∈ members ↔ m ∈ others) : members = others := by
  have hirrefl : Std.Irrefl fun m n : String × α => m.1 < n.1 := ⟨fun m => lt_irrefl m.1⟩
  have hantisymm : Std.Antisymm fun m n : String × α => m.1 < n.1 :=
    ⟨fun _ _ hlt hgt => absurd hlt (lt_asymm hgt)⟩
  exact List.Pairwise.eq_of_mem_iff h h' hmem

theorem settled_snoc (members : Members α) (m : String × α) :
    settled (members ++ [m]) = insert m.1 m.2 (settled members) := by
  rw [settled, List.foldl_append]
  rfl

theorem ascending_settled (members : Members α) : Ascending (settled members) := by
  induction members using List.reverseRecOn with
  | nil => exact .nil
  | append_singleton before m ih =>
    rw [settled_snoc]
    exact ascending_insert ih m.1 m.2

theorem mem_settled_iff {v : α} : (key, v) ∈ settled members ↔ members.last? key = some v := by
  induction members using List.reverseRecOn with
  | nil => simp [settled, last?]
  | append_singleton before m ih =>
    rw [settled_snoc, mem_insert_iff (ascending_settled before), last?_snoc, ih]
    by_cases h : key = m.1
    · rw [if_pos h, if_pos h.symm, Option.some.injEq, eq_comm]
    · rw [if_neg h, if_neg (Ne.symm h)]

theorem settled_ne_nil (h : members ≠ []) : settled members ≠ [] := by
  obtain ⟨m, rest, rfl⟩ := List.exists_cons_of_ne_nil h
  obtain ⟨o, ho⟩ := exists_last (m :: rest) m.1
  cases ho with
  | absent hnone => exact absurd rfl (hnone m List.mem_cons_self)
  | present heq hafter =>
    exact List.ne_nil_of_mem (mem_settled_iff.2 (last?_of_last (.present heq hafter)))

/-! ## Other values at the same keys -/

theorem insert_map (f : α → β) (key : String) (v : α) (members : Members α) :
    insert key (f v) (members.map fun m => (m.1, f m.2)) =
      (insert key v members).map fun m => (m.1, f m.2) := by
  induction members with
  | nil => rfl
  | cons m rest ih =>
    rw [List.map_cons, insert, insert, ih]
    split
    · rfl
    · split <;> rfl

theorem settled_map (f : α → β) (members : Members α) :
    settled (members.map fun m => (m.1, f m.2)) =
      (settled members).map fun m => (m.1, f m.2) := by
  induction members using List.reverseRecOn with
  | nil => rfl
  | append_singleton before m ih =>
    rw [List.map_append, List.map_singleton, settled_snoc, settled_snoc, ih,
      ← insert_map]

end TaskMail.Json.Members
