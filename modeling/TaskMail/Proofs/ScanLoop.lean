import Mathlib.Data.List.Infix
import TaskMail.Proofs.Table

/-!
# TaskMail.Proofs.ScanLoop

The scan as a loop that only the end of its text stops.

* `Stuck`     — a text that a step leaves as it is, since it takes the empty token.
* `Unmatched` — a text that no token begins but the empty one.
* `Cursor`    — what a scan has emitted and what it has left to read.
* `Rounds`    — the loop from one cursor to another, with the number of its rounds.
* `Endless`   — a loop that makes any number of rounds.

Whatever the table, a step takes the first token that begins the text, or one character
(`step_takes`), and leaves less than before unless it is stuck (`step_shorter_or_stuck`). So a loop
comes to the end of its text or gets stuck (`exists_rounds`), and where it is stuck it stays
(`rounds_iff_of_stuck`). A table with a history has no empty token to be stuck at: its loop ends,
and with what `apply` makes of the text (`apply_ends`).
-/

namespace TaskMail
namespace Substitutions

/-! ## One step -/

theorem isPrefixOf?_eq_none_iff {token text : List Char} :
    token.isPrefixOf? text = none ↔ ¬ token <+: text := by
  rw [Option.eq_none_iff_forall_ne_some]
  simp only [ne_eq, List.isPrefixOf?_eq_some_iff_append_eq]
  exact not_exists.symm

theorem hit?_eq_findSome? (entries : List (String × String)) (text : List Char) :
    Scan.hit? (Scan.tableOf ⟨entries⟩) text = entries.findSome? fun e =>
      (e.1.toList.isPrefixOf? text).map fun rest => (e.2.toList, rest) := by
  induction entries with
  | nil => rfl
  | cons e others ih =>
    rw [List.findSome?_cons, ← ih, Scan.tableOf, List.map_cons, Scan.hit?]
    cases e.1.toList.isPrefixOf? text <;> rfl

theorem hit?_eq_none_iff {entries : List (String × String)} {text : List Char} :
    Scan.hit? (Scan.tableOf ⟨entries⟩) text = none ↔ ∀ e ∈ entries, ¬ e.1.toList <+: text := by
  simp only [hit?_eq_findSome?, List.findSome?_eq_none_iff, Option.map_eq_none_iff,
    isPrefixOf?_eq_none_iff]

/-- A hit is the first entry whose token begins the text. -/
theorem hit?_eq_some_iff {entries : List (String × String)} {text value rest : List Char} :
    Scan.hit? (Scan.tableOf ⟨entries⟩) text = some (value, rest) ↔
      ∃ front e back, entries = front ++ e :: back ∧ (∀ f ∈ front, ¬ f.1.toList <+: text) ∧
        value = e.2.toList ∧ e.1.toList ++ rest = text := by
  rw [hit?_eq_findSome?, List.findSome?_eq_some_iff]
  simp only [Option.map_eq_none_iff, isPrefixOf?_eq_none_iff, Option.map_eq_some_iff,
    List.isPrefixOf?_eq_some_iff_append_eq, Prod.mk.injEq]
  constructor
  · rintro ⟨front, e, back, rfl, ⟨_, heq, rfl, rfl⟩, hfront⟩
    exact ⟨front, e, back, rfl, hfront, rfl, heq⟩
  · rintro ⟨front, e, back, rfl, hfront, rfl, heq⟩
    exact ⟨front, e, back, rfl, ⟨rest, heq, rfl, rfl⟩, hfront⟩

variable {s : Substitutions} {text : List Char}

/-- Everything that a step can do, whatever the table. -/
theorem step_takes (s : Substitutions) (text : List Char) :
    (∃ front e back rest, s.entries = front ++ e :: back ∧
      (∀ f ∈ front, ¬ f.1.toList <+: text) ∧ e.1.toList ++ rest = text ∧
      Scan.step (Scan.tableOf s) text = (e.2.toList, rest)) ∨
    ((∀ e ∈ s.entries, ¬ e.1.toList <+: text) ∧
      Scan.step (Scan.tableOf s) text = (text.take 1, text.drop 1)) := by
  cases hit : Scan.hit? (Scan.tableOf s) text with
  | none => exact .inr ⟨hit?_eq_none_iff.1 hit, by rw [Scan.step, hit]⟩
  | some found =>
    obtain ⟨value, rest⟩ := found
    obtain ⟨front, e, back, hentries, hfront, rfl, heq⟩ := hit?_eq_some_iff.1 hit
    exact .inl ⟨front, e, back, rest, hentries, hfront, heq, by rw [Scan.step, hit]⟩

/-- Those in front of the first token that begins a text do not begin it, and those behind it are
no larger. -/
theorem size_le_of_first {front back : List (String × String)} {e f : String × String}
    (hs : ((front ++ e :: back).map Prod.fst).Pairwise fun t u => u.utf8ByteSize ≤ t.utf8ByteSize)
    (hfront : ∀ f ∈ front, ¬ f.1.toList <+: text) (hf : f ∈ front ++ e :: back)
    (hb : f.1.toList <+: text) : f.1.utf8ByteSize ≤ e.1.utf8ByteSize := by
  rcases List.mem_append.1 hf with hf | hf
  · exact absurd hb (hfront f hf)
  · rcases List.mem_cons.1 hf with rfl | hf
    · exact Nat.le_refl _
    · rw [List.map_append, List.map_cons, List.pairwise_append, List.pairwise_cons] at hs
      exact hs.2.1.1 f.1 (List.mem_map_of_mem hf)

theorem step_suffix (s : Substitutions) (text : List Char) :
    (Scan.step (Scan.tableOf s) text).2 <:+ text := by
  rcases step_takes s text with ⟨_, e, _, rest, _, _, heq, hstep⟩ | ⟨_, hstep⟩
  · rw [hstep]
    exact ⟨e.1.toList, heq⟩
  · rw [hstep]
    exact List.drop_suffix 1 text

/-! ## The empty token -/

/-- Of the tokens that begin a text the empty one stands first, and there is something to read. -/
def Stuck (s : Substitutions) (text : List Char) : Prop :=
  text ≠ [] ∧ ∃ front value back, s.entries = front ++ ("", value) :: back ∧
    ∀ e ∈ front, ¬ e.1.toList <+: text

/-- No token begins a text but the empty one, and there is something to read. -/
def Unmatched (s : Substitutions) (text : List Char) : Prop :=
  text ≠ [] ∧ ∀ t ∈ s.tokens, t.toList <+: text → t = ""

theorem step_shorter_or_stuck (s : Substitutions) (h : text ≠ []) :
    (Scan.step (Scan.tableOf s) text).2.length < text.length ∨ Stuck s text := by
  rcases step_takes s text with ⟨front, e, back, rest, hentries, hfront, heq, hstep⟩ | ⟨_, hstep⟩
  · obtain ⟨token, value⟩ := e
    by_cases hne : token = ""
    · subst hne
      exact .inr ⟨h, front, value, back, hentries, hfront⟩
    · left
      have htoken : 0 < token.toList.length :=
        List.length_pos_iff.2 fun h0 => hne (String.toList_eq_nil_iff.1 h0)
      rw [hstep, ← heq, List.length_append]
      exact Nat.lt_add_of_pos_left htoken
  · left
    have hpos := List.length_pos_iff.2 h
    rw [hstep, List.length_drop]
    omega

theorem step_of_stuck (h : Stuck s text) :
    ∃ value, ("", value) ∈ s.entries ∧
      Scan.step (Scan.tableOf s) text = (value.toList, text) := by
  obtain ⟨_, front, value, back, heq, hfront⟩ := h
  have hit : Scan.hit? (Scan.tableOf s) text = some (value.toList, text) :=
    hit?_eq_some_iff.2 ⟨front, ("", value), back, heq, hfront, rfl, rfl⟩
  refine ⟨value, ?_, by rw [Scan.step, hit]⟩
  rw [heq]
  exact List.mem_append_right _ List.mem_cons_self

theorem Stuck.empty_mem (h : Stuck s text) : "" ∈ s.tokens := by
  obtain ⟨value, hmem, _⟩ := step_of_stuck h
  exact List.mem_map_of_mem hmem

/-- A step leaves less than it has found: no token is empty. -/
theorem step_shorter (hne : "" ∉ s.tokens) (h : text ≠ []) :
    (Scan.step (Scan.tableOf s) text).2.length < text.length :=
  (step_shorter_or_stuck s h).resolve_right fun hs => hne hs.empty_mem

theorem Unmatched.stuck (h : Unmatched s text) (hempty : "" ∈ s.tokens) : Stuck s text := by
  obtain ⟨value, hvalue⟩ := mem_tokens_iff.1 hempty
  obtain ⟨front, back, heq, hfront⟩ := List.lookup_eq_some_iff.1 hvalue
  refine ⟨h.1, front, value, back, heq, fun e he hb => ?_⟩
  have hmem : e ∈ s.entries := heq ▸ List.mem_append_left _ he
  exact bne_iff_ne.1 (hfront e he) (h.2 e.1 (List.mem_map_of_mem hmem) hb).symm

/-- With the longest token first there is none behind the empty one. -/
theorem Stuck.unmatched (hs : s.tokens.Pairwise fun t u => u.utf8ByteSize ≤ t.utf8ByteSize)
    (h : Stuck s text) : Unmatched s text := by
  obtain ⟨hne, front, value, back, heq, hfront⟩ := h
  refine ⟨hne, fun t ht hb => ?_⟩
  rw [tokens, heq] at hs ht
  obtain ⟨f, hf, rfl⟩ := List.mem_map.1 ht
  have hsize := size_le_of_first hs hfront hf hb
  exact String.utf8ByteSize_eq_zero_iff.1 (Nat.le_zero.1 hsize)

/-! ## Rounds of the loop -/

namespace Scan

/-- What has been emitted, in its order, and what is left to be read. -/
structure Cursor where
  emitted : List Char
  rest : List Char
  deriving Repr, DecidableEq

namespace Cursor

def start (text : String) : Cursor :=
  ⟨[], text.toList⟩

def advance (table : Table) (p : Cursor) : Cursor :=
  ⟨p.emitted ++ (step table p.rest).1, (step table p.rest).2⟩

end Cursor

/-- The loop goes on as long as there is something to read. -/
inductive Rounds (table : Table) : Nat → Cursor → Cursor → Prop where
  | refl {p : Cursor} : Rounds table 0 p p
  | cons {n : Nat} {p q : Cursor} :
      p.rest ≠ [] → Rounds table n (p.advance table) q → Rounds table (n + 1) p q

def Endless (table : Table) (p : Cursor) : Prop :=
  ∀ n, ∃ q, Rounds table n p q

variable {table : Table} {p q r : Cursor}

theorem rounds_zero_iff : Rounds table 0 p q ↔ q = p := by
  constructor
  · intro h
    cases h
    rfl
  · rintro rfl
    exact .refl

theorem rounds_succ_iff {n : Nat} :
    Rounds table (n + 1) p q ↔ p.rest ≠ [] ∧ Rounds table n (p.advance table) q := by
  constructor
  · intro h
    cases h with
    | cons hne h => exact ⟨hne, h⟩
  · rintro ⟨hne, h⟩
    exact .cons hne h

theorem rounds_add_iff {m n : Nat} :
    Rounds table (m + n) p r ↔ ∃ q, Rounds table m p q ∧ Rounds table n q r := by
  induction m generalizing p with
  | zero => simp [rounds_zero_iff]
  | succ m ih =>
    rw [Nat.add_right_comm, rounds_succ_iff, ih]
    simp only [rounds_succ_iff, and_assoc, exists_and_left]

/-- Behind the end of the text there are no rounds. -/
theorem Rounds.le_of_end {m n : Nat} (h : Rounds table n p q) (hend : q.rest = [])
    (h' : Rounds table m p r) : m ≤ n := by
  induction h generalizing m with
  | refl =>
    cases h' with
    | refl => exact Nat.le_refl _
    | cons hne _ => exact absurd hend hne
  | cons _ _ ih =>
    cases h' with
    | refl => exact Nat.zero_le _
    | cons _ h' => exact Nat.succ_le_succ (ih hend h')

theorem rounds_iff_of_step_eq {value rest : List Char} (hrest : rest ≠ [])
    (hstep : step table rest = (value, rest)) (n : Nat) (emitted : List Char) :
    Rounds table n ⟨emitted, rest⟩ q ↔
      q = ⟨emitted ++ (List.replicate n value).flatten, rest⟩ := by
  induction n generalizing emitted with
  | zero => simp [rounds_zero_iff]
  | succ n ih =>
    rw [rounds_succ_iff, Cursor.advance, hstep, ih, List.replicate_succ, List.flatten_cons,
      List.append_assoc]
    exact and_iff_right hrest

/-- Rounds emit what the bounded scan emits for as many of its steps. -/
theorem Rounds.run_eq {n : Nat} (h : Rounds table n p q) (fuel : Nat) :
    run table (n + fuel) p.emitted.reverse p.rest = run table fuel q.emitted.reverse q.rest := by
  induction h with
  | refl => rw [Nat.zero_add]
  | @cons n p q hne _ ih =>
    obtain ⟨c, rest, hrest⟩ := List.exists_cons_of_ne_nil hne
    rw [Nat.add_right_comm, ← ih, hrest, run, Cursor.advance, List.reverse_append, hrest]

theorem Rounds.run_of_end {n fuel : Nat} (h : Rounds table n p q) (hend : q.rest = [])
    (hfuel : n ≤ fuel) : run table fuel p.emitted.reverse p.rest = q.emitted := by
  obtain ⟨more, rfl⟩ := Nat.exists_eq_add_of_le hfuel
  rw [h.run_eq, hend, run.eq_def]
  simp

/-! ## Where a loop comes to -/

theorem Rounds.rest_suffix {n : Nat} (h : Rounds (tableOf s) n p q) : q.rest <:+ p.rest := by
  induction h with
  | refl => exact List.suffix_rfl
  | @cons n p q _ _ ih => exact ih.trans (step_suffix s p.rest)

/-- Each round takes a character at least, if no token is empty. -/
theorem Rounds.add_length_le (hne : "" ∉ s.tokens) {n : Nat} (h : Rounds (tableOf s) n p q) :
    n + q.rest.length ≤ p.rest.length := by
  induction h with
  | refl => exact (Nat.zero_add _).le
  | @cons n p q hrest _ ih =>
    have hlt : (p.advance (tableOf s)).rest.length < p.rest.length := step_shorter hne hrest
    omega

/-- Every loop comes to the end of its text or gets stuck. -/
theorem exists_rounds (s : Substitutions) (p : Cursor) :
    ∃ n q, Rounds (tableOf s) n p q ∧ (q.rest = [] ∨ Stuck s q.rest) := by
  -- As long as it does neither, there is less and less to read.
  induction hlen : p.rest.length using Nat.strongRecOn generalizing p with
  | ind length ih =>
    by_cases hend : p.rest = []
    · exact ⟨0, p, .refl, .inl hend⟩
    rcases step_shorter_or_stuck s hend with hlt | hstuck
    · obtain ⟨n, q, hrounds, hq⟩ := ih _ (hlen ▸ hlt) (p.advance (tableOf s)) rfl
      exact ⟨n + 1, q, .cons hend hrounds, hq⟩
    · exact ⟨0, p, .refl, .inr hstuck⟩

/-- A loop that is stuck emits the value of the empty token over and over, and reads nothing. -/
theorem rounds_iff_of_stuck (h : Stuck s p.rest) :
    ∃ value, ("", value) ∈ s.entries ∧ ∀ n q, Rounds (tableOf s) n p q ↔
      q = ⟨p.emitted ++ (List.replicate n value.toList).flatten, p.rest⟩ := by
  obtain ⟨value, hmem, hstep⟩ := step_of_stuck h
  exact ⟨value, hmem, fun n q => rounds_iff_of_step_eq h.1 hstep n p.emitted⟩

/-- The loops that do not end are those that get stuck. -/
theorem endless_iff : Endless (tableOf s) p ↔ ∃ n q, Rounds (tableOf s) n p q ∧ Stuck s q.rest := by
  constructor
  · intro h
    obtain ⟨n, q, hrounds, hend | hstuck⟩ := exists_rounds s p
    · obtain ⟨r, hmore⟩ := h (n + 1)
      exact absurd (hrounds.le_of_end hend hmore) (Nat.not_succ_le_self n)
    · exact ⟨n, q, hrounds, hstuck⟩
  · rintro ⟨n, q, hrounds, hstuck⟩ k
    obtain ⟨value, _, hstays⟩ := rounds_iff_of_stuck hstuck
    have hlong := rounds_add_iff.2 ⟨q, hrounds, (hstays k _).2 rfl⟩
    rw [Nat.add_comm] at hlong
    obtain ⟨r, hr, _⟩ := rounds_add_iff.1 hlong
    exact ⟨r, hr⟩

/-- Without a token each round moves a character on. -/
theorem Rounds.emitted_append_rest (hs : s.isEmpty = true) {n : Nat} (h : Rounds (tableOf s) n p q) :
    q.emitted ++ q.rest = p.emitted ++ p.rest := by
  induction h with
  | refl => rfl
  | @cons n p q _ _ ih =>
    rw [ih, Cursor.advance, tableOf, List.isEmpty_iff.1 hs, List.map_nil, step, hit?,
      List.append_assoc, List.take_append_drop]

end Scan

/-! ## The loop of a text -/

open Scan

theorem apply_of_end {n : Nat} {q : Cursor} {text : String} (hn : n ≤ text.length)
    (h : Rounds (tableOf s) n (.start text) q) (hend : q.rest = []) :
    (s.apply text).toList = q.emitted := by
  rw [apply]
  split
  · next hs =>
    have hmoved := h.emitted_append_rest hs
    rw [hend, List.append_nil] at hmoved
    rw [hmoved]
    rfl
  · rw [← String.length_toList] at hn
    rw [String.toList_ofList]
    exact h.run_of_end hend hn

/-- The loop of a table with a history reads a proper part of what is left in each of its rounds,
always from the front, and so it ends after as many rounds as there are characters at most, with
what `apply` makes of the text. The loop of any table at all goes on for ever just if it gets
stuck, and from there on it only emits the value of the empty token. With the empty token in the
table it is stuck at the latest where no other one begins, and with the longest token first, not
before. -/
theorem apply_ends (history : List Edit) (text : String) :
    (∀ n p, Rounds (tableOf (build history)) n (.start text) p →
      n + p.rest.length ≤ text.length ∧ p.rest <:+ text.toList ∧
      (p.rest ≠ [] → (p.advance (tableOf (build history))).rest <:+ p.rest ∧
        (p.advance (tableOf (build history))).rest.length < p.rest.length)) ∧
    (∃ n ≤ text.length, Rounds (tableOf (build history)) n (.start text)
      ⟨((build history).apply text).toList, []⟩) ∧
    ∀ other : Substitutions,
      (Endless (tableOf other) (.start text) ↔
        ∃ n p, Rounds (tableOf other) n (.start text) p ∧ Stuck other p.rest) ∧
      (∀ p, Stuck other p.rest → ∃ value, ("", value) ∈ other.entries ∧
        ∀ n q, Rounds (tableOf other) n p q ↔
          q = ⟨p.emitted ++ (List.replicate n value.toList).flatten, p.rest⟩) ∧
      ("" ∈ other.tokens → ∀ rest, Unmatched other rest → Stuck other rest) ∧
      (other.tokens.Pairwise (fun t u => u.utf8ByteSize ≤ t.utf8ByteSize) →
        ∀ rest, Stuck other rest → "" ∈ other.tokens ∧ Unmatched other rest) := by
  have hne := (build_ordered history).nonempty
  have hbound : ∀ {n p}, Rounds (tableOf (build history)) n (.start text) p →
      n + p.rest.length ≤ text.length := fun h =>
    (h.add_length_le hne).trans_eq String.length_toList
  refine ⟨fun n p h => ⟨hbound h, h.rest_suffix, fun hrest => ?_⟩, ?_, fun other => ?_⟩
  · exact ⟨step_suffix _ _, step_shorter hne hrest⟩
  · obtain ⟨n, q, h, hq⟩ := exists_rounds (build history) (.start text)
    have hend : q.rest = [] := hq.resolve_right fun hstuck => hne hstuck.empty_mem
    have hn : n ≤ text.length := Nat.le_of_add_right_le (hbound h)
    refine ⟨n, hn, ?_⟩
    rw [apply_of_end hn h hend, ← hend]
    exact h
  · exact ⟨endless_iff, fun p => rounds_iff_of_stuck, fun hempty rest h => h.stuck hempty,
      fun hs rest h => ⟨h.empty_mem, h.unmatched hs⟩⟩

/-- The empty token among the insertions, and a table as it would be had it been taken in. -/
theorem apply_ends_beside_empty :
    let history : List Edit := [.forTask "7", .insert "" "x"]
    let other : Substitutions := ⟨[("#ID#", "7"), ("", "x")]⟩
    (∃ n ≤ 6, Rounds (tableOf (build history)) n (.start "#ID#ab") ⟨"7ab".toList, []⟩) ∧
      ¬ Endless (tableOf (build history)) (.start "#ID#ab") ∧
      Endless (tableOf other) (.start "#ID#ab") := by
  intro history other
  obtain ⟨hbound, hends, hother⟩ := apply_ends history "#ID#ab"
  obtain ⟨hendless, _, hstuck, _⟩ := hother other
  refine ⟨hends, fun h => ?_, hendless.2 ⟨1, ⟨['7'], ['a', 'b']⟩, ?_, ?_⟩⟩
  · obtain ⟨q, hq⟩ := h 7
    have hlen : 7 + q.rest.length ≤ 6 := (hbound 7 q hq).1
    omega
  · exact .cons (by decide) (rounds_zero_iff.2 (by decide))
  · exact hstuck (by decide) _ ⟨by decide, by decide⟩

end Substitutions
end TaskMail
