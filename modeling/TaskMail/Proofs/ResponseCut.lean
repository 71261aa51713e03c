import TaskMail.Proofs.SessionEffects
import TaskMail.Proofs.TagReading

/-!
# TaskMail.Proofs.ResponseCut

A response that goes on behind its first tag, and one that ends before it.

* `Scan.IsElement`      — the scan has closed the first tag.
* `Scan.exists_closing` — the least part of a response that closes it.

Before that part is complete the scan has nothing to tell, and behind it the scan stays where it
is. So a response says all of what it says about a task or nothing of it, however much of it
arrives: `ofResponse_append`.
-/

namespace TaskMail
namespace Xml

namespace Scan

def IsElement (s : Scan) : Prop :=
  ∃ content, s = .element content

theorem finish_of_not_isElement {s : Scan} (h : ¬ s.IsElement) :
    ∃ fault, s.finish = .error fault := by
  cases hf : s.finish with
  | error fault => exact ⟨fault, rfl⟩
  | ok content => exact absurd ⟨content, finish_eq_ok_iff.1 hf⟩ h

/-- What leads to the end of a tag has a least part that does, and what is shorter than that part
leads elsewhere. -/
theorem exists_closing {s : Scan} {response content : Bytes}
    (h : Leads step s response (.element content)) :
    ∃ head, head <+: response ∧ Leads step s head (.element content) ∧
      ∀ part, part <+: response → ¬ head <+: part →
        ∃ t, Leads step s part t ∧ ¬ t.IsElement := by
  induction response generalizing s with
  | nil =>
    exact ⟨[], List.nil_prefix, h, fun part _ hpart => absurd List.nil_prefix hpart⟩
  | cons b rest ih =>
    by_cases hs : s.IsElement
    · obtain ⟨content', rfl⟩ := hs
      obtain rfl : content' = content := by
        have hstay : Leads step (.element content') (b :: rest) (.element content') := leads_element
        cases h.unique hstay
        rfl
      exact ⟨[], List.nil_prefix, .nil _, fun part _ hpart => absurd List.nil_prefix hpart⟩
    · obtain ⟨u, hb, hrest⟩ := leads_cons_iff.1 h
      obtain ⟨head, hhead, hlead, hshort⟩ := ih hrest
      refine ⟨b :: head, List.cons_prefix_cons.2 ⟨rfl, hhead⟩, .cons hb hlead, ?_⟩
      intro part hpart hnot
      cases part with
      | nil => exact ⟨s, .nil s, hs⟩
      | cons c part =>
        obtain ⟨rfl, hpart'⟩ := List.cons_prefix_cons.1 hpart
        have hnot' : ¬ head <+: part := fun hp => hnot (List.cons_prefix_cons.2 ⟨rfl, hp⟩)
        obtain ⟨t, ht, hne⟩ := hshort part hpart' hnot'
        exact ⟨t, .cons hb ht, hne⟩

end Scan

end Xml

namespace Metadata

open Xml

theorem ofResponse_of_leads {response content : Bytes}
    (h : Leads Scan.step .text response (.element content)) :
    ofResponse response = ofTag content := by
  rw [ofResponse, firstElement_eq_ok_iff.2 h]

theorem leads_of_ofResponse {response : Bytes} {m : Metadata} (h : ofResponse response = .ok m) :
    ∃ content, Leads Scan.step .text response (.element content) ∧ ofTag content = .ok m := by
  rw [ofResponse] at h
  cases hf : firstElement response with
  | error fault =>
    rw [hf] at h
    cases h
  | ok content =>
    rw [hf] at h
    exact ⟨content, firstElement_eq_ok_iff.1 hf, h⟩

/-- There is a part of an answer, from its beginning on, that tells all. Whatever goes on behind
that part tells the same, and whatever ends within it is malformed. -/
theorem exists_telling {response : Bytes} {m : Metadata} (h : ofResponse response = .ok m) :
    ∃ head, head <+: response ∧ (∀ more, ofResponse (head ++ more) = .ok m) ∧
      ∀ part, part <+: response → ¬ head <+: part →
        ∃ fault, ofResponse part = .error (.markup fault) := by
  obtain ⟨content, hlead, htag⟩ := leads_of_ofResponse h
  obtain ⟨head, hhead, hclose, hshort⟩ := Scan.exists_closing hlead
  refine ⟨head, hhead, fun more => ?_, fun part hpart hnot => ?_⟩
  · rw [ofResponse_of_leads (hclose.append Scan.leads_element), htag]
  · obtain ⟨t, ht, hne⟩ := hshort part hpart hnot
    obtain ⟨fault, hfault⟩ := Scan.finish_of_not_isElement hne
    refine ⟨fault, ?_⟩
    rw [ofResponse, firstElement_of_leads ht, hfault]

/-- An answer may go on behind its first tag, and one that ends early tells what the whole would
have told or is malformed as markup. So an engine that goes on, or leaves off, tells no other
metadata. -/
theorem ofResponse_append (response : Bytes) (m : Metadata) (h : ofResponse response = .ok m) :
    (∀ more, ofResponse (response ++ more) = .ok m) ∧
    (∀ part, part <+: response →
      ofResponse part = .ok m ∨ ∃ fault, ofResponse part = .error (.markup fault)) ∧
    ∀ (machine : Machine) (path : Bytes) (taskId : String) (s : Session) (told : Bytes),
      machine.connect path = .ok (.responds told) → told <+: response ∨ response <+: told →
        (machine.fetch path taskId s).1 = .ok m ∨
          ∃ fault, (machine.fetch path taskId s).1 = .error (.malformed (.markup fault)) := by
  obtain ⟨head, ⟨rest, rfl⟩, htells, hshort⟩ := exists_telling h
  have hmore : ∀ more, ofResponse (head ++ rest ++ more) = .ok m := by
    intro more
    rw [List.append_assoc]
    exact htells (rest ++ more)
  have hpart : ∀ part, part <+: head ++ rest →
      ofResponse part = .ok m ∨ ∃ fault, ofResponse part = .error (.markup fault) := by
    intro part hp
    by_cases hhead : head <+: part
    · obtain ⟨more, rfl⟩ := hhead
      exact .inl (htells more)
    · exact .inr (hshort part hp hhead)
  refine ⟨hmore, hpart, ?_⟩
  intro machine path taskId s told hconnect htold
  have hanswer : (machine.fetch path taskId s).1 = (ofResponse told).mapError .malformed := by
    rw [Machine.fetch_fst, Machine.answer, hconnect]
  rw [hanswer]
  rcases htold with hp | ⟨more, rfl⟩
  · rcases hpart told hp with ht | ⟨fault, ht⟩
    · exact .inl (by rw [ht, mapError_ok])
    · exact .inr ⟨fault, by rw [ht, mapError_error]⟩
  · exact .inl (by rw [hmore, mapError_ok])

/-- A comment in front of the tag, a bracket within a value, and another tag behind; the answer
that ends at that bracket is cut short. -/
theorem ofResponse_append_bracket :
    let head := Utf8.encode "<!-- <a> --><task name=\"1 > "
    let response := head ++ Utf8.encode "0\" end_time='&#48;' />"
    let m : Metadata := ⟨"1 > 0", "", "0"⟩
    ofResponse response = .ok m ∧ ofResponse (response ++ Utf8.encode "<task name='2'/>") = .ok m ∧
      ∃ fault, ofResponse head = .error (.markup fault) := by
  intro head response m
  have h : ofResponse response = .ok m := by rfl
  obtain ⟨hmore, hpart, _⟩ := ofResponse_append response m h
  refine ⟨h, hmore _, ?_⟩
  rcases hpart head (List.prefix_append _ _) with hd | hd
  · cases hd
  · exact hd

end Metadata
end TaskMail
