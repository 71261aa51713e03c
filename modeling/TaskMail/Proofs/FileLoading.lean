import TaskMail.Plugin
import TaskMail.Proofs.VariableScope

/-!
# TaskMail.Proofs.FileLoading

When the file of variables breaks the program off.

* `EnvFile.Breaks`  — the lines of a file, read one after the other, come to a value with a NUL.
* `Start.BreaksOff` — so do those of the file that the plugin is started with.

`plugin?_eq_none_iff` says that nothing else breaks it off. A start that breaks off has no `Plugin`:
the theorems about runs speak of the one that has been loaded, or say what happens without.
-/

namespace TaskMail

theorem Utf8.zero_mem_encode_iff {s : String} : 0 ∈ encode s ↔ '\x00' ∈ s.toList := by
  constructor
  · exact mem_of_mem_octets (d := '\x00') (by decide)
  · intro h
    rw [encode_eq_octets, octets, List.mem_flatMap]
    exact ⟨_, h, by decide⟩

theorem Environment.setDefault_eq_none_iff {e : Environment} {name value : String}
    (hname : isName name = true) :
    e.setDefault name value = none ↔ e.text? name = none ∧ '\x00' ∈ value.toList := by
  rw [setDefault, ← Utf8.zero_mem_encode_iff]
  cases e.text? name with
  | some v => simp
  | none => simp [set, hname]

namespace EnvFile

/-- A line in front of the first bad one gives a value with a NUL to a variable that counts as
unset behind the lines before. -/
inductive Breaks : Environment → List String → Prop where
  | here {e : Environment} {line : String} {rest : List String} {name value : String} :
      lineOf (valueIn e) line = .assignment name value → e.text? name = none →
      '\x00' ∈ value.toList → Breaks e (line :: rest)
  | blank {e : Environment} {line : String} {rest : List String} :
      lineOf (valueIn e) line = .blank → Breaks e rest → Breaks e (line :: rest)
  | next {e e' : Environment} {line : String} {rest : List String} {name value : String} :
      lineOf (valueIn e) line = .assignment name value → e.setDefault name value = some e' →
      Breaks e' rest → Breaks e (line :: rest)

theorem applyLines_of_breaks {e : Environment} {ls : List String} (h : Breaks e ls) :
    applyLines e ls = none := by
  induction h with
  | here hline hunset hnul =>
    have hnone := (Environment.setDefault_eq_none_iff (of_lineOf_assignment hline)).2 ⟨hunset, hnul⟩
    rw [applyLines, hline]
    simp only [hnone, Option.bind_none]
  | blank hline _ ih =>
    rw [applyLines, hline]
    exact ih
  | next hline hset _ ih =>
    rw [applyLines, hline]
    simp only [hset, Option.bind_some, ih]

theorem breaks_of_applyLines {e : Environment} {ls : List String} (h : applyLines e ls = none) :
    Breaks e ls := by
  induction ls generalizing e with
  | nil => cases h
  | cons line rest ih =>
    rw [applyLines] at h
    cases hline : lineOf (valueIn e) line with
    | blank =>
      rw [hline] at h
      exact .blank hline (ih h)
    | assignment name value =>
      rw [hline] at h
      cases hset : e.setDefault name value with
      | none =>
        obtain ⟨hunset, hnul⟩ :=
          (Environment.setDefault_eq_none_iff (of_lineOf_assignment hline)).1 hset
        exact .here hline hunset hnul
      | some e' =>
        simp only [hset, Option.bind_some] at h
        exact .next hline hset (ih h)
    | bad =>
      rw [hline] at h
      cases h

end EnvFile

namespace Start

def BreaksOff (s : Start) : Prop :=
  ∃ text, s.envFile = some text ∧ EnvFile.Breaks s.environment (EnvFile.lines text)

variable {s : Start} {p : Plugin}

theorem plugin?_eq_none_iff : s.plugin? = none ↔ s.BreaksOff := by
  rw [plugin?, Option.map_eq_none_iff, fullEnvironment?, BreaksOff]
  cases s.envFile with
  | none => simp
  | some text =>
    constructor
    · intro h
      exact ⟨text, rfl, EnvFile.breaks_of_applyLines h⟩
    · rintro ⟨_, htext, h⟩
      cases htext
      exact EnvFile.applyLines_of_breaks h

theorem exists_plugin (h : ¬ s.BreaksOff) : ∃ p, s.plugin? = some p := by
  rw [← plugin?_eq_none_iff] at h
  exact Option.ne_none_iff_exists'.1 h

theorem not_breaksOff (h : s.plugin?.isSome = true) : ¬ s.BreaksOff := by
  rw [← plugin?_eq_none_iff]
  exact Option.isSome_iff_ne_none.1 h

theorem plugin?_eq_some_iff :
    s.plugin? = some p ↔
      ∃ e, s.fullEnvironment? = some e ∧ p = ⟨s.words, s.stdin, e, s.machine⟩ := by
  rw [plugin?, Option.map_eq_some_iff]
  exact exists_congr fun e => and_congr_right fun _ => eq_comm

theorem words_of_loaded (h : s.plugin? = some p) : p.words = s.words := by
  obtain ⟨e, _, rfl⟩ := plugin?_eq_some_iff.1 h
  rfl

theorem finish_of_loaded (h : s.plugin? = some p) : s.finish = p.finish := by
  rw [finish, h]

theorem finish_of_breaksOff (h : s.BreaksOff) :
    s.finish = ⟨brokenOffCode, Session.empty, []⟩ := by
  rw [finish, plugin?_eq_none_iff.2 h]

end Start
end TaskMail
