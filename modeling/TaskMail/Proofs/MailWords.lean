import TaskMail.Proofs.CommandLine

/-!
# TaskMail.Proofs.MailWords

The arguments of a mail, as the mail program reads them from the front.

* `Dashed`       — words that begin with a hyphen and do not end there.
* `Word`         — what a word is taken for, and `Word.readAll` for a list of words.
* `Mail.options` — the options that a mail is meant to be sent with.

A field that follows an option is its value, whatever it looks like, so a mail is read as its
options and one more word. That word is the recipient, which follows no option: it is read for what
it looks like (`readAll_arguments`).
-/

namespace TaskMail

def Dashed (word : String) : Prop :=
  Hyphened word ∧ 1 < word.length

instance (word : String) : Decidable (Dashed word) :=
  inferInstanceAs (Decidable (_ ∧ _))

inductive Word where
  /-- An option and the word behind it. -/
  | option (name value : String)
  /-- An option that lacks the word behind it. -/
  | lacking (name : String)
  /-- An option that stands alone. -/
  | flag (name : String)
  | operand (word : String)
  deriving Repr, DecidableEq

namespace Word

/-- The options that take the next word. -/
def valued : List String := ["-s", "-c", "-a"]

/-- A word that no other follows. -/
def last (word : String) : Word :=
  if word ∈ valued then .lacking word
  else if Dashed word then .flag word
  else .operand word

def readAll : List String → List Word
  | [] => []
  | [word] => [last word]
  | word :: next :: rest =>
    if word ∈ valued then .option word next :: readAll rest
    else last word :: readAll (next :: rest)

theorem dashed_of_mem_valued {word : String} (h : word ∈ valued) : Dashed word := by
  simp only [valued, List.mem_cons, List.not_mem_nil, or_false] at h
  rcases h with rfl | rfl | rfl <;> decide

theorem last_eq_operand_iff {word : String} : last word = .operand word ↔ ¬ Dashed word := by
  rw [last]
  constructor
  · intro h hd
    split at h
    · cases h
    · cases h
  · intro h
    rw [if_neg fun hv => h (dashed_of_mem_valued hv), if_neg h]

theorem readAll_singleton (word : String) : readAll [word] = [last word] := rfl

theorem readAll_option {name : String} (h : name ∈ valued) (value : String)
    (rest : List String) :
    readAll (name :: value :: rest) = .option name value :: readAll rest := by
  rw [readAll, if_pos h]

end Word

namespace Mail

/-- The subject, the copy if there is one, and the sender if there is one. -/
def options (m : Mail) : List Word :=
  .option "-s" m.subject :: m.cc.toList.map (.option "-c") ++
    m.sender.toList.map fun sender => .option "-a" ("From: " ++ sender)

/-- Every mail is read as its options and the recipient, which is an operand just when it does not
look like an option. -/
theorem readAll_arguments (m : Mail) :
    Word.readAll m.arguments = m.options ++ [Word.last m.recipient] ∧
      (Word.readAll m.arguments = m.options ++ [.operand m.recipient] ↔ ¬ Dashed m.recipient) := by
  have hread : Word.readAll m.arguments = m.options ++ [Word.last m.recipient] := by
    obtain ⟨recipient, cc, subject, body, sender⟩ := m
    have hs : "-s" ∈ Word.valued := by decide
    have hc : "-c" ∈ Word.valued := by decide
    have ha : "-a" ∈ Word.valued := by decide
    cases cc <;> cases sender <;>
      simp [arguments, options, Word.readAll_option hs, Word.readAll_option hc,
        Word.readAll_option ha, Word.readAll_singleton]
  refine ⟨hread, ?_⟩
  rw [hread, ← Word.last_eq_operand_iff]
  simp

/-- The recipient `--help` of a configuration reaches the mail program, which reads an option and
is left without a recipient. -/
theorem readAll_arguments_help :
    let s : Start := {
      words := ["42", "0", ""].map Utf8.encode
      stdin := .ok (Utf8.encode
        "\x7b\"to\":\"--help\",\"subject\":\"x\",\"body\":\"b\",\"when\":\"ON_BOTH\"\x7d")
      environment := .ofBindings []
      envFile := none
      machine := ⟨fun _ => .ok ⟨0, none, none⟩, fun _ => .error .notFound,
        Machine.standardLimit⟩ }
    let m : Mail := ⟨"--help", none, "x", "b", none⟩
    s.finish.session.deliveries = [⟨m.arguments, Utf8.encode "b"⟩] ∧
      Word.readAll m.arguments = [.option "-s" "x", .flag "--help"] ∧
      Word.readAll m.arguments ≠ m.options ++ [.operand m.recipient] := by
  exact ⟨by decide +kernel, by decide, by decide⟩

end Mail
end TaskMail
