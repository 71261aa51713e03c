import TaskMail.Text.Utf8

/-!
# TaskMail.Environment

Environment variables. A program is given them as a list of entries, each of them a name, an equals
sign and a value in one string of octets.

* `Environment` — the entries.
* `octets?`     — the value of a variable.
* `text?`       — the same, if it is text; a variable that is not text counts as unset.
* `set`         — sets a variable, if the system takes it.
* `setDefault`  — sets a variable that counts as unset.

Where in an entry the name ends is not marked: a variable is read from the first entry that begins
with its name and an equals sign. So a name that holds an equals sign reaches into a value, and an
entry made of such a name and a value sets the variable of the shorter name.
-/

namespace TaskMail

structure Environment where
  entries : List Bytes
  deriving Repr, DecidableEq

namespace Environment

def equalsSign : UInt8 := 0x3D

/-- How an entry for a variable begins. -/
def start (name : String) : Bytes :=
  Utf8.encode name ++ [equalsSign]

def ofBindings (bindings : List (String × Bytes)) : Environment :=
  ⟨bindings.map fun v => start v.1 ++ v.2⟩

/-- What stands behind some octets in a string that begins with them. -/
def behind? : Bytes → Bytes → Option Bytes
  | [], s => some s
  | _ :: _, [] => none
  | a :: first, b :: s => if a = b then behind? first s else none

/-- The empty name is that of no variable. -/
def octets? (e : Environment) (name : String) : Option Bytes :=
  if name = "" then none else e.entries.findSome? (behind? (start name))

def text? (e : Environment) (name : String) : Option String :=
  (e.octets? name).bind Utf8.decode?

/-- Some entries with another value in the first one that begins in some way, or with one more entry
at the end if none does. -/
def replace (first value : Bytes) : List Bytes → List Bytes
  | [] => [first ++ value]
  | s :: rest =>
    match behind? first s with
    | some _ => (first ++ value) :: rest
    | none => s :: replace first value rest

/-- A name of a variable is not empty, and an equals sign or a NUL would end it. -/
def isName (name : String) : Bool :=
  name ≠ "" && !name.toList.contains '=' && !name.toList.contains '\x00'

/-- `none` when the system takes no such variable: a NUL would end the value, too. -/
def set (e : Environment) (name : String) (value : Bytes) : Option Environment :=
  if isName name && !value.contains 0 then some ⟨replace (start name) value e.entries⟩ else none

def setDefault (e : Environment) (name value : String) : Option Environment :=
  match e.text? name with
  | some _ => some e
  | none => e.set name (Utf8.encode value)

/-! ## A variable that has been set -/

theorem behind?_append (first s : Bytes) : behind? first (first ++ s) = some s := by
  induction first with
  | nil => rfl
  | cons a rest ih => rw [List.cons_append, behind?, if_pos rfl, ih]

theorem findSome?_replace (first value : Bytes) (entries : List Bytes) :
    (replace first value entries).findSome? (behind? first) = some value := by
  induction entries with
  | nil => rw [replace, List.findSome?_cons, behind?_append]
  | cons s rest ih =>
    rw [replace]
    cases h : behind? first s with
    | some _ => rw [List.findSome?_cons, behind?_append]
    | none => rw [List.findSome?_cons, h, ih]

theorem octets?_set {e e' : Environment} {name : String} {value : Bytes}
    (h : e.set name value = some e') : e'.octets? name = some value := by
  rw [set] at h
  split at h
  · next ht =>
    cases h
    have hname : name ≠ "" := by
      rintro rfl
      cases ht
    rw [octets?, if_neg hname, findSome?_replace]
  · cases h

end Environment

end TaskMail
