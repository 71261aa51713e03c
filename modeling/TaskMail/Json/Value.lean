/-!
# TaskMail.Json.Value

JSON values.

* `Number`, `Value`   — an object keeps its members as they were written, repeated keys included.
* `Members.last?`     — the value of a key: that of the last member that has it.
* `Members.settled`   — the members that count, in the order of their keys.
-/

namespace TaskMail.Json

/-- A number is whole, within 64 bits with or without sign, or else a double. -/
inductive Number where
  | integer (n : Int)
  | float (x : Float)
  deriving Repr, BEq

inductive Value where
  | null
  | bool (b : Bool)
  | number (n : Number)
  | string (s : String)
  | array (items : List Value)
  | object (members : List (String × Value))
  deriving Repr, Inhabited

/-- Members as they are written, of an object or of something that belongs to one. -/
abbrev Members (α : Type) := List (String × α)

namespace Members

variable {α : Type}

def last? (members : Members α) (key : String) : Option α :=
  (members.reverse.find? fun m => m.1 == key).map (·.2)

/-- Puts a member into its place in a list in ascending order of keys, where it replaces the one
that has its key. -/
def insert (key : String) (v : α) : Members α → Members α
  | [] => [(key, v)]
  | m :: rest =>
    if key < m.1 then (key, v) :: m :: rest
    else if key = m.1 then (key, v) :: rest
    else m :: insert key v rest

/-- The members that count, in ascending order of their keys. The order of code points is that
of the octets of their UTF-8 form. -/
def settled (members : Members α) : Members α :=
  members.foldl (fun acc m => insert m.1 m.2 acc) []

end Members

end TaskMail.Json
