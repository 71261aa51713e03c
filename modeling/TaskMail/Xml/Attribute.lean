import TaskMail.Text.Utf8

/-!
# TaskMail.Xml.Attribute

The attributes of a tag.

* `Attribute`       — a key and its value as they are written, in octets.
* `AttributeFault`  — what can be wrong with the syntax, and at which octet of the tag.
* `AttributeReader` — reads the content of a tag, one octet at a time.
* `attributes`      — the attributes of a tag up to the first fault, and the fault.

The content of a tag is what stands between its angle brackets: a name, and then the
attributes.
-/

namespace TaskMail.Xml

def isSpace (b : UInt8) : Bool :=
  b == 0x20 || b == 0x09 || b == 0x0A || b == 0x0D

structure Attribute where
  key : Bytes
  value : Bytes
  deriving Repr, DecidableEq

inductive AttributeFault where
  | missingEquals (position : Nat)
  | duplicated (position previous : Nat)
  | missingValue (position : Nat)
  | unquoted (position : Nat)
  | unclosed (position : Nat) (quote : UInt8)
  deriving Repr, DecidableEq

def AttributeFault.text : AttributeFault → String
  | .missingEquals p =>
    "position " ++ toString p ++ ": attribute key must be directly followed by `=` or space"
  | .duplicated p previous =>
    "position " ++ toString p ++ ": duplicated attribute, previous declaration at position " ++
      toString previous
  | .missingValue p =>
    "position " ++ toString p ++ ": `=` must be followed by an attribute value"
  | .unquoted p =>
    "position " ++ toString p ++ ": attribute value must be enclosed in `\"` or `'`"
  | .unclosed p quote =>
    "position " ++ toString p ++ ": missing closing quote `" ++
      String.singleton (Char.ofNat quote.toNat) ++ "` in attribute value"

/-- What is being read. Octets that are kept come with the latest first. -/
inductive AttributeState where
  | name
  | between
  | key (start : Nat) (seen : Bytes)
  /-- White space behind a key. -/
  | keyEnd (start : Nat) (key : Bytes)
  /-- Behind the equals sign. -/
  | equals (key : Bytes)
  | value (key : Bytes) (quote : UInt8) (seen : Bytes)
  | failed (fault : AttributeFault)
  deriving Repr, DecidableEq

structure AttributeReader where
  position : Nat
  state : AttributeState
  /-- The keys so far and where they begin. -/
  keys : List (Bytes × Nat)
  /-- The attributes so far, the latest first. -/
  done : List Attribute
  deriving Repr, DecidableEq

namespace AttributeReader

def start : AttributeReader := ⟨0, .name, [], []⟩

def goto (r : AttributeReader) (s : AttributeState) : AttributeReader :=
  { r with position := r.position + 1, state := s }

/-- The equals sign behind a key, which must be a new one. -/
def takeKey (r : AttributeReader) (start : Nat) (key : Bytes) : AttributeReader :=
  match r.keys.lookup key with
  | some previous => r.goto (.failed (.duplicated start previous))
  | none => { r.goto (.equals key) with keys := (key, start) :: r.keys }

def step (r : AttributeReader) (b : UInt8) : AttributeReader :=
  match r.state with
  | .name => if isSpace b then r.goto .between else r.goto .name
  | .between => if isSpace b then r.goto .between else r.goto (.key r.position [b])
  | .key start seen =>
    if b = 0x3D then r.takeKey start seen.reverse
    else if isSpace b then r.goto (.keyEnd start seen.reverse)
    else r.goto (.key start (b :: seen))
  | .keyEnd start key =>
    if isSpace b then r.goto (.keyEnd start key)
    else if b = 0x3D then r.takeKey start key
    else r.goto (.failed (.missingEquals r.position))
  | .equals key =>
    if isSpace b then r.goto (.equals key)
    else if b = 0x22 ∨ b = 0x27 then r.goto (.value key b [])
    else r.goto (.failed (.unquoted r.position))
  | .value key quote seen =>
    if b = quote then { r.goto .between with done := ⟨key, seen.reverse⟩ :: r.done }
    else r.goto (.value key quote (b :: seen))
  | .failed fault => r.goto (.failed fault)

/-- What is missing at the end of a tag. -/
def fault? (r : AttributeReader) : Option AttributeFault :=
  match r.state with
  | .name | .between => none
  | .key _ _ | .keyEnd _ _ => some (.missingEquals r.position)
  | .equals _ => some (.missingValue r.position)
  | .value _ quote _ => some (.unclosed r.position quote)
  | .failed fault => some fault

end AttributeReader

def attributes (content : Bytes) : List Attribute × Option AttributeFault :=
  let r := content.foldl AttributeReader.step AttributeReader.start
  (r.done.reverse, r.fault?)

end TaskMail.Xml
