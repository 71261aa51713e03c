import TaskMail.Json.Number
import TaskMail.Json.StringScan

/-!
# TaskMail.Json.Reader

Reading a JSON text, one octet at a time.

* `Frame`       — an array or object that is open, with what has been read of it.
* `State`       — what the reader expects, and the open frames, the innermost first.
* `State.step`  — reads an octet.
* `State.finish` — the end of the text.
* `read`        — the value of a text.

A text of which the reader has seen a part is left in one state, so reading a longer text goes
on from the state that the shorter one leaves.
-/

namespace TaskMail.Json

/-- An open array with its items so far, or an open object with its members so far and the key
whose value comes next. The latest comes first. -/
inductive Frame where
  | items (before : List Value)
  | members (before : Members Value) (name : String)

/-- At most so many arrays and objects are open at a time. -/
def depthLimit : Nat := 127

/-- What a string is read for. -/
inductive Role where
  | value
  | key (before : Members Value)

inductive State where
  /-- A value has to begin. -/
  | value (stack : List Frame)
  /-- An item has to begin; the first one may be missing. -/
  | item (first : Bool) (before : List Value) (stack : List Frame)
  /-- A key has to begin; the first one may be missing. -/
  | key (first : Bool) (before : Members Value) (stack : List Frame)
  /-- The colon behind a key. -/
  | colon (before : Members Value) (name : String) (stack : List Frame)
  /-- Inside of a literal, of which `next` and then `rest` are missing. -/
  | literal (next : UInt8) (rest : Bytes) (v : Value) (stack : List Frame)
  | number (scan : NumberScan) (stack : List Frame)
  | string (scan : StringScan) (role : Role) (stack : List Frame)
  /-- A value is complete. -/
  | after (v : Value) (stack : List Frame)

def isSpace (b : UInt8) : Bool :=
  b == 0x20 || b == 0x0A || b == 0x09 || b == 0x0D

namespace State

/-- The first octet of a value. -/
def enter (stack : List Frame) (b : UInt8) : Except Fault State :=
  if b = 0x6E then .ok (.literal 0x75 [0x6C, 0x6C] .null stack)
  else if b = 0x74 then .ok (.literal 0x72 [0x75, 0x65] (.bool true) stack)
  else if b = 0x66 then .ok (.literal 0x61 [0x6C, 0x73, 0x65] (.bool false) stack)
  else if b = 0x2D then .ok (.number .minus stack)
  else if isDigit b then .ok (.number (NumberScan.ofDigit false b) stack)
  else if b = 0x22 then .ok (.string (.plain []) .value stack)
  else if b = 0x5B then
    if stack.length < depthLimit then .ok (.item true [] stack) else refuse .recursionLimit
  else if b = 0x7B then
    if stack.length < depthLimit then .ok (.key true [] stack) else refuse .recursionLimit
  else refuse .expectedValue

/-- An octet behind a complete value. -/
def leave (v : Value) (stack : List Frame) (b : UInt8) : Except Fault State :=
  if isSpace b then .ok (.after v stack)
  else match stack with
    | [] => refuse .trailingCharacters
    | .items before :: rest =>
      if b = 0x2C then .ok (.item false (v :: before) rest)
      else if b = 0x5D then .ok (.after (.array (v :: before).reverse) rest)
      else refuse .expectedListCommaOrEnd
    | .members before name :: rest =>
      if b = 0x2C then .ok (.key false ((name, v) :: before) rest)
      else if b = 0x7D then .ok (.after (.object ((name, v) :: before).reverse) rest)
      else refuse .expectedObjectCommaOrEnd

/-- A string is complete. -/
def settle (s : String) (role : Role) (stack : List Frame) : State :=
  match role with
  | .value => .after (.string s) stack
  | .key before => .colon before s stack

def step (s : State) (b : UInt8) : Except Fault State :=
  match s with
  | .value stack => if isSpace b then .ok s else enter stack b
  | .item first before stack =>
    if isSpace b then .ok s
    else if b = 0x5D then
      if first then .ok (.after (.array []) stack) else refuse .trailingComma
    else enter (.items before :: stack) b
  | .key first before stack =>
    if isSpace b then .ok s
    else if b = 0x22 then .ok (.string (.plain []) (.key before) stack)
    else if b = 0x7D then
      if first then .ok (.after (.object []) stack) else refuse .trailingComma
    else refuse .keyMustBeString
  | .colon before name stack =>
    if isSpace b then .ok s
    else if b = 0x3A then .ok (.value (.members before name :: stack))
    else refuse .expectedColon
  | .literal next rest v stack =>
    if b = next then
      match rest with
      | [] => .ok (.after v stack)
      | c :: rest' => .ok (.literal c rest' v stack)
    else refuse .expectedIdent
  | .number scan stack =>
    match scan.step b with
    | .error f => .error f
    | .ok (some scan') => .ok (.number scan' stack)
    | .ok none =>
      match scan.finish with
      | .error f => .error f
      | .ok n => leave (.number n) stack b
  | .string scan role stack =>
    match scan.step b with
    | .error f => .error f
    | .ok (.closed text) => .ok (settle text role stack)
    | .ok scan' => .ok (.string scan' role stack)
  | .after v stack => leave v stack b

/-- What is missing when a text ends behind a complete value. -/
def finishAfter (v : Value) (stack : List Frame) : Except Cause Value :=
  match stack with
  | [] => .ok v
  | .items _ :: _ => .error .eofInList
  | .members _ _ :: _ => .error .eofInObject

/-- The value of a text that ends in this state, or what is missing. -/
def finish (s : State) : Except Cause Value :=
  match s with
  | .value _ => .error .eofInValue
  | .item first _ _ => .error (if first then .eofInList else .eofInValue)
  | .key first _ _ => .error (if first then .eofInObject else .eofInValue)
  | .colon _ _ _ => .error .eofInObject
  | .literal _ _ _ _ => .error .eofInValue
  | .number scan stack =>
    match scan.finish with
    | .error f => .error f.cause
    | .ok n => finishAfter (.number n) stack
  | .string _ _ _ => .error .eofInString
  | .after v stack => finishAfter v stack

end State

/-- A state and the position that it was reached at. -/
structure Reader where
  position : Position
  state : State

namespace Reader

def start : Reader := ⟨.start, .value []⟩

def feed (r : Reader) (b : UInt8) : Except SyntaxError Reader :=
  match r.state.step b with
  | .ok s => .ok ⟨r.position.advance b, s⟩
  | .error f => .error (f.atOctet r.position b)

def finish (r : Reader) : Except SyntaxError Value :=
  match r.state.finish with
  | .ok v => .ok v
  | .error cause => .error ⟨cause, r.position⟩

end Reader

def read (text : Bytes) : Except SyntaxError Value :=
  match text.foldlM Reader.feed Reader.start with
  | .ok r => r.finish
  | .error e => .error e

end TaskMail.Json
