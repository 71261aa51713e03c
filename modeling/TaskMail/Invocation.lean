import TaskMail.Arguments
import TaskMail.Text.Blank
import TaskMail.Text.Quoted

/-!
# TaskMail.Invocation

One call of the plugin for a task that has ended.

* `Variant`          — the two variants of the plugin and the number of their arguments.
* `status?`          — the exit status that a text spells, a whole number of 32 bits.
* `Invocation`       — a call, and `Invocation.make`, which checks its arguments.
* `InvocationFault`  — what can be wrong with a call.
-/

namespace TaskMail

inductive Variant where
  | basic
  | extended
  deriving Repr, DecidableEq, Inhabited

namespace Variant

/-- Task and status, and in the extended variant the control socket of the engine. -/
def arity : Variant → Nat
  | .basic => 2
  | .extended => 3

def name : Variant → String
  | .basic => "basic"
  | .extended => "extended"

def ofName? (s : String) : Option Variant :=
  if s = "basic" then some .basic else if s = "extended" then some .extended else none

def unknownText (s : String) : String :=
  "unknown plugin variant " ++ Text.quote s

end Variant

/-! ## Exit status -/

def digitsValue (digits : List Char) : Nat :=
  digits.foldl (fun n c => n * 10 + (c.toNat - '0'.toNat)) 0

/-- The number that a non-empty list of digits spells. -/
def natural? (digits : List Char) : Option Nat :=
  if digits.isEmpty then none
  else if digits.all Char.isDigit then some (digitsValue digits)
  else none

/-- The number that digits behind at most one sign spell. -/
def signed? : List Char → Option Int
  | '-' :: digits => (natural? digits).map fun n => -(n : Int)
  | '+' :: digits => (natural? digits).map fun n => (n : Int)
  | digits => (natural? digits).map fun n => (n : Int)

def inInt32 (n : Int) : Bool :=
  -0x80000000 ≤ n && n ≤ 0x7FFFFFFF

def status? (s : String) : Option Int :=
  (signed? (Text.trim s).toList).filter inInt32

/-! ## Calls -/

inductive InvocationFault where
  | arguments (fault : ArgumentFault)
  | arity (variant : Variant) (given : Nat)
  | status (raw : String)
  /-- The call was made for a variant that the dispatcher does not run. -/
  | mismatch (called runs : Variant)
  deriving Repr, DecidableEq

def InvocationFault.text : InvocationFault → String
  | .arguments fault => fault.text
  | .arity variant given =>
    variant.name ++ " variant expects " ++ toString variant.arity ++ " arguments, got " ++
      toString given
  | .status raw =>
    "exit status " ++ Text.quote raw ++
      " is not a 32-bit integer, cannot tell success from failure"
  | .mismatch called runs =>
    "invocation built for the " ++ called.name ++ " variant, dispatcher runs " ++ runs.name

structure Invocation where
  variant : Variant
  taskId : String
  exitStatus : Int
  /-- The control socket of the engine, if it is to be asked. -/
  socketPath : Option String
  deriving Repr, DecidableEq

/-- The number of arguments is checked before the status. An empty socket path means none. -/
def Invocation.make (variant : Variant) (taskId status : String) (socketPath : Option String) :
    Except InvocationFault Invocation :=
  let given := 2 + (if socketPath.isSome then 1 else 0)
  if given ≠ variant.arity then .error (.arity variant given)
  else match status? status with
    | some n => .ok ⟨variant, taskId, n, socketPath.filter (· ≠ "")⟩
    | none => .error (.status status)

end TaskMail
