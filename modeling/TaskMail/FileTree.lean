import TaskMail.Machine

/-!
# TaskMail.FileTree

A machine of which the files are known.

* `Script`           — what a program of the tree is told to do.
* `Entry`            — what a name in a directory can stand for.
* `FileTree`         — what the root holds, and the directory that paths begin in.
* `FileTree.follow`  — what the segments of a path lead to.
* `FileTree.locate`  — what a path leads to.
* `FileTree.machine` — the machine.
-/

namespace TaskMail

/-- A program that reads, raises a signal if it is told to, and exits if it has not ended by then.
Where a signal stops it, it is let go on. -/
structure Script where
  exitCode : Int
  signal : Option Int
  reads : Option Nat
  deriving Repr, DecidableEq

namespace Script

/-- The signals that do not end a program which says nothing about them: a child has changed, a
stopped program goes on, a program stops, urgent data has come, a window has another size. -/
def quietSignals : List Int := [17, 18, 19, 20, 21, 22, 23, 28]

/-- The signals that a program cannot raise: its library keeps them for itself. -/
def reservedSignals : List Int := [32, 33]

/-- The signal that ends a program which raises the one of this number. -/
def deadly? (number : Int) : Option Signal :=
  if number ∈ quietSignals ++ reservedSignals then none
  else if h : 1 ≤ number ∧ number ≤ 64 then some ⟨number, h⟩
  else none

def behaviour (s : Script) : Behaviour :=
  ⟨s.exitCode, s.signal.bind deadly?, s.reads⟩

end Script

inductive Entry where
  | directory (contents : List (Bytes × Entry))
  | file
  | program (script : Script)
  | socket (peer : Peer)
  deriving Repr

/-- What a directory holds, each name once. -/
abbrev Contents := List (Bytes × Entry)

structure FileTree where
  root : Contents
  /-- The names from the root to the directory that paths without a slash in front begin in. -/
  workingDirectory : List Bytes
  deriving Repr

namespace FileTree

/-- Segments that lead nowhere else. -/
def isStay (segment : Bytes) : Bool :=
  segment == [] || segment == Utf8.encode "."

def isParent (segment : Bytes) : Bool :=
  segment == Utf8.encode ".."

/-- What the segments of a path lead to, from a directory in some others, the innermost first. The
root is its own parent. A name in front of a slash has to be that of a directory. -/
def follow (here : Contents) (around : List Contents) : List Bytes → Except OsError Entry
  | [] => .ok (.directory here)
  | segment :: rest =>
    if isStay segment then follow here around rest
    else if isParent segment then
      match around with
      | [] => follow here [] rest
      | parent :: further => follow parent further rest
    else if Machine.nameLimit < segment.length then .error .nameTooLong
    else match here.lookup segment with
      | none => .error .notFound
      | some (.directory inside) => follow inside (here :: around) rest
      | some e => if rest.isEmpty then .ok e else .error .notADirectory

/-- The segments of a path from the root. -/
def fromRoot (t : FileTree) (path : Bytes) : List Bytes :=
  let segments := Text.segments Machine.slash path
  if path.head? = some Machine.slash then segments else t.workingDirectory ++ segments

def locate (t : FileTree) (path : Bytes) : Except OsError Entry :=
  if path.isEmpty then .error .notFound
  else if Machine.pathLimit ≤ path.length then .error .nameTooLong
  else follow t.root [] (t.fromRoot path)

/-- Only a program can be run. -/
def programAt (t : FileTree) (path : Bytes) : Except OsError Behaviour :=
  match t.locate path with
  | .ok (.program script) => .ok script.behaviour
  | .ok _ => .error .permissionDenied
  | .error e => .error e

/-- Only a socket can be connected to, and nobody listens under an abstract name. -/
def peerAt (t : FileTree) (path : Bytes) : Except OsError Peer :=
  if Machine.isAbstract path then .error .connectionRefused
  else match t.locate path with
    | .ok (.socket peer) => .ok peer
    | .ok _ => .error .connectionRefused
    | .error e => .error e

def machine (t : FileTree) : Machine :=
  ⟨t.programAt, t.peerAt, Machine.standardLimit⟩

end FileTree

end TaskMail
