import TaskMail.Dispatcher
import TaskMail.Environment
import TaskMail.Text.Segments

/-!
# TaskMail.Machine

The machine that the plugin runs on, as far as the plugin can tell.

* `Behaviour`     — what a program does, and how it ends.
* `Machine`       — the programs that can be run and the sockets that can be reached.
* `Machine.start` — starting a program, which may be looked for in several directories.
* `Machine.connect` — reaching a socket, whose name need not be a path.
* `Session`       — what has happened: queries, delivered mails, the log.
* `Machine.send`, `Machine.fetch` — the exchange with the mail program and with the engine.
* `Machine.collaborators` — both, for a dispatcher.
-/

namespace TaskMail

/-- There are 64 signals. -/
structure Signal where
  number : Int
  inRange : 1 ≤ number ∧ number ≤ 64
  deriving Repr, DecidableEq

/-- What a program does once it runs: it reads from its input and ends. -/
structure Behaviour where
  exitCode : Int
  /-- The signal that ends it, if one does. Its exit code says nothing then. -/
  signal : Option Signal
  /-- How much of its input it reads, if not all of it. -/
  reads : Option Nat
  deriving Repr, DecidableEq

/-- What the plugin ends with: exit codes have eight bits, and signals follow on 128. -/
def Behaviour.code (b : Behaviour) : Int :=
  match b.signal with
  | some signal => 128 + signal.number
  | none => b.exitCode % 256

/-- A program that has been found: the path that it is run by, and what it does. -/
structure Program where
  path : Bytes
  behaviour : Behaviour
  deriving Repr, DecidableEq

/-- What happens to who connects to the socket. -/
inductive Peer where
  | responds (response : Bytes)
  | resets
  deriving Repr, DecidableEq

/-- What the plugin can reach, by path, and what it can pass on. -/
structure Machine where
  /-- The program at a path, or why nothing can be run there. -/
  programAt : Bytes → Except OsError Behaviour
  /-- The peer behind a socket, or why nobody can be reached there. A name that begins with a NUL
  is abstract: it is no path. -/
  peerAt : Bytes → Except OsError Peer
  /-- How many octets there are for the path of a program, its arguments and its environment. -/
  passedLimit : Nat

/-- What the mail program was given: its arguments and what it read. -/
structure Delivery where
  arguments : List String
  body : Bytes
  deriving Repr, DecidableEq

/-- What has happened so far, in the order of time. -/
structure Session where
  /-- The socket paths and tasks that were asked about, whether anybody could be reached or
  not. -/
  asked : List (Bytes × String)
  /-- The queries that a peer has read. -/
  queries : List String
  /-- The mails that a program was started for. -/
  deliveries : List Delivery
  events : List Log.Event
  deriving Repr

namespace Session

def empty : Session := ⟨[], [], [], []⟩

def log (e : Log.Event) : StateM Session Unit :=
  modify fun s => { s with events := s.events ++ [e] }

end Session

namespace Machine

/-! ## Programs -/

def slash : UInt8 := 0x2F

def colon : UInt8 := 0x3A

/-- A path has fewer octets. -/
def pathLimit : Nat := 4096

/-- A name in a path has no more octets. -/
def nameLimit : Nat := 255

/-- An argument, and an entry of the environment, has fewer octets. -/
def argumentLimit : Nat := 131072

/-- What the system keeps for programs where nothing is said about it: a quarter of a stack of eight
megabytes. -/
def standardLimit : Nat := 2097152

/-- What an argument takes besides its octets: an end mark and a place in a list. -/
def argumentFrame : Nat := 9

/-- What the path of a program takes besides its octets. -/
def pathFrame : Nat := 1

def searchPathVariable : String := "PATH"

/-- Where programs are looked for when nothing is said about it. -/
def defaultSearchPath : String := "/bin:/usr/bin"

def searchPath (e : Environment) : Bytes :=
  (e.octets? searchPathVariable).getD (Utf8.encode defaultSearchPath)

/-- The directories of a search path. One that is too long to be looked into counts as empty, and
at the end of the path not at all. -/
def searchDirectories : List Bytes → List Bytes
  | [] => []
  | directory :: rest =>
    if directory.length < pathLimit then directory :: searchDirectories rest
    else if rest.isEmpty then []
    else [] :: searchDirectories rest

/-- The path of a name in a directory. The empty directory is the working directory. -/
def pathIn (directory name : Bytes) : Bytes :=
  if directory.isEmpty then name else Text.joined slash [directory, name]

/-- Why the search goes on behind a directory. -/
def isMiss (e : OsError) : Bool :=
  e == .notFound || e == .notADirectory || e == .permissionDenied

/-- The program at a path. -/
def programIn (m : Machine) (path : Bytes) : Except OsError Program :=
  (m.programAt path).map fun b => ⟨path, b⟩

/-- The first program of that name in some directories. When there is none, a file of that name
that cannot be run counts for more than the latest failure. -/
def search (m : Machine) (name : Bytes) (failure : OsError) : List Bytes → Except OsError Program
  | [] => .error failure
  | directory :: rest =>
    match m.programIn (pathIn directory name) with
    | .ok program => .ok program
    | .error e =>
      if !isMiss e then .error e
      else m.search name (if failure = .permissionDenied then failure else e) rest

/-- The program that a name or a path stands for. A name has no slash; of one that is too long it
is enough to see that it is. -/
def find (m : Machine) (e : Environment) (program : Bytes) : Except OsError Program :=
  if program.isEmpty then .error .notFound
  else if program.contains slash then m.programIn program
  else
    m.search (program.take (nameLimit + 1)) .notFound
      (searchDirectories (Text.segments colon (searchPath e)))

def hasNul (s : String) : Bool :=
  s.toList.contains '\x00'

/-- Whether the program at a path can be given some arguments and entries. -/
def canPass (m : Machine) (path : Bytes) (passed : List Bytes) : Bool :=
  passed.all (fun s => s.length < argumentLimit) &&
    passed.foldl (fun taken s => taken + s.length + argumentFrame) (path.length + pathFrame) ≤
      m.passedLimit

/-- Starts a program. It is passed its own name, the arguments and the environment. -/
def start (m : Machine) (e : Environment) (program : String) (arguments : List String) :
    Except OsError Behaviour :=
  if hasNul program || arguments.any hasNul then .error .nulInArgument
  else match m.find e (Utf8.encode program) with
    | .error error => .error error
    | .ok found =>
      if m.canPass found.path ((program :: arguments).map Utf8.encode ++ e.entries) then
        .ok found.behaviour
      else .error .argumentsTooLong

/-- A pipe holds so many octets that nobody has read. -/
def pipeCapacity : Nat := 65536

/-- Runs the mail program, with the body on its standard input. -/
def send (m : Machine) (e : Environment) (program : String) (mail : Mail) :
    StateM Session (Except SendFailure Int) := do
  Session.log (.spawning program mail.arguments)
  match m.start e program mail.arguments with
  | .error error => return .error (.spawn program error)
  | .ok b =>
    let body := Utf8.encode mail.body
    let read := body.take (b.reads.getD body.length)
    modify fun s => { s with deliveries := s.deliveries ++ [⟨mail.arguments, read⟩] }
    if read.length < body.length ∧ pipeCapacity < body.length then
      Session.log .inputClosed
    Session.log (.mailExited b.code)
    return .ok b.code

/-! ## The socket -/

/-- The longest path of a socket has one octet less. -/
def socketPathLimit : Nat := 108

def isAbstract (path : Bytes) : Bool :=
  path.head? == some 0

/-- Connects to a socket. An abstract name needs no room for an end mark, and may hold any
octet. -/
def connect (m : Machine) (path : Bytes) : Except OsError Peer :=
  if isAbstract path then
    if path.length ≤ socketPathLimit then m.peerAt path else .error .abstractNameTooLong
  else if path.contains 0 then .error .nulInPath
  else if socketPathLimit ≤ path.length then .error .pathTooLong
  else if path.isEmpty then .error .invalidArgument
  else m.peerAt path

/-- Asks the engine for the metadata of a task. -/
def fetch (m : Machine) (path : Bytes) (taskId : String) :
    StateM Session (Except FetchFailure Metadata) := do
  modify fun s => { s with asked := s.asked ++ [(path, taskId)] }
  match m.connect path with
  | .error e => return .error (.connect path e)
  | .ok peer =>
    let query := workflowQuery taskId
    Session.log (.querying (Utf8.decodeLossy path) query)
    match peer with
    | .resets => return .error (.io .connectionReset)
    | .responds response =>
      modify fun s => { s with queries := s.queries ++ [query] }
      Session.log (.responseReceived response.length)
      return (Metadata.ofResponse response).mapError .malformed

def collaborators (m : Machine) (e : Environment) (program : String) : Collaborators Session where
  fetch := fun path taskId => m.fetch (Utf8.encode path) taskId
  send := m.send e program
  log := Session.log

end Machine

end TaskMail
