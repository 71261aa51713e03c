import TaskMail.EnvFile
import TaskMail.Log.Format
import TaskMail.Machine

/-!
# TaskMail.Plugin

The plugin as the engine starts it.

* `Start`   — the command line, the standard input, the environment with its file, the machine.
* `Plugin`  — the same when the file has been read.
* `Finish`  — the exit code, what has happened on the way, and the log.
* `Plugin.run` — one run: settings, command line, call, standard input, dispatcher.
* `Start.finish` — a run with its log, or what comes of a file whose variables cannot be set. What a
  program that is broken off says of itself is no part of its log, and is left out.
-/

namespace TaskMail

structure Start where
  words : List Bytes
  stdin : Except OsError Bytes
  environment : Environment
  /-- The text of the file of variables, if there is one. -/
  envFile : Option String
  machine : Machine

structure Plugin where
  words : List Bytes
  stdin : Except OsError Bytes
  /-- The environment with the variables of the file. -/
  environment : Environment
  machine : Machine

structure Finish where
  exitCode : Int
  session : Session
  log : List Log.Line

namespace Plugin

def settings (p : Plugin) : Settings :=
  Settings.read p.environment.text?

/-- The call that the command line makes. -/
def invocation (p : Plugin) : Except InvocationFault Invocation :=
  match Arguments.read p.words with
  | .error fault => .error (.arguments fault)
  | .ok arguments =>
    Invocation.make p.settings.variant arguments.taskId arguments.status arguments.socketPath

/-- The call and the standard input. -/
def accept (p : Plugin) : Except Failure (Invocation × Bytes) :=
  match p.invocation with
  | .error fault => .error (.invocation fault)
  | .ok invocation =>
    match p.stdin with
    | .error e => .error (.read (.os e))
    | .ok stdin => .ok (invocation, stdin)

def collaborators (p : Plugin) : Collaborators Session :=
  p.machine.collaborators p.environment p.settings.mailProgram

/-- What the settings give to tell. -/
def announce (p : Plugin) : StateM Session Unit := do
  match Settings.unknownVariant? p.environment.text? with
  | some name => Session.log (.unknownVariant name)
  | none => pure ()
  Session.log (.settingsLoaded p.settings)

def run (p : Plugin) : StateM Session (Except Failure Outcome) := do
  p.announce
  match p.accept with
  | .error failure => return .error failure
  | .ok (invocation, stdin) =>
    p.settings.dispatcher.run p.collaborators invocation stdin

/-- A failure is the last thing that the log tells. -/
def runToEnd (p : Plugin) : StateM Session Int := do
  match ← p.run with
  | .ok outcome => return outcome.exitCode
  | .error failure =>
    Session.log (.failed failure)
    return failure.exitCode

def formatVariable : String := "LOG_FORMAT"

def filterVariable : String := "RUST_LOG"

/-- The format of the log, and a warning when its name is unknown. -/
def logFormat (p : Plugin) : Log.Format × Option String :=
  match p.environment.text? formatVariable with
  | some name => Log.Format.read name
  | none => (.pretty, none)

def logFilter (p : Plugin) : Log.Filter :=
  Log.Filter.ofVariable (p.environment.text? filterVariable)

/-- The log of a run: the warning about its format is kept whatever the filter says. -/
def logLines (p : Plugin) (events : List Log.Event) : List Log.Line :=
  let (format, warning) := p.logFormat
  warning.toList.map .text ++ Log.lines format p.logFilter events

def finish (p : Plugin) : Finish :=
  let (exitCode, session) := p.runToEnd.run Session.empty
  ⟨exitCode, session, p.logLines session.events⟩

end Plugin

namespace Start

/-- The environment with the variables of the file, if they could be set. -/
def fullEnvironment? (s : Start) : Option Environment :=
  match s.envFile with
  | some text => EnvFile.apply s.environment text
  | none => some s.environment

def plugin? (s : Start) : Option Plugin :=
  s.fullEnvironment?.map fun e => ⟨s.words, s.stdin, e, s.machine⟩

/-- The exit code of a program that is broken off. -/
def brokenOffCode : Int := 101

/-- Without its variables the program has neither settings nor a log, and it is broken off. -/
def finish (s : Start) : Finish :=
  match s.plugin? with
  | some p => p.finish
  | none => ⟨brokenOffCode, Session.empty, []⟩

end Start

end TaskMail
