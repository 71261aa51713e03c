import TaskMail.Failure
import TaskMail.Metadata
import TaskMail.Settings
import TaskMail.Trigger

/-!
# TaskMail.Log.Event

What the program tells about its work.

* `Level`        — how much an event matters.
* `Event`        — what can happen.
* `Record`       — an event as the log keeps it: level, target, message and fields.
* `Event.record` — the record of an event.
-/

namespace TaskMail.Log

inductive Level where
  | error
  | warn
  | info
  | debug
  deriving Repr, DecidableEq

/-- The more an event matters, the lower it ranks. -/
def Level.rank : Level → Nat
  | .error => 1
  | .warn => 2
  | .info => 3
  | .debug => 4

def Level.name : Level → String
  | .error => "ERROR"
  | .warn => "WARN"
  | .info => "INFO"
  | .debug => "DEBUG"

inductive Event where
  | unknownVariant (name : String)
  | settingsLoaded (settings : Settings)
  /-- The engine is not asked, and so many tokens are known without it. -/
  | noSocket (tokens : Nat)
  | querying (socket query : String)
  | responseReceived (size : Nat)
  | metadataUnavailable (failure : FetchFailure) (socket : String)
  | suppressed (taskId : String) (reason : Suppression)
  | dispatching (taskId recipient subject : String)
  | spawning (program : String) (arguments : List String)
  /-- The mail program did not read the whole body. -/
  | inputClosed
  | mailExited (code : Int)
  | dispatched (taskId : String) (exitCode : Int)
  | failed (failure : Failure)
  deriving Repr

inductive Field where
  | text (s : String)
  | number (n : Int)
  deriving Repr, DecidableEq

structure Record where
  level : Level
  target : String
  message : String
  fields : List (String × Field)
  deriving Repr, DecidableEq

def pluginTarget : String := "evq_notify_email"

def settingsTarget : String := "evq_notify_email::config"

def dispatcherTarget : String := "evq_notify_core::app::dispatcher"

def socketTarget : String := "evq_notify_core::impls::unix_socket"

def programTarget : String := "evq_notify_core::impls::command"

def Event.record : Event → Record
  | .unknownVariant name =>
    ⟨.warn, settingsTarget, Variant.unknownText name ++ ", falling back to extended", []⟩
  | .settingsLoaded settings =>
    ⟨.debug, pluginTarget, "plugin configuration loaded", [("config", .text settings.text)]⟩
  | .noSocket tokens =>
    ⟨.debug, dispatcherTarget, "no control socket, substituting the task id only",
      [("tokens", .number tokens)]⟩
  | .querying socket query =>
    ⟨.debug, socketTarget, "querying workflow instance",
      [("socket", .text socket), ("query", .text query)]⟩
  | .responseReceived size =>
    ⟨.debug, socketTarget, "workflow response received", [("bytes", .number size)]⟩
  | .metadataUnavailable failure socket =>
    ⟨.warn, dispatcherTarget, "workflow metadata unavailable, substituting empty values",
      [("error", .text failure.message), ("socket", .text socket)]⟩
  | .suppressed taskId reason =>
    ⟨.info, dispatcherTarget, "notification suppressed",
      [("task_id", .text taskId), ("reason", .text reason.text)]⟩
  | .dispatching taskId recipient subject =>
    ⟨.debug, dispatcherTarget, "dispatching notification",
      [("task_id", .text taskId), ("to", .text recipient), ("subject", .text subject)]⟩
  | .spawning program arguments =>
    ⟨.debug, programTarget, "spawning mail process",
      [("program", .text program), ("args", .text (Text.quoteList arguments))]⟩
  | .inputClosed =>
    ⟨.warn, programTarget, "mail process closed stdin before the body was written",
      [("error", .text OsError.brokenPipe.text)]⟩
  | .mailExited code =>
    ⟨.debug, programTarget, "mail process exited", [("code", .number code)]⟩
  | .dispatched taskId exitCode =>
    ⟨.info, dispatcherTarget, "notification dispatched",
      [("task_id", .text taskId), ("exit_code", .number exitCode)]⟩
  | .failed failure =>
    ⟨.error, pluginTarget, failure.message, [("exit_code", .number failure.exitCode)]⟩

end TaskMail.Log
