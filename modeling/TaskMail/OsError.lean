/-!
# TaskMail.OsError

Failures of the operating system that the program reports.
-/

namespace TaskMail

inductive OsError where
  | notFound
  | argumentsTooLong
  | permissionDenied
  | notADirectory
  | isADirectory
  | invalidArgument
  | brokenPipe
  | nameTooLong
  | connectionReset
  | connectionRefused
  /-- No such thing, from a source that has no code for it. -/
  | entityNotFound
  | refused
  | nulInArgument
  | nulInPath
  | pathTooLong
  | abstractNameTooLong
  | other (text : String)
  deriving Repr, DecidableEq

def OsError.text : OsError → String
  | .notFound => "No such file or directory (os error 2)"
  | .argumentsTooLong => "Argument list too long (os error 7)"
  | .permissionDenied => "Permission denied (os error 13)"
  | .notADirectory => "Not a directory (os error 20)"
  | .isADirectory => "Is a directory (os error 21)"
  | .invalidArgument => "Invalid argument (os error 22)"
  | .brokenPipe => "Broken pipe (os error 32)"
  | .nameTooLong => "File name too long (os error 36)"
  | .connectionReset => "Connection reset by peer (os error 104)"
  | .connectionRefused => "Connection refused (os error 111)"
  | .entityNotFound => "entity not found"
  | .refused => "connection refused"
  | .nulInArgument => "nul byte found in provided data"
  | .nulInPath => "paths must not contain interior null bytes"
  | .pathTooLong => "path must be shorter than SUN_LEN"
  | .abstractNameTooLong => "abstract socket name must be shorter than SUN_LEN"
  | .other text => text

end TaskMail
