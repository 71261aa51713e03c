import TaskMail.Plugin

/-!
# TaskMail.Main

The command line: a dry run. The plugin reads its arguments, its environment, the file `.env` and
its standard input as it always does, and its log goes to standard error. No engine is asked, and
the mail is printed instead of being handed to the mail program.
-/

namespace TaskMail

/-- The variables that the plugin looks at. -/
def knownVariables : List String :=
  [Settings.senderVariable, Settings.mailProgramVariable, Settings.variantVariable,
    Plugin.formatVariable, Plugin.filterVariable, Machine.searchPathVariable]

def readVariables : IO Environment := do
  let mut e : Environment := .ofBindings []
  for name in knownVariables do
    if let some value ← IO.getEnv name then
      e := (e.set name (Utf8.encode value)).getD e
  return e

def readEnvFile : IO (Option String) := do
  try
    return some (← IO.FS.readFile ".env")
  catch _ =>
    return none

def readInput : IO (Except OsError Bytes) := do
  try
    return .ok (← (← IO.getStdin).readBinToEnd).toList
  catch e =>
    return .error (.other (toString e))

/-- Every mail program reads its input and succeeds, and nobody answers. -/
def dryMachine : Machine :=
  ⟨fun _ => .ok ⟨0, none, none⟩, fun _ => .error .notFound, Machine.standardLimit⟩

def printDelivery (d : Delivery) : IO Unit := do
  IO.println (Text.quoteList d.arguments)
  IO.print (Utf8.decodeLossy d.body)

end TaskMail

open TaskMail in
def main (words : List String) : IO UInt32 := do
  let s : Start := {
    words := words.map Utf8.encode
    stdin := ← readInput
    environment := ← readVariables
    envFile := ← readEnvFile
    machine := dryMachine }
  let f := s.finish
  for line in f.log do
    IO.eprintln line.shown
  for d in f.session.deliveries do
    printDelivery d
  return UInt32.ofNat (f.exitCode % 256).toNat
