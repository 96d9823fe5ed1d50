import Reindent.CommandLine.Run

/-!
# The program

Looks up the files that the arguments name, runs, prints and writes. All
decisions are made in `CommandLine.execute`.
-/

namespace Reindent.CommandLine

def readBytes (path : String) : IO (Option (List UInt8)) := do
  try
    return some (← IO.FS.readBinFile path).toList
  catch _ =>
    return none

def tryWrite (path : String) (text : String) : IO Bool := do
  try
    IO.FS.writeFile path text
    return true
  catch _ =>
    return false

/-- What a run needs to know of the files that its options name. The log file
is created here, so that it is empty before anything else is read. -/
def findFiles (options : Options) : IO Files := do
  let created ← match options.logFile with
    | some path => tryWrite path ""
    | none => pure false
  let contents ← (options.config.toList ++ options.file.toList).mapM fun path => do
    return (path, ← readBytes path)
  return { read := fun path => (contents.lookup path).join, creatable := fun _ => created }

def report (failure : Failure) : IO UInt32 := do
  (← IO.getStderr).putStrLn ("Error: " ++ failure.message)
  return 1

def perform : Ending → IO UInt32
  | .stopped _ => do
    (← IO.getStderr).putStrLn "a column is too large"
    return 101
  | .finished outcome => do
    if let some failure := outcome.failure then return ← report failure
    let stdout ← IO.getStdout
    stdout.putStr (String.ofList outcome.printed)
    stdout.flush
    match outcome.written with
    | none => return 0
    | some (path, text) =>
      if ← tryWrite path (String.ofList text) then return 0 else report (.output path)

end Reindent.CommandLine

open Reindent.CommandLine in
def main (arguments : List String) : IO UInt32 := do
  match Request.ofArguments arguments with
  | .usageError =>
    (← IO.getStderr).putStrLn "error: invalid arguments\n\nFor more information, try '--help'."
    return 2
  | .help =>
    (← IO.getStdout).putStr helpText
    return 0
  | .run options =>
    let files ← if options.dumpSchema then pure ⟨fun _ => none, fun _ => false⟩
      else findFiles options
    perform (execute options files)
