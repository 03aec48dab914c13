import LinkBus.CommandLine

/-!
# The program

Reads the command line and the file of the settings, and prints. Kernel and bus are out of its
reach, so it serves no one by itself.
-/

namespace LinkBus

/-- What is found at a path. Nothing is found below a path that is no directory. -/
def find (path : String) : IO FileContent := do
  try
    return .bytes (← IO.FS.readBinFile path).toList
  catch
    | .noFileOrDirectory .. => return .absent
    | .inappropriateType _ code _ => return if code = 21 then .directory else .absent
    | fault => throw fault

/-- Does what was asked for, and tells the exit status. -/
def perform : CommandLine.Action → IO UInt32
  | .print text => do
    IO.print text
    return 0
  | .misuse => do
    IO.eprintln "For more information, try '--help'."
    return 2
  | .refuse fault => do
    IO.eprintln fault.toFailure.message
    return 1
  | .dumpState _ | .serve _ => do
    IO.eprintln "no kernel socket"
    return 1

end LinkBus

open LinkBus in
/-- The program. -/
def main (arguments : List String) : IO UInt32 := do
  match CommandLine.parse arguments with
  | .run given =>
    let found ← find given.configPath
    perform (given.action found)
  | command => perform (command.action fun _ => .absent)
