/-
EgressPolicy/Main.lean

The program on a real file system.  It has no means to talk to name servers,
so every host name that has to be looked up stays unresolved.
-/
import EgressPolicy.CommandLine.Run

namespace EgressPolicy

/-- What an error of the file system says about a file. -/
def FileFault.ofError : IO.Error → FileFault
  | .inappropriateType _ 21 _ => .isDirectory
  | .inappropriateType .. => .notDirectory
  | .permissionDenied .. => .forbidden
  | .invalidArgument _ 22 _ => .nulInPath
  | .invalidArgument .. => .nameTooLong
  | _ => .missing

/-- The content of a file. -/
def readFile (path : String) : IO FileContent := do
  try return .ok (← IO.FS.readBinFile path)
  catch e => return .error (.ofError e)

end EgressPolicy

open EgressPolicy in
/-- Do what the arguments ask for, and say how it went. -/
def main (args : List String) : IO UInt32 := do
  let outcome ← CommandLine.run readFile .silent args
  match outcome with
  | .done lines => lines.forM IO.println
  | .failed failure => IO.eprintln ("Error: " ++ failure.message)
  | .misused => CommandLine.usage.forM IO.eprintln
  return outcome.status.toUInt32
