import AsmListing.CommandLine.Run

/-!
# The command line program

Reads a listing from a file or from the standard input and prints it rendered,
as a summary of its blocks or as a graph.  This module asks the operating
system for what the pure run needs, and prints what it leaves behind.
-/

namespace AsmListing

/-- Reads a stream to its end. -/
partial def readToEnd (stream : IO.FS.Stream) (contents : ByteArray) : IO ByteArray := do
  let chunk ← stream.read 65536
  if chunk.isEmpty then
    return contents
  readToEnd stream (contents ++ chunk)

/-- The cause of a failure to read a file. -/
def ReadError.ofSystem : IO.Error → ReadError
  | .inappropriateType _ code _ => if code = 21 then .isDirectory else .notDirectory
  | .invalidArgument _ code _ => if code = 22 then .invalidPath else .nameTooLong
  | .permissionDenied _ _ _ => .permissionDenied
  | _ => .notFound

/-- Reads the file at a path. -/
def readPath (path : Text) : IO (Except ReadError Text) := do
  try
    let contents ← IO.FS.readBinFile (String.ofList path)
    return decodeText contents
  catch error => return .error (.ofSystem error)

/-- Reads the source files that a listing names. -/
def readSources (arguments : Arguments) (listing : Except ReadError Text) :
    IO (List (Text × Except ReadError Text)) :=
  match listing with
  | .error _ => return []
  | .ok text =>
    (requestedFiles (arguments.dialect.getD .intel) arguments.options text).mapM fun name =>
      return (name, ← readPath name)

/-- Runs arguments on the files of the operating system. -/
def Arguments.runOnSystem (arguments : Arguments) : IO Outcome := do
  match arguments.path? with
  | some path =>
    let listing ← readPath path
    let sources ← readSources arguments listing
    return arguments.run (Files.ofAnswers ((path, listing) :: sources)) ByteArray.empty
  | none =>
    let stdin ← readToEnd (← IO.getStdin) ByteArray.empty
    let sources ← readSources arguments (decodeText stdin)
    return arguments.run (Files.ofAnswers sources) stdin

end AsmListing

open AsmListing

/-- Runs the command line. -/
def main (arguments : List String) : IO UInt32 := do
  let texts := arguments.map String.toList
  let outcome ←
    match Arguments.ofList? texts with
    | none => pure (runCommandLine texts Files.none ByteArray.empty)
    | some parsed => parsed.runOnSystem
  IO.print (String.ofList outcome.stdout)
  IO.eprint (String.ofList outcome.stderr)
  return outcome.code.toUInt32
