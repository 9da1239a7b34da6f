import BusTraits.Command.Run

/-!
# The command

Runs the command on the files, streams and variables of the system.
-/

namespace BusTraits.Command

/-- The reason that the system gives for an error, if it is one of those that are reported. -/
def causeOf (e : IO.Error) : Option FileError.Cause :=
  match e with
  | .noFileOrDirectory .. | .noSuchThing .. => some .notFound
  | .permissionDenied .. => some .denied
  | .inappropriateType _ code _ => if code = 21 then some .isDirectory else some .notDirectory
  | .resourceExhausted _ code _ => if code = 28 then some .noSpace else none
  | .invalidArgument _ code _ => if code = 36 then some .nameTooLong else none
  | _ => none

/-- Does something with a file, whose path is told in an error if there is one. -/
def attempt (path : Option String) (action : IO α) : IO (Except FileError α) := do
  try return .ok (← action)
  catch e =>
    match causeOf e with
    | some cause => return .error (.system cause path)
    | none => throw e

/-- Does something with the file at a path. -/
def withPath (path : String) (action : IO α) : IO (Except FileError α) := do
  if '\x00' ∈ path.toList then return .error .nullCharacter
  attempt path action

/-- Reads a stream to its end. -/
partial def readStream (stream : IO.FS.Stream) (read : ByteArray := .empty) : IO ByteArray := do
  let bytes ← stream.read 65536
  if bytes.isEmpty then return read
  readStream stream (read ++ bytes)

/-- The text of the document that the settings name. -/
def fetch (s : Settings) : IO (Except FileError String) := do
  match s.converter.inputFile? with
  | none => return Folder.decode (← readStream (← IO.getStdin))
  | some path => return (← withPath path (IO.FS.readBinFile path)).bind Folder.decode

/-- Tells the user of what went wrong with a file. -/
def fail (e : FileError) : IO UInt32 := do
  IO.eprintln e.message
  return 1

/-- Delivers the code. -/
def deliver (s : Settings) (code : String) : IO UInt32 := do
  match s.outputFile? with
  | none =>
    IO.print code
    return 0
  | some path =>
    match ← withPath path (IO.FS.Handle.mk path .write) with
    | .error e => fail e
    | .ok file =>
      match ← attempt none (do file.putStr code; file.flush) with
      | .error e => fail e
      | .ok () =>
        IO.eprintln (Settings.deliveryLine path)
        return 0

/-- The variables that are set. -/
def environment : IO Environment :=
  return {
    input := ← IO.getEnv "XMLGEN_INPUT_FILE"
    output := ← IO.getEnv "XMLGEN_OUTPUT_FILE"
    server := ← IO.getEnv "XMLGEN_SERVER"
    verbose := ← IO.getEnv "XMLGEN_VERBOSE" }

end BusTraits.Command

open BusTraits.Command in
/-- The command. -/
def main (arguments : List String) : IO UInt32 := do
  match Options.parse arguments with
  | .error .help =>
    IO.print helpText
    return 0
  | .error (.usage e) =>
    IO.eprint e.text
    return 2
  | .ok options =>
    let settings := Settings.of options (← environment)
    let (result, lines) := settings.convert (← fetch settings)
    IO.eprint (printed lines)
    match result with
    | .error (.exit code) => return code.toUInt32
    | .error (.failure e) => fail e
    | .ok code => deliver settings code
