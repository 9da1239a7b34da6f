import BusTraits.Command.Converter
import BusTraits.Command.Settings

/-!
# Runs of the command

A run reads one document, generates the code for it, tells of the remarks and delivers the code to
standard output or to a file. `run` says what comes of it in a given folder. Code is delivered
only when everything before went well, so that a run which fails before that writes nothing
anywhere.
-/

namespace BusTraits.Command

/-- What a run is given. -/
structure Invocation where
  arguments : List String := []
  environment : Environment := {}
  standardInput : ByteArray := .empty
  folder : Folder := {}

/-- How a run ends. -/
inductive Ending where
  | exit (code : Nat)
  | failure (error : FileError)
  deriving DecidableEq, Repr

/-- What comes of a run. -/
structure Outcome where
  ending : Ending
  output : String := ""
  errors : String := ""
  folder : Folder

/-- Lines as they are printed. -/
def printed (lines : List String) : String := String.join (lines.map (· ++ "\n"))

namespace Settings

/-- The converter of a run. -/
def converter (s : Settings) : Converter :=
  { input := s.input, server := s.server, verbose := s.verbose }

/-- The code for the document, whose text is given, and the lines for the user up to its delivery.
-/
def convert (s : Settings) (text : Except FileError String) : Except Ending String × List String :=
  let parsed := s.converter.parse text
  match parsed.result with
  | .error e => (.error (.failure e), parsed.lines)
  | .ok false => (.error (.exit 1), parsed.lines)
  | .ok true =>
    let generated := parsed.converter.generate
    let lines := parsed.lines ++ generated.lines
    match generated.result with
    | none => (.error (.exit 1), lines)
    | some code => (.ok code, lines ++ generated.converter.report)

/-- The line that tells where the code went. -/
def deliveryLine (path : String) : String := "Wrote " ++ path

/-- Delivers the code, after the given lines. -/
def deliver (s : Settings) (folder : Folder) (code : String) (lines : List String) : Outcome :=
  match s.outputFile? with
  | none => { ending := .exit 0, output := code, errors := printed lines, folder }
  | some path =>
    match folder.write path code with
    | (.error e, folder) => { ending := .failure e, errors := printed lines, folder }
    | (.ok (), folder) =>
      { ending := .exit 0, errors := printed (lines ++ [deliveryLine path]), folder }

/-- A run with these settings. -/
def run (s : Settings) (standardInput : ByteArray) (folder : Folder) : Outcome :=
  match s.convert (s.converter.fetch folder standardInput) with
  | (.error ending, lines) => { ending, errors := printed lines, folder }
  | (.ok code, lines) => s.deliver folder code lines

end Settings

/-- What comes of a run of the command. -/
def run (i : Invocation) : Outcome :=
  match Options.parse i.arguments with
  | .error .help => { ending := .exit 0, output := helpText, folder := i.folder }
  | .error (.usage e) => { ending := .exit 2, errors := e.text, folder := i.folder }
  | .ok options => (Settings.of options i.environment).run i.standardInput i.folder

end BusTraits.Command
