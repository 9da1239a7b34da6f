import BusTraits.Command.Folder
import BusTraits.Interface.Introspection
import BusTraits.Trait.Source

/-!
# The converter

A converter holds the interfaces of the document it read last and the remarks on the code it
generated last. Each of its steps gives a result, lines for the user, and the converter after it.

A document that cannot be read or is at fault leaves the interfaces as they are. Generating
forgets the remarks made before, and makes none if it fails.
-/

namespace BusTraits.Command

/-- Where the document is, what to generate from it, and what has come of it so far. -/
structure Converter where
  input : Option String := none
  server : Bool := false
  verbose : Bool := false
  interfaces : List Interface := []
  remarks : List Signature.Remark := []
  deriving DecidableEq, Repr

namespace Converter

/-- What a step gives. -/
structure Step (α : Type) where
  result : α
  lines : List String
  converter : Converter

/-- The file that the document is in, if it does not come from standard input. -/
def inputFile? (c : Converter) : Option String := c.input.filter (· ≠ "")

/-- The name of the document in messages. -/
def source (c : Converter) : String := c.inputFile?.getD "<stdin>"

/-- The kind of traits to generate. -/
def style (c : Converter) : Style := if c.server then .server else .proxy

/-- A line for a verbose run. -/
def debug (c : Converter) (text : String) : List String :=
  if c.verbose then ["[DEBUG] " ++ text] else []

/-- The text of the document, in a folder and with bytes to come from standard input. -/
def fetch (c : Converter) (folder : Folder) (standardInput : ByteArray) :
    Except FileError String :=
  match c.inputFile? with
  | some path => folder.read path
  | none => Folder.decode standardInput

/-- The line that tells what is read. -/
def readingLine (c : Converter) : String :=
  match c.inputFile? with
  | some path => "Reading " ++ path
  | none => "Reading introspection XML from stdin"

/-- Reads the interfaces of the document, whose text is given. The result says whether that went
well. A file that could not be opened is reported; any other trouble with the file is an error. -/
def parse (c : Converter) (text : Except FileError String) : Step (Except FileError Bool) :=
  let reading := c.debug c.readingLine
  match text with
  | .error (.system cause path) =>
    ⟨.ok false, reading ++ ["Error: " ++ (FileError.system cause path).message], c⟩
  | .error e => ⟨.error e, reading, c⟩
  | .ok text =>
    match Introspection.parse text with
    | .error fault => ⟨.ok false, reading ++ ["Error: " ++ fault.message c.source], c⟩
    | .ok interfaces =>
      let found := "Found " ++ toString interfaces.length ++ " interface(s): " ++
        ", ".intercalate (interfaces.map (·.name))
      ⟨.ok true, reading ++ c.debug found, { c with interfaces }⟩

/-- Generates the code for the interfaces. There is none if a signature is rejected. -/
def generate (c : Converter) : Step (Option String) :=
  let (result, trace) := c.style.generateAll c.interfaces c.verbose
  let lines := trace.map fun event => "[DEBUG] " ++ event.message
  match result with
  | .error fault =>
    ⟨none, lines ++ ["Error: " ++ fault.message], { c with remarks := [] }⟩
  | .ok source => ⟨some source.text, lines, { c with remarks := source.remarks }⟩

/-- The lines that tell the user of the remarks. -/
def report (c : Converter) : List String :=
  if c.remarks.isEmpty then []
  else "\nWarnings:" :: c.remarks.map fun r => "  " ++ r.message

end Converter

end BusTraits.Command
