import BusTraits.Command.Arguments
import BusTraits.Text.Blank
import BusTraits.Text.LowerCase

/-!
# Settings

The settings of a run come from the arguments, each of which a variable of the environment can
override. A variable that is set but empty counts: it stands for standard input, for standard
output, or for no.
-/

namespace BusTraits.Command

/-- The variables that override the arguments, as far as they are set. -/
structure Environment where
  input : Option String := none
  output : Option String := none
  server : Option String := none
  verbose : Option String := none
  deriving DecidableEq, Repr

/-- Whether the value of a variable means yes. -/
def isYes (value : String) : Bool :=
  String.ofList (Text.lower (Text.trim value.toList)) ∈ ["1", "true", "yes", "on"]

/-- What a run is to do. -/
structure Settings where
  input : Option String := none
  output : Option String := none
  server : Bool := false
  verbose : Bool := false
  deriving DecidableEq, Repr

namespace Settings

/-- The settings that the arguments and the environment make up. -/
def of (o : Options) (e : Environment) : Settings where
  input := e.input.or o.input
  output := e.output.or o.output
  server := (e.server.map isYes).getD o.server
  verbose := (e.verbose.map isYes).getD o.verbose

/-- The file that the generated code goes to, if it does not go to standard output. -/
def outputFile? (s : Settings) : Option String := s.output.filter (· ≠ "")

end Settings

end BusTraits.Command
