import BusTraits.Text.Quoted
import BusTraits.Trait.Basic

/-!
# Declarations, written out

The outlines of the declarations of a trait and of their parameters.
-/

namespace BusTraits

open Text

/-- The outline of a parameter: its identifier and its type. -/
def Parameter.outline (p : Parameter) : String :=
  "DeclaredParameter(" ++ quoted p.identifier ++ ": " ++ quoted p.rustType ++ ")"

/-- The outline of a declaration. -/
def Declaration.outline (d : Declaration) : String :=
  "Declaration(role=" ++ quoted d.role.word ++ ", identifier=" ++ quoted d.identifier ++
    ", parameters=" ++ bracketed (d.parameters.map Parameter.outline) ++ ", return_type=" ++
    quoted? d.role.returnType? ++ ")"

end BusTraits
