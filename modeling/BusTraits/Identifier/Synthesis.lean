import BusTraits.Identifier.CaseFold
import BusTraits.Identifier.Keyword
import BusTraits.Identifier.Scope

/-!
# Identifiers for names

A name becomes an identifier in steps: fold it to snake case, put something in front of what has
no letter or starts with a digit, put the affix of its use in front (`get_`, `set_`, `emit_`),
escape a keyword. That is its base. When the base is taken already, the first free of a sequence
of candidates is used: `name_2`, `name_3` and so on, or for the accessors of a property
`name_prop`, `name_prop2` and so on.

A scope of `n` names cannot hold `n + 1` candidates, so the search is over within that many.
-/

namespace BusTraits

/-- An identifier that was given out, with the base it comes from and the name it stands for. -/
structure Identifier where
  name : String
  base : String
  rawName : String
  deriving DecidableEq, Repr

namespace Identifier

/-- Whether an identifier is not the base of its name. -/
def diverges (i : Identifier) : Bool := i.name != i.base

/-- An identifier, written out. -/
def outline (i : Identifier) : String :=
  "Identifier(name=" ++ Text.quoted i.name ++ ", base=" ++ Text.quoted i.base ++ ", raw_name=" ++
    Text.quoted i.rawName ++ ")"

/-! ## Bases -/

/-- The name of what has no name. -/
def placeholder : String := "arg"

/-- The identifier for a name, before anything is known of other names. -/
def baseFor (name : Option String) (affix : String := "") : String :=
  let folded := (name.map foldCase).getD ""
  let started :=
    match folded.toList with
    | [] => placeholder
    | c :: _ => if Text.isDigit c then "_" ++ folded else folded
  escapeKeyword (affix ++ started)

/-! ## Candidates -/

/-- What an identifier names. -/
inductive Role where
  | method
  | property
  | argument
  | signal
  deriving DecidableEq, Repr

/-- The identifiers to try for a base, in order. The first is the base itself. -/
def candidate (role : Role) (base : String) : Nat → String
  | 0 => base
  | n + 1 =>
    match role, n with
    | .property, 0 => base ++ "_prop"
    | .property, n => base ++ "_prop" ++ toString (n + 1)
    | _, n => base ++ "_" ++ toString (n + 2)

/-- The first free one of the names from the `n`-th on, of which at most `fuel` are passed over.
-/
def Scope.firstFree (s : Scope) (names : Nat → String) : (fuel n : Nat) → String
  | 0, n => names n
  | fuel + 1, n => if names n ∈ s then firstFree s names fuel (n + 1) else names n

/-- Gives out the identifier for a name and takes it. -/
def Scope.claim (s : Scope) (role : Role) (name : Option String) (affix : String := "") :
    Identifier × Scope :=
  let base := baseFor name affix
  let chosen := s.firstFree (candidate role base) s.size 0
  (⟨chosen, base, name.getD placeholder⟩, s.add chosen)

end Identifier

end BusTraits
