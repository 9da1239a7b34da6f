import BusTraits.Identifier.Synthesis
import BusTraits.Interface.Basic
import BusTraits.RustType

/-!
# Traits

A trait is what is generated for an interface: a list of declarations, one for each method, each
accessor of a property and each signal, with identifiers chosen and types written in Rust. It is
the same for the client and the server up to its `Style`, which says what is put in front of the
names of accessors and signals.
-/

namespace BusTraits

/-- The two kinds of traits: a client calls the service, a server implements it. -/
inductive Style where
  | proxy
  | server
  deriving DecidableEq, Repr, Inhabited

namespace Style

/-- What the name of a getter starts with. -/
def getterAffix : Style → String
  | proxy => ""
  | server => "get_"

/-- What the name of a setter starts with. -/
def setterAffix : Style → String
  | proxy => "set_"
  | server => "set_"

/-- What the name of a signal starts with. -/
def signalAffix : Style → String
  | proxy => ""
  | server => "emit_"

/-- Whether signals are members of the trait, so that their names are in one scope with the
others. -/
def signalsAreMembers : Style → Bool
  | proxy => false
  | server => true

end Style

/-- A parameter of a function. -/
structure Parameter where
  identifier : String
  rustType : String
  wireName : Option String := none
  annotations : List Annotation := []
  deriving DecidableEq, Repr, Inhabited

/-- What a declaration does on the bus. -/
inductive Declaration.Role where
  | method (result : String)
  | getter (type : String)
  | setter
  | signal
  deriving DecidableEq, Repr, Inhabited

namespace Declaration.Role

/-- The Rust type of what comes back. A signal has none. -/
def returnType? : Role → Option String
  | method result => some result
  | getter type => some type
  | setter => some RustType.unit
  | signal => none

/-- The word for a role. -/
def word : Role → String
  | method _ => "operation"
  | getter _ => "attribute-getter"
  | setter => "attribute-setter"
  | signal => "notification"

end Declaration.Role

/-- One function of a trait. `namesWire` says that its identifier had to be changed to be unique,
so that the name on the bus has to be written beside it. -/
structure Declaration where
  role : Declaration.Role
  identifier : String
  wireName : String
  parameters : List Parameter := []
  namesWire : Bool := false
  annotations : List Annotation := []
  deriving DecidableEq, Repr, Inhabited

namespace Declaration

/-- Whether a declaration is that of a method. -/
def isMethod (d : Declaration) : Bool := d.role matches .method _

/-- Whether a declaration is that of a getter. -/
def isGetter (d : Declaration) : Bool := d.role matches .getter _

/-- Whether a declaration is that of a setter. -/
def isSetter (d : Declaration) : Bool := d.role matches .setter

/-- Whether a declaration is that of a signal. -/
def isSignal (d : Declaration) : Bool := d.role matches .signal

end Declaration

/-- The name of the trait for an interface: what comes after the last dot. -/
def traitName (interface : String) : String :=
  let last := (interface.toList.reverse.takeWhile (· ≠ '.')).reverse
  if last.isEmpty then "Iface" else String.ofList last

/-- What is generated for an interface, with the remarks made on its signatures. -/
structure Trait where
  interface : String
  declarations : List Declaration
  remarks : List Signature.Remark := []
  annotations : List Annotation := []
  deriving DecidableEq, Repr, Inhabited

namespace Trait

/-- The name of a trait. -/
def name (t : Trait) : String := traitName t.interface

/-- The declarations of the methods. -/
def methods (t : Trait) : List Declaration := t.declarations.filter Declaration.isMethod

/-- The declarations of the getters. -/
def getters (t : Trait) : List Declaration := t.declarations.filter Declaration.isGetter

/-- The declarations of the setters. -/
def setters (t : Trait) : List Declaration := t.declarations.filter Declaration.isSetter

/-- The declarations of the signals. -/
def signals (t : Trait) : List Declaration := t.declarations.filter Declaration.isSignal

end Trait

end BusTraits
