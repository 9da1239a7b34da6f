/-!
# Interfaces

What an introspection document says of an interface: its methods, properties and signals, each in
the order of the document, with the signatures as they are written there. Every part may carry
annotations.
-/

namespace BusTraits

/-- A remark of the document's author on some part of it. -/
structure Annotation where
  name : String
  value : String
  deriving DecidableEq, Repr, Inhabited

/-- Whether an argument goes to the service or comes from it. -/
inductive Direction where
  | input
  | output
  deriving DecidableEq, Repr, Inhabited

/-- An argument of a method or signal. Many documents leave its name out. -/
structure Argument where
  name : Option String
  signature : String
  direction : Direction := .input
  annotations : List Annotation := []
  deriving DecidableEq, Repr, Inhabited

/-- A method. -/
structure Method where
  name : String
  arguments : List Argument := []
  annotations : List Annotation := []
  deriving DecidableEq, Repr, Inhabited

namespace Method

/-- The arguments of a call. -/
def inputs (m : Method) : List Argument := m.arguments.filter (·.direction = .input)

/-- The arguments of a reply. -/
def outputs (m : Method) : List Argument := m.arguments.filter (·.direction = .output)

end Method

/-- What may be done with a property. -/
inductive Access where
  | read
  | write
  | readWrite
  deriving DecidableEq, Repr, Inhabited

namespace Access

/-- Whether the property has a getter. -/
def readable : Access → Bool
  | read | readWrite => true
  | write => false

/-- Whether the property has a setter. -/
def writable : Access → Bool
  | write | readWrite => true
  | read => false

end Access

/-- A property. -/
structure Property where
  name : String
  signature : String
  access : Access
  annotations : List Annotation := []
  deriving DecidableEq, Repr, Inhabited

/-- A signal. All its arguments come from the service. -/
structure Signal where
  name : String
  arguments : List Argument := []
  annotations : List Annotation := []
  deriving DecidableEq, Repr, Inhabited

/-- An interface. -/
structure Interface where
  name : String
  methods : List Method := []
  properties : List Property := []
  signals : List Signal := []
  annotations : List Annotation := []
  deriving DecidableEq, Repr, Inhabited

end BusTraits
