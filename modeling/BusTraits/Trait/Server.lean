import BusTraits.Trait.Function

/-!
# Server traits

The trait of a server has a function for each method, for each accessor and for each signal, the
last ones to emit it. Annotations are carried over as comments. The accessors of one property
stand together in one block: the getter and the setter of a property are neighbours in the trait,
with the same name on the bus.
-/

namespace BusTraits

/-- Declarations that are written together. -/
inductive Block where
  | single (declaration : Declaration)
  | accessors (getter setter : Declaration)
  deriving DecidableEq, Repr

namespace Block

/-- The declarations of a block. -/
def declarations : Block → List Declaration
  | single d => [d]
  | accessors g s => [g, s]

/-- Whether two neighbours are the accessors of one property. -/
def isPair (d e : Declaration) : Bool := d.isGetter && e.isSetter && d.wireName == e.wireName

/-- The blocks of a list of declarations. -/
def group : List Declaration → List Block
  | [] => []
  | [d] => [single d]
  | d :: e :: rest =>
    if isPair d e then accessors d e :: group rest else single d :: group (e :: rest)

end Block

namespace Declaration

/-- The comment that gives the name on the bus of a member with another identifier. -/
def wireNameComment (d : Declaration) : List String :=
  if d.namesWire then ["    /// D-Bus name: " ++ d.wireName] else []

/-- The function line of a method or accessor of a server. -/
def serverFunction (d : Declaration) (receiver returnType : String) : String :=
  "    fn " ++ d.identifier ++ "(" ++ Parameter.listAfter receiver d.parameters ++ ") -> " ++
    resultType returnType ++ ";"

/-- The body of a signal, as a tuple. -/
def signalBody (d : Declaration) : String :=
  match d.parameters with
  | [p] => "&(" ++ p.identifier ++ ",)"
  | ps => "&(" ++ ", ".intercalate (ps.map (·.identifier)) ++ ")"

/-- The function line of a signal. -/
def emitterFunction (d : Declaration) : String :=
  "    fn " ++ d.identifier ++ "<'a>(" ++
    Parameter.listAfter "emitter: &SignalEmitter<'a>" d.parameters ++
    ") -> impl std::future::Future<Output = zbus::Result<()>> + Send;"

/-- The lines of the block of a property, of which `d` is the first accessor. -/
def propertyLines (d : Declaration) (functions : List String) : List String :=
  ["    /// property: " ++ d.wireName] ++ annotationComments "    " d.annotations ++ functions ++
    [""]

/-- The function line of an accessor. -/
def accessorFunction (d : Declaration) : String :=
  match d.role with
  | .getter type => d.serverFunction "&self" type
  | _ => d.serverFunction "&mut self" RustType.unit

/-- The lines of a declaration that is written by itself. -/
def serverLines (d : Declaration) : List String :=
  match d.role with
  | .method result =>
    annotationComments "    " d.annotations ++ Parameter.comments "    " d.parameters ++
      d.wireNameComment ++ [d.serverFunction "&mut self" result, ""]
  | .getter _ | .setter => d.propertyLines [d.accessorFunction]
  | .signal =>
    annotationComments "    " d.annotations ++
      ["    /// emits " ++ d.wireName ++ " with body " ++ d.signalBody] ++
      d.wireNameComment ++ [d.emitterFunction, ""]

end Declaration

/-- The lines of a block. -/
def Block.lines : Block → List String
  | single d => d.serverLines
  | accessors g s => g.propertyLines [g.accessorFunction, s.accessorFunction]

/-- The lines of the trait of a server. -/
def Trait.serverLines (t : Trait) : List String :=
  annotationComments "" t.annotations ++ ["pub trait " ++ t.name ++ "Server \x7b"] ++
    (Block.group t.declarations).flatMap Block.lines ++ ["\x7d"]

end BusTraits
