import BusTraits.Trait.Basic

/-!
# From an interface to a trait

An interface is gone through once: its methods, then its properties, then its signals. Each member
claims its identifier in the scope of the trait's members, and the signals of a client, which are
no members, in a scope of their own. The parameters of a function have a scope for themselves.

A signature that is rejected ends the assembly, and is reported with the interface and the member
it belongs to. What had been remarked and traced until then is kept: an `Assembler` shows the
remarks of the interface it was last given, complete or not.
-/

namespace BusTraits

open Identifier (Scope)

/-! ## Faults and traces -/

/-- A signature that was rejected, and where it stands. -/
structure Fault where
  interface : String
  member : String
  cause : Signature.Error
  deriving DecidableEq, Repr

/-- The line that tells the user of a fault. -/
def Fault.message (f : Fault) : String := f.interface ++ "." ++ f.member ++ ": " ++ f.cause.message

/-- A step of an assembly that a verbose run tells of. -/
inductive Event where
  | method (name identifier : String)
  | getter (name identifier : String)
  | setter (name identifier : String)
  | signal (name identifier : String)
  | assembled (interface : String) (declarations remarks : Nat)
  deriving DecidableEq, Repr

/-- The line that tells the user of a step. -/
def Event.message : Event → String
  | method name identifier => "DeclarationAssembler: method " ++ name ++ " -> " ++ identifier
  | getter name identifier =>
    "DeclarationAssembler: property " ++ name ++ " getter -> " ++ identifier
  | setter name identifier =>
    "DeclarationAssembler: property " ++ name ++ " setter -> " ++ identifier
  | signal name identifier => "DeclarationAssembler: signal " ++ name ++ " -> " ++ identifier
  | assembled interface declarations remarks =>
    "DeclarationAssembler: " ++ interface ++ ": " ++ toString declarations ++ " declarations, " ++
      toString remarks ++ " warnings"

/-! ## The assembler -/

/-- How interfaces are assembled, and the remarks on the one assembled last. -/
structure Assembler where
  style : Style
  context : RustType.Context := {}
  signalContext : RustType.Context := context
  verbose : Bool := false
  remarks : List Signature.Remark := []
  deriving DecidableEq, Repr, Inhabited

/-- What has come together in the course of an assembly. -/
structure Progress where
  scope : Scope := .empty
  remarks : List Signature.Remark := []
  trace : List Event := []

/-- A part of an assembly: it adds to the progress made, also when it fails. -/
abbrev Assembly := ExceptT Fault (StateM Progress)

namespace Assembly

/-- Takes an identifier among the members of the trait. -/
def claim (role : Identifier.Role) (name affix : String) : Assembly Identifier :=
  modifyGet fun p =>
    let (identifier, scope) := p.scope.claim role (some name) affix
    (identifier, { p with scope })

/-- Tells of a step, if the assembler is verbose. -/
def tell (a : Assembler) (event : Event) : Assembly Unit :=
  if a.verbose then modify fun p => { p with trace := p.trace ++ [event] } else pure ()

/-- The Rust type of a signature that belongs to a member. -/
def rustType (context : RustType.Context) (interface member signature : String) :
    Assembly String :=
  match RustType.ofSignature context signature with
  | .error cause => throw ⟨interface, member, cause⟩
  | .ok (type, remarks) => do
    modify fun p => { p with remarks := p.remarks ++ remarks }
    return type

/-- The parameters for the arguments of a member, with the identifiers in `scope` taken. -/
def parameters (context : RustType.Context) (interface member : String) (scope : Scope) :
    List Argument → Assembly (List Parameter)
  | [] => return []
  | argument :: rest => do
    let (identifier, scope) := scope.claim .argument argument.name
    let type ← rustType context interface member argument.signature
    let others ← parameters context interface member scope rest
    return ⟨identifier.name, type, argument.name, argument.annotations⟩ :: others

/-- The declaration of a method. -/
def method (a : Assembler) (interface : String) (m : Method) : Assembly Declaration := do
  let identifier ← claim .method m.name ""
  tell a (.method m.name identifier.name)
  let parameters ← parameters a.context interface m.name .empty m.inputs
  let results ← m.outputs.mapM fun o => rustType a.context interface m.name o.signature
  return {
    role := .method (RustType.tuple results)
    identifier := identifier.name
    wireName := m.name
    parameters
    namesWire := identifier.diverges
    annotations := m.annotations }

/-- The declaration of the getter of a property. -/
def getter (a : Assembler) (type : String) (p : Property) : Assembly Declaration := do
  let identifier ← claim .property p.name a.style.getterAffix
  tell a (.getter p.name identifier.name)
  return {
    role := .getter type
    identifier := identifier.name
    wireName := p.name
    namesWire := identifier.diverges
    annotations := p.annotations }

/-- The parameter of a setter. -/
def setterParameter (type : String) : Parameter :=
  ⟨(Scope.empty.claim .argument (some "value")).1.name, type, none, []⟩

/-- The declaration of the setter of a property. -/
def setter (a : Assembler) (type : String) (p : Property) : Assembly Declaration := do
  let identifier ← claim .property p.name a.style.setterAffix
  tell a (.setter p.name identifier.name)
  return {
    role := .setter
    identifier := identifier.name
    wireName := p.name
    parameters := [setterParameter type]
    namesWire := identifier.diverges
    annotations := p.annotations }

/-- The declarations of the accessors that a property has. -/
def property (a : Assembler) (interface : String) (p : Property) :
    Assembly (List Declaration) := do
  let type ← rustType a.context interface p.name p.signature
  let getters ← if p.access.readable then List.singleton <$> getter a type p else pure []
  let setters ← if p.access.writable then List.singleton <$> setter a type p else pure []
  return getters ++ setters

/-- The declaration of a signal. -/
def signal (a : Assembler) (interface : String) (s : Signal) : Assembly Declaration := do
  let identifier ← claim .signal s.name a.style.signalAffix
  tell a (.signal s.name identifier.name)
  let parameters ← parameters a.signalContext interface s.name .empty s.arguments
  return {
    role := .signal
    identifier := identifier.name
    wireName := s.name
    parameters
    namesWire := identifier.diverges
    annotations := s.annotations }

/-- Lets the signals have a scope of their own, unless they are members of the trait. -/
def enterSignals (style : Style) : Assembly Unit :=
  if style.signalsAreMembers then pure () else modify fun p => { p with scope := .empty }

/-- The whole trait. -/
def interface (a : Assembler) (i : Interface) : Assembly Trait := do
  let methods ← i.methods.mapM (method a i.name)
  let accessors ← i.properties.mapM (property a i.name)
  enterSignals a.style
  let signals ← i.signals.mapM (signal a i.name)
  let declarations := methods ++ accessors.flatten ++ signals
  let remarks := (← get).remarks
  tell a (.assembled i.name declarations.length remarks.length)
  return ⟨i.name, declarations, remarks, i.annotations⟩

end Assembly

namespace Assembler

/-- An assembly that has come to its end, with the steps it told of and the assembler after it. -/
structure Outcome where
  result : Except Fault Trait
  trace : List Event
  assembler : Assembler

/-- Assembles one interface. -/
def assemble (a : Assembler) (i : Interface) : Outcome :=
  let (result, progress) := (Assembly.interface a i).run.run {}
  ⟨result, progress.trace, { a with remarks := progress.remarks }⟩

/-- Assembles interfaces one after another, up to the first that fails. -/
def assembleAll (a : Assembler) : List Interface → Except Fault (List Trait) × List Event
  | [] => (.ok [], [])
  | i :: rest =>
    let outcome := a.assemble i
    match outcome.result with
    | .error fault => (.error fault, outcome.trace)
    | .ok t =>
      let (traits, trace) := outcome.assembler.assembleAll rest
      (traits.map (t :: ·), outcome.trace ++ trace)

end Assembler

end BusTraits
