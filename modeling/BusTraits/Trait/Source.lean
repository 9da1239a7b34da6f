import BusTraits.Trait.Assembly
import BusTraits.Trait.Proxy
import BusTraits.Trait.Server

/-!
# Generated source

The source of a client or of a server for any number of interfaces: what has to be imported, then
one trait after another. If one interface cannot be assembled, there is no source and there are no
remarks.

A caller that keeps a list of messages can have the remarks added to it (`generateInto`,
`generateAllInto`). That happens trait by trait, after the last interface has been assembled.
-/

namespace BusTraits

/-- The text of a trait. -/
def Trait.source (style : Style) (t : Trait) : String :=
  match style with
  | .proxy => sourceText t.proxyLines
  | .server => sourceText t.serverLines

/-- A source and the remarks on the signatures it comes from. -/
structure Source where
  text : String
  remarks : List Signature.Remark
  deriving DecidableEq, Repr

namespace Style

/-- The assembler of a style. The functions that emit a signal name the lifetime they borrow for.
-/
def assembler (style : Style) (verbose : Bool := false) : Assembler :=
  match style with
  | .proxy => { style, verbose }
  | .server => { style, verbose, signalContext := { lifetime := "'a" } }

/-- What has to be in front of the traits. -/
def header (style : Style) (traits : List Trait) : String :=
  match style with
  | .proxy => "use zbus::proxy;\n"
  | .server =>
    if traits.any fun t => !t.signals.isEmpty then "use zbus::object_server::SignalEmitter;\n\n"
    else ""

/-- The source for one interface, without what has to be in front of it. -/
def generate (style : Style) (i : Interface) : Except Fault Source :=
  (style.assembler.assemble i).result.map fun t => ⟨t.source style, t.remarks⟩

/-- The source for all interfaces, and the steps that a verbose run tells of. -/
def generateAll (style : Style) (interfaces : List Interface) (verbose : Bool := false) :
    Except Fault Source × List Event :=
  let (result, trace) := (style.assembler verbose).assembleAll interfaces
  (result.map fun traits =>
    ⟨style.header traits ++ "\n".intercalate (traits.map (Trait.source style)),
      traits.flatMap (·.remarks)⟩, trace)

end Style

/-! ## Messages of the caller -/

/-- A call that may fail and may add messages to a list of its caller. -/
abbrev Collecting := ExceptT Fault (StateM (List String))

namespace Collecting

variable {α : Type}

/-- What a call gives, and the list of messages after it. -/
def calledWith (x : Collecting α) (messages : List String) : Except Fault α × List String :=
  x.run.run messages

/-- Adds the remarks on a trait to the messages. -/
def report (t : Trait) : Collecting Unit :=
  modify fun messages => messages ++ t.remarks.map (·.message)

end Collecting

namespace Style

/-- The text of the source for one interface, without what has to be in front of it. -/
def generateInto (style : Style) (i : Interface) : Collecting String := do
  let t ← (style.assembler.assemble i).result
  Collecting.report t
  return t.source style

/-- The text of the source for all interfaces. -/
def generateAllInto (style : Style) (interfaces : List Interface) (verbose : Bool := false) :
    Collecting String := do
  let traits ← ((style.assembler verbose).assembleAll interfaces).1
  traits.forM Collecting.report
  return style.header traits ++ "\n".intercalate (traits.map (Trait.source style))

end Style

end BusTraits
