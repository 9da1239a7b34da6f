import BusTraits.Interface.Basic
import BusTraits.Text.Quoted

/-!
# Interfaces, written out

The outline of a part of an interface names its kind and then its fields. An interface is outlined
by the numbers of its members only.
-/

namespace BusTraits

open Text

/-- The word for a direction. -/
def Direction.word : Direction → String
  | input => "in"
  | output => "out"

/-- The word for an access. -/
def Access.word : Access → String
  | read => "read"
  | write => "write"
  | readWrite => "readwrite"

/-- The outline of an annotation. -/
def Annotation.outline (a : Annotation) : String :=
  "Annotation(name=" ++ quoted a.name ++ ", value=" ++ quoted a.value ++ ")"

/-- The outline of an argument, without its annotations. -/
def Argument.outline (a : Argument) : String :=
  "Parameter(name=" ++ quoted? a.name ++ ", signature=" ++ quoted a.signature ++ ", direction=" ++
    quoted a.direction.word ++ ")"

/-- The outline of a method, without its annotations. -/
def Method.outline (m : Method) : String :=
  "Operation(name=" ++ quoted m.name ++ ", parameters=" ++
    bracketed (m.arguments.map Argument.outline) ++ ")"

/-- The outline of a property, without its annotations. -/
def Property.outline (p : Property) : String :=
  "Attribute(name=" ++ quoted p.name ++ ", signature=" ++ quoted p.signature ++ ", access=" ++
    quoted p.access.word ++ ")"

/-- The outline of a signal, without its annotations. -/
def Signal.outline (s : Signal) : String :=
  "Notification(name=" ++ quoted s.name ++ ", parameters=" ++
    bracketed (s.arguments.map Argument.outline) ++ ")"

/-- The outline of an interface. -/
def Interface.outline (i : Interface) : String :=
  "InterfaceDescription(name=" ++ quoted i.name ++ ", operations=" ++ toString i.methods.length ++
    ", attributes=" ++ toString i.properties.length ++ ", notifications=" ++
    toString i.signals.length ++ ")"

end BusTraits
