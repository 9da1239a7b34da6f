import BusTraits.Interface.Basic
import BusTraits.Markup.Document

/-!
# Introspection documents

The tree of a document has a `node` as its root, with interfaces at any depth, or is itself an
`interface`. An interface lists its methods, properties and signals as direct children, with their
arguments and annotations inside them. Elements with other tags, text, and attributes that are not
mentioned here do not matter.

The argument of a method goes to the service unless it says otherwise, that of a signal comes from
it.

A document with a fault gives no interfaces at all. Of several faults the first is reported: the
interfaces are gone through in order, and in each of them its name, its methods, its properties
and its signals.
-/

namespace BusTraits.Introspection

open Markup (Element)

/-! ## Faults -/

/-- Where in a document an element is. -/
inductive Place where
  | document
  | member (interface name : String)
  deriving DecidableEq, Repr

/-- What is wrong with a document. -/
inductive Fault where
  | notMarkup
  | wrongRoot (tag : String)
  | missingAttribute (place : Place) (tag key : String)
  | unknownDirection (place : Place) (direction : String)
  | unknownAccess (interface property access : String)
  deriving DecidableEq, Repr

/-- The source of a document and a place in it. -/
def Place.message (source : String) : Place → String
  | document => source
  | member interface name => source ++ ": " ++ interface ++ "." ++ name

/-- The line that tells the user of a fault in the document from the given source. -/
def Fault.message (source : String) : Fault → String
  | notMarkup => source ++ ": invalid introspection XML"
  | wrongRoot tag => source ++ ": expected a <node> root element, got <" ++ tag ++ ">"
  | missingAttribute place tag key =>
    place.message source ++ ": <" ++ tag ++ "> is missing the '" ++ key ++ "' attribute"
  | unknownDirection place direction =>
    place.message source ++ ": unknown arg direction '" ++ direction ++ "'"
  | unknownAccess interface property access =>
    source ++ ": property " ++ interface ++ "." ++ property ++ " has unknown access '" ++ access ++
      "'"

/-! ## Elements -/

/-- The value of an attribute that has to be there. -/
def required (place : Place) (e : Element) (key : String) : Except Fault String :=
  match e.attribute? key with
  | some value => .ok value
  | none => .error (.missingAttribute place e.tag key)

/-- The annotations directly inside an element. -/
def annotations (e : Element) : List Annotation :=
  (e.childrenTagged "annotation").map fun a =>
    ⟨(a.attribute? "name").getD "", (a.attribute? "value").getD ""⟩

/-- The direction that an argument says it has. -/
def direction (place : Place) (default : Direction) (e : Element) : Except Fault Direction :=
  match e.attribute? "direction" with
  | none => .ok default
  | some "in" => .ok .input
  | some "out" => .ok .output
  | some other => .error (.unknownDirection place other)

/-- An argument of the member at a place. -/
def argument (place : Place) (default : Direction) (e : Element) : Except Fault Argument := do
  let direction ← direction place default e
  let signature ← required place e "type"
  return ⟨e.attribute? "name", signature, direction, annotations e⟩

/-- The arguments directly inside a member. -/
def arguments (place : Place) (default : Direction) (e : Element) :
    Except Fault (List Argument) :=
  (e.childrenTagged "arg").mapM (argument place default)

/-- A method of an interface. -/
def method (interface : String) (e : Element) : Except Fault Method := do
  let name ← required .document e "name"
  let arguments ← arguments (.member interface name) .input e
  return ⟨name, arguments, annotations e⟩

/-- The access that a word stands for. -/
def access? : String → Option Access
  | "read" => some .read
  | "write" => some .write
  | "readwrite" => some .readWrite
  | _ => none

/-- A property of an interface. -/
def property (interface : String) (e : Element) : Except Fault Property := do
  let name ← required .document e "name"
  let word ← required .document e "access"
  match access? word with
  | none => throw (.unknownAccess interface name word)
  | some access =>
    let signature ← required .document e "type"
    return ⟨name, signature, access, annotations e⟩

/-- A signal of an interface. -/
def signal (interface : String) (e : Element) : Except Fault Signal := do
  let name ← required .document e "name"
  let arguments ← arguments (.member interface name) .output e
  return ⟨name, arguments, annotations e⟩

/-- An interface. -/
def interface (e : Element) : Except Fault Interface := do
  let name ← required .document e "name"
  let methods ← (e.childrenTagged "method").mapM (method name)
  let properties ← (e.childrenTagged "property").mapM (property name)
  let signals ← (e.childrenTagged "signal").mapM (signal name)
  return ⟨name, methods, properties, signals, annotations e⟩

/-! ## Documents -/

/-- The interfaces in the tree of a document. -/
def ofRoot (root : Element) : Except Fault (List Interface) :=
  if root.tag = "interface" then return [← interface root]
  else if root.tag = "node" then
    (root.descendants.filter (·.tag = "interface")).mapM interface
  else throw (.wrongRoot root.tag)

/-- The interfaces in the text of a document. -/
def parse (text : String) : Except Fault (List Interface) :=
  match Markup.Document.read? text with
  | none => .error .notMarkup
  | some root => ofRoot root

end BusTraits.Introspection
