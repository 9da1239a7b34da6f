import BusTraits.Markup.Token

/-!
# Namespaces

Attributes named `xmlns` or with that qualifier bind qualifiers to namespaces for their element
and what is inside it. A qualified name is replaced by the namespace of its qualifier and the name
in it. Without a qualifier, the name of an element is in the default namespace, if there is one,
and that of an attribute in none.
-/

namespace BusTraits.Markup

/-- The namespaces of qualifiers, those bound last in front. No qualifier stands for the default.
-/
abbrev Bindings := List (Option String × String)

namespace Bindings

/-- The namespace that the qualifier `xml` always has. -/
def xmlSpace : String := "http://www.w3.org/XML/1998/namespace"

/-- The namespace of the attributes that bind qualifiers. -/
def xmlnsSpace : String := "http://www.w3.org/2000/xmlns/"

/-- The bindings of every document. -/
def initial : Bindings := [(some "xml", xmlSpace)]

/-- What an attribute binds, if it does. -/
def bound? (q : QName) : Option (Option String) :=
  match q.qualifier with
  | some "xmlns" => some (some q.name)
  | some _ => none
  | none => if q.name = "xmlns" then some none else none

/-- Binds a qualifier. Those of markup itself cannot be bound to anything else, nor anything else
to their namespaces, and only the default can be unbound. -/
def bind (b : Bindings) (qualifier : Option String) (space : String) : Option Bindings := do
  guard (qualifier ≠ some "xmlns")
  guard (space ≠ xmlnsSpace)
  guard (qualifier = some "xml" ↔ space = xmlSpace)
  guard (qualifier = none ∨ space ≠ "")
  guard ('\x7d' ∉ space.toList)
  return (qualifier, space) :: b

/-- Binds what the attributes of an element bind. -/
def bindAll (b : Bindings) (attributes : List (QName × String)) : Option Bindings :=
  attributes.foldlM (fun b (q, value) =>
    match bound? q with
    | some qualifier => b.bind qualifier value
    | none => some b) b

/-- A name in a namespace. -/
def inSpace (space name : String) : String := "\x7b" ++ space ++ "\x7d" ++ name

/-- The full name of an element. -/
def elementName? (b : Bindings) (q : QName) : Option String :=
  match q.qualifier, b.lookup q.qualifier with
  | none, none | none, some "" => some q.name
  | _, some space => some (inSpace space q.name)
  | some _, none => none

/-- The full name of an attribute. -/
def attributeName? (b : Bindings) (q : QName) : Option String :=
  match q.qualifier with
  | none => some q.name
  | some qualifier => (b.lookup (some qualifier)).map fun space => inSpace space q.name

/-- The attributes of an element that bind no qualifier, by their full names. -/
def attributes? (b : Bindings) (attributes : List (QName × String)) :
    Option (List (String × String)) := do
  let named ← (attributes.filter fun (q, _) => (bound? q).isNone).mapM fun (q, value) => do
    return (← b.attributeName? q, value)
  guard (named.map Prod.fst).Nodup
  return named

end Bindings

end BusTraits.Markup
