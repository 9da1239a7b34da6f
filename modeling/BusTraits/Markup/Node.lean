/-!
# Documents as trees

An element has a tag, attributes and content, which is text and further elements in order. A tag
or attribute name in a namespace is written `{uri}name`, so it differs from every plain name.

* `Element.children`: the elements directly inside.
* `Element.descendants`: the element itself and every element inside it at any depth, each before
  what it contains.
-/

namespace BusTraits.Markup

/-- A piece of content. -/
inductive Node where
  | text (value : String)
  | element (tag : String) (attributes : List (String × String)) (content : List Node)
  deriving Repr, Inhabited

/-- An element. -/
structure Element where
  tag : String
  attributes : List (String × String) := []
  content : List Node := []
  deriving Repr, Inhabited

/-- The element that a piece of content is, if it is one. -/
def Node.element? : Node → Option Element
  | text _ => none
  | element tag attributes content => some ⟨tag, attributes, content⟩

/-- An element as a piece of content. -/
def Element.toNode (e : Element) : Node := .element e.tag e.attributes e.content

@[simp]
theorem Node.element?_toNode (e : Element) : e.toNode.element? = some e := rfl

namespace Element

/-- The value of an attribute. -/
def attribute? (e : Element) (name : String) : Option String := e.attributes.lookup name

/-- The elements directly inside an element. -/
def children (e : Element) : List Element := e.content.filterMap Node.element?

/-- The elements with a given tag directly inside an element. -/
def childrenTagged (e : Element) (tag : String) : List Element :=
  e.children.filter (·.tag = tag)

end Element

mutual

/-- The elements of a piece of content, at any depth, each before what it contains. -/
def Node.elements : Node → List Element
  | .text _ => []
  | .element tag attributes content => ⟨tag, attributes, content⟩ :: Node.elementsOf content

/-- The elements of some content, at any depth, each before what it contains. -/
def Node.elementsOf : List Node → List Element
  | [] => []
  | n :: ns => n.elements ++ Node.elementsOf ns

end

/-- An element and all elements inside it, each before what it contains. -/
def Element.descendants (e : Element) : List Element := e :: Node.elementsOf e.content

end BusTraits.Markup
