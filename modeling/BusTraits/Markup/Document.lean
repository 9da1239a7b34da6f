import BusTraits.Markup.Doctype
import BusTraits.Markup.Namespace
import BusTraits.Markup.Node

/-!
# Documents

A document is a declaration of its version, if it has one, a document type, if it has one, and one
element. `Document.read?` gives that element as a tree with the names in full, the references
replaced and the attributes filled in that the document type has values for. It gives nothing when
the text is no document.
-/

namespace BusTraits.Markup.Document

open Reader Token

/-! ## In front of the element -/

/-- An item of the declaration in front of a document, with white space before it, or nothing at
the end. -/
def declarationItem : Reader Char (Option (String × List Char)) := do
  let separated ← spaces
  if ← atEnd then return none
  guard separated
  let name ← many fun c => c ≠ '=' && !isSpace c
  let _ ← spaces
  expect ['=']
  let _ ← spaces
  let quote ← quote
  let value ← many fun c => c.isAlphanum || c = '.' || c = '-' || c = '_'
  expect [quote]
  return some (String.ofList name, value)

/-- The value of the item that says whether a document is standalone. -/
def standalone? : String × List Char → Option Bool
  | ("standalone", ['y', 'e', 's']) => some true
  | ("standalone", ['n', 'o']) => some false
  | _ => none

/-- The items of the declaration in front of a document: the version, the encoding, which does not
matter for a text, and whether it is standalone. -/
def declarationItems : Reader Char Bool := do
  let (name, _) ← (← declarationItem)
  guard (name = "version")
  match ← declarationItem with
  | none => return false
  | some ("encoding", value) =>
    guard (value.head?.any Char.isAlpha)
    match ← declarationItem with
    | none => return false
    | some item => standalone? item
  | some item => standalone? item

/-- The declaration in front of a document, if there is one: whether it says that the document is
standalone. -/
def declaration : Reader Char Bool := do
  if (← fun s => some ("<?xml".toList.isPrefixOf s && (s.drop 5).head?.any isSpace, s)) then
    expect "<?xml".toList
    let items ← upTo ['?', '>']
    readAll (do let standalone ← declarationItems; let _ ← spaces; return standalone) items
  else return false

/-- White space, comments and instructions. -/
def misc : Reader Char Unit :=
  iterate () fun _ => do
    if ← spaces then return .inl ()
    else if ← accept "<!--".toList then
      comment
      return .inl ()
    else if ← accept ['<', '?'] then
      instruction
      return .inl ()
    else return .inr ()

/-! ## The element -/

/-- Replaces the references to entities by the tokens of their texts. Each of the texts has to
hold whole elements. -/
def expandWith (d : Doctype) (inside : List Token → Option (List Token)) (tokens : List Token) :
    Option (List Token) := do
  let parts ← tokens.mapM fun
    | .entity name =>
      match d.entities.lookup name with
      | some (.internal inner) => do
        let tokens ← readAll ofText inner
        guard (balancedAt 0 tokens)
        inside tokens
      | _ => none
    | token => some [token]
  return parts.flatten

/-- Replaces the references to entities, which are inside one another up to a depth. -/
def expandAt (d : Doctype) : (depth : Nat) → List Token → Option (List Token)
  | 0 => expandWith d fun _ => none
  | depth + 1 => expandWith d (expandAt d depth)

/-- The values of the attributes of an element, those that are written and then those that are
left out. -/
def attributeValues (d : Doctype) (element : String) (attributes : List (QName × List Piece)) :
    Option (List (QName × String)) := do
  let rules := (d.rules.filter (·.1 = element)).map Prod.snd
  guard (attributes.map (·.1.text)).Nodup
  let written ← attributes.mapM fun (q, pieces) => do
    let tokenized := (rules.find? (·.name = q.text)).any (·.tokenized)
    return (q, String.ofList (← d.value? tokenized pieces))
  let filled ← (rules.filter fun r => attributes.all (·.1.text ≠ r.name)).filterMapM fun r => do
    match r.default with
    | none => return none
    | some value => return some (QName.ofText r.name, String.ofList value)
  return written ++ filled

/-- An element whose end tag is still to come, with its content so far, the last piece first. -/
structure Unfinished where
  written : String
  tag : String
  attributes : List (String × String)
  bindings : Bindings
  content : List Node := []

/-- The unfinished elements, the innermost first, and the root element once it is finished. -/
structure Progress where
  unfinished : List Unfinished := []
  root : Option Element := none

namespace Progress

/-- Adds a piece of content to the innermost unfinished element. -/
def add (p : Progress) (n : Node) : Progress :=
  match p.unfinished with
  | [] => { p with root := n.element? }
  | e :: rest => { p with unfinished := { e with content := n :: e.content } :: rest }

/-- Finishes the innermost unfinished element. -/
def finish (p : Progress) : Option Progress :=
  match p.unfinished with
  | [] => none
  | e :: rest =>
    some (add { p with unfinished := rest } (.element e.tag e.attributes e.content.reverse))

/-- Begins an element. -/
def start (d : Doctype) (p : Progress) (name : QName) (attributes : List (QName × List Piece)) :
    Option Progress := do
  let outer := (p.unfinished.head?.map (·.bindings)).getD Bindings.initial
  let values ← attributeValues d name.text attributes
  let bindings ← outer.bindAll values
  let element : Unfinished := {
    written := name.text
    tag := ← bindings.elementName? name
    attributes := ← bindings.attributes? values
    bindings }
  return { p with unfinished := element :: p.unfinished }

/-- Adds a token to the tree. -/
def token (d : Doctype) (p : Progress) : Token → Option Progress
  | .startTag name attributes isEmpty => do
    let p ← p.start d name attributes
    if isEmpty then p.finish else some p
  | .endTag name => do
    guard (p.unfinished.head?.any (·.written = name))
    p.finish
  | .text value => some (p.add (.text (String.ofList value)))
  | .entity _ => none

end Progress

/-- The tree of the tokens of an element. -/
def tree (d : Doctype) (tokens : List Token) : Option Element := do
  let tokens ← expandAt d d.entities.length tokens
  let p ← tokens.foldlM (Progress.token d) {}
  p.root

/-! ## The whole document -/

/-- A document. -/
def document : Reader Char Element := do
  let _ ← accept ['\uFEFF']
  let standalone ← declaration
  misc
  let doctype ←
    if ← accept "<!DOCTYPE".toList then Doctype.rest standalone else pure { standalone }
  misc
  let tokens ← ofElement
  misc
  tree doctype tokens

/-- Reads a document. -/
def read? (text : String) : Option Element :=
  let cs := text.toList
  if cs.all isLegal then readAll document (Text.normalizeLineEnds cs) else none

end BusTraits.Markup.Document
