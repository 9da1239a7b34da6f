import BusTraits.Markup.Lexeme
import BusTraits.Text.Lines

/-!
# Document types

The declarations in front of a document give names to texts (entities) and values to attributes
that are left out. Only what stands in the document itself is read. So after a reference to a
parameter entity, whose text is not looked at, further declarations do not count; and where
declarations may be missing, an attribute value may refer to an entity that nobody declared, which
then stands for nothing. A document that calls itself standalone is taken at its word in both
respects.

The first declaration of an entity, and the first value given to an attribute, is the one that
holds.
-/

namespace BusTraits.Markup

/-- What an entity stands for. -/
inductive Entity where
  | internal (text : List Char)
  | external
  deriving DecidableEq, Repr

/-- What is declared of an attribute. In a tokenized one, spaces only separate words. -/
structure AttributeRule where
  name : String
  tokenized : Bool
  default : Option (List Char)
  deriving DecidableEq, Repr

/-- The declarations of a document. -/
structure Doctype where
  entities : List (String × Entity) := []
  /-- The rules for the attributes of elements, in the order of their declarations. -/
  rules : List (String × AttributeRule) := []
  /-- Whether there may be declarations that were not read. -/
  incomplete : Bool := false
  /-- Whether the document says that it does not depend on those. -/
  standalone : Bool := false
  /-- Whether further declarations count. -/
  counting : Bool := true
  deriving DecidableEq, Repr

namespace Doctype

open Reader Token

/-! ## Attribute values -/

/-- Whether every entity has to be declared. -/
def isStrict (d : Doctype) : Bool := !d.incomplete || d.standalone

/-- The value that pieces make up, where `inside` gives the value of the text of an entity. -/
def valueWith (d : Doctype) (inside : List Char → Option (List Char)) (pieces : List Piece) :
    Option (List Char) := do
  let parts ← pieces.mapM fun
    | .plain c => some [if isSpace c then ' ' else c]
    | .character c => some [c]
    | .entity name =>
      match predefined? name, d.entities.lookup name with
      | some c, _ => some [c]
      | none, some (.internal inner) => inside inner
      | none, some .external => none
      | none, none => if d.isStrict then none else some []
  return parts.flatten

/-- The value that pieces make up, with entities inside one another up to a depth. -/
def valueAt (d : Doctype) : (depth : Nat) → List Piece → Option (List Char)
  | 0 => d.valueWith fun _ => none
  | depth + 1 => d.valueWith fun inner => do d.valueAt depth (← readAll (pieces none) inner)

/-- Leaves one of the spaces that stand together, and none at the end. -/
def dropSpaces : List Char → List Char
  | ' ' :: rest => if rest.head?.all (· = ' ') then dropSpaces rest else ' ' :: dropSpaces rest
  | c :: rest => c :: dropSpaces rest
  | [] => []

/-- Leaves single spaces between words, and none at the two ends. -/
def squeeze (value : List Char) : List Char := dropSpaces (value.dropWhile (· = ' '))

/-- The value that pieces make up in an attribute. An entity that contains itself has no value,
and the others are no deeper in one another than there are entities. -/
def value? (d : Doctype) (tokenized : Bool) (pieces : List Piece) : Option (List Char) := do
  let value ← d.valueAt d.entities.length pieces
  return if tokenized then squeeze value else value

/-! ## Entities -/

/-- The text of an entity, as its declaration gives it. References to characters are resolved,
those to entities are kept for later. -/
def entityText : Reader Char (List Char) :=
  iterate [] fun read => do
    if ← atEnd then return .inr read.reverse
    match ← next with
    | '%' => failure
    | '&' =>
      match ← reference with
      | .plain c | .character c => return .inl (c :: read)
      | .entity name => return .inl (';' :: name.toList.reverse ++ '&' :: read)
    | c => return .inl (c :: read)

/-- Declares a general entity, unless it is declared already. -/
def addEntity (d : Doctype) (name : String) (entity : Entity) : Doctype :=
  if d.counting && (predefined? name).isNone && (d.entities.lookup name).isNone then
    { d with entities := d.entities ++ [(name, entity)] }
  else d

/-- The text of an entity whose declaration counts. -/
def declaredText? (d : Doctype) (value : List Char) : Option (List Char) :=
  if d.counting then (readAll entityText value).map Text.normalizeLineEnds else some []

/-- Reads what an identifier outside the document has after its name: whether it is one. -/
def isExternalId : List Lexeme → Bool
  | [.name "SYSTEM", .literal _] => true
  | [.name "PUBLIC", .literal id, .literal _] => id.all isPublic
  | _ => false

/-- The declaration of an entity. -/
def declareEntity (d : Doctype) : List Lexeme → Option Doctype
  | [.percent, .name _, .literal value] => (d.declaredText? value).map fun _ => d
  | .percent :: .name _ :: id => if isExternalId id then some d else none
  | [.name word, .literal value] =>
    (d.declaredText? value).map fun inner => d.addEntity word (.internal inner)
  | .name word :: rest =>
    let id :=
      match rest.reverse with
      | .name _ :: .name "NDATA" :: id => id.reverse
      | _ => rest
    if isExternalId id then some (d.addEntity word .external) else none
  | _ => none

/-! ## Attributes -/

/-- The rest of the choice of values in parentheses that an attribute may have. -/
def choice (isValue : Lexeme → Bool) : Reader Lexeme Unit :=
  iterate () fun _ => do
    guard (isValue (← next))
    match ← next with
    | .bar => return .inl ()
    | .closing none => return .inr ()
    | _ => failure

/-- The type of an attribute: whether it is tokenized and whether it identifies its element. -/
def attributeType : Reader Lexeme (Bool × Bool) := do
  match ← next with
  | .name "CDATA" => return (false, false)
  | .name "ID" => return (true, true)
  | .name "NOTATION" =>
    expect [.opening]
    choice fun l => l matches .name _
    return (true, false)
  | .opening =>
    choice fun l => l matches .name _ | .qualified _ | .nmtoken _
    return (true, false)
  | .name type =>
    guard (type ∈ ["IDREF", "IDREFS", "ENTITY", "ENTITIES", "NMTOKEN", "NMTOKENS"])
    return (true, false)
  | _ => failure

/-- Adds a rule. A value, and the identification of an element, must not come after another rule
for the same attribute. -/
def addRule (d : Doctype) (element : String) (identifies : Bool) (rule : AttributeRule) :
    Doctype :=
  let known := d.rules.any fun r => r.1 = element && r.2.name = rule.name
  if d.counting && !((rule.default.isSome || identifies) && known) then
    { d with rules := d.rules ++ [(element, rule)] }
  else d

/-- The rule for an attribute. -/
def attributeRule (d : Doctype) (element : String) : Reader Lexeme Doctype := do
  let name ← (← next).qname?
  let (tokenized, identifies) ← attributeType
  let valued (value : List Char) : Option Doctype :=
    if d.counting then do
      let pieces ← readAll (pieces none) value
      let default ← d.value? tokenized pieces
      return d.addRule element false ⟨name, tokenized, some default⟩
    else some d
  match ← next with
  | .keyword "IMPLIED" | .keyword "REQUIRED" =>
    return d.addRule element identifies ⟨name, tokenized, none⟩
  | .literal value => valued value
  | .keyword "FIXED" =>
    match ← next with
    | .literal value => valued value
    | _ => failure
  | _ => failure

/-- The declaration of the attributes of an element. -/
def declareAttributes (d : Doctype) : List Lexeme → Option Doctype :=
  readAll do
    let element ← (← next).qname?
    iterate d fun d => do
      if ← atEnd then return .inr d
      return .inl (← d.attributeRule element)

/-! ## Elements and notations -/

/-- The rest of a choice between text and elements. -/
def isMixed : List Lexeme → Bool
  | [.closing none] | [.closing (some '*')] => true
  | .bar :: rest => alternatives rest
  | _ => false
where
  alternatives : List Lexeme → Bool
    | [l, .closing (some '*')] => l.qname?.isSome
    | l :: .bar :: rest => l.qname?.isSome && alternatives rest
    | _ => false

/-- Whether groups of elements are well formed. `groups` has, for each open group, the separator
that it uses, and `wanted` says that a group or an element has to come next. -/
def isGroups : (groups : List (Option Lexeme)) → (wanted : Bool) → List Lexeme → Bool
  | [], _, rest => rest.isEmpty
  | groups, true, .opening :: rest => isGroups (none :: groups) true rest
  | groups, true, .name _ :: rest => isGroups groups false rest
  | groups, true, .qualified _ :: rest => isGroups groups false rest
  | groups, true, .particle _ :: rest => isGroups groups false rest
  | _ :: groups, false, .closing _ :: rest => isGroups groups false rest
  | separator :: groups, false, l :: rest =>
    (l == .bar || l == .comma) && separator.all (· == l) && isGroups (some l :: groups) true rest
  | _, _, _ => false

/-- Whether the lexemes declare an element. -/
def isElementDeclaration : List Lexeme → Bool
  | element :: content =>
    element.qname?.isSome &&
      match content with
      | [.name "EMPTY"] | [.name "ANY"] => true
      | .opening :: .keyword "PCDATA" :: rest => isMixed rest
      | .opening :: rest => isGroups [none] true rest
      | _ => false
  | [] => false

/-- Whether the lexemes declare a notation. -/
def isNotationDeclaration : List Lexeme → Bool
  | [.name _, .name "PUBLIC", .literal id] => id.all isPublic
  | .name _ :: id => isExternalId id
  | _ => false

/-! ## The whole of it -/

/-- A declaration with the given keyword. -/
def declare (d : Doctype) (keyword : String) (lexemes : List Lexeme) : Option Doctype :=
  match keyword with
  | "ENTITY" => d.declareEntity lexemes
  | "ATTLIST" => d.declareAttributes lexemes
  | "ELEMENT" => if isElementDeclaration lexemes then some d else none
  | "NOTATION" => if isNotationDeclaration lexemes then some d else none
  | _ => none

/-- The rest of the declarations in brackets. -/
def subset (d : Doctype) : Reader Char Doctype :=
  iterate d fun d => do
    let _ ← spaces
    if ← accept [']'] then return .inr d
    else if ← accept ['%'] then
      let _ ← name
      expect [';']
      return .inl { d with incomplete := true, counting := d.standalone }
    else if ← accept ['<', '?'] then
      instruction
      return .inl d
    else if ← accept "<!--".toList then
      comment
      return .inl d
    else
      expect ['<', '!']
      let keyword ← many fun c => c.isAlpha || c = '_'
      guard (← spaces)
      let (lexemes, _) ← Lexeme.readUntil (· = '>')
      return .inl (← d.declare (String.ofList keyword) lexemes)

/-- The rest of a document type declaration, after its keyword. -/
def rest (standalone : Bool) : Reader Char Doctype := do
  guard (← spaces)
  let (lexemes, sign) ← Lexeme.readUntil fun c => c = '>' || c = '['
  match lexemes with
  | element :: id =>
    guard (element.qname?.isSome && (id.isEmpty || isExternalId id))
    let d : Doctype := { standalone, incomplete := !id.isEmpty }
    if sign = '>' then return d
    let d ← subset d
    let _ ← spaces
    expect ['>']
    return d
  | [] => failure

end Doctype

end BusTraits.Markup
