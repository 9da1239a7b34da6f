import BusTraits.Markup.Character
import BusTraits.Markup.Reader

/-!
# Tokens of content

The content of an element as a flat list of tokens: start tags, end tags, text, and references to
entities that the document declares. Nothing is looked up here, so an attribute value is a list of
`Piece`s, in which a character that was written as a reference is told from one that was not.
Comments and processing instructions leave no token.
-/

namespace BusTraits.Markup

/-- A name with or without a qualifier in front of a colon. -/
structure QName where
  qualifier : Option String
  name : String
  deriving DecidableEq, Repr, Inhabited

/-- A qualified name as it is written. -/
def QName.text (q : QName) : String :=
  match q.qualifier with
  | some qualifier => qualifier ++ ":" ++ q.name
  | none => q.name

/-- A written name, taken apart at its first colon. -/
def QName.ofText (text : String) : QName :=
  let cs := text.toList
  match cs.dropWhile (· ≠ ':') with
  | [] => ⟨none, text⟩
  | _ :: name => ⟨some (String.ofList (cs.takeWhile (· ≠ ':'))), String.ofList name⟩

/-- A piece of a text that may hold references. -/
inductive Piece where
  | plain (c : Char)
  | character (c : Char)
  | entity (name : String)
  deriving DecidableEq, Repr

/-- A token of content. -/
inductive Token where
  | startTag (name : QName) (attributes : List (QName × List Piece)) (isEmpty : Bool)
  | endTag (name : String)
  | text (value : List Char)
  | entity (name : String)
  deriving DecidableEq, Repr

namespace Token

open Reader

/-! ## Names and references -/

/-- White space, and whether there was any. -/
def spaces : Reader Char Bool := do
  return !(← many isSpace).isEmpty

/-- A name. -/
def name : Reader Char String := do
  guard (← ahead isNameStart)
  return String.ofList (← many isNameChar)

/-- A name with at most one qualifier. -/
def qname : Reader Char QName := do
  let first ← name
  if ← accept [':'] then return ⟨some first, ← name⟩ else return ⟨none, first⟩

/-- The value of a hexadecimal digit. -/
def hexDigit? (c : Char) : Option Nat :=
  if c.isDigit then some (c.toNat - 48)
  else if 'a' ≤ c ∧ c ≤ 'f' then some (c.toNat - 87)
  else if 'A' ≤ c ∧ c ≤ 'F' then some (c.toNat - 55)
  else none

/-- The number with given digits. -/
def number? (base : Nat) (digits : List Char) : Option Nat := do
  guard (!digits.isEmpty)
  digits.foldlM (fun n c => do return n * base + (← (hexDigit? c).filter (· < base))) 0

/-- The character with a given code point, if a document may hold it. -/
def legalChar? (n : Nat) : Option Char :=
  if n.isValidChar then some (Char.ofNat n) |>.filter isLegal else none

/-- The rest of a reference, after the ampersand. -/
def reference : Reader Char Piece := do
  if ← accept ['#'] then
    let base := if ← accept ['x'] then 16 else 10
    let digits ← upTo [';']
    return .character (← (number? base digits).bind legalChar?)
  else
    let name ← name
    expect [';']
    return .entity name

/-- The characters that have an entity without a declaration. -/
def predefined? : String → Option Char
  | "lt" => some '<'
  | "gt" => some '>'
  | "amp" => some '&'
  | "apos" => some '\''
  | "quot" => some '"'
  | _ => none

/-! ## What leaves no token -/

/-- The rest of a comment, after its first four characters. Two hyphens can only end it. -/
def comment : Reader Char Unit := do
  let _ ← upTo ['-', '-']
  expect ['>']

/-- The rest of a processing instruction, after its first two characters. -/
def instruction : Reader Char Unit := do
  let target ← name
  guard (target.toLower ≠ "xml")
  if ← spaces then
    let _ ← upTo ['?', '>']
  else expect ['?', '>']

/-! ## Tags -/

/-- The pieces of an attribute value up to the quote that ends it, which is read, or with no quote
up to the end of the text. -/
def pieces (quote : Option Char) : Reader Char (List Piece) :=
  iterate [] fun read => do
    if ← atEnd then
      guard quote.isNone
      return .inr read.reverse
    let c ← next
    if some c = quote then return .inr read.reverse
    else if c = '<' then failure
    else if c = '&' then return .inl ((← reference) :: read)
    else return .inl (.plain c :: read)

/-- A quote. -/
def quote : Reader Char Char := do
  let c ← next
  guard (c = '"' || c = '\'')
  return c

/-- An attribute with its value. -/
def assignment : Reader Char (QName × List Piece) := do
  let name ← qname
  let _ ← spaces
  expect ['=']
  let _ ← spaces
  return (name, ← pieces (← quote))

/-- The rest of a start tag, after the angle bracket. -/
def startTagRest : Reader Char Token := do
  let name ← qname
  iterate [] fun attributes => do
    let separated ← spaces
    if ← accept ['>'] then return .inr (.startTag name attributes.reverse false)
    if ← accept ['/', '>'] then return .inr (.startTag name attributes.reverse true)
    guard separated
    return .inl ((← assignment) :: attributes)

/-- The rest of an end tag, after the slash. -/
def endTagRest : Reader Char Token := do
  guard (← ahead isNameStart)
  let name ← many fun c => isNameChar c || c = ':'
  let _ ← spaces
  expect ['>']
  return .endTag (String.ofList name)

/-! ## Content -/

/-- Characters that are no markup. The end of a marked section cannot be among them. -/
def characters : Reader Char Token := do
  let value ← many fun c => c ≠ '<' && c ≠ '&'
  guard (cutAt [']', ']', '>'] value).isNone
  return .text value

/-- The next token, or nothing for what leaves none. -/
def token? : Reader Char (Option Token) := do
  if ← accept ['<'] then
    if ← accept ['/'] then some <$> endTagRest
    else if ← accept ['?'] then do instruction; return none
    else if ← accept ['!', '-', '-'] then do comment; return none
    else if ← accept "![CDATA[".toList then return some (.text (← upTo [']', ']', '>']))
    else some <$> startTagRest
  else if ← accept ['&'] then
    match ← reference with
    | .plain c | .character c => return some (.text [c])
    | .entity name =>
      match predefined? name with
      | some c => return some (.text [c])
      | none => return some (.entity name)
  else some <$> characters

/-- How much deeper in the tree the content after a token is. -/
def rise : Token → Int
  | startTag _ _ false => 1
  | endTag _ => -1
  | _ => 0

/-- The tokens of the element that comes next. -/
def ofElement : Reader Char (List Token) := do
  expect ['<']
  let first ← startTagRest
  iterate ([first], first.rise) fun (read, depth) => do
    if depth ≤ 0 then return .inr read.reverse
    match ← token? with
    | none => return .inl (read, depth)
    | some t => return .inl (t :: read, depth + t.rise)

/-- The tokens of a whole text. -/
def ofText : Reader Char (List Token) :=
  iterate [] fun read => do
    if ← atEnd then return .inr read.reverse
    match ← token? with
    | none => return .inl read
    | some t => return .inl (t :: read)

/-- Whether every tag in a list of tokens has its partner in it, in a list that starts `depth`
elements deep. -/
def balancedAt (depth : Int) : List Token → Bool
  | [] => depth == 0
  | t :: rest => 0 ≤ depth + t.rise && balancedAt (depth + t.rise) rest

end Token

end BusTraits.Markup
