import BusTraits.Markup.Token

/-!
# Lexemes of declarations

A declaration of a document type is a list of names, quoted texts and signs, ended by an angle
bracket. Most of them have to be set off from what follows by white space or by certain signs.
-/

namespace BusTraits.Markup

/-- A part of a declaration. -/
inductive Lexeme where
  /-- A name without a colon. -/
  | name (text : String)
  /-- A name with a colon inside. -/
  | qualified (text : String)
  /-- Name characters that make up no name. -/
  | nmtoken (text : String)
  /-- A name and the sign that says how often it may occur. -/
  | particle (text : String)
  /-- A name after a number sign. -/
  | keyword (text : String)
  | literal (value : List Char)
  | percent
  | opening
  /-- A closing parenthesis, perhaps with the sign that says how often the group may occur. -/
  | closing (often : Option Char)
  | bar
  | comma
  deriving DecidableEq, Repr

namespace Lexeme

open Reader Token

/-- The signs that say how often something may occur. -/
def isOften (c : Char) : Bool := c = '?' || c = '*' || c = '+'

/-- Fails unless white space or one of the given signs comes next. -/
def setOff (signs : List Char) : Reader Char Unit := do
  guard (← ahead fun c => isSpace c || c ∈ signs)

/-- What kind of name the given characters make up. -/
def ofNameChars (cs : List Char) : Lexeme :=
  let text := String.ofList cs
  let after := (cs.dropWhile (· ≠ ':')).drop 1
  if !cs.head?.any isNameStart then .nmtoken text
  else if ':' ∉ cs then .name text
  else if after.isEmpty || ':' ∈ after then .nmtoken text
  else .qualified text

/-- A name or a list of name characters, and the sign after it. -/
def nameLike : Reader Char Lexeme := do
  let lexeme := ofNameChars (← many fun c => isNameChar c || c = ':')
  match lexeme with
  | .name word | .qualified word =>
    if ← ahead isOften then
      let _ ← next
      return .particle word
  | _ => pure ()
  setOff ['>', ')', ',', '|', '[', '%']
  return lexeme

/-- A quoted text. -/
def quotedText : Reader Char Lexeme := do
  let value ← upTo [← quote]
  setOff ['>', '%', '[']
  return .literal value

/-- The next lexeme. -/
def read : Reader Char Lexeme := do
  if ← ahead fun c => isNameChar c || c = ':' then nameLike
  else if ← ahead fun c => c = '"' || c = '\'' then quotedText
  else
    match ← next with
    | '(' => return .opening
    | '|' => return .bar
    | ',' => return .comma
    | ')' =>
      if ← ahead isOften then return .closing (some (← next))
      setOff ['>', ')', ',', '|']
      return .closing none
    | '%' =>
      setOff []
      return .percent
    | '#' =>
      let word ← Token.name
      setOff [')', '>', '%', '|']
      return .keyword word
    | _ => failure

/-- The lexemes up to a sign that ends them, and that sign. -/
def readUntil (ends : Char → Bool) : Reader Char (List Lexeme × Char) :=
  iterate [] fun read => do
    let _ ← spaces
    if ← ahead ends then return .inr (read.reverse, ← next)
    return .inl ((← Lexeme.read) :: read)

/-- The text of a name with or without a colon. -/
def qname? : Lexeme → Option String
  | .name word | .qualified word => some word
  | _ => none

end Lexeme

end BusTraits.Markup
