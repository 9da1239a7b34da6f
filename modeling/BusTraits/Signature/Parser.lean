import BusTraits.Signature.Basic

/-!
# Reading a signature

A signature is read from left to right, one character at a time, with the constructs that are
still open kept on a stack of `Frame`s. `State.step` takes one character and, since an array code
is complete by itself when nothing can follow as its element, the character after it. A finished
type goes to the innermost open construct (`settle`), which may finish in turn.

Two faults of a signature are no reason to reject it: a character that is no type code, and an
array code that ends where its element should start. Each becomes an unknown type and leaves a
remark. So does the empty signature. Everything else is rejected, with the column at which no
signature goes on like the text read so far. A text that ends too early is rejected at its last
character.

Columns count from one. A line feed has a column of its own and the count starts again after it.
-/

namespace BusTraits.Signature

/-! ## Remarks and errors -/

/-- What was guessed while a signature was read. -/
inductive Issue where
  | empty
  | unknownCode (code : Char) (column : Nat)
  | danglingArray (column : Nat)
  deriving DecidableEq, Repr

/-- A guess and the signature it was made in. -/
structure Remark where
  signature : String
  issue : Issue
  deriving DecidableEq, Repr

namespace Remark

/-- The line that tells the user of a remark. -/
def message (r : Remark) : String :=
  match r.issue with
  | .empty => "Warning: empty D-Bus signature '" ++ r.signature ++ "', using a variant"
  | .unknownCode code column =>
    "Warning: unknown D-Bus type '" ++ code.toString ++ "' at column " ++ toString column ++
      " of signature '" ++ r.signature ++ "'"
  | .danglingArray column =>
    "Warning: D-Bus signature '" ++ r.signature ++ "' ends after the array code at column " ++
      toString column ++ ", using a variant element"

end Remark

/-- Why a signature was rejected. -/
inductive Error where
  | tooLong (length : Nat)
  | malformed (signature : String) (column : Nat)
  deriving DecidableEq, Repr

/-- The most characters a signature may have. -/
def maxLength : Nat := 255

namespace Error

/-- The line that tells the user of a rejected signature. -/
def message : Error → String
  | tooLong length =>
    "D-Bus signature is " ++ toString length ++ " characters long, the limit is " ++
      toString maxLength
  | malformed signature column =>
    "Malformed D-Bus signature '" ++ signature ++ "' at column " ++ toString column

end Error

/-! ## One character at a time -/

/-- A construct whose next part is still to be read. -/
inductive Frame where
  /-- The element of an array comes next, or the brace that makes it a dictionary. -/
  | element
  /-- The key of a dictionary comes next. -/
  | key
  /-- The value of a dictionary with this key comes next. -/
  | value (key : BusType)
  /-- Another field of a struct comes next, or its end. The fields read so far, the last one
  first. -/
  | fields (before : List BusType)

/-- Where a reader stands between two characters, with the open constructs, the innermost first.
-/
inductive State where
  /-- A type comes next, or what the innermost construct takes instead. -/
  | wanted (stack : List Frame)
  /-- The brace that ends a dictionary comes next. -/
  | entryEnd (key value : BusType) (stack : List Frame)
  /-- Nothing may come next. -/
  | complete (type : BusType)

/-- Hands a finished type to the innermost open construct. -/
def settle (t : BusType) : List Frame → State
  | [] => .complete t
  | .element :: stack => settle (.array t) stack
  | .key :: stack => .wanted (.value t :: stack)
  | .value k :: stack => .entryEnd k t stack
  | .fields ts :: stack => .wanted (.fields (t :: ts) :: stack)

/-- Whether no element can start here: the text or the construct around the array ends. -/
def endsArray : Option Char → Bool
  | none => true
  | some c => c == ')' || c == '\x7d'

/-- The state after the character `c` in column `column`, and the guess it takes. The character
after it is `next`. No state means that no signature goes on with `c`. -/
def State.step (column : Nat) (next : Option Char) (c : Char) :
    State → Option (State × Option Issue)
  | .complete _ => none
  | .entryEnd k v stack => if c = '\x7d' then some (settle (.dict k v) stack, none) else none
  | .wanted stack =>
    match c, stack with
    | '(', stack => some (.wanted (.fields [] :: stack), none)
    | ')', .fields ts :: stack => some (settle (.struct ts.reverse) stack, none)
    | ')', _ => none
    | '\x7b', .element :: stack => some (.wanted (.key :: stack), none)
    | '\x7b', _ => none
    | '\x7d', _ => none
    | 'a', stack =>
      if endsArray next then some (settle (.array .unknown) stack, some (.danglingArray column))
      else some (.wanted (.element :: stack), none)
    | c, stack =>
      match Primitive.ofCode? c with
      | some p => some (settle (.prim p) stack, none)
      | none => some (settle .unknown stack, some (.unknownCode c column))

/-! ## The whole text -/

/-- The column after the one of `c`. -/
def nextColumn (c : Char) (column : Nat) : Nat :=
  if c = '\n' then 1 else column + 1

/-- Reads on from a state to the end of the text, `column` being that of the next character and
`last` that of the character before it. The error is the column where the text stops being a
signature. -/
def scan (last column : Nat) : State → List Char → Except Nat (BusType × List Issue)
  | .complete t, [] => .ok (t, [])
  | _, [] => .error last
  | state, c :: rest =>
    match state.step column rest.head? c with
    | none => .error column
    | some (state, issue) =>
      match scan column (nextColumn c column) state rest with
      | .error column => .error column
      | .ok (t, issues) => .ok (t, issue.toList ++ issues)

/-- A type, and the remarks made on the way to it. -/
structure Reading where
  type : BusType
  remarks : List Remark
  deriving DecidableEq, Repr

/-- Reads a whole text as one signature. -/
def parse (signature : String) : Except Error Reading :=
  if signature.length > maxLength then .error (.tooLong signature.length)
  else if signature.isEmpty then .ok ⟨.unknown, [⟨signature, .empty⟩]⟩
  else
    match scan 0 1 (.wanted []) signature.toList with
    | .error column => .error (.malformed signature column)
    | .ok (t, issues) => .ok ⟨t, issues.map (Remark.mk signature)⟩

/-- Reads a signature for a caller that keeps a list of messages. Those of the remarks are added
once the whole text has been read. -/
def parseInto (signature : String) : ExceptT Error (StateM (List String)) BusType := do
  let reading ← parse signature
  modify fun messages => messages ++ reading.remarks.map (·.message)
  return reading.type

end BusTraits.Signature
