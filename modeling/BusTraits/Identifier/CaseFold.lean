import BusTraits.Text.Alphanumeric
import BusTraits.Text.LowerCase

/-!
# Folding a name to snake case

The members of an interface have names such as `GetAll`, `XMLHttpRequest` or `max-size`. A name is
folded in three steps: its runs of letters and numerals are taken apart (`chunks`); each run is
cut into words, first where an acronym ends (`XMLHttp` becomes `XML_Http`) and then where a small
letter or a digit is followed by a capital (`loadHTML` becomes `load_HTML`); the words are written
in lower case and joined by underscores.

Only ASCII letters and digits mark the beginning of a word. A word is put in lower case on its
own, so that its last letter is the end of a word.
-/

namespace BusTraits.Identifier

open Text

/-! ## Runs of letters and numerals -/

/-- The runs of alphanumeric characters in a text. The first one goes on from `begun`, which holds
the characters before the text, the last one first. -/
def chunksFrom (begun : List Char) : List Char → List (List Char)
  | [] => if begun.isEmpty then [] else [begun.reverse]
  | c :: rest =>
    if isAlphanumeric c then chunksFrom (c :: begun) rest
    else if begun.isEmpty then chunksFrom [] rest
    else begun.reverse :: chunksFrom [] rest

/-- The longest runs of alphanumeric characters. -/
def chunks (name : List Char) : List (List Char) := chunksFrom [] name

/-! ## Words -/

/-- The ASCII capitals. -/
def isCapital (c : Char) : Bool := 'A' ≤ c && c ≤ 'Z'

/-- The ASCII small letters. -/
def isSmall (c : Char) : Bool := 'a' ≤ c && c ≤ 'z'

/-- The ASCII digits. -/
def isNumeral (c : Char) : Bool := '0' ≤ c && c ≤ '9'

/-- A pattern of two groups: what they match at the start of a text, if it is there. -/
abbrev Pattern := List Char → Option (List Char × List Char)

/-- The beginning of a capitalized word, a capital and a small letter. -/
def wordStart : List Char → Option (List Char)
  | c :: d :: _ => if isCapital c && isSmall d then some [c, d] else none
  | _ => none

/-- Capitals followed by the beginning of a capitalized word. There are to be as many capitals in
the first group as possible, so one more is tried before the group ends. -/
def acronymEnd : Pattern
  | [] => none
  | c :: rest =>
    if isCapital c then
      match acronymEnd rest with
      | some (acronym, start) => some (c :: acronym, start)
      | none => (wordStart rest).map fun start => ([c], start)
    else none

/-- A small letter or a digit followed by a capital. -/
def wordEnd : Pattern
  | c :: d :: _ => if (isSmall c || isNumeral c) && isCapital d then some ([c], [d]) else none
  | _ => none

/-- A text with an underscore between the groups of each match of a pattern. The next match is
looked for behind the last one, of which `skip` characters are still to be passed over. -/
def breakMatches (pattern : Pattern) : (skip : Nat) → List Char → List Char
  | _, [] => []
  | skip + 1, _ :: rest => breakMatches pattern skip rest
  | 0, c :: rest =>
    match pattern (c :: rest) with
    | some (first, second) =>
      first ++ '_' :: second ++ breakMatches pattern (first.length + second.length - 1) rest
    | none => c :: breakMatches pattern 0 rest

/-- The words of a run of alphanumeric characters. -/
def wordsOfChunk (chunk : List Char) : List (List Char) :=
  (breakMatches wordEnd 0 (breakMatches acronymEnd 0 chunk)).splitOn '_'

/-- The words of a name. -/
def words (name : List Char) : List (List Char) :=
  ((chunks name).flatMap wordsOfChunk).filter fun word => !word.isEmpty

/-! ## Folding -/

/-- A name in snake case. -/
def foldCase (name : String) : String :=
  "_".intercalate ((words name.toList).map fun word => String.ofList (lower word))

end BusTraits.Identifier
