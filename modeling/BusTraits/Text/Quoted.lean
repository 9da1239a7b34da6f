import BusTraits.Text.Printable

/-!
# Quoted text

A text in quotes, on one line: single quotes, or double ones when the text holds a single quote
and no double one. The quote in use and the backslash are written after a backslash, line feed,
carriage return and tab as `\n`, `\r` and `\t`, and any other character that does not show as its
code point in two, four or eight hexadecimal digits, after `\x`, `\u` or `\U`.
-/

namespace BusTraits.Text

/-- A number in hexadecimal digits, with zeros in front up to a width. -/
def hexadecimal (width n : Nat) : List Char :=
  let digits := Nat.toDigits 16 n
  List.replicate (width - digits.length) '0' ++ digits

/-- A character inside a quoted text. -/
def quoteChar (quote c : Char) : List Char :=
  if c = quote || c = '\\' then ['\\', c]
  else if c = '\n' then ['\\', 'n']
  else if c = '\r' then ['\\', 'r']
  else if c = '\t' then ['\\', 't']
  else if isPrintable c then [c]
  else if c.toNat < 0x100 then '\\' :: 'x' :: hexadecimal 2 c.toNat
  else if c.toNat < 0x10000 then '\\' :: 'u' :: hexadecimal 4 c.toNat
  else '\\' :: 'U' :: hexadecimal 8 c.toNat

/-- The quote that a text is put in. -/
def quoteFor (text : List Char) : Char :=
  if '\'' ∈ text ∧ '"' ∉ text then '"' else '\''

/-- A text in quotes. -/
def quoted (text : String) : String :=
  let quote := quoteFor text.toList
  String.ofList (quote :: text.toList.flatMap (quoteChar quote) ++ [quote])

/-- A text in quotes, or the word for no text. -/
def quoted? : Option String → String
  | some text => quoted text
  | none => "None"

/-- A list of written values, in brackets. -/
def bracketed (values : List String) : String := "[" ++ ", ".intercalate values ++ "]"

end BusTraits.Text
