/-!
# Keywords

Words of Rust that cannot be the name of a trait member or of a parameter. An identifier that
would be one of them gets an underscore at its end.
-/

namespace BusTraits.Identifier

/-- The words that are no identifiers. -/
def keywords : List String := [
  "type", "match", "ref", "mut", "const", "fn", "mod", "pub", "self", "super", "as", "trait",
  "struct", "enum", "impl", "use", "where", "loop", "move", "static", "async", "await", "dyn",
  "crate", "abstract", "final", "macro", "try", "union", "box", "continue", "else", "extern",
  "false", "for", "if", "in", "let", "return", "true", "unsafe", "while", "break", "do", "gen",
  "override", "priv", "typeof", "unsized", "virtual", "yield"]

/-- Makes an identifier of a keyword and leaves every other word as it is. -/
def escapeKeyword (word : String) : String :=
  if word ∈ keywords then word ++ "_" else word

/-- **An escaped word is no keyword.** -/
theorem escapeKeyword_not_mem (word : String) : escapeKeyword word ∉ keywords := by
  unfold escapeKeyword
  split
  · rename_i h
    have all : ∀ w ∈ keywords, w ++ "_" ∉ keywords := by decide
    exact all word h
  · assumption

end BusTraits.Identifier
