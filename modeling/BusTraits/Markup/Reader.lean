/-!
# Readers

A reader takes what it reads off the front of a list of symbols, and fails when that is not there.
A loop of readers ends because every round but the last reads at least one symbol, so there are no
more rounds than symbols (`iterate`).
-/

namespace BusTraits.Markup

/-- Something that is read off the front of a list of symbols. -/
abbrev Reader (τ : Type) := StateT (List τ) Option

namespace Reader

variable {τ σ α : Type}

/-- The next symbol. -/
def next : Reader τ τ
  | [] => none
  | t :: rest => some (t, rest)

/-- Whether a symbol comes next that satisfies a condition. It is not read. -/
def ahead (p : τ → Bool) : Reader τ Bool := fun s => some (s.head?.any p, s)

/-- Whether everything has been read. -/
def atEnd : Reader τ Bool := fun s => some (s.isEmpty, s)

/-- The symbols up to the first that does not satisfy a condition. -/
def many (p : τ → Bool) : Reader τ (List τ) := fun s => some (s.takeWhile p, s.dropWhile p)

/-- Reads the given symbols if they come next, and says whether they did. -/
def accept [BEq τ] (symbols : List τ) : Reader τ Bool := fun s =>
  if symbols.isPrefixOf s then some (true, s.drop symbols.length) else some (false, s)

/-- Reads the given symbols. -/
def expect [BEq τ] (symbols : List τ) : Reader τ Unit := do
  guard (← accept symbols)

/-- What stands before the first occurrence of some symbols, and what after it. -/
def cutAt [BEq τ] (stop : List τ) : List τ → Option (List τ × List τ)
  | [] => none
  | t :: rest =>
    if stop.isPrefixOf (t :: rest) then some ([], (t :: rest).drop stop.length)
    else (cutAt stop rest).map fun (before, after) => (t :: before, after)

/-- The symbols up to the first occurrence of `stop`, which is read too. -/
def upTo [BEq τ] (stop : List τ) : Reader τ (List τ) := cutAt stop

/-- Repeats a step until it gives a result, with at most one round for each symbol of `bound` and
one more. -/
def iterateFor (step : σ → Reader τ (σ ⊕ α)) : (bound : List τ) → σ → Reader τ α
  | [], state => do
    match ← step state with
    | .inl _ => failure
    | .inr result => return result
  | _ :: bound, state => do
    match ← step state with
    | .inl state => iterateFor step bound state
    | .inr result => return result

/-- Repeats a step until it gives a result. Every step but the last has to read something. -/
def iterate (start : σ) (step : σ → Reader τ (σ ⊕ α)) : Reader τ α := fun s =>
  iterateFor step s start s

/-- Reads a whole list of symbols. -/
def readAll (reader : Reader τ α) (symbols : List τ) : Option α :=
  match reader symbols with
  | some (result, []) => some result
  | _ => none

end Reader

end BusTraits.Markup
