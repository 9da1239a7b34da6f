import BusTraits.Proofs.Identifier.Base
import BusTraits.Proofs.Identifier.Claim

/-!
# Identifiers and the words of the language

A base is escaped when it is one of the `keywords`, and a later candidate has an underscore, which
no keyword has. So no scope gives out a keyword. The table of keywords is not that of the language,
though: Rust keeps the words in `reservedWords` for itself, and one of them is missing.

* `claim_not_mem_keywords`: no keyword is given out, whatever is asked for;
* **`claim_mem_reservedWords_iff`**: of the words of the language, only `become` is given out, to
  the names that fold to it, and while it is free.
-/

namespace BusTraits.Identifier

/-- **No keyword is given out.** -/
theorem claim_not_mem_keywords (s : Scope) (role : Role) (name : Option String) (affix : String) :
    (s.claim role name affix).1.name ∉ keywords := by
  obtain ⟨k, -, hname, -, -⟩ := claim_spec s role name affix
  rw [hname]
  cases k with
  | zero => exact escapeKeyword_not_mem _
  | succ k =>
    intro h
    exact candidate_succ_ne (break_not_mem_keyword _ h) role (baseFor name affix) k rfl

/-- The words that Rust keeps for itself, strict keywords and reserved ones, in lower case. -/
def reservedWords : List String := [
  "as", "async", "await", "break", "const", "continue", "crate", "dyn", "else", "enum", "extern",
  "false", "fn", "for", "if", "impl", "in", "let", "loop", "match", "mod", "move", "mut", "pub",
  "ref", "return", "self", "static", "struct", "super", "trait", "true", "type", "unsafe", "use",
  "where", "while", "abstract", "become", "box", "do", "final", "gen", "macro", "override", "priv",
  "try", "typeof", "unsized", "virtual", "yield"]

/-- The table of keywords has all words of the language but one. -/
theorem reservedWords_subset :
    ∀ word ∈ reservedWords, word ∈ keywords ∨ word = "become" := by
  decide

theorem baseFor_eq_become {name : Option String} :
    baseFor name "" = "become" ↔ name.map foldCase = some "become" :=
  baseFor_eq_iff (by decide) (by decide) (by decide) (by decide)

/-- **Words of the language**: with the affixes in use, the only one that is given out is `become`,
and it is exactly if the name folds to it and it is still free. -/
theorem claim_mem_reservedWords_iff (s : Scope) (role : Role) (name : Option String)
    (affix : String) (haffix : affix ∈ ["", "get_", "set_", "emit_"]) :
    (s.claim role name affix).1.name ∈ reservedWords ↔
      affix = "" ∧ name.map foldCase = some "become" ∧ "become" ∉ s := by
  constructor
  · intro h
    have hbecome : (s.claim role name affix).1.name = "become" :=
      (reservedWords_subset _ h).resolve_left (claim_not_mem_keywords s role name affix)
    obtain ⟨k, -, hname, -, hfree⟩ := claim_spec s role name affix
    rw [hbecome] at hname
    cases k with
    | succ k => exact absurd hname.symm (candidate_succ_ne (by decide) role _ k)
    | zero =>
      have hbase : baseFor name affix = "become" := hname.symm
      have hbare : '_' ∉ affix.toList := by
        intro hbreak
        have hmem := break_mem_baseFor hbreak name
        rw [hbase] at hmem
        exact absurd hmem (by decide)
      obtain rfl : affix = "" := by
        have hall : ∀ x ∈ ["", "get_", "set_", "emit_"], '_' ∉ x.toList → x = "" := by decide
        exact hall affix haffix hbare
      rw [← hname] at hfree
      exact ⟨rfl, baseFor_eq_become.mp hbase, hfree⟩
  · rintro ⟨rfl, hfold, hfree⟩
    have hbase := baseFor_eq_become.mpr hfold
    rw [claim_name_of_not_mem (by rwa [hbase]), hbase]
    decide

/-- A property named `Yield` is given another name, since that word is in the table. -/
theorem yield_not_mem_reservedWords :
    "" ∈ ["", "get_", "set_", "emit_"] ∧
      (Scope.empty.claim .property (some "Yield") "").1.name ∉ reservedWords := by
  refine ⟨by decide, fun h => ?_⟩
  obtain ⟨-, hfold, -⟩ :=
    (claim_mem_reservedWords_iff .empty .property (some "Yield") "" (by decide)).mp h
  exact absurd hfold (by decide +kernel)

/-- A method named `Become` is given the name `become`, which is a word of the language. -/
theorem become_given_out :
    (Scope.empty.claim .method (some "Become") "").1.name = "become" ∧
      "become" ∈ reservedWords := by
  decide +kernel

end BusTraits.Identifier
