import BusTraits.Identifier.Synthesis

/-!
# Bases

A base is made in two steps, the text that stands for the name (`started`) and the keyword that may
have to be escaped.

* `toList_foldCase`: the snake case of a name is its words in lower case, between underscores;
* `baseFor_eq`: a base is the affix and that text, escaped;
* **`baseFor_eq_iff`**: a word that no step makes or changes is the base of the names that fold to
  it, and of no other.
-/

namespace BusTraits.Identifier

open Text

theorem toList_foldCase (name : String) :
    (foldCase name).toList = ['_'].intercalate ((words name.toList).map lower) := by
  rw [foldCase, String.toList_intercalate, List.map_map]
  simp [Function.comp_def]

/-- Underscores apart, the characters of joined words are those of the words. -/
theorem mem_intercalate_break {c : Char} (hc : c ≠ '_') :
    ∀ {ws : List (List Char)}, c ∈ ['_'].intercalate ws ↔ ∃ w ∈ ws, c ∈ w
  | [] => by simp [List.intercalate]
  | [w] => by simp
  | w :: v :: ws => by
    rw [List.intercalate_cons_cons, List.mem_append, List.mem_append, List.mem_singleton,
      or_iff_left hc, mem_intercalate_break hc]
    simp

theorem mem_foldCase {name : String} {c : Char} (hc : c ≠ '_') :
    c ∈ (foldCase name).toList ↔ ∃ w ∈ words name.toList, c ∈ lower w := by
  rw [toList_foldCase, mem_intercalate_break hc]
  constructor
  · rintro ⟨u, hu, hmem⟩
    obtain ⟨w, hw, rfl⟩ := List.mem_map.mp hu
    exact ⟨w, hw, hmem⟩
  · rintro ⟨w, hw, hmem⟩
    exact ⟨lower w, List.mem_map_of_mem hw, hmem⟩

/-- What stands for a name in its base: its snake case, with an underscore in front of a digit, or
the placeholder if it has neither letters nor numerals. -/
def started (name : Option String) : String :=
  let folded := (name.map foldCase).getD ""
  match folded.toList with
  | [] => placeholder
  | c :: _ => if isDigit c then "_" ++ folded else folded

theorem baseFor_eq (name : Option String) (affix : String) :
    baseFor name affix = escapeKeyword (affix ++ started name) := rfl

/-! ## Keywords -/

theorem break_not_mem_keyword : ∀ word ∈ keywords, '_' ∉ word.toList := by
  decide

theorem break_mem_escapeKeyword {word : String} (h : '_' ∈ word.toList) :
    '_' ∈ (escapeKeyword word).toList := by
  unfold escapeKeyword
  split
  · rw [String.toList_append]
    exact List.mem_append_left _ h
  · exact h

/-- No word but itself is escaped to a word without an underscore. -/
theorem escapeKeyword_eq_iff {word other : String} (hbreak : '_' ∉ word.toList)
    (hkeyword : word ∉ keywords) : escapeKeyword other = word ↔ other = word := by
  unfold escapeKeyword
  split
  · rename_i hother
    refine iff_of_false ?_ ?_
    · rintro rfl
      rw [String.toList_append] at hbreak
      exact hbreak (List.mem_append_right _ (by decide))
    · rintro rfl
      exact hkeyword hother
  · rfl

/-! ## Words as bases -/

/-- An affix with an underscore leaves it in the base. -/
theorem break_mem_baseFor {affix : String} (h : '_' ∈ affix.toList) (name : Option String) :
    '_' ∈ (baseFor name affix).toList := by
  rw [baseFor_eq]
  refine break_mem_escapeKeyword ?_
  rw [String.toList_append]
  exact List.mem_append_left _ h

/-- **The names of a word**: one that begins with no digit and is neither a keyword nor the
placeholder nor a text with an underscore is the base of the names that fold to it. -/
theorem baseFor_eq_iff {word : String} {name : Option String}
    (hfirst : word.toList.head?.any (fun c => !isDigit c) = true) (hbreak : '_' ∉ word.toList)
    (hkeyword : word ∉ keywords) (hplaceholder : word ≠ placeholder) :
    baseFor name "" = word ↔ name.map foldCase = some word := by
  have hfolded : (name.map foldCase).getD "" = word ↔ name.map foldCase = some word := by
    cases name with
    | none =>
      refine iff_of_false ?_ (by simp)
      rintro rfl
      cases hfirst
    | some name => exact (Option.some_inj (a := foldCase name)).symm
  rw [← hfolded, baseFor_eq, escapeKeyword_eq_iff hbreak hkeyword, String.empty_append, started]
  split
  · rename_i hempty
    refine iff_of_false (fun h => hplaceholder h.symm) ?_
    rintro rfl
    rw [hempty] at hfirst
    cases hfirst
  · rename_i c rest htext
    split
    · -- an underscore is put in front of a digit, which the word has neither of
      rename_i hdigit
      refine iff_of_false ?_ ?_
      · rintro rfl
        rw [String.toList_append] at hbreak
        exact hbreak (List.mem_append_left _ (by decide))
      · rintro rfl
        rw [htext, List.head?_cons, Option.any_some, hdigit] at hfirst
        cases hfirst
    · rfl

end BusTraits.Identifier
