import BusTraits.Proofs.Identifier.PlainCase

/-!
# Folding in one pass

The snake case of a name can be told without the two searches: take the runs of letters and
numerals, begin a word before each capital that stands where a word begins, and join the words in
lower case by underscores (`onePass`).

* `breaks_between`: a text without empty pieces has its underscores one by one, between other
  characters;
* **`foldCase_onePass`**: a folded name is what the one pass gives, it is empty exactly if the name
  has no letter or numeral, and its underscores stand between words.
-/

namespace BusTraits.Identifier

open Text

/-- The snake case of a name, from one pass over each of its runs. -/
def onePass (name : List Char) : List Char :=
  ['_'].intercalate (((runs name).flatMap (cutWhere startsWord)).map lower)

/-! ## Underscores between words -/

/-- An underscore at the beginning leaves an empty piece before it. -/
theorem nil_mem_splitOn_break (rest : List Char) : [] ∈ ('_' :: rest).splitOn '_' := by
  have hpieces := List.splitOn_append_cons_self [] rest (a := '_')
  rw [List.nil_append] at hpieces
  rw [hpieces]
  exact List.mem_append_left _ List.mem_cons_self

/-- A text without empty pieces has its underscores one by one, between other characters. -/
theorem breaks_between {text : List Char} (h : [] ∉ text.splitOn '_') :
    text.head? ≠ some '_' ∧ text.getLast? ≠ some '_' ∧ ¬ ['_', '_'] <:+: text := by
  refine ⟨fun hhead => ?_, fun hlast => ?_, ?_⟩
  · obtain ⟨rest, rfl⟩ := List.head?_eq_some_iff.mp hhead
    exact h (nil_mem_splitOn_break rest)
  · obtain ⟨before, rfl⟩ := List.getLast?_eq_some_iff.mp hlast
    rw [List.splitOn_append_cons_self] at h
    exact h (List.mem_append_right _ List.mem_cons_self)
  · rintro ⟨before, after, rfl⟩
    rw [List.append_assoc, List.cons_append, List.cons_append, List.splitOn_append_cons_self] at h
    exact h (List.mem_append_right _ (nil_mem_splitOn_break after))

/-- A folded name that is not empty is split into its words at the underscores. -/
theorem splitOn_foldCase {name : String} (h : words name.toList ≠ []) :
    (foldCase name).toList.splitOn '_' = (words name.toList).map lower := by
  rw [toList_foldCase]
  refine List.splitOn_intercalate '_' (fun w hw => ?_) (mt List.map_eq_nil_iff.mp h)
  obtain ⟨u, hu, rfl⟩ := List.mem_map.mp hw
  exact break_not_mem_lower fun c hc => ((mem_words hu).2 c hc).2

theorem foldCase_eq_empty_iff {name : String} :
    foldCase name = "" ↔ ∀ c ∈ name.toList, isAlphanumeric c = false := by
  rw [← words_eq_nil_iff]
  constructor
  · intro h
    have hpieces := pieces_foldCase name
    rw [h, show "".toList = [] from rfl, pieces_nil] at hpieces
    exact List.map_eq_nil_iff.mp hpieces.symm
  · intro h
    rw [foldCase, h]
    rfl

/-! ## Folding -/

/-- **A folded name is what one pass over its runs gives**: in each run, a word begins before a
capital that follows a small letter or a digit, or that stands between a capital and a small letter.
It is empty exactly if the name has no letter or numeral, and its underscores stand one by one
between words. -/
theorem foldCase_onePass (name : String) :
    (foldCase name).toList = onePass name.toList ∧
      (foldCase name = "" ↔ ∀ c ∈ name.toList, isAlphanumeric c = false) ∧
      (foldCase name).toList.head? ≠ some '_' ∧ (foldCase name).toList.getLast? ≠ some '_' ∧
      ¬ ['_', '_'] <:+: (foldCase name).toList := by
  refine ⟨?_, foldCase_eq_empty_iff, ?_⟩
  · rw [toList_foldCase, words_eq, chunks_eq]
    rfl
  · by_cases hwords : words name.toList = []
    · have hempty : (foldCase name).toList = [] := by
        rw [toList_foldCase, hwords]
        rfl
      rw [hempty]
      exact ⟨by simp, by simp, by simp⟩
    · refine breaks_between fun hmem => ?_
      rw [splitOn_foldCase hwords] at hmem
      obtain ⟨w, hw, hnil⟩ := List.mem_map.mp hmem
      exact lower_ne_nil (mem_words hw).1 hnil

example : onePass "XMLHttpRequest-2ndTRY".toList = "xml_http_request_2nd_try".toList := by
  decide +kernel

end BusTraits.Identifier
