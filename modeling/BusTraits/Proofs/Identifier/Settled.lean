import BusTraits.Proofs.Identifier.PlainCase

/-!
# Folding what is folded

A name in snake case is its own snake case, and a base is its own base: words in lower case have no
capital at which another word could begin, and the underscores of a digit or a keyword are taken
away and put back. The capital `İ` is the one exception. Its lower case has a dot that is neither
letter nor numeral, so that the second time a word ends there.

* `words_intercalate`: words without capitals are found again;
* `dot_mem_foldCase_iff`: the dot is in the snake case of the names with `İ`;
* **`settled_iff`**: folding again, or taking the base again, changes nothing exactly if the name
  has no `İ`.
-/

namespace BusTraits.Identifier

open Text

/-! ## Words that are found again -/

theorem not_capital_of_fixed {c : Char} (h : lowerChar c = [c]) : isCapital c = false := by
  rw [Bool.eq_false_iff]
  intro hc
  exact forall_capital (P := fun c => lowerChar c ≠ [c]) (by decide) hc h

theorem cutWhere_of_no_capital :
    ∀ {text : List Char}, text ≠ [] → (∀ c ∈ text, isCapital c = false) →
      cutWhere startsWord text = [text]
  | [c], _, _ => rfl
  | c :: d :: rest, _, h => by
    have hcut : startsWord c d rest.head? ≠ true := by
      intro hstart
      have hd := h d (List.mem_cons_of_mem c List.mem_cons_self)
      rw [isCapital_of_startsWord hstart] at hd
      cases hd
    rw [cutWhere, if_neg hcut,
      cutWhere_of_no_capital (List.cons_ne_nil d rest) fun e he => h e (List.mem_cons_of_mem c he),
      extendFirst]

/-- **Words without capitals are found again** when they are joined by underscores. -/
theorem words_intercalate :
    ∀ {ws : List (List Char)},
      (∀ w ∈ ws, w ≠ [] ∧ ∀ c ∈ w, isAlphanumeric c = true ∧ isCapital c = false) →
        words (['_'].intercalate ws) = ws
  | [], _ => rfl
  | [w], h => by
    obtain ⟨hne, hall⟩ := h w List.mem_cons_self
    rw [List.intercalate_singleton, words_of_all hne fun c hc => (hall c hc).1,
      cutWhere_of_no_capital hne fun c hc => (hall c hc).2]
  | w :: v :: ws, h => by
    obtain ⟨hne, hall⟩ := h w List.mem_cons_self
    rw [List.intercalate_cons_cons, List.append_assoc, List.singleton_append,
      words_append_break w _ isAlphanumeric_break, words_of_all hne fun c hc => (hall c hc).1,
      cutWhere_of_no_capital hne fun c hc => (hall c hc).2,
      words_intercalate fun u hu => h u (List.mem_cons_of_mem w hu)]
    rfl

/-- The snake case of a name comes from its words alone. -/
theorem foldCase_congr {name other : String} (h : words name.toList = words other.toList) :
    foldCase name = foldCase other := by
  rw [foldCase, foldCase, h]

theorem foldCase_foldCase {name : String} (h : 'İ' ∉ name.toList) :
    foldCase (foldCase name) = foldCase name := by
  have hlower : ∀ u ∈ (words name.toList).map lower,
      u ≠ [] ∧ ∀ c ∈ u, isAlphanumeric c = true ∧ lowerChar c = [c] := by
    intro u hu
    obtain ⟨w, hw, rfl⟩ := List.mem_map.mp hu
    obtain ⟨hne, hall⟩ := mem_words hw
    refine ⟨lower_ne_nil hne, fun c hc => ?_⟩
    obtain ⟨hfixed, halpha | ⟨-, hdot⟩⟩ := mem_lowerAfter [] (fun d hd => (hall d hd).2) hc
    · exact ⟨halpha, hfixed⟩
    · exact absurd (hall _ hdot).1 h
  rw [← String.toList_inj, toList_foldCase (foldCase name), toList_foldCase name,
    words_intercalate fun u hu => ⟨(hlower u hu).1, fun c hc =>
      ⟨((hlower u hu).2 c hc).1, not_capital_of_fixed ((hlower u hu).2 c hc).2⟩⟩]
  refine congrArg (['_'].intercalate) ?_
  calc ((words name.toList).map lower).map lower
      = ((words name.toList).map lower).map id := List.map_congr_left fun u hu =>
        lowerAfter_of_fixed [] fun c hc => ((hlower u hu).2 c hc).2
    _ = (words name.toList).map lower := List.map_id _

/-! ## Underscores that are put back -/

theorem foldCase_break_append (text : String) : foldCase ("_" ++ text) = foldCase text := by
  refine foldCase_congr ?_
  rw [String.toList_append]
  exact words_append_break [] text.toList isAlphanumeric_break

theorem foldCase_escapeKeyword (word : String) : foldCase (escapeKeyword word) = foldCase word := by
  unfold escapeKeyword
  split
  · refine foldCase_congr ?_
    rw [String.toList_append]
    exact (words_append_break word.toList [] isAlphanumeric_break).trans (List.append_nil _)
  · rfl

/-- What stands for a name that has a snake case folds to it. -/
theorem foldCase_started {name : Option String} (h : ∀ n ∈ name, 'İ' ∉ n.toList)
    (hne : (name.map foldCase).getD "" ≠ "") :
    foldCase (started name) = (name.map foldCase).getD "" := by
  have hfold : foldCase ((name.map foldCase).getD "") = (name.map foldCase).getD "" := by
    cases name with
    | none => rfl
    | some n => exact foldCase_foldCase (h n rfl)
  rw [started]
  split
  · rename_i hempty
    exact absurd (String.toList_inj.mp hempty) hne
  · split
    · rw [foldCase_break_append, hfold]
    · exact hfold

/-- A base comes from the snake case of the name alone. -/
theorem baseFor_congr {name other : Option String} {affix : String}
    (h : (name.map foldCase).getD "" = (other.map foldCase).getD "") :
    baseFor name affix = baseFor other affix := by
  rw [baseFor, baseFor, h]

theorem baseFor_baseFor {name : Option String} (h : ∀ n ∈ name, 'İ' ∉ n.toList) :
    baseFor (some (baseFor name)) = baseFor name := by
  by_cases hempty : (name.map foldCase).getD "" = ""
  · -- the placeholder is a word in lower case
    have hnone : baseFor name = baseFor none := baseFor_congr hempty
    rw [hnone]
    decide +kernel
  · refine baseFor_congr ?_
    rw [baseFor_eq, String.empty_append, Option.map_some, Option.getD_some, foldCase_escapeKeyword,
      foldCase_started h hempty]

/-! ## The dot that is left over -/

theorem mem_escapeKeyword {word : String} {c : Char} (hc : c ≠ '_') :
    c ∈ (escapeKeyword word).toList ↔ c ∈ word.toList := by
  unfold escapeKeyword
  split
  · rw [String.toList_append, List.mem_append]
    exact or_iff_left fun h => hc (List.mem_singleton.mp h)
  · rfl

/-- Underscores and the placeholder apart, the characters of a base are those of the snake case. -/
theorem mem_baseFor {name : Option String} {c : Char} (hc : c ≠ '_')
    (hplaceholder : c ∉ placeholder.toList) :
    c ∈ (baseFor name).toList ↔ ∃ n ∈ name, c ∈ (foldCase n).toList := by
  have hfolded : c ∈ ((name.map foldCase).getD "").toList ↔
      ∃ n ∈ name, c ∈ (foldCase n).toList := by
    cases name <;> simp
  rw [baseFor_eq, String.empty_append, mem_escapeKeyword hc, ← hfolded, started]
  split
  · rename_i hempty
    rw [hempty]
    exact iff_of_false hplaceholder List.not_mem_nil
  · split
    · rw [String.toList_append, List.mem_append]
      exact or_iff_right fun h => hc (List.mem_singleton.mp h)
    · rfl

theorem dotted_not_mem_foldCase (name : String) : 'İ' ∉ (foldCase name).toList := by
  rw [mem_foldCase (by decide)]
  rintro ⟨w, hw, hmem⟩
  have hfixed := (mem_lowerAfter [] (fun c hc => ((mem_words hw).2 c hc).2) hmem).1
  exact absurd hfixed (by decide)

theorem dot_not_alphanumeric : isAlphanumeric '\u0307' = false := by
  decide +kernel

/-- **The dot is left over from `İ` alone.** -/
theorem dot_mem_foldCase_iff {name : String} :
    '\u0307' ∈ (foldCase name).toList ↔ 'İ' ∈ name.toList := by
  rw [mem_foldCase (by decide)]
  constructor
  · rintro ⟨w, hw, hmem⟩
    obtain ⟨-, halpha | ⟨-, hdot⟩⟩ :=
      mem_lowerAfter [] (fun c hc => ((mem_words hw).2 c hc).2) hmem
    · rw [dot_not_alphanumeric] at halpha
      cases halpha
    · exact ((mem_words hw).2 _ hdot).1
  · intro hdot
    have hflat : 'İ' ∈ (words name.toList).flatten := by
      rw [flatten_words, List.mem_filter]
      exact ⟨hdot, by decide +kernel⟩
    obtain ⟨w, hw, hmem⟩ := List.mem_flatten.mp hflat
    exact ⟨w, hw, dot_mem_lowerAfter [] hmem⟩

/-! ## Folding twice -/

/-- **Folding again, or taking the base again, changes nothing exactly if the name has no `İ`**,
which is the one letter whose lower case is not made of letters and numerals. The base may be that
of a missing name. -/
theorem settled_iff (name : String) (given : Option String) :
    (foldCase (foldCase name) = foldCase name ↔ 'İ' ∉ name.toList) ∧
      (baseFor (some (baseFor given)) = baseFor given ↔ ∀ n ∈ given, 'İ' ∉ n.toList) ∧
      ∀ c, isAlphanumeric c = true → ((lower [c]).all isAlphanumeric = true ↔ c ≠ 'İ') := by
  refine ⟨⟨fun h hdot => ?_, foldCase_foldCase⟩, ⟨fun h n hn hdot => ?_, baseFor_baseFor⟩,
    fun c hc => ⟨?_, fun hne => ?_⟩⟩
  · have hfolded := dot_mem_foldCase_iff.mpr hdot
    rw [← h, dot_mem_foldCase_iff] at hfolded
    exact dotted_not_mem_foldCase name hfolded
  · have hbase : '\u0307' ∈ (baseFor given).toList :=
      (mem_baseFor (by decide) (by decide)).mpr ⟨n, hn, dot_mem_foldCase_iff.mpr hdot⟩
    rw [← h, mem_baseFor (by decide) (by decide)] at hbase
    obtain ⟨m, hm, hdot⟩ := hbase
    obtain rfl : baseFor given = m := Option.some.inj hm
    rw [dot_mem_foldCase_iff, mem_baseFor (by decide) (by decide)] at hdot
    obtain ⟨m, -, hmem⟩ := hdot
    exact dotted_not_mem_foldCase m hmem
  · rintro hall rfl
    revert hall
    decide +kernel
  · rw [List.all_eq_true]
    intro l hl
    have hword : ∀ d ∈ [c], isAlphanumeric d = true := List.forall_mem_singleton.mpr hc
    obtain ⟨-, halpha | ⟨-, hdot⟩⟩ := mem_lowerAfter [] hword hl
    · exact halpha
    · exact absurd (List.mem_singleton.mp hdot).symm hne

example : baseFor (some (baseFor (some "Type"))) = "type_" ∧
    baseFor (some (baseFor (some "2nd-Try"))) = "_2nd_try" ∧
    foldCase (foldCase "İd") ≠ foldCase "İd" := by
  decide +kernel

end BusTraits.Identifier
