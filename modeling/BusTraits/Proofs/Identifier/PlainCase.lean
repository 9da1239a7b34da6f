import BusTraits.Proofs.Identifier.Base
import BusTraits.Proofs.Identifier.Word
import BusTraits.Proofs.Text.LowerCase

/-!
# From an identifier back to the name

Plain case conversion takes an identifier apart at its underscores, writes each piece with a
capital at its start and puts the pieces together (`plainCase`). It undoes the folding of a name
such as `GetAll`, but not that of `GetURL`, `getAll` or `Get-All`. A name that it gives back is
called plain, which can be seen on the name alone (`isPlain`): it has only letters and numerals, it
starts with its own upper case, and no later character has a lower case unless it begins a word.

* `recased_words_iff`: the words of a name, changed to lower case and back, are the name exactly
  if it is plain;
* `pieces_started`: the pieces of a base are the words of its name, in lower case;
* **`plainCase_base_iff`**, `plainCase_setter_iff`: plain case conversion gives a plain name back
  and no other one.
-/

namespace BusTraits.Identifier

open Text

/-! ## Plain case conversion -/

/-- The pieces of an identifier between its underscores, without the empty ones. -/
def pieces (identifier : List Char) : List (List Char) :=
  (identifier.splitOn '_').filter fun piece => !piece.isEmpty

/-- The pieces of an identifier, each with a capital at its start. -/
def plainCase (identifier : List Char) : List Char := (pieces identifier).flatMap capitalize

/-- Whether no character after `c` has a lower case unless it begins a word. -/
def casedAfter (c : Char) : List Char → Bool
  | [] => true
  | d :: rest => (startsWord c d rest.head? || lowerChar d == [d]) && casedAfter d rest

/-- Whether a name is one that plain case conversion gives back. -/
def isPlain : List Char → Bool
  | [] => false
  | c :: rest =>
    (c :: rest).all isAlphanumeric && capitalize (lowerChar c) == [c] && casedAfter c rest

/-! ## The pieces of an identifier -/

theorem pieces_append_break (x y : List Char) : pieces (x ++ '_' :: y) = pieces x ++ pieces y := by
  rw [pieces, List.splitOn_append_cons_self, List.filter_append]
  rfl

theorem pieces_nil : pieces [] = [] := by
  rw [pieces, List.splitOn_nil]
  rfl

theorem pieces_cons_break (y : List Char) : pieces ('_' :: y) = pieces y := by
  have h := pieces_append_break [] y
  rwa [pieces_nil] at h

theorem pieces_single {w : List Char} (hne : w ≠ []) (h : '_' ∉ w) : pieces w = [w] := by
  rw [pieces, List.splitOn_eq_singleton h, List.filter_cons_of_pos (by simpa using hne)]
  rfl

/-- Words joined by underscores are the pieces of the whole. -/
theorem pieces_intercalate {ws : List (List Char)} (h : ∀ w ∈ ws, w ≠ [] ∧ '_' ∉ w) :
    pieces (['_'].intercalate ws) = ws := by
  by_cases hws : ws = []
  · rw [hws]
    exact pieces_nil
  · rw [pieces, List.splitOn_intercalate '_' (fun w hw => (h w hw).2) hws, List.filter_eq_self]
    intro w hw
    simpa using (h w hw).1

theorem pieces_escapeKeyword (word : String) :
    pieces (escapeKeyword word).toList = pieces word.toList := by
  unfold escapeKeyword
  split
  · rw [String.toList_append, show "_".toList = ['_'] from rfl, pieces_append_break, pieces_nil,
      List.append_nil]
  · rfl

/-! ## Lower case within a word -/

/-- One character of a word in lower case: it stays what it is only if it has no lower case. -/
theorem lowerAfter_cons (before : List Char) (c : Char) (rest : List Char) :
    ∃ x xs, lowerAfter before (c :: rest) = x :: xs ++ lowerAfter (c :: before) rest ∧
      (x = c → lowerChar c = [c]) ∧ (lowerChar c = [c] → x :: xs = [c]) := by
  by_cases hsigma : c = 'Σ'
  · subst hsigma
    have hlower : lowerChar 'Σ' = ['σ'] := by decide
    rw [lowerAfter, if_pos rfl, hlower]
    split
    · exact ⟨'ς', [], rfl, by decide, by decide⟩
    · exact ⟨'σ', [], rfl, by decide, by decide⟩
  · rw [lowerAfter, if_neg hsigma]
    obtain ⟨x, xs, hx⟩ := List.exists_cons_of_ne_nil (lowerChar_ne_nil c)
    exact ⟨x, xs, by rw [hx], lowerChar_eq_self hx, fun h => by rw [← hx, h]⟩

/-- The first letter of a word has the lower case that it has by itself. -/
theorem lower_cons (c : Char) (rest : List Char) :
    lower (c :: rest) = lowerChar c ++ lowerAfter [c] rest := by
  rw [lower, lowerAfter]
  split
  · rename_i hsigma
    subst hsigma
    have hlower : lowerChar 'Σ' = ['σ'] := by decide
    rw [hlower, show nearestIsCased [] = false from rfl]
    rfl
  · rfl

theorem lower_ne_nil {w : List Char} (h : w ≠ []) : lower w ≠ [] := by
  obtain ⟨c, rest, rfl⟩ := List.exists_cons_of_ne_nil h
  rw [lower_cons]
  exact List.append_ne_nil_of_left_ne_nil (lowerChar_ne_nil c) _

theorem break_not_mem_lower {w : List Char} (h : ∀ c ∈ w, isAlphanumeric c = true) :
    '_' ∉ lower w :=
  not_mem_lowerAfter [] h isAlphanumeric_break (by decide)

/-! ## Words, to lower case and back -/

/-- Words in lower case, each with a capital at its start. -/
def recased (ws : List (List Char)) : List Char := ws.flatMap fun w => capitalize (lower w)

theorem recased_cons (c : Char) (w : List Char) (ws : List (List Char)) :
    recased ((c :: w) :: ws) = capitalize (lowerChar c) ++ (lowerAfter [c] w ++ recased ws) := by
  obtain ⟨x, xs, hx⟩ := List.exists_cons_of_ne_nil (lowerChar_ne_nil c)
  rw [recased, List.flatMap_cons, lower_cons, hx, List.cons_append, capitalize, capitalize,
    List.append_assoc, List.append_assoc, List.append_assoc]
  rfl

theorem capitalize_of_isCapital {c : Char} (h : isCapital c = true) :
    capitalize (lowerChar c) = [c] :=
  forall_capital (P := fun c => capitalize (lowerChar c) = [c]) (by decide) h

/-- **Within a run**: what follows the first character `c` of a run comes back exactly if it is
cased as the words say. The texts `u` and `v` after the run have to agree. -/
theorem recased_after {u v : List Char} :
    ∀ {rest before w : List Char} {c : Char} {ws : List (List Char)},
      cutWhere startsWord (c :: rest) = (c :: w) :: ws →
        (lowerAfter before w ++ (recased ws ++ u) = rest ++ v ↔
          casedAfter c rest = true ∧ u = v)
  | [], before, w, c, ws, hcut => by
    rw [cutWhere, List.cons.injEq, List.cons.injEq] at hcut
    obtain ⟨⟨-, rfl⟩, rfl⟩ := hcut
    simp [lowerAfter, recased, casedAfter]
  | d :: rest, before, w, c, ws, hcut => by
    obtain ⟨w', ws', hrest⟩ := cutWhere_cons startsWord d rest
    rw [cutWhere, hrest] at hcut
    rw [casedAfter, Bool.and_eq_true, Bool.or_eq_true, beq_iff_eq]
    split at hcut
    · -- `d` begins the next word, and is a capital
      rename_i hstart
      rw [List.cons.injEq, List.cons.injEq] at hcut
      obtain ⟨⟨-, rfl⟩, rfl⟩ := hcut
      rw [recased_cons, capitalize_of_isCapital (isCapital_of_startsWord hstart), lowerAfter,
        List.nil_append, List.append_assoc, List.singleton_append, List.cons_append,
        List.cons.injEq, List.append_assoc]
      simp only [true_and, hstart, true_or]
      exact recased_after hrest
    · -- `d` goes on with the word of `c`
      rename_i hstart
      rw [extendFirst, List.cons.injEq, List.cons.injEq] at hcut
      obtain ⟨⟨-, rfl⟩, rfl⟩ := hcut
      obtain ⟨x, xs, hx, hself, hlower⟩ := lowerAfter_cons before d w'
      rw [hx, List.append_assoc, List.cons_append, List.cons_append, List.cons.injEq]
      have hstep : lowerAfter (d :: before) w' ++ (recased ws' ++ u) = rest ++ v ↔
          casedAfter d rest = true ∧ u = v := recased_after hrest
      constructor
      · rintro ⟨hxd, htext⟩
        have hd := hself hxd
        rw [(List.cons.inj (hlower hd)).2, List.nil_append] at htext
        exact ⟨⟨Or.inr hd, (hstep.mp htext).1⟩, (hstep.mp htext).2⟩
      · rintro ⟨⟨hd | hd, hcased⟩, huv⟩
        · exact absurd hd hstart
        · have hxs := List.cons.inj (hlower hd)
          rw [hxs.2, List.nil_append]
          exact ⟨hxs.1, hstep.mpr ⟨hcased, huv⟩⟩

/-- A run comes back exactly if its first character does and the rest is cased as the words say. -/
theorem recased_run {c : Char} {rest u v : List Char} :
    recased (cutWhere startsWord (c :: rest)) ++ u = c :: rest ++ v ↔
      (capitalize (lowerChar c) = [c] ∧ casedAfter c rest = true) ∧ u = v := by
  obtain ⟨w, ws, hcut⟩ := cutWhere_cons startsWord c rest
  obtain ⟨x, xs, hx, hself⟩ := capitalize_lowerChar c
  have hafter : lowerAfter [c] w ++ (recased ws ++ u) = rest ++ v ↔
      casedAfter c rest = true ∧ u = v := recased_after hcut
  rw [hcut, recased_cons, hx, List.append_assoc, List.cons_append, List.cons_append,
    List.cons.injEq, List.cons.injEq, List.append_assoc]
  constructor
  · rintro ⟨hxc, htext⟩
    rw [hself hxc, List.nil_append, hafter] at htext
    exact ⟨⟨⟨hxc, hself hxc⟩, htext.1⟩, htext.2⟩
  · rintro ⟨⟨⟨hxc, hxs⟩, hcased⟩, huv⟩
    rw [hxs, List.nil_append, hafter]
    exact ⟨hxc, hcased, huv⟩

/-- What comes back from words starts with a letter or numeral. -/
theorem recased_words_ne {name rest : List Char} {sep : Char} (hsep : isAlphanumeric sep = false) :
    recased (words name) ≠ sep :: rest := by
  intro h
  cases hw : words name with
  | nil =>
    rw [hw] at h
    cases h
  | cons w ws =>
    have hmem : w ∈ words name := by
      rw [hw]
      exact List.mem_cons_self
    obtain ⟨hne, hall⟩ := mem_words hmem
    obtain ⟨c, w, rfl⟩ := List.exists_cons_of_ne_nil hne
    obtain ⟨x, xs, hx, hxa⟩ := lowerChar_alphanumeric (hall c List.mem_cons_self).2
    obtain ⟨y, ys, hy, hya⟩ := upperChar_alphanumeric hxa
    rw [hw, recased_cons, hx, capitalize, hy, List.cons_append, List.cons_append,
      List.cons.injEq] at h
    rw [h.1, hsep] at hya
    cases hya

theorem recased_append (vs ws : List (List Char)) :
    recased (vs ++ ws) = recased vs ++ recased ws :=
  List.flatMap_append

/-- **The words of a name, to lower case and back, are the name exactly if it is plain.** -/
theorem recased_words_iff {name : List Char} (hne : name ≠ []) :
    recased (words name) = name ↔ isPlain name = true := by
  obtain ⟨c, rest, rfl⟩ := List.exists_cons_of_ne_nil hne
  rw [isPlain, Bool.and_eq_true, Bool.and_eq_true, beq_iff_eq, List.all_eq_true, and_assoc]
  by_cases hall : ∀ d ∈ c :: rest, isAlphanumeric d = true
  · have hrun : recased (cutWhere startsWord (c :: rest)) ++ [] = c :: rest ++ [] ↔ _ := recased_run
    rw [List.append_nil, List.append_nil] at hrun
    rw [words_of_all hne hall, hrun, and_iff_left rfl, and_iff_right hall]
  · -- the first character that is in no run cannot come back
    refine ⟨fun h => ?_, fun h => absurd h.1 hall⟩
    obtain ⟨pre, sep, post, hname, hpre, hsep⟩ := exists_break hall
    rw [hname, words_append_break pre post hsep, recased_append] at h
    cases pre with
    | nil => exact absurd h (recased_words_ne hsep)
    | cons d pre =>
      rw [words_of_all (List.cons_ne_nil d pre) hpre] at h
      exact absurd (recased_run.mp h).2 (recased_words_ne hsep)

/-! ## Bases -/

/-- The pieces of a folded name are its words in lower case. -/
theorem pieces_foldCase (name : String) :
    pieces (foldCase name).toList = (words name.toList).map lower := by
  rw [toList_foldCase]
  refine pieces_intercalate fun w hw => ?_
  obtain ⟨u, hu, rfl⟩ := List.mem_map.mp hw
  obtain ⟨hne, hall⟩ := mem_words hu
  exact ⟨lower_ne_nil hne, break_not_mem_lower fun c hc => (hall c hc).2⟩

/-- The pieces of what stands for a name are its words, in lower case, or the placeholder when there
are none. -/
theorem pieces_started (name : String) :
    pieces (started (some name)).toList =
      if words name.toList = [] then [placeholder.toList]
      else (words name.toList).map lower := by
  have hpieces := pieces_foldCase name
  unfold started
  simp only [Option.map_some, Option.getD_some]
  split
  · rename_i hfolded
    rw [hfolded, pieces_nil] at hpieces
    rw [if_pos (List.map_eq_nil_iff.mp hpieces.symm)]
    exact pieces_single (by decide) (by decide)
  · rename_i c rest hfolded
    have hwords : words name.toList ≠ [] := by
      intro hnone
      have hempty : foldCase name = "" := by rw [foldCase, hnone]; rfl
      rw [hempty] at hfolded
      cases hfolded
    rw [if_neg hwords]
    split
    · rw [String.toList_append, ← hpieces]
      exact pieces_cons_break _
    · exact hpieces

/-- A text with the pieces of a base is converted to the name exactly if the name is plain. -/
theorem plainCase_iff_of_pieces {name : String} {text : List Char}
    (h : pieces text =
      if words name.toList = [] then [placeholder.toList] else (words name.toList).map lower) :
    plainCase text = name.toList ↔ isPlain name.toList = true := by
  rw [plainCase, h]
  split
  · -- a name without words has no letter, so it is neither plain nor what the placeholder gives
    rename_i hnone
    have harg : [placeholder.toList].flatMap capitalize = ['A', 'r', 'g'] := by decide
    rw [harg]
    cases hname : name.toList with
    | nil => exact iff_of_false (List.cons_ne_nil 'A' _) Bool.false_ne_true
    | cons c rest =>
      have hc : isAlphanumeric c ≠ true :=
        Bool.eq_false_iff.mp (words_eq_nil_iff.mp hnone c (hname ▸ List.mem_cons_self))
      refine iff_of_false (fun h => ?_) fun h => ?_
      · rw [← (List.cons.inj h).1] at hc
        exact hc (by decide)
      · rw [isPlain, Bool.and_eq_true, Bool.and_eq_true, List.all_eq_true] at h
        exact hc (h.1.1 c List.mem_cons_self)
  · rename_i hwords
    rw [List.flatMap_map]
    exact recased_words_iff fun hne => hwords (by rw [hne]; rfl)

/-- **Plain case conversion of a base** gives the name back exactly if it is plain. -/
theorem plainCase_base_iff (name : String) :
    plainCase (baseFor (some name)).toList = name.toList ↔ isPlain name.toList = true := by
  refine plainCase_iff_of_pieces ?_
  rw [baseFor_eq, pieces_escapeKeyword, String.empty_append, pieces_started]

example : isPlain "XmlHttpRequest2".toList = true ∧ isPlain "XMLHttpRequest".toList = false := by
  decide

/-- A text without the affix in front of it. -/
def withoutAffix (affix text : List Char) : List Char :=
  if affix.isPrefixOf text then text.drop affix.length else text

theorem withoutAffix_append (affix text : List Char) :
    withoutAffix affix (affix ++ text) = text := by
  rw [withoutAffix, if_pos (List.isPrefixOf_iff_prefix.mpr (List.prefix_append affix text)),
    List.drop_left]

/-- No keyword starts like a setter, so that its base is never escaped. -/
theorem escapeKeyword_setter (text : String) : escapeKeyword ("set_" ++ text) = "set_" ++ text := by
  have hkeywords : ∀ word ∈ keywords, "set_".toList.isPrefixOf word.toList = false := by
    decide
  unfold escapeKeyword
  refine if_neg fun h => ?_
  have hno := hkeywords _ h
  rw [String.toList_append, List.isPrefixOf_iff_prefix.mpr (List.prefix_append _ _)] at hno
  cases hno

/-- **Plain case conversion of a setter's base**, without its affix, gives the name back exactly if
it is plain. -/
theorem plainCase_setter_iff (name : String) :
    plainCase (withoutAffix "set_".toList (baseFor (some name) "set_").toList) = name.toList ↔
      isPlain name.toList = true := by
  refine plainCase_iff_of_pieces ?_
  rw [baseFor_eq, escapeKeyword_setter, String.toList_append, withoutAffix_append, pieces_started]

end BusTraits.Identifier
