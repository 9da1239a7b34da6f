import BusTraits.Proofs.Identifier.Base
import BusTraits.Proofs.Identifier.Claim
import BusTraits.Proofs.Identifier.Word

/-!
# The shape of identifiers

An ASCII name becomes an identifier of small ASCII letters, digits and underscores, which does not
start with a digit and has more than underscores in it (`isShaped`). Each step from the name to the
identifier keeps the shape: an affix goes in front of it, and the underscore of a keyword and the
number of a candidate go behind it. So it is enough that the text which stands for the name has it.

* `foldCase_cons`: the snake case of an ASCII name starts with a letter or digit, if it has one;
* `started_isShaped`: what stands for an ASCII name, or for a missing one, has the shape;
* **`claim_isShaped`**: so has every identifier that is given out for it.
-/

namespace BusTraits.Identifier

open Text

/-- Whether a name consists of ASCII characters only. -/
def isAscii (name : String) : Bool := name.toList.all fun c => c.toNat < 128

/-- The small letters and the digits of ASCII. -/
def isLetterOrDigit (c : Char) : Bool := isSmall c || isNumeral c

/-- What an identifier consists of. -/
def isPart (c : Char) : Bool := isLetterOrDigit c || c == '_'

/-- Whether a text is a small letter or an underscore followed by small letters, digits and
underscores, and not made of underscores alone. -/
def isShaped : List Char → Bool
  | [] => false
  | c :: rest =>
    (isSmall c || c == '_') && rest.all isPart && (c :: rest).any isLetterOrDigit

/-! ## Steps that keep the shape -/

theorem all_isPart_of_isShaped {text : List Char} (h : isShaped text = true) :
    text.all isPart = true := by
  cases text with
  | nil => cases h
  | cons c rest =>
    simp only [isShaped, Bool.and_eq_true, Bool.or_eq_true] at h
    rw [List.all_cons, Bool.and_eq_true, isPart, isLetterOrDigit, Bool.or_assoc,
      Bool.or_eq_true, Bool.or_eq_true]
    exact ⟨h.1.1.imp_right Or.inr, h.1.2⟩

theorem isShaped_append {text rest : List Char} (h : isShaped text = true)
    (hrest : rest.all isPart = true) : isShaped (text ++ rest) = true := by
  cases text with
  | nil => cases h
  | cons c text =>
    simp only [isShaped, Bool.and_eq_true] at h
    simp only [List.cons_append, isShaped, List.all_append, List.any_cons, List.any_append,
      Bool.and_eq_true, Bool.or_eq_true]
    have hany : isLetterOrDigit c = true ∨ text.any isLetterOrDigit = true := by
      simpa only [List.any_cons, Bool.or_eq_true] using h.2
    exact ⟨⟨by simpa only [Bool.or_eq_true] using h.1.1, h.1.2, hrest⟩, hany.imp_right Or.inl⟩

/-- The affixes of accessors and signals. -/
theorem isShaped_affix {affix text : String} (haffix : affix ∈ ["", "get_", "set_", "emit_"])
    (h : isShaped text.toList = true) : isShaped (affix ++ text).toList = true := by
  have hall : ∀ x ∈ ["", "get_", "set_", "emit_"], x = "" ∨ isShaped x.toList = true := by
    decide
  rcases hall affix haffix with rfl | hshaped
  · rwa [String.empty_append]
  · rw [String.toList_append]
    exact isShaped_append hshaped (all_isPart_of_isShaped h)

theorem isShaped_escapeKeyword {word : String} (h : isShaped word.toList = true) :
    isShaped (escapeKeyword word).toList = true := by
  unfold escapeKeyword
  split
  · rw [String.toList_append]
    exact isShaped_append h (by decide)
  · exact h

theorem all_isPart_toString (n : Nat) : (toString n).toList.all isPart = true := by
  rw [List.all_eq_true]
  intro c hc
  have hdigit : c.isDigit = true := by
    rw [show (toString n).toList = Nat.toDigits 10 n from Nat.toList_repr] at hc
    exact Nat.isDigit_of_mem_toDigits (by decide) (Nat.le_refl 10) hc
  have hnumeral : isNumeral c = true := by
    simpa [isNumeral, Char.isDigit, Char.le_def] using hdigit
  rw [isPart, isLetterOrDigit, hnumeral, Bool.or_true, Bool.true_or]

theorem all_isPart_suffix (role : Role) (n : Nat) : (suffix role n).toList.all isPart = true := by
  have hnumber : ∀ (stem : String) (k : Nat), stem.toList.all isPart = true →
      (stem ++ toString k).toList.all isPart = true := by
    intro stem k h
    rw [String.toList_append, List.all_append, h, all_isPart_toString]
    rfl
  match role, n with
  | _, 0 => rfl
  | .property, 1 => decide
  | .property, _ + 2 => exact hnumber _ _ (by decide)
  | .method, _ + 1 | .argument, _ + 1 | .signal, _ + 1 => exact hnumber _ _ (by decide)

/-! ## What stands for a name -/

theorem isDigit_of_isNumeral {c : Char} (h : isNumeral c = true) : isDigit c = true := by
  simp only [isNumeral, Bool.and_eq_true, decide_eq_true_eq] at h
  exact Ranges.has_iff.mpr ⟨(0x30, 0x39), List.mem_cons_self, h⟩

/-- The letters and numerals of ASCII. -/
theorem isAlphanumeric_ascii {c : Char} (hascii : c.toNat < 128) (hc : isAlphanumeric c = true) :
    (isCapital c || isLetterOrDigit c) = true := by
  have hranges : ∀ r ∈ alphanumerics, r.1 < 128 →
      r ∈ [(0x30, 0x39), (0x41, 0x5A), (0x61, 0x7A)] := by
    decide +kernel
  obtain ⟨r, hr, hfirst, hlast⟩ := Ranges.has_iff.mp hc
  have hone := hranges r hr (Nat.lt_of_le_of_lt hfirst hascii)
  simp only [List.mem_cons, List.not_mem_nil, or_false] at hone
  simp only [isCapital, isLetterOrDigit, isSmall, isNumeral, Bool.or_eq_true, Bool.and_eq_true,
    decide_eq_true_eq]
  rcases hone with rfl | rfl | rfl
  · exact Or.inr (Or.inr ⟨hfirst, hlast⟩)
  · exact Or.inl ⟨hfirst, hlast⟩
  · exact Or.inr (Or.inl ⟨hfirst, hlast⟩)

theorem lowerChar_ascii {c : Char} (hascii : c.toNat < 128) (hc : isAlphanumeric c = true) :
    (lowerChar c).length = 1 ∧ (lowerChar c).all isLetterOrDigit = true := by
  have hall : ∀ n < 128, (isCapital (Char.ofNat n) || isLetterOrDigit (Char.ofNat n)) = true →
      (lowerChar (Char.ofNat n)).length = 1 ∧
        (lowerChar (Char.ofNat n)).all isLetterOrDigit = true := by
    decide
  have hone := hall c.toNat hascii
  rw [Char.ofNat_toNat] at hone
  exact hone (isAlphanumeric_ascii hascii hc)

/-- An ASCII word in lower case: each character gives one letter or digit, whatever is around it. -/
theorem lowerAfter_ascii :
    ∀ {word : List Char} (before : List Char),
      (∀ c ∈ word, c.toNat < 128 ∧ isAlphanumeric c = true) →
        (lowerAfter before word).length = word.length ∧
          (lowerAfter before word).all isLetterOrDigit = true
  | [], _, _ => ⟨rfl, rfl⟩
  | c :: rest, before, h => by
    obtain ⟨hascii, hc⟩ := h c List.mem_cons_self
    have hsigma : c ≠ 'Σ' := by
      rintro rfl
      exact absurd hascii (by decide)
    obtain ⟨hlength, hall⟩ := lowerChar_ascii hascii hc
    obtain ⟨hrest, hallrest⟩ := lowerAfter_ascii (c :: before) fun d hd =>
      h d (List.mem_cons_of_mem c hd)
    rw [lowerAfter, if_neg hsigma, List.length_append, hlength, hrest, List.length_cons,
      Nat.add_comm, List.all_append, hall, hallrest]
    exact ⟨rfl, rfl⟩

/-- The snake case of an ASCII name, if there is one, starts with a letter or a digit. -/
theorem foldCase_cons {name : String} {c : Char} {rest : List Char} (hascii : isAscii name = true)
    (h : (foldCase name).toList = c :: rest) :
    isLetterOrDigit c = true ∧ rest.all isPart = true := by
  have hlower : ∀ w ∈ words name.toList,
      (lower w).length = w.length ∧ (lower w).all isLetterOrDigit = true := by
    intro w hw
    refine lowerAfter_ascii [] fun c hc => ?_
    obtain ⟨hmem, halpha⟩ := (mem_words hw).2 c hc
    exact ⟨by simpa using List.all_eq_true.mp hascii c hmem, halpha⟩
  have hparts : ((foldCase name).toList).all isPart = true := by
    rw [List.all_eq_true]
    intro d hd
    by_cases hbreak : d = '_'
    · rw [hbreak]
      rfl
    · obtain ⟨w, hw, hmem⟩ := (mem_foldCase hbreak).mp hd
      rw [isPart, List.all_eq_true.mp (hlower w hw).2 d hmem, Bool.true_or]
  rw [h, List.all_cons, Bool.and_eq_true] at hparts
  refine ⟨?_, hparts.2⟩
  -- the first character is the first one of the first word, which is not empty
  rw [toList_foldCase] at h
  cases hwords : words name.toList with
  | nil =>
    rw [hwords] at h
    cases h
  | cons w ws =>
    have hw : w ∈ words name.toList := hwords ▸ List.mem_cons_self
    obtain ⟨hlength, hall⟩ := hlower w hw
    obtain ⟨x, xs, hx⟩ := List.exists_cons_of_ne_nil (l := lower w) (by
      rw [← List.length_pos_iff, hlength, List.length_pos_iff]
      exact (mem_words hw).1)
    rw [hx, List.all_cons, Bool.and_eq_true] at hall
    rw [hwords, List.map_cons, hx] at h
    cases ws with
    | nil =>
      rw [List.map_nil, List.intercalate_singleton, List.cons.injEq] at h
      exact h.1 ▸ hall.1
    | cons v vs =>
      rw [List.map_cons, List.intercalate_cons_cons, List.append_assoc, List.cons_append,
        List.cons.injEq] at h
      exact h.1 ▸ hall.1

/-- **What stands for an ASCII name, or for a missing one, has the shape of an identifier.** -/
theorem started_isShaped {name : Option String} (hascii : ∀ n ∈ name, isAscii n = true) :
    isShaped (started name).toList = true := by
  rw [started]
  split
  · decide
  · rename_i c rest hfolded
    obtain ⟨hc, hrest⟩ : isLetterOrDigit c = true ∧ rest.all isPart = true := by
      cases name with
      | none => cases hfolded
      | some n => exact foldCase_cons (hascii n rfl) hfolded
    split
    · have hfirst : isPart c = true := by rw [isPart, hc, Bool.true_or]
      rw [String.toList_append, hfolded]
      simp [isShaped, hc, hfirst, hrest]
    · rename_i hdigit
      have hsmall : isSmall c = true := by
        rw [isLetterOrDigit, Bool.or_eq_true] at hc
        exact hc.resolve_right fun h => hdigit (isDigit_of_isNumeral h)
      rw [hfolded]
      simp [isShaped, hsmall, hc, hrest]

/-! ## What is given out -/

theorem baseFor_isShaped {name : Option String} {affix : String}
    (haffix : affix ∈ ["", "get_", "set_", "emit_"]) (hascii : ∀ n ∈ name, isAscii n = true) :
    isShaped (baseFor name affix).toList = true := by
  rw [baseFor_eq]
  exact isShaped_escapeKeyword (isShaped_affix haffix (started_isShaped hascii))

example : baseFor (some "2nd-Try") = "_2nd_try" ∧ isShaped "_2nd_try".toList = true := by
  decide +kernel

/-- **What is given out for an ASCII name, or for a missing one, has the shape of an identifier**,
with each of the affixes and after any number of candidates that are taken. -/
theorem claim_isShaped (s : Scope) (role : Role) {name : Option String} {affix : String}
    (haffix : affix ∈ ["", "get_", "set_", "emit_"]) (hascii : ∀ n ∈ name, isAscii n = true) :
    isShaped (s.claim role name affix).1.name.toList = true := by
  obtain ⟨k, -, hname, -, -⟩ := claim_spec s role name affix
  rw [hname, candidate_eq, String.toList_append]
  exact isShaped_append (baseFor_isShaped haffix hascii) (all_isPart_suffix role k)

end BusTraits.Identifier
