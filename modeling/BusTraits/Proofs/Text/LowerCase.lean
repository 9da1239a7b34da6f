import BusTraits.Proofs.Text.UpperCase

/-!
# Text in lower case

A text in lower case is its own lower case: no capital has another capital as its lower case, and
neither form of the small sigma changes any more. It has only letters and numerals if the text had,
with one exception, the dot that is left over from `İ`.

* `lowerChar_fixed`: a character that is a lower case has none other than itself;
* **`mem_lowerAfter`**: the characters of a word in lower case;
* **`lowerAfter_of_fixed`**: a text of such characters is its own lower case.
-/

namespace BusTraits.Text

/-! ## Capitals and their images -/

/-- Whether no lower case of a run of capitals is a capital of the run `s`: they lie on one side of
it, or among its characters but not on those that count. -/
def CapitalRun.avoids (r s : CapitalRun) : Bool :=
  Nat.blt (r.lower + (r.last - r.first)) s.first || Nat.blt s.last r.lower ||
    (s.step == 2 && (r.step == 2 || r.first == r.last) && r.lower % 2 != s.first % 2)

/-- The capital whose lower case is two characters. -/
def dottedCapital : CapitalRun := ⟨0x130, 0x130, 1, 0x69⟩

theorem capitalRuns_avoid :
    capitalRuns.all (fun r => (dottedCapital :: capitalRuns).all r.avoids) = true := by
  decide +kernel

theorem capitalRuns_valid :
    ∀ r ∈ capitalRuns,
      r.lower + (r.last - r.first) < 0xD800 ∨
        0xDFFF < r.lower ∧ r.lower + (r.last - r.first) < 0x110000 := by
  decide +kernel

theorem not_has_image {r s : CapitalRun} {n : Nat} (h : r.avoids s = true)
    (hn : r.has n = true) : s.has (r.lower + (n - r.first)) = false := by
  rw [Bool.eq_false_iff]
  intro himage
  simp only [CapitalRun.has, Bool.and_eq_true, decide_eq_true_eq, beq_iff_eq] at hn himage
  simp only [CapitalRun.avoids, Bool.or_eq_true, Bool.and_eq_true, Nat.blt_eq, beq_iff_eq,
    bne_iff_ne] at h
  obtain ⟨⟨hfirst, hlast⟩, hstep⟩ := hn
  obtain ⟨⟨hlow, hhigh⟩, hplace⟩ := himage
  rcases h with (h | h) | ⟨⟨hs, hr⟩, hparity⟩
  · omega
  · omega
  · -- every second character is a capital, and the image has the other parity
    have heven : (n - r.first) % 2 = 0 := by
      rcases hr with hr | hr
      · rwa [hr] at hstep
      · omega
    rw [hs] at hplace
    omega

/-- A lower case is no capital. -/
theorem lowerChar_fixed {c l : Char} (h : lowerChar c = [l]) : lowerChar l = [l] := by
  unfold lowerChar at h
  split at h
  · cases h
  · rename_i hdot
    split at h
    · rename_i r hr
      have hmem := List.mem_of_find?_eq_some hr
      have hhas := List.find?_some hr
      have havoids := List.all_eq_true.mp (List.all_eq_true.mp capitalRuns_avoid r hmem)
      have hcode : l.toNat = r.lower + (c.toNat - r.first) := by
        have hvalid : (r.lower + (c.toNat - r.first)).isValidChar := by
          have hrange := capitalRuns_valid r hmem
          simp only [CapitalRun.has, Bool.and_eq_true, decide_eq_true_eq] at hhas
          unfold Nat.isValidChar
          omega
        rw [← (List.cons.inj h).1, Char.ofNat, dif_pos hvalid]
        rfl
      have hnone : capitalRuns.find? (·.has l.toNat) = none := by
        refine List.find?_eq_none.mpr fun s hs => ?_
        rw [hcode, not_has_image (havoids s (List.mem_cons_of_mem _ hs)) hhas]
        exact Bool.false_ne_true
      have hl : l ≠ 'İ' := by
        rintro rfl
        have hno := not_has_image (havoids dottedCapital List.mem_cons_self) hhas
        rw [← hcode] at hno
        cases hno
      rw [lowerChar, if_neg hl, hnone]
    · rename_i hnone
      obtain rfl : c = l := (List.cons.inj h).1
      rw [lowerChar, if_neg hdot, hnone]

theorem mem_lowerChar {c l : Char} (hc : isAlphanumeric c = true) (hl : l ∈ lowerChar c) :
    lowerChar l = [l] ∧ (isAlphanumeric l = true ∨ l = '\u0307' ∧ c = 'İ') := by
  by_cases hdot : c = 'İ'
  · subst hdot
    rcases List.mem_cons.mp hl with rfl | hl
    · exact ⟨by decide, Or.inl (by decide +kernel)⟩
    · rw [List.mem_singleton.mp hl]
      exact ⟨by decide, Or.inr ⟨rfl, rfl⟩⟩
  · obtain ⟨x, hx⟩ := lowerChar_single hdot
    obtain ⟨y, ys, hy, halpha⟩ := lowerChar_alphanumeric hc
    rw [hx] at hl hy
    obtain rfl : x = y := (List.cons.inj hy).1
    rw [List.mem_singleton.mp hl]
    exact ⟨lowerChar_fixed hx, Or.inl halpha⟩

/-! ## Words -/

/-- **The characters of a word in lower case** are their own lower case, and letters or numerals
but for the dot of `İ`. -/
theorem mem_lowerAfter {l : Char} :
    ∀ {word : List Char} (before : List Char), (∀ c ∈ word, isAlphanumeric c = true) →
      l ∈ lowerAfter before word →
        lowerChar l = [l] ∧ (isAlphanumeric l = true ∨ l = '\u0307' ∧ 'İ' ∈ word)
  | c :: rest, before, h, hl => by
    rw [lowerAfter, List.mem_append] at hl
    rcases hl with hl | hl
    · split at hl
      · -- either small sigma
        have hsmall : l = 'ς' ∨ l = 'σ' := by
          split at hl
          · exact Or.inl (List.mem_singleton.mp hl)
          · exact Or.inr (List.mem_singleton.mp hl)
        rcases hsmall with rfl | rfl
        · exact ⟨by decide, Or.inl (by decide +kernel)⟩
        · exact ⟨by decide, Or.inl (by decide +kernel)⟩
      · obtain ⟨hfixed, hl⟩ := mem_lowerChar (h c List.mem_cons_self) hl
        rcases hl with hl | ⟨hdot, rfl⟩
        · exact ⟨hfixed, Or.inl hl⟩
        · exact ⟨hfixed, Or.inr ⟨hdot, List.mem_cons_self⟩⟩
    · obtain ⟨hfixed, hl⟩ := mem_lowerAfter (c :: before)
        (fun d hd => h d (List.mem_cons_of_mem c hd)) hl
      exact ⟨hfixed, hl.imp_right fun hdot => ⟨hdot.1, List.mem_cons_of_mem c hdot.2⟩⟩

/-- A word in lower case has no other sign in it than that dot. -/
theorem not_mem_lowerAfter {l : Char} {word : List Char} (before : List Char)
    (h : ∀ c ∈ word, isAlphanumeric c = true) (hl : isAlphanumeric l = false)
    (hdot : l ≠ '\u0307') : l ∉ lowerAfter before word := by
  intro hmem
  obtain ⟨-, halpha | ⟨heq, -⟩⟩ := mem_lowerAfter before h hmem
  · rw [hl] at halpha
    cases halpha
  · exact hdot heq

/-- The dot of `İ` stays in the lower case of a word. -/
theorem dot_mem_lowerAfter :
    ∀ {word : List Char} (before : List Char), 'İ' ∈ word → '\u0307' ∈ lowerAfter before word
  | c :: rest, before, h => by
    rw [lowerAfter, List.mem_append]
    rcases List.mem_cons.mp h with rfl | h
    · rw [if_neg (by decide)]
      exact Or.inl (by decide)
    · exact Or.inr (dot_mem_lowerAfter (c :: before) h)

/-- **A text of characters that are their own lower case** is so itself. -/
theorem lowerAfter_of_fixed :
    ∀ {text : List Char} (before : List Char), (∀ c ∈ text, lowerChar c = [c]) →
      lowerAfter before text = text
  | [], _, _ => rfl
  | c :: rest, before, h => by
    have hc := h c List.mem_cons_self
    have hsigma : c ≠ 'Σ' := by
      rintro rfl
      exact absurd hc (by decide)
    rw [lowerAfter, if_neg hsigma, hc,
      lowerAfter_of_fixed (c :: before) fun d hd => h d (List.mem_cons_of_mem c hd)]
    rfl

end BusTraits.Text
