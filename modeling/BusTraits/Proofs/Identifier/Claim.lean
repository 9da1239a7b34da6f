import BusTraits.Identifier.Synthesis
import Mathlib.Data.List.Nodup
import Mathlib.Data.List.Perm.Subperm

/-!
# Giving out identifiers

A scope gives out the first candidate that is free. The candidates for a base are pairwise
distinct (`candidate_injective`), so a scope of `n` names leaves one of the first `n + 1` free and
the search, which gives up after that many, never gives up in vain.

* `firstFree_spec`: the search ends at the first free candidate.
* `claim_fresh`, `mem_claim`: one claim gives out a free name and takes that name only.
* `claimAll_nodup`, `claimAll_fresh`, `mem_claimAll`: the same for any number of claims, in any
  order and with any mixture of roles, names and affixes.
* `mem_claimAll_iff_base`: a name that is no later candidate of any base is given out exactly when
  it is the base of some claim.
-/

namespace BusTraits.Identifier

/-! ## Candidates -/

theorem toString_injective : Function.Injective (fun n : Nat => toString n) := by
  intro m n h
  have hd : Nat.toDigits 10 m = Nat.toDigits 10 n := by
    rw [← Nat.toList_repr, ← Nat.toList_repr]
    exact congrArg String.toList h
  rw [← Nat.ofDigitChars_ten_toDigits (n := m), hd, Nat.ofDigitChars_ten_toDigits]

/-- What the `n`-th candidate adds to the base. -/
def suffix (role : Role) : Nat → String
  | 0 => ""
  | n + 1 =>
    match role, n with
    | .property, 0 => "_prop"
    | .property, n => "_prop" ++ toString (n + 1)
    | _, n => "_" ++ toString (n + 2)

theorem candidate_eq (role : Role) (base : String) (n : Nat) :
    candidate role base n = base ++ suffix role n := by
  match role, n with
  | _, 0 => exact String.append_empty.symm
  | .property, 1 => rfl
  | .property, _ + 2 => exact String.append_assoc
  | .method, _ + 1 => exact String.append_assoc
  | .argument, _ + 1 => exact String.append_assoc
  | .signal, _ + 1 => exact String.append_assoc

theorem numbered_injective (stem : String) : Function.Injective fun n : Nat => stem ++ toString n :=
  fun _ _ h => toString_injective ((String.append_right_inj stem).mp h)

theorem append_ne_self {stem s : String} (h : s ≠ "") : stem ++ s ≠ stem := by
  intro he
  apply h
  rw [← String.append_right_inj stem, he, String.append_empty]

theorem suffix_injective (role : Role) : Function.Injective (suffix role) := by
  have hnil : ∀ (stem : String) (n : Nat), "" ≠ stem ++ toString n := fun stem n h =>
    Nat.repr_ne_empty (String.append_eq_empty_iff.mp h.symm).2
  have hprop : ∀ n : Nat, "_prop" ≠ "_prop" ++ toString n := fun n h =>
    append_ne_self Nat.repr_ne_empty h.symm
  intro m n h
  match role, m, n with
  | _, 0, 0 => rfl
  | .property, 0, 1 | .property, 1, 0 => exact absurd h (by decide)
  | .property, 0, _ + 2 => exact absurd h (hnil _ _)
  | .property, _ + 2, 0 => exact absurd h.symm (hnil _ _)
  | .property, 1, 1 => rfl
  | .property, 1, _ + 2 => exact absurd h (hprop _)
  | .property, _ + 2, 1 => exact absurd h.symm (hprop _)
  | .property, m + 2, n + 2 => have := numbered_injective _ h; omega
  | .method, 0, _ + 1 | .argument, 0, _ + 1 | .signal, 0, _ + 1 => exact absurd h (hnil _ _)
  | .method, _ + 1, 0 | .argument, _ + 1, 0 | .signal, _ + 1, 0 => exact absurd h.symm (hnil _ _)
  | .method, m + 1, n + 1 | .argument, m + 1, n + 1 | .signal, m + 1, n + 1 =>
    have := numbered_injective _ h; omega

/-- **The candidates for a base are pairwise distinct.** -/
theorem candidate_injective (role : Role) (base : String) :
    Function.Injective (candidate role base) := by
  intro m n h
  rw [candidate_eq, candidate_eq] at h
  exact suffix_injective role ((String.append_right_inj base).mp h)

theorem break_mem_suffix (role : Role) (n : Nat) : '_' ∈ (suffix role (n + 1)).toList := by
  have hfirst : ∀ stem rest : String, '_' ∈ stem.toList → '_' ∈ (stem ++ rest).toList := by
    intro stem rest h
    rw [String.toList_append]
    exact List.mem_append_left _ h
  match role, n with
  | .property, 0 => decide
  | .property, _ + 1 => exact hfirst _ _ (by decide)
  | .method, _ | .argument, _ | .signal, _ => exact hfirst _ _ (by decide)

/-- A word without an underscore is the base or no candidate at all. -/
theorem candidate_succ_ne {word : String} (hbreak : '_' ∉ word.toList) (role : Role)
    (base : String) (n : Nat) : candidate role base (n + 1) ≠ word := by
  rintro rfl
  rw [candidate_eq, String.toList_append] at hbreak
  exact hbreak (List.mem_append_right _ (break_mem_suffix role n))

/-! ## The search -/

/-- The search stops at a free name or when the fuel is used up, and every name before that one is
taken. -/
theorem firstFree_spec (s : Scope) (names : Nat → String) (fuel n : Nat) :
    ∃ k, k ≤ fuel ∧ s.firstFree names fuel n = names (n + k) ∧
      (∀ j < k, names (n + j) ∈ s) ∧ (k < fuel → names (n + k) ∉ s) := by
  induction fuel generalizing n with
  | zero => exact ⟨0, Nat.le_refl _, rfl, fun _ h => absurd h (Nat.not_lt_zero _),
      fun h => absurd h (Nat.not_lt_zero _)⟩
  | succ fuel ih =>
    unfold Scope.firstFree
    split
    · rename_i hn
      obtain ⟨k, hk, heq, hbefore, hfree⟩ := ih (n + 1)
      have hshift : ∀ j, n + 1 + j = n + (j + 1) := fun j => by omega
      refine ⟨k + 1, by omega, by rw [heq, hshift], fun j hj => ?_, fun h => ?_⟩
      · cases j with
        | zero => exact hn
        | succ j => rw [← hshift]; exact hbefore j (by omega)
      · rw [← hshift]
        exact hfree (by omega)
    · rename_i hn
      exact ⟨0, Nat.zero_le _, rfl, fun _ h => absurd h (Nat.not_lt_zero _), fun _ => hn⟩

/-- A scope does not hold more distinct names than its size. -/
theorem exists_not_mem (s : Scope) {names : Nat → String} (h : Function.Injective names) :
    ∃ k, k ≤ s.size ∧ names k ∉ s := by
  by_contra hall
  have hsub : (List.range (s.size + 1)).map names ⊆ s.names := by
    intro x hx
    obtain ⟨k, hk, rfl⟩ := List.mem_map.mp hx
    by_contra hx
    exact hall ⟨k, Nat.lt_succ_iff.mp (List.mem_range.mp hk), hx⟩
  have hlen := (List.subperm_of_subset (List.Nodup.map h List.nodup_range) hsub).length_le
  rw [List.length_map, List.length_range] at hlen
  exact absurd hlen (Nat.not_succ_le_self _)

/-! ## One claim -/

/-- **A claim gives out the first free candidate**, and it takes at most as many steps as the
scope has names. -/
theorem claim_spec (s : Scope) (role : Role) (name : Option String) (affix : String) :
    ∃ k, k ≤ s.size ∧ (s.claim role name affix).1.name = candidate role (baseFor name affix) k ∧
      (∀ j < k, candidate role (baseFor name affix) j ∈ s) ∧
      candidate role (baseFor name affix) k ∉ s := by
  obtain ⟨k, hk, heq, hbefore, hfree⟩ :=
    firstFree_spec s (candidate role (baseFor name affix)) s.size 0
  simp only [Nat.zero_add] at heq hbefore hfree
  obtain ⟨j, hj, hnot⟩ := exists_not_mem s (candidate_injective role (baseFor name affix))
  refine ⟨k, hk, heq, hbefore, ?_⟩
  by_cases hlt : k < s.size
  · exact hfree hlt
  · -- all candidates before the last are taken, so the free one is the last
    have hjk : ¬ j < k := fun h => hnot (hbefore j h)
    have : j = k := by omega
    exact this ▸ hnot

theorem claim_scope (s : Scope) (role : Role) (name : Option String) (affix : String) :
    (s.claim role name affix).2 = s.add (s.claim role name affix).1.name := rfl

theorem claim_fresh (s : Scope) (role : Role) (name : Option String) (affix : String) :
    (s.claim role name affix).1.name ∉ s := by
  obtain ⟨k, -, heq, -, hfree⟩ := claim_spec s role name affix
  rw [heq]
  exact hfree

theorem mem_claim {s : Scope} {role : Role} {name : Option String} {affix x : String} :
    x ∈ (s.claim role name affix).2 ↔ x = (s.claim role name affix).1.name ∨ x ∈ s := by
  rw [claim_scope]
  exact Scope.mem_add

/-- A free base is given out as it is. -/
theorem claim_name_of_not_mem {s : Scope} {role : Role} {name : Option String} {affix : String}
    (h : baseFor name affix ∉ s) : (s.claim role name affix).1.name = baseFor name affix := by
  obtain ⟨k, -, heq, hbefore, -⟩ := claim_spec s role name affix
  cases k with
  | zero => exact heq
  | succ k => exact absurd (hbefore 0 (Nat.succ_pos k)) h

/-- What does not diverge is its base. -/
theorem name_eq_base {i : Identifier} (h : i.diverges = false) : i.name = i.base := by
  unfold diverges at h
  simpa using h

/-! ## Many claims -/

/-- What an identifier is asked for. -/
structure Request where
  role : Role
  name : Option String
  affix : String := ""

/-- The base of what is asked for. -/
def Request.base (r : Request) : String := baseFor r.name r.affix

/-- Answers requests one after another. -/
def claimAll (s : Scope) : List Request → List Identifier × Scope
  | [] => ([], s)
  | r :: rs =>
    let (i, s) := s.claim r.role r.name r.affix
    let (is, s) := claimAll s rs
    (i :: is, s)

/-- The names that requests are answered with. -/
def claimedNames (s : Scope) (rs : List Request) : List String := (claimAll s rs).1.map (·.name)

theorem claimAll_cons (s : Scope) (r : Request) (rs : List Request) :
    claimAll s (r :: rs) =
      ((s.claim r.role r.name r.affix).1 :: (claimAll (s.claim r.role r.name r.affix).2 rs).1,
        (claimAll (s.claim r.role r.name r.affix).2 rs).2) := rfl

theorem claimedNames_cons (s : Scope) (r : Request) (rs : List Request) :
    claimedNames s (r :: rs) =
      (s.claim r.role r.name r.affix).1.name ::
        claimedNames (s.claim r.role r.name r.affix).2 rs := rfl

theorem mem_claimAll {s : Scope} {rs : List Request} {x : String} :
    x ∈ (claimAll s rs).2 ↔ x ∈ claimedNames s rs ∨ x ∈ s := by
  induction rs generalizing s with
  | nil => simp [claimAll, claimedNames]
  | cons r rs ih =>
    rw [claimedNames_cons, List.mem_cons]
    rw [claimAll_cons, ih, mem_claim]
    tauto

theorem claimAll_fresh {s : Scope} {rs : List Request} {x : String} (h : x ∈ claimedNames s rs) :
    x ∉ s := by
  induction rs generalizing s with
  | nil => exact absurd h List.not_mem_nil
  | cons r rs ih =>
    rw [claimedNames_cons] at h
    rcases List.mem_cons.mp h with rfl | h
    · exact claim_fresh s r.role r.name r.affix
    · exact fun hx => ih h (mem_claim.mpr (Or.inr hx))

/-- **The names given out in a scope are pairwise distinct**, whatever they are asked for. -/
theorem claimAll_nodup (s : Scope) (rs : List Request) : (claimedNames s rs).Nodup := by
  induction rs generalizing s with
  | nil => exact List.nodup_nil
  | cons r rs ih =>
    rw [claimedNames_cons, List.nodup_cons]
    refine ⟨fun h => ?_, ih _⟩
    exact claimAll_fresh h (mem_claim.mpr (Or.inl rfl))

/-- **A name that is no later candidate is given out exactly when it is a base.** -/
theorem mem_claimAll_iff_base {s : Scope} {rs : List Request} {x : String} (hx : x ∉ s)
    (hlater : ∀ r ∈ rs, ∀ n, candidate r.role r.base (n + 1) ≠ x) :
    x ∈ claimedNames s rs ↔ ∃ r ∈ rs, r.base = x := by
  induction rs generalizing s with
  | nil => simp [claimedNames, claimAll]
  | cons r rs ih =>
    rw [claimedNames_cons, List.mem_cons]
    have hrest := fun r' hr' => hlater r' (List.mem_cons_of_mem r hr')
    obtain ⟨k, -, hname, -, -⟩ := claim_spec s r.role r.name r.affix
    by_cases hr : r.base = x
    · have hfree : baseFor r.name r.affix ∉ s := by rw [show baseFor _ _ = x from hr]; exact hx
      rw [claim_name_of_not_mem hfree]
      exact ⟨fun _ => ⟨r, List.mem_cons_self, hr⟩, fun _ => Or.inl hr.symm⟩
    · have hne : (s.claim r.role r.name r.affix).1.name ≠ x := by
        rw [hname]
        cases k with
        | zero => exact hr
        | succ k => exact hlater r List.mem_cons_self k
      have hx' : x ∉ (s.claim r.role r.name r.affix).2 := by
        rw [mem_claim]
        rintro (h | h)
        · exact hne h.symm
        · exact hx h
      rw [ih hx' hrest]
      constructor
      · rintro (h | ⟨r', hr', h⟩)
        · exact absurd h.symm hne
        · exact ⟨r', List.mem_cons_of_mem r hr', h⟩
      · rintro ⟨r', hr', h⟩
        rcases List.mem_cons.mp hr' with rfl | hr'
        · exact absurd h hr
        · exact Or.inr ⟨r', hr', h⟩

end BusTraits.Identifier
