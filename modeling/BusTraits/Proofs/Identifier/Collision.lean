import BusTraits.Proofs.Identifier.Claim

/-!
# What becomes of a collision

A base that is taken is replaced by the first of its later candidates that is free. There is no
last candidate, so looking for a free one is a search without a limit (`Search`). It ends in every
scope, since a scope has finitely many names, and it ends with what a claim gives out.

* `Search.unique`, `search_of_free`: a search ends in one way, at the first free name;
* `claim_search`: the search through the candidates of a base ends with the name of the claim;
* `candidate_cases`: what the candidates look like, and how large their numbers are;
* `claim_resolves`: everything that a claim does to its scope (`Resolves`);
* `claimAll_size`, `claimedNames_eq_bases_iff`: any number of claims;
* **`claim_exact`**: one claim, and any number of them.
-/

namespace BusTraits.Identifier

/-! ## Searches -/

/-- Going through names from the `n`-th on until one is free, in as many steps as it takes. -/
inductive Search (s : Scope) (names : Nat → String) : Nat → String → Prop where
  | found {n : Nat} (free : names n ∉ s) : Search s names n (names n)
  | passed {n : Nat} {x : String} (taken : names n ∈ s) (rest : Search s names (n + 1) x) :
      Search s names n x

variable {s : Scope} {names : Nat → String}

theorem Search.unique {n : Nat} {x y : String} (h : Search s names n x)
    (h' : Search s names n y) : x = y := by
  induction h with
  | found free =>
    cases h' with
    | found _ => rfl
    | passed taken _ => exact absurd taken free
  | passed taken _ ih =>
    cases h' with
    | found free => exact absurd taken free
    | passed _ rest => exact ih rest

/-- A search passes over the names that are taken and ends at the first free one. -/
theorem search_of_free {n k : Nat} (htaken : ∀ j < k, names (n + j) ∈ s)
    (hfree : names (n + k) ∉ s) : Search s names n (names (n + k)) := by
  induction k generalizing n with
  | zero => exact .found hfree
  | succ k ih =>
    have hshift : ∀ j, n + 1 + j = n + (j + 1) := fun j => by omega
    refine .passed (htaken 0 (Nat.succ_pos k)) ?_
    rw [← hshift k] at hfree ⊢
    refine ih (fun j hj => ?_) hfree
    rw [hshift]
    exact htaken (j + 1) (Nat.succ_lt_succ hj)

/-- **The search for a free candidate ends**, and with no other name than the claim gives out. -/
theorem claim_search (s : Scope) (role : Role) (name : Option String) (affix x : String) :
    Search s (candidate role (baseFor name affix)) 0 x ↔ x = (s.claim role name affix).1.name := by
  obtain ⟨k, -, hname, hbefore, hfree⟩ := claim_spec s role name affix
  have hsearch : Search s (candidate role (baseFor name affix)) 0
      (candidate role (baseFor name affix) (0 + k)) := by
    refine search_of_free (fun j hj => ?_) ?_
    · rw [Nat.zero_add]
      exact hbefore j hj
    · rw [Nat.zero_add]
      exact hfree
  rw [Nat.zero_add, ← hname] at hsearch
  constructor
  · exact fun h => h.unique hsearch
  · rintro rfl
    exact hsearch

/-! ## Numbers -/

/-- What stands between a base and a number. -/
def numberMark : Role → String
  | .property => "_prop"
  | _ => "_"

/-- A candidate is the base, the base of an accessor with `_prop`, or has a number, which is not
larger than the place of the candidate. -/
theorem candidate_cases (role : Role) (base : String) (k : Nat) :
    candidate role base k = base ∨
      (role = .property ∧ candidate role base k = base ++ "_prop") ∨
      ∃ number, 2 ≤ number ∧ number ≤ k + 1 ∧
        candidate role base k = base ++ numberMark role ++ toString number := by
  match role, k with
  | _, 0 => exact Or.inl rfl
  | .property, 1 => exact Or.inr (Or.inl ⟨rfl, rfl⟩)
  | .property, n + 2 => exact Or.inr (Or.inr ⟨n + 2, by omega, by omega, rfl⟩)
  | .method, n + 1 | .argument, n + 1 | .signal, n + 1 =>
    exact Or.inr (Or.inr ⟨n + 2, by omega, by omega, rfl⟩)

/-! ## One claim -/

/-- What is done for a request in the scope `s`, which is `s'` afterwards. -/
structure Resolves (s : Scope) (r : Request) (i : Identifier) (s' : Scope) : Prop where
  base : i.base = r.base
  /-- The search through the candidates ends, with the name. -/
  search : ∀ x, Search s (candidate r.role r.base) 0 x ↔ x = i.name
  /-- The name is the first free candidate, at a place that is at most the size of the scope. -/
  first : ∃ k ≤ s.size, i.name = candidate r.role r.base k ∧ i.name ∉ s ∧
    ∀ j < k, candidate r.role r.base j ∈ s
  number : i.name = r.base ∨ (r.role = .property ∧ i.name = r.base ++ "_prop") ∨
    ∃ number, 2 ≤ number ∧ number ≤ s.size + 1 ∧
      i.name = r.base ++ numberMark r.role ++ toString number
  diverges : i.diverges = true ↔ r.base ∈ s
  names : ∀ x, x ∈ s' ↔ x = i.name ∨ x ∈ s
  size : s'.size = s.size + 1

theorem diverges_iff {i : Identifier} : i.diverges = true ↔ i.name ≠ i.base := by
  unfold diverges
  exact bne_iff_ne

/-- A claim diverges exactly if its base is taken. -/
theorem claim_diverges_iff (s : Scope) (role : Role) (name : Option String) (affix : String) :
    (s.claim role name affix).1.diverges = true ↔ baseFor name affix ∈ s := by
  rw [diverges_iff]
  show (s.claim role name affix).1.name ≠ baseFor name affix ↔ _
  constructor
  · intro hne
    by_contra hfree
    exact hne (claim_name_of_not_mem hfree)
  · intro htaken heq
    exact claim_fresh s role name affix (heq ▸ htaken)

theorem claim_size (s : Scope) (role : Role) (name : Option String) (affix : String) :
    (s.claim role name affix).2.size = s.size + 1 := by
  rw [claim_scope]
  exact Scope.size_add (claim_fresh s role name affix)

theorem claim_resolves (s : Scope) (r : Request) :
    Resolves s r (s.claim r.role r.name r.affix).1 (s.claim r.role r.name r.affix).2 := by
  obtain ⟨k, hk, hname, hbefore, hfree⟩ := claim_spec s r.role r.name r.affix
  refine ⟨rfl, claim_search s r.role r.name r.affix, ⟨k, hk, hname, ?_, hbefore⟩, ?_,
    claim_diverges_iff s r.role r.name r.affix, fun x => mem_claim,
    claim_size s r.role r.name r.affix⟩
  · rw [hname]
    exact hfree
  · rw [hname]
    rcases candidate_cases r.role (baseFor r.name r.affix) k with
      hbase | hprop | ⟨number, hlow, hhigh, hnumber⟩
    · exact Or.inl hbase
    · exact Or.inr (Or.inl hprop)
    · exact Or.inr (Or.inr ⟨number, hlow, by omega, hnumber⟩)

/-! ## Any number of claims -/

theorem claimAll_size (s : Scope) (rs : List Request) :
    (claimAll s rs).2.size = s.size + rs.length := by
  induction rs generalizing s with
  | nil => rfl
  | cons r rs ih =>
    rw [claimAll_cons, ih, claim_size, List.length_cons]
    omega

/-- **Claims are exact**: each one ends, with the first free candidate for its base, and takes that
name and no other. So any number of claims, in any order and for anything, give out pairwise
distinct names that were free, and the scope has one more name for each of them. -/
theorem claim_exact (s : Scope) :
    (∀ r : Request,
      Resolves s r (s.claim r.role r.name r.affix).1 (s.claim r.role r.name r.affix).2) ∧
    ∀ rs : List Request, (claimedNames s rs).Nodup ∧ (∀ x ∈ claimedNames s rs, x ∉ s) ∧
      (∀ x, x ∈ (claimAll s rs).2 ↔ x ∈ claimedNames s rs ∨ x ∈ s) ∧
      (claimAll s rs).2.size = s.size + rs.length :=
  ⟨claim_resolves s, fun rs => ⟨claimAll_nodup s rs, fun _ => claimAll_fresh, fun _ => mem_claimAll,
    claimAll_size s rs⟩⟩

/-- Gaps between the names that are taken are filled, in the sequence of each role. -/
example :
    claimedNames (.ofList ["level", "level_2", "level_prop", "level_prop3"])
      [⟨.method, some "Level", ""⟩, ⟨.property, some "Level", ""⟩, ⟨.property, some "level", ""⟩,
        ⟨.argument, some "LEVEL", ""⟩] =
      ["level_3", "level_prop2", "level_prop4", "level_4"] := by
  decide +kernel

end BusTraits.Identifier
