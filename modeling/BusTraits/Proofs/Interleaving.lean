import Mathlib.Data.List.Nodup

/-!
# Lists put together into one

`Merged xs ys l` says that `l` has the items of `xs` and those of `ys`, both in their order, and
`Interleaved lists l` says the same of any number of lists. Nothing is said of the order between
items of different lists. If every list has items of its own kind, it can be told from `l` alone.

* `Merged.mem_iff`, `Merged.filter_left`, `Merged.filter_right`: two lists;
* `interleaved_flatten`: one list after another is an interleaving;
* **`Interleaved.filter_kind`**: the items of a kind are those of its list, in their order.
-/

namespace BusTraits

variable {α κ : Type}

/-! ## Two lists -/

/-- The items of two lists, those of each list in their order. -/
inductive Merged : List α → List α → List α → Prop where
  | nil : Merged [] [] []
  | left {x : α} {xs ys l : List α} (h : Merged xs ys l) : Merged (x :: xs) ys (x :: l)
  | right {y : α} {xs ys l : List α} (h : Merged xs ys l) : Merged xs (y :: ys) (y :: l)

namespace Merged

variable {xs ys l : List α} {p : α → Bool}

theorem mem_iff (h : Merged xs ys l) {z : α} : z ∈ l ↔ z ∈ xs ∨ z ∈ ys := by
  induction h with
  | nil => simp
  | left _ ih => rw [List.mem_cons, List.mem_cons, ih, or_assoc]
  | right _ ih => rw [List.mem_cons, List.mem_cons, ih, or_left_comm]

/-- Leaving out the items of the second list. -/
theorem filter_left (h : Merged xs ys l) (hys : ∀ y ∈ ys, p y = false) :
    l.filter p = xs.filter p := by
  induction h with
  | nil => rfl
  | left _ ih => simp only [List.filter_cons, ih hys]
  | right _ ih =>
    obtain ⟨hy, hys⟩ := List.forall_mem_cons.mp hys
    rw [List.filter_cons_of_neg (by simp [hy]), ih hys]

/-- Leaving out the items of the first list. -/
theorem filter_right (h : Merged xs ys l) (hxs : ∀ x ∈ xs, p x = false) :
    l.filter p = ys.filter p := by
  induction h with
  | nil => rfl
  | left _ ih =>
    obtain ⟨hx, hxs⟩ := List.forall_mem_cons.mp hxs
    rw [List.filter_cons_of_neg (by simp [hx]), ih hxs]
  | right _ ih => simp only [List.filter_cons, ih hxs]

theorem append : ∀ xs ys : List α, Merged xs ys (xs ++ ys)
  | [], [] => nil
  | [], y :: ys => right (append [] ys)
  | x :: xs, ys => left (append xs ys)

end Merged

/-! ## Any number of lists -/

/-- The items of some lists, those of each list in their order. -/
def Interleaved : List (List α) → List α → Prop
  | [], l => l = []
  | xs :: rest, l => ∃ m, Interleaved rest m ∧ Merged xs m l

theorem Interleaved.mem : ∀ {lists : List (List α)} {l : List α}, Interleaved lists l →
    ∀ x ∈ l, ∃ xs ∈ lists, x ∈ xs
  | [], _, h, _, hx => by
    rw [show _ = [] from h] at hx
    exact absurd hx List.not_mem_nil
  | xs :: rest, _, ⟨m, hm, h⟩, x, hx => by
    rcases h.mem_iff.mp hx with hx | hx
    · exact ⟨xs, List.mem_cons_self, hx⟩
    · obtain ⟨ys, hys, hx⟩ := Interleaved.mem hm x hx
      exact ⟨ys, List.mem_cons_of_mem _ hys, hx⟩

theorem Interleaved.forall_mem {lists : List (List α)} {l : List α} {P : α → Prop}
    (h : Interleaved lists l) (hP : ∀ xs ∈ lists, ∀ x ∈ xs, P x) : ∀ x ∈ l, P x := by
  intro x hx
  obtain ⟨xs, hxs, hx⟩ := h.mem x hx
  exact hP xs hxs x hx

theorem interleaved_flatten : ∀ lists : List (List α), Interleaved lists lists.flatten
  | [] => rfl
  | xs :: rest => ⟨rest.flatten, interleaved_flatten rest, Merged.append xs rest.flatten⟩

/-- **Lists of different kinds can be told apart** when they are put together. -/
theorem Interleaved.filter_kind [DecidableEq κ] {kind : α → κ} :
    ∀ {parts : List (κ × List α)} {l : List α}, Interleaved (parts.map Prod.snd) l →
      (parts.map Prod.fst).Nodup → (∀ part ∈ parts, ∀ x ∈ part.2, kind x = part.1) →
        ∀ part ∈ parts, (l.filter fun x => kind x = part.1) = part.2
  | [], _, _, _, _ => fun _ hpart => absurd hpart List.not_mem_nil
  | (k, xs) :: rest, l, ⟨m, hm, h⟩, hnodup, hkinds => by
    rw [List.map_cons, List.nodup_cons] at hnodup
    obtain ⟨hxs, hrest⟩ := List.forall_mem_cons.mp hkinds
    have hother : ∀ part ∈ rest, part.1 ≠ k := by
      rintro part hpart rfl
      exact hnodup.1 (List.mem_map.mpr ⟨part, hpart, rfl⟩)
    refine List.forall_mem_cons.mpr ⟨?_, fun part hpart => ?_⟩
    · have hnone : ∀ y ∈ m, decide (kind y = k) = false := by
        intro y hy
        obtain ⟨_, hys, hy⟩ := hm.mem y hy
        obtain ⟨part, hpart, rfl⟩ := List.mem_map.mp hys
        rw [hrest part hpart y hy]
        exact decide_eq_false (hother part hpart)
      rw [h.filter_left hnone]
      exact List.filter_eq_self.mpr fun x hx => decide_eq_true (hxs x hx)
    · have hnone : ∀ x ∈ xs, decide (kind x = part.1) = false := by
        intro x hx
        rw [hxs x hx]
        exact decide_eq_false (hother part hpart).symm
      rw [h.filter_right hnone]
      exact Interleaved.filter_kind hm hnodup.2 hrest part hpart

end BusTraits
