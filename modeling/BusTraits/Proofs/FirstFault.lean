import Mathlib.Data.List.Forall2

/-!
# Runs over a list that stop at the first fault

A step that may fail is done for each item of a list in turn. The run gives all results if no step
fails, and otherwise the fault of the first one that does, whatever comes after it.

* `exists_of_forall₂`, `forall_of_forall₂`, `eq_of_forall₂`, `exists_append_of_forall₂`,
  `forall₂_of_flatMap`: lists whose items correspond;
* `mapM_map`: results changed one by one or all at the end;
* `mapM_eq_ok_iff`: when a run succeeds, and with what;
* `mapM_eq_error_iff`: when a run fails, and with what;
* `mapM_eq_of_forall₂`, `mapM_related`: two runs side by side;
* `faultOf_bind`, `faultOf_mapM`: the fault of a run is the first of all the faults there are.
-/

namespace BusTraits

variable {α β ε : Type} {f : α → Except ε β}

/-! ## Lists compared item by item -/

theorem exists_of_forall₂ {R : α → β → Prop} {xs : List α} {ws : List β}
    (h : List.Forall₂ R xs ws) : ∀ w ∈ ws, ∃ x ∈ xs, R x w := by
  induction h with
  | nil => exact fun _ hw => absurd hw List.not_mem_nil
  | cons hr _ ih =>
    intro w hw
    rcases List.mem_cons.mp hw with rfl | hw
    · exact ⟨_, List.mem_cons_self, hr⟩
    · obtain ⟨x, hx, hr⟩ := ih w hw
      exact ⟨x, List.mem_cons_of_mem _ hx, hr⟩

theorem forall_of_forall₂ {R : α → β → Prop} {P : β → Prop} (hR : ∀ x w, R x w → P w)
    {xs : List α} {ws : List β} (h : List.Forall₂ R xs ws) : ∀ w ∈ ws, P w := by
  intro w hw
  obtain ⟨x, -, hx⟩ := exists_of_forall₂ h w hw
  exact hR x w hx

theorem forall₂_map_right {R : α → β → Prop} {g : α → β} (h : ∀ x, R x (g x)) (xs : List α) :
    List.Forall₂ R xs (xs.map g) :=
  List.forall₂_map_right_iff.mpr (List.forall₂_same.mpr fun x _ => h x)

/-- Items that are equal one by one make equal lists. -/
theorem eq_of_forall₂ {R : α → α → Prop} (hR : ∀ x y, R x y → x = y) {xs ys : List α}
    (h : List.Forall₂ R xs ys) : xs = ys := by
  have hall : List.Forall₂ Eq xs ys := h.imp hR
  rwa [List.forall₂_eq_eq_eq] at hall

theorem forall₂_map_eq_iff {γ : Type} {g : α → γ} {g' : β → γ} {xs : List α} {ys : List β} :
    List.Forall₂ (fun x y => g x = g' y) xs ys ↔ xs.map g = ys.map g' := by
  rw [← List.forall₂_eq_eq_eq, List.forall₂_map_left_iff, List.forall₂_map_right_iff]

/-- Lists in two parts, where the first parts have the same length. -/
theorem forall₂_append_iff {R : α → β → Prop} {as xs : List α} {bs ys : List β}
    (h : as.length = bs.length) :
    List.Forall₂ R (as ++ xs) (bs ++ ys) ↔ List.Forall₂ R as bs ∧ List.Forall₂ R xs ys := by
  rw [List.forall₂_iff_zip, List.forall₂_iff_zip, List.forall₂_iff_zip, List.zip_append h]
  simp only [List.length_append, List.mem_append, h, or_imp, forall_and]
  constructor
  · rintro ⟨hlength, has, hxs⟩
    exact ⟨⟨trivial, has⟩, by omega, hxs⟩
  · rintro ⟨⟨-, has⟩, hlength, hxs⟩
    exact ⟨by omega, has, hxs⟩

/-- What is known of the parts of the items, one part after another, tells how the items compare. -/
theorem forall₂_of_flatMap {γ : Type} {g : α → List γ} {T U : α → α → Prop} {R : γ → γ → Prop}
    (hT : ∀ x y, T x y → (g x).length = (g y).length)
    (hU : ∀ x y, T x y → List.Forall₂ R (g x) (g y) → U x y) {xs ys : List α}
    (h : List.Forall₂ T xs ys) (hR : List.Forall₂ R (xs.flatMap g) (ys.flatMap g)) :
    List.Forall₂ U xs ys := by
  induction h with
  | nil => exact .nil
  | cons hxy _ ih =>
    rw [List.flatMap_cons, List.flatMap_cons, forall₂_append_iff (hT _ _ hxy)] at hR
    exact .cons (hU _ _ hxy hR.1) (ih hR.2)

/-! ## Runs -/

theorem mapM_cons_of_ok {x : α} {xs : List α} {y : β} (h : f x = .ok y) :
    (x :: xs).mapM f = (xs.mapM f).map (y :: ·) := by
  rw [List.mapM_cons, h]
  cases xs.mapM f <;> rfl

theorem mapM_cons_of_error {x : α} {xs : List α} {e : ε} (h : f x = .error e) :
    (x :: xs).mapM f = .error e := by
  rw [List.mapM_cons, h]
  rfl

/-- What is done with every result may wait until the end of the run. -/
theorem mapM_map {γ : Type} (g : β → γ) (xs : List α) :
    (xs.mapM fun x => (f x).map g) = (xs.mapM f).map (List.map g) := by
  induction xs with
  | nil => rfl
  | cons x xs ih =>
    rw [List.mapM_cons, List.mapM_cons, ih]
    cases f x with
    | error e => rfl
    | ok y => cases xs.mapM f <;> rfl

theorem mapM_cons_eq_ok_iff {x : α} {xs : List α} {ys : List β} :
    (x :: xs).mapM f = .ok ys ↔ ∃ y zs, f x = .ok y ∧ xs.mapM f = .ok zs ∧ ys = y :: zs := by
  cases hx : f x with
  | error e =>
    rw [mapM_cons_of_error hx]
    simp
  | ok y =>
    rw [mapM_cons_of_ok hx]
    cases xs.mapM f <;> simp [Except.map, eq_comm]

/-- **A run succeeds exactly with the results of all steps.** -/
theorem mapM_eq_ok_iff {xs : List α} {ys : List β} :
    xs.mapM f = .ok ys ↔ List.Forall₂ (fun x y => f x = .ok y) xs ys := by
  induction xs generalizing ys with
  | nil =>
    rw [List.mapM_nil, List.forall₂_nil_left_iff]
    constructor
    · intro h
      cases h
      rfl
    · rintro rfl
      rfl
  | cons x xs ih =>
    rw [mapM_cons_eq_ok_iff, List.forall₂_cons_left_iff]
    simp only [ih]

/-- A run over items that correspond to the results succeeds with these. -/
theorem mapM_eq_ok_of_forall₂ {R : β → α → Prop} (hf : ∀ y x, R y x → f x = .ok y) {ys : List β}
    {xs : List α} (h : List.Forall₂ R ys xs) : xs.mapM f = .ok ys :=
  mapM_eq_ok_iff.mpr (h.imp hf).flip

/-- Runs over items that make no difference one by one do not differ. -/
theorem mapM_eq_of_forall₂ {xs ys : List α} (h : List.Forall₂ (fun x y => f x = f y) xs ys) :
    xs.mapM f = ys.mapM f := by
  induction h with
  | nil => rfl
  | cons hxy _ ih => rw [List.mapM_cons, List.mapM_cons, hxy, ih]

/-- Runs over items that correspond fail with the same fault, or give results that correspond. -/
theorem mapM_related {γ δ : Type} {g : γ → Except ε δ} {T : α → γ → Prop} {R : β → δ → Prop}
    (hf : ∀ x y, T x y → (∃ e, f x = .error e ∧ g y = .error e) ∨
      ∃ v w, f x = .ok v ∧ g y = .ok w ∧ R v w) {xs : List α} {ys : List γ}
    (h : List.Forall₂ T xs ys) :
    (∃ e, xs.mapM f = .error e ∧ ys.mapM g = .error e) ∨
      ∃ vs ws, xs.mapM f = .ok vs ∧ ys.mapM g = .ok ws ∧ List.Forall₂ R vs ws := by
  induction h with
  | nil => exact Or.inr ⟨[], [], rfl, rfl, .nil⟩
  | cons hxy _ ih =>
    rcases hf _ _ hxy with ⟨e, hx, hy⟩ | ⟨v, w, hx, hy, hvw⟩
    · exact Or.inl ⟨e, mapM_cons_of_error hx, mapM_cons_of_error hy⟩
    · rw [mapM_cons_of_ok hx, mapM_cons_of_ok hy]
      rcases ih with ⟨e, hxs, hys⟩ | ⟨vs, ws, hxs, hys, hvs⟩
      · rw [hxs, hys]
        exact Or.inl ⟨e, rfl, rfl⟩
      · rw [hxs, hys]
        exact Or.inr ⟨v :: vs, w :: ws, rfl, rfl, .cons hvw hvs⟩

/-- The first item of some kind is at the head, or after a head of another kind. -/
theorem exists_first_cons_iff {P Q : α → Prop} {z : α} {xs : List α} :
    (∃ before x after, z :: xs = before ++ x :: after ∧ (∀ b ∈ before, P b) ∧ Q x) ↔
      Q z ∨ P z ∧ ∃ before x after, xs = before ++ x :: after ∧ (∀ b ∈ before, P b) ∧ Q x := by
  constructor
  · rintro ⟨before, x, after, hsplit, hbefore, hx⟩
    cases before with
    | nil =>
      cases hsplit
      exact Or.inl hx
    | cons b before =>
      cases hsplit
      obtain ⟨hb, hbefore⟩ := List.forall_mem_cons.mp hbefore
      exact Or.inr ⟨hb, before, x, after, rfl, hbefore, hx⟩
  · rintro (hz | ⟨hz, before, x, after, rfl, hbefore, hx⟩)
    · exact ⟨[], z, xs, rfl, fun _ h => absurd h List.not_mem_nil, hz⟩
    · exact ⟨z :: before, x, after, rfl, List.forall_mem_cons.mpr ⟨hz, hbefore⟩, hx⟩

theorem mapM_cons_eq_error_iff {z : α} {xs : List α} {e : ε} :
    (z :: xs).mapM f = .error e ↔
      f z = .error e ∨ (∃ y, f z = .ok y) ∧ xs.mapM f = .error e := by
  cases hz : f z with
  | error e' => simp [mapM_cons_of_error hz]
  | ok y =>
    rw [mapM_cons_of_ok hz]
    cases xs.mapM f <;> simp [Except.map]

/-- **A run fails exactly with the fault of the first step that does.** -/
theorem mapM_eq_error_iff {xs : List α} {e : ε} :
    xs.mapM f = .error e ↔ ∃ before x after, xs = before ++ x :: after ∧
      (∀ b ∈ before, ∃ y, f b = .ok y) ∧ f x = .error e := by
  induction xs with
  | nil =>
    constructor
    · intro h
      cases h
    · rintro ⟨before, _, _, h, _⟩
      exact absurd h (by simp)
  | cons z xs ih => rw [exists_first_cons_iff, ← ih, mapM_cons_eq_error_iff]

/-- In a run that succeeds every step does. -/
theorem exists_of_mapM_eq_ok {xs : List α} {ys : List β} (h : xs.mapM f = .ok ys) :
    ∀ x ∈ xs, ∃ y, f x = .ok y := by
  have hall := mapM_eq_ok_iff.mp h
  clear h
  induction hall with
  | nil => exact fun _ h => absurd h List.not_mem_nil
  | cons hxy _ ih => exact List.forall_mem_cons.mpr ⟨⟨_, hxy⟩, ih⟩

/-! ## The first of all faults -/

/-- The fault of a run that fails. -/
def faultOf : Except ε α → Option ε
  | .ok _ => none
  | .error e => some e

theorem faultOf_eq_some_iff {x : Except ε α} {e : ε} : faultOf x = some e ↔ x = .error e := by
  cases x <;> simp [faultOf]

theorem faultOf_eq_none_iff {x : Except ε α} : faultOf x = none ↔ ∃ v, x = .ok v := by
  cases x <;> simp [faultOf]

theorem bind_eq_ok_iff {x : Except ε α} {k : α → Except ε β} {w : β} :
    x >>= k = .ok w ↔ ∃ v, x = .ok v ∧ k v = .ok w := by
  cases x with
  | error e =>
    constructor
    · intro h
      cases h
    · rintro ⟨v, hv, -⟩
      cases hv
  | ok v =>
    constructor
    · intro h
      exact ⟨v, rfl, h⟩
    · rintro ⟨v, hv, h⟩
      cases hv
      exact h

/-- The faults of what is done next come after those of what is done first, and they count only if
that goes well. -/
theorem faultOf_bind {x : Except ε α} {k : α → Except ε β} {es es' : List ε}
    (hx : faultOf x = es.head?) (hk : ∀ v, x = .ok v → faultOf (k v) = es'.head?) :
    faultOf (x >>= k) = (es ++ es').head? := by
  rw [List.head?_append, ← hx]
  cases x with
  | error e => rfl
  | ok v => exact hk v rfl

/-- Nothing goes wrong with a result that is only put together. -/
theorem faultOf_bind_pure {x : Except ε α} {es : List ε} (hx : faultOf x = es.head?)
    (k : α → β) : faultOf (x >>= fun v => pure (k v)) = es.head? := by
  rw [← hx]
  cases x <;> rfl

theorem faultOf_mapM {faults : α → List ε} (hf : ∀ x, faultOf (f x) = (faults x).head?)
    (xs : List α) : faultOf (xs.mapM f) = (xs.flatMap faults).head? := by
  induction xs with
  | nil => rfl
  | cons x xs ih =>
    rw [List.mapM_cons, List.flatMap_cons]
    exact faultOf_bind (hf x) fun y _ => faultOf_bind_pure ih (y :: ·)

end BusTraits
