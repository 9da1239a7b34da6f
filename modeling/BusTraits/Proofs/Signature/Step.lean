import BusTraits.Proofs.Signature.Grammar
import BusTraits.Signature.Parser

/-!
# What a reader of signatures can do with a character

`State.step` is a match with guards and with clauses that shadow later ones. `Moves` lists its
outcomes, each with the condition it is taken under. A fact about every step is proved by cases on
it, and a step is shown to be possible by naming one.

* **`step_iff_moves`**: a step is one of the moves;
* `scan_nil_eq_ok_iff`, `scan_cons_eq_ok_iff`: a text that is read to the end is a run of moves;
* `scan_nil_eq_error`, `scan_cons_eq_error`: where a run can fail.
-/

namespace BusTraits.Signature

theorem endsArray_iff {next : Option Char} :
    endsArray next = true ↔ next ∈ [none, some ')', some '\x7d'] := by
  cases next <;> simp [endsArray]

/-- Where a reader can go with a character in column `column` that stands before `next`, and the
guess that takes. -/
inductive Moves (column : Nat) (next : Option Char) :
    State → Char → State → Option Issue → Prop where
  /-- A dictionary ends. -/
  | entryEnd (k v : BusType) (stack : List Frame) :
    Moves column next (.entryEnd k v stack) '\x7d' (settle (.dict k v) stack) none
  /-- A struct opens. -/
  | fields (stack : List Frame) :
    Moves column next (.wanted stack) '(' (.wanted (.fields [] :: stack)) none
  /-- A struct ends. -/
  | close (ts : List BusType) (stack : List Frame) :
    Moves column next (.wanted (.fields ts :: stack)) ')' (settle (.struct ts.reverse) stack) none
  /-- An array turns out to be a dictionary. -/
  | entry (stack : List Frame) :
    Moves column next (.wanted (.element :: stack)) '\x7b' (.wanted (.key :: stack)) none
  /-- An array opens. -/
  | element (stack : List Frame) (h : next ∉ [none, some ')', some '\x7d']) :
    Moves column next (.wanted stack) 'a' (.wanted (.element :: stack)) none
  /-- An array has to do without an element. -/
  | dangling (stack : List Frame) (h : next ∈ [none, some ')', some '\x7d']) :
    Moves column next (.wanted stack) 'a' (settle (.array .unknown) stack)
      (some (.danglingArray column))
  /-- A basic type is complete. -/
  | prim (p : Primitive) (stack : List Frame) :
    Moves column next (.wanted stack) p.code (settle (.prim p) stack) none
  /-- The character has no meaning. -/
  | unknown {c : Char} (stack : List Frame) (h : c ∉ meaningful) :
    Moves column next (.wanted stack) c (settle .unknown stack) (some (.unknownCode c column))

variable {column : Nat} {next : Option Char} {c : Char} {st st' : State} {issue : Option Issue}

theorem Moves.of_step (hs : st.step column next c = some (st', issue)) :
    Moves column next st c st' issue := by
  cases st with
  | complete t => simp [State.step] at hs
  | entryEnd k v stack =>
    simp only [State.step] at hs
    split at hs
    · rename_i hc
      cases hs
      subst hc
      exact .entryEnd k v stack
    · cases hs
  | wanted stack =>
    simp only [State.step] at hs
    split at hs
    · cases hs
      exact .fields stack
    · cases hs
      exact .close _ _
    · cases hs
    · cases hs
      exact .entry _
    · cases hs
    · cases hs
    · split at hs
      · rename_i hn
        cases hs
        exact .dangling stack (endsArray_iff.mp hn)
      · rename_i hn
        cases hs
        exact .element stack fun hmem => hn (endsArray_iff.mpr hmem)
    · rename_i _ _ hopen hclose hbrace hend ha _ _
      split at hs
      · rename_i p hp
        cases hs
        rw [ofCode?_eq_some hp]
        exact .prim p stack
      · rename_i hp
        cases hs
        refine .unknown stack fun hm => ?_
        rcases mem_meaningful.mp hm with hm | hm
        · rw [hp] at hm
          cases hm
        · simp only [List.mem_cons, List.not_mem_nil, or_false] at hm
          rcases hm with hm | hm | hm | hm | hm
          · exact ha hm
          · exact hopen hm
          · exact hclose hm
          · exact hbrace hm
          · exact hend hm

/-- A character without a meaning is taken for a type. -/
theorem step_unknown (column : Nat) (next : Option Char) (stack : List Frame)
    (hc : c ∉ meaningful) : (State.wanted stack).step column next c =
      some (settle .unknown stack, some (.unknownCode c column)) := by
  simp only [State.step]
  split
  · exact absurd (by decide) hc
  · exact absurd (by decide) hc
  · exact absurd (by decide) hc
  · exact absurd (by decide) hc
  · exact absurd (by decide) hc
  · exact absurd (by decide) hc
  · exact absurd (by decide) hc
  · split
    · rename_i p hp
      exact absurd (mem_meaningful.mpr (Or.inl (by rw [hp]; rfl))) hc
    · rfl

theorem Moves.step (h : Moves column next st c st' issue) :
    st.step column next c = some (st', issue) := by
  cases h with
  | entryEnd | fields | close | entry => rfl
  | element stack hn => simp only [State.step, endsArray_iff, if_neg hn]
  | dangling stack hn => simp only [State.step, endsArray_iff, if_pos hn]
  | prim p stack => cases p <;> rfl
  | unknown stack hc => exact step_unknown column next stack hc

/-- **A step is one of the moves**. -/
theorem step_iff_moves :
    st.step column next c = some (st', issue) ↔ Moves column next st c st' issue :=
  ⟨Moves.of_step, Moves.step⟩

/-! ## Runs -/

variable {last : Nat} {rest : List Char} {T : BusType} {issues : List Issue}

theorem scan_nil_eq_ok_iff :
    scan last column st [] = .ok (T, issues) ↔ st = .complete T ∧ issues = [] := by
  cases st with
  | complete t => simp [scan, eq_comm]
  | wanted stack => simp [scan]
  | entryEnd k v stack => simp [scan]

theorem scan_nil_eq_error {n : Nat} (h : scan last column st [] = .error n) : n = last := by
  cases st with
  | complete t => cases h
  | wanted stack => exact (Except.error.inj h).symm
  | entryEnd k v stack => exact (Except.error.inj h).symm

theorem scan_cons_eq_ok_iff :
    scan last column st (c :: rest) = .ok (T, issues) ↔ ∃ st' issue later,
      Moves column rest.head? st c st' issue ∧
        scan column (nextColumn c column) st' rest = .ok (T, later) ∧
        issues = issue.toList ++ later := by
  rw [scan]
  · constructor
    · intro h
      split at h
      · cases h
      · rename_i st' issue hs
        split at h
        · cases h
        · rename_i t later hlater
          simp only [Except.ok.injEq, Prod.mk.injEq] at h
          exact ⟨st', issue, later, .of_step hs, by rw [hlater, h.1], h.2.symm⟩
    · rintro ⟨st', issue, later, hs, hlater, rfl⟩
      rw [hs.step]
      simp only [hlater]

/-- A run fails at its first character or at a later one. -/
theorem scan_cons_eq_error {n : Nat} (h : scan last column st (c :: rest) = .error n) :
    (∀ st' issue, ¬Moves column rest.head? st c st' issue) ∧ n = column ∨
      ∃ st' issue, Moves column rest.head? st c st' issue ∧
        scan column (nextColumn c column) st' rest = .error n := by
  rw [scan] at h
  · split at h
    · rename_i hs
      refine Or.inl ⟨fun st' issue hm => ?_, (Except.error.inj h).symm⟩
      rw [hm.step] at hs
      cases hs
    · rename_i st' issue hs
      split at h
      · rename_i n' hlater
        exact Or.inr ⟨st', issue, .of_step hs, by rw [hlater, Except.error.inj h]⟩
      · cases h

end BusTraits.Signature
