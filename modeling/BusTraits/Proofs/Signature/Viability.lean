import BusTraits.Proofs.Signature.Remarks

/-!
# Where a signature is rejected

A text may stop being the beginning of any signature long before it ends. The reader notices at the
very character where that happens, although it looks one character ahead: what it can do with a
character does not depend on the next one (`Moves.exists_any`), and from wherever it can go on there
is a way to the end (`Moves.exists_accepts`). A text that is the beginning of a signature to its
last character is rejected there.

* `exists_accepts_settle`, `exists_accepts_wanted`: what is open can be closed;
* `Reaches.accepts`, `Reaches.of_scan`: the texts that begin with what has been read are those that
  the reader goes on to read;
* `Reaches.viable`, `Reaches.not_viable`: what has been read is the beginning of a signature, and is
  none any more together with a character that the reader can do nothing with;
* `scan_error`: where a run fails;
* **`parse_error_column`**: the column that a rejected signature is reported with.
-/

namespace BusTraits.Signature

/-! ## Beginnings of signatures -/

/-- The text is the beginning of a signature of any length. -/
def Viable (before : List Char) : Prop :=
  ∃ s t, Denotes s t ∧ before <+: s.toList

/-- The `k`th character is the first with which the text is no beginning of a signature. -/
structure GoesAstray (text : List Char) (k : Nat) : Prop where
  pos : 0 < k
  le : k ≤ text.length
  not_viable : ¬Viable (text.take k)
  viable : ∀ j < k, Viable (text.take j)

theorem Viable.of_prefix {before text : List Char} (h : Viable text) (hstart : before <+: text) :
    Viable before := by
  obtain ⟨s, t, hs, htext⟩ := h
  exact ⟨s, t, hs, hstart.trans htext⟩

theorem viable_of_accepts {before rest : List Char} {T : BusType}
    (h : Accepts (.wanted []) (before ++ rest) T) : Viable before := by
  have hderives : Derives [] (before ++ rest) T := scan_iff.mp (h 0 1)
  refine ⟨String.ofList (before ++ rest), T, Or.inr ?_, ?_⟩
  · rwa [String.toList_ofList]
  · rw [String.toList_ofList]
    exact List.prefix_append before rest

/-! ## Closing what is open -/

/-- Whatever is open around a finished type can be closed. -/
theorem exists_accepts_settle (stack : List Frame) (t : BusType) :
    ∃ rest T, Accepts (settle t stack) rest T := by
  induction stack generalizing t with
  | nil => exact ⟨[], t, .complete t⟩
  | cons frame stack ih =>
    cases frame with
    | element => exact ih (.array t)
    | key =>
      obtain ⟨rest, T, h⟩ := ih (.dict t (.prim .string))
      exact ⟨_, T, .prim (p := .string) (.entryEnd h)⟩
    | value k =>
      obtain ⟨rest, T, h⟩ := ih (.dict k t)
      exact ⟨_, T, .entryEnd h⟩
    | fields ts =>
      obtain ⟨rest, T, h⟩ := ih (.struct (t :: ts).reverse)
      exact ⟨_, T, .close h⟩

/-- Where a type is wanted, a string will do. -/
theorem exists_accepts_wanted (stack : List Frame) :
    ∃ rest T, Accepts (.wanted stack) (Primitive.string.code :: rest) T := by
  obtain ⟨rest, T, h⟩ := exists_accepts_settle stack (.prim .string)
  exact ⟨rest, T, .prim h⟩

variable {column column' last : Nat} {next : Option Char} {c : Char} {st st' st'' : State}
  {issue : Option Issue} {before text rest : List Char} {T : BusType} {issues : List Issue}

/-- Columns matter for guesses only. -/
theorem Moves.at_column (h : Moves column next st c st' issue) (column' : Nat) :
    ∃ issue', Moves column' next st c st' issue' := by
  cases h with
  | entryEnd k v stack => exact ⟨_, .entryEnd k v stack⟩
  | fields stack => exact ⟨_, .fields stack⟩
  | close ts stack => exact ⟨_, .close ts stack⟩
  | entry stack => exact ⟨_, .entry stack⟩
  | element stack hn => exact ⟨_, .element stack hn⟩
  | dangling stack hn => exact ⟨_, .dangling stack hn⟩
  | prim p stack => exact ⟨_, .prim p stack⟩
  | unknown stack hc => exact ⟨_, .unknown stack hc⟩

/-- A reader has no choice. -/
theorem Moves.unique {issue' : Option Issue} (h : Moves column next st c st' issue)
    (h' : Moves column' next st c st'' issue') : st' = st'' := by
  obtain ⟨issue'', h⟩ := h.at_column column'
  have hstep := h.step
  rw [h'.step] at hstep
  cases hstep
  rfl

/-- **The next character does not decide whether there is a move**, only which of two. -/
theorem Moves.exists_any (h : Moves column next st c st' issue) (column' : Nat)
    (next' : Option Char) : ∃ st'' issue', Moves column' next' st c st'' issue' := by
  cases h with
  | entryEnd k v stack => exact ⟨_, _, .entryEnd k v stack⟩
  | fields stack => exact ⟨_, _, .fields stack⟩
  | close ts stack => exact ⟨_, _, .close ts stack⟩
  | entry stack => exact ⟨_, _, .entry stack⟩
  | element stack | dangling stack =>
    by_cases hn : next' ∈ [none, some ')', some '\x7d']
    · exact ⟨_, _, .dangling stack hn⟩
    · exact ⟨_, _, .element stack hn⟩
  | prim p stack => exact ⟨_, _, .prim p stack⟩
  | unknown stack hc => exact ⟨_, _, .unknown stack hc⟩

/-- **Where there is a move there is a way to the end** that begins with its character. An array
code takes an element, whatever it was taken for. -/
theorem Moves.exists_accepts (h : Moves column next st c st' issue) :
    ∃ rest T, Accepts st (c :: rest) T := by
  cases h with
  | entryEnd k v stack =>
    obtain ⟨rest, T, h⟩ := exists_accepts_settle stack (.dict k v)
    exact ⟨rest, T, .entryEnd h⟩
  | fields stack =>
    obtain ⟨rest, T, h⟩ := exists_accepts_wanted (.fields [] :: stack)
    exact ⟨_, T, .fields h⟩
  | close ts stack =>
    obtain ⟨rest, T, h⟩ := exists_accepts_settle stack (.struct ts.reverse)
    exact ⟨rest, T, .close h⟩
  | entry stack =>
    obtain ⟨rest, T, h⟩ := exists_accepts_wanted (.key :: stack)
    exact ⟨_, T, .entry h⟩
  | element stack | dangling stack =>
    obtain ⟨rest, T, h⟩ := exists_accepts_wanted (.element :: stack)
    exact ⟨_, T, .element (by simp [Primitive.code]) h⟩
  | prim p stack =>
    obtain ⟨rest, T, h⟩ := exists_accepts_settle stack (.prim p)
    exact ⟨rest, T, .prim h⟩
  | unknown stack hc =>
    obtain ⟨rest, T, h⟩ := exists_accepts_settle stack .unknown
    exact ⟨rest, T, .unknown hc h⟩

/-! ## What has been read -/

/-- From the beginning, the text `before` takes the reader to `st` if `next` comes after it. -/
inductive Reaches : (before : List Char) → (next : Option Char) → State → Prop where
  | start (next : Option Char) : Reaches [] next (.wanted [])
  | move {before : List Char} {c : Char} {next : Option Char} {column : Nat} {st st' : State}
    {issue : Option Issue} (h : Reaches before (some c) st)
    (hm : Moves column next st c st' issue) : Reaches (before ++ [c]) next st'

namespace Reaches

/-- What is read from a state is read after the text that leads there. -/
theorem accepts (h : Reaches before text.head? st) (htext : Accepts st text T) :
    Accepts (.wanted []) (before ++ text) T := by
  generalize hnext : text.head? = next at h
  induction h generalizing text with
  | start => exact htext
  | @move before c next column st st' issue h hm ih =>
    subst hnext
    have hread : Accepts st (c :: text) T := htext.cons hm.at_column
    simpa using ih hread rfl

/-- A text that is read to the end is read on from each state it leads to. -/
theorem of_scan (h : Reaches before text.head? st)
    (hscan : scan last column (.wanted []) (before ++ text) = .ok (T, issues)) :
    ∃ last' column' later, scan last' column' st text = .ok (T, later) := by
  generalize hnext : text.head? = next at h
  induction h generalizing text with
  | start => exact ⟨last, column, issues, hscan⟩
  | @move before c next _ st st' issue h hm ih =>
    subst hnext
    rw [List.append_assoc, List.singleton_append] at hscan
    obtain ⟨last', column', later, hlater⟩ := ih hscan rfl
    obtain ⟨st'', issue', later', hm', hlater', -⟩ := scan_cons_eq_ok_iff.mp hlater
    rw [← hm.unique hm'] at hlater'
    exact ⟨_, _, later', hlater'⟩

/-- **What has been read is the beginning of a signature.** -/
theorem viable (h : Reaches before next st) : Viable before := by
  cases h with
  | start =>
    obtain ⟨rest, T, haccepts⟩ := exists_accepts_wanted []
    exact viable_of_accepts haccepts
  | move h hm =>
    -- the character after it may have been looked at, so another text is read from here on
    obtain ⟨rest, T, haccepts⟩ := hm.exists_accepts
    have hread := h.accepts haccepts
    rw [← List.singleton_append, ← List.append_assoc] at hread
    exact viable_of_accepts hread

/-- **What the reader can do nothing with goes on in no signature.** -/
theorem not_viable (h : Reaches before (some c) st)
    (hstuck : ∀ st' issue, ¬Moves column next st c st' issue) : ¬Viable (before ++ [c]) := by
  rintro ⟨s, t, hs, rest, hrest⟩
  rw [List.append_assoc, List.singleton_append] at hrest
  rcases hs with ⟨rfl, -⟩ | hderives
  · simp at hrest
  · obtain ⟨issues, hscan⟩ := scan_iff.mpr hderives
    rw [← hrest] at hscan
    obtain ⟨last', column', later, hlater⟩ := h.of_scan hscan
    obtain ⟨st', issue, -, hm, -⟩ := scan_cons_eq_ok_iff.mp hlater
    obtain ⟨st'', issue', hm'⟩ := hm.exists_any column next
    exact hstuck st'' issue' hm'

end Reaches

/-! ## Where a run fails -/

/-- A run that has read `before` fails at the first character where the whole text goes astray, or
else at the last one. -/
theorem scan_error {n : Nat} (h : Reaches before text.head? st)
    (hlast : before ≠ [] → last = columnAfter before.dropLast) (hne : before ++ text ≠ [])
    (hscan : scan last (columnAfter before) st text = .error n) :
    (∃ k, GoesAstray (before ++ text) k ∧ n = columnAfter ((before ++ text).take (k - 1))) ∨
      (∀ k, Viable ((before ++ text).take k)) ∧ n = columnAfter (before ++ text).dropLast := by
  induction text generalizing before last st with
  | nil =>
    rw [List.append_nil] at hne ⊢
    obtain rfl := scan_nil_eq_error hscan
    exact Or.inr ⟨fun k => h.viable.of_prefix (List.take_prefix k before), hlast hne⟩
  | cons c rest ih =>
    rcases scan_cons_eq_error hscan with ⟨hstuck, rfl⟩ | ⟨st', issue, hm, hlater⟩
    · have htake : (before ++ c :: rest).take (before.length + 1) = before ++ [c] := by
        simp [List.take_append, List.take_of_length_le]
      refine Or.inl ⟨before.length + 1, ⟨by omega, by simp, ?_, ?_⟩, by simp⟩
      · rw [htake]
        exact h.not_viable hstuck
      · intro j hj
        rw [List.take_append_of_le_length (by omega)]
        exact h.viable.of_prefix (List.take_prefix j before)
    · rw [← columnAfter_append] at hlater
      have hread := ih (h.move hm) (fun _ => by rw [List.dropLast_concat]) (by simp) hlater
      rwa [List.append_assoc, List.singleton_append] at hread

/-- **A signature is rejected where it goes astray.** A signature that is not too long and is
rejected is reported with a column. That is the column of the first character with which it is no
beginning of a signature of any length. If there is none, it is the column of the last character.
-/
theorem parse_error_column {s : String} {e : Error} (hlength : s.length ≤ 255)
    (h : parse s = .error e) :
    ∃ column, e = .malformed s column ∧
      e.message = "Malformed D-Bus signature '" ++ s ++ "' at column " ++ toString column ∧
      ((∃ k, GoesAstray s.toList k ∧ column = columnAfter (s.toList.take (k - 1))) ∨
        (∀ k, Viable (s.toList.take k)) ∧ column = columnAfter s.toList.dropLast) := by
  have hshort : ¬s.length > maxLength := Nat.not_lt.mpr hlength
  unfold parse at h
  rw [if_neg hshort] at h
  split at h
  · cases h
  · rename_i hempty
    have hne : s.toList ≠ [] := by simpa using hempty
    split at h
    · rename_i column hscan
      cases h
      refine ⟨column, rfl, rfl, ?_⟩
      have hread : Reaches [] s.toList.head? (.wanted []) := .start _
      exact scan_error hread (fun h => absurd rfl h) hne hscan
    · cases h

/-- The reader takes the last array code for one without an element, since a brace comes next. But a
value is wanted then, and a brace is none. In the other text only the end is missing. -/
theorem gap_error_column :
    (parse "(\na\x7ba\x7ds)" = .error (.malformed "(\na\x7ba\x7ds)" 4) ∧
      ∃ k, GoesAstray "(\na\x7ba\x7ds)".toList k ∧
        4 = columnAfter ("(\na\x7ba\x7ds)".toList.take (k - 1))) ∧
    parse "(\na\x7ba" = .error (.malformed "(\na\x7ba" 3) ∧ Viable "(\na\x7ba".toList ∧
      3 = columnAfter "(\na\x7ba".toList.dropLast := by
  have hgap : parse "(\na\x7ba\x7ds)" = .error (.malformed "(\na\x7ba\x7ds)" 4) := rfl
  have hopen : parse "(\na\x7ba" = .error (.malformed "(\na\x7ba" 3) := rfl
  have hwhole : ∃ r, parse "(\na\x7basv\x7d)" = .ok r ∧
      r.type = .struct [.unknown, .dict (.array (.prim .string)) (.prim .variant)] :=
    ⟨_, rfl, rfl⟩
  have hviable : Viable "(\na\x7ba".toList :=
    ⟨"(\na\x7basv\x7d)", _, (parse_ok_iff.mp hwhole).2, by decide⟩
  refine ⟨⟨hgap, ?_⟩, hopen, hviable, ?_⟩
  · obtain ⟨column, he, -, hastray | ⟨-, hcolumn⟩⟩ := parse_error_column (by decide) hgap
    · cases he
      exact hastray
    · cases he
      exact absurd hcolumn (by decide)
  · obtain ⟨column, he, -, ⟨k, hk, -⟩ | ⟨-, hcolumn⟩⟩ := parse_error_column (by decide) hopen
    · exact absurd (hviable.of_prefix (List.take_prefix k _)) hk.not_viable
    · cases he
      exact hcolumn

end BusTraits.Signature
