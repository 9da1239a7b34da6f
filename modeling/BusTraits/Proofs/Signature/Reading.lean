import BusTraits.Proofs.Signature.Step

/-!
# The reader of signatures keeps to the grammar

The reader is a run of `State.step`, so it meets the grammar at what a state still asks of the
text. `Finishes` says it in terms of the grammar and `Accepts` in terms of the run. A step
backwards keeps `Finishes`, and a derivation moves `Accepts` over the text it spells.

* `scan_iff`: a text is read as `t` exactly if the whole of it spells `t`;
* `Derives.unique`: no text spells two types;
* **`parse_iff_derives`**: both for `parse`, with the empty text and the limit on the length.
-/

namespace BusTraits.Signature

/-! ## What a state asks of the text -/

/-- The text that is left takes the state to the end with the type `T`, by the grammar. -/
inductive Finishes : State → List Char → BusType → Prop where
  | complete (t : BusType) : Finishes (.complete t) [] t
  | entryEnd {k v : BusType} {stack : List Frame} {rest : List Char} {T : BusType}
    (h : Finishes (settle (.dict k v) stack) rest T) :
    Finishes (.entryEnd k v stack) ('\x7d' :: rest) T
  | type {stack : List Frame} {s rest : List Char} {t T : BusType}
    (ht : Derives rest s t) (h : Finishes (settle t stack) rest T) :
    Finishes (.wanted stack) (s ++ rest) T
  | entry {stack : List Frame} {rest : List Char} {T : BusType}
    (h : Finishes (.wanted (.key :: stack)) rest T) :
    Finishes (.wanted (.element :: stack)) ('\x7b' :: rest) T
  | close {ts : List BusType} {stack : List Frame} {rest : List Char} {T : BusType}
    (h : Finishes (settle (.struct ts.reverse) stack) rest T) :
    Finishes (.wanted (.fields ts :: stack)) (')' :: rest) T

namespace Finishes

variable {stack : List Frame} {text : List Char} {T : BusType}

/-- A key is a type and nothing else. -/
theorem of_key (h : Finishes (.wanted (.key :: stack)) text T) :
    ∃ s rest t, text = s ++ rest ∧ Derives rest s t ∧
      Finishes (.wanted (.value t :: stack)) rest T := by
  cases h with
  | type ht h => exact ⟨_, _, _, rfl, ht, h⟩

/-- A value is a type with the brace that ends its dictionary. -/
theorem of_value {k : BusType} (h : Finishes (.wanted (.value k :: stack)) text T) :
    ∃ s rest t, text = s ++ '\x7d' :: rest ∧ Derives ('\x7d' :: rest) s t ∧
      Finishes (settle (.dict k t) stack) rest T := by
  cases h with
  | type ht h =>
    cases h with
    | entryEnd h => exact ⟨_, _, _, rfl, ht, h⟩

/-- **An element**: what follows an array code completes it to a type. -/
theorem of_element (h : Finishes (.wanted (.element :: stack)) text T) :
    Finishes (.wanted stack) ('a' :: text) T := by
  cases h with
  | type ht h => exact .type (.array ht) h
  | entry h =>
    obtain ⟨k, _, key, rfl, hk, h⟩ := of_key h
    obtain ⟨v, rest, value, rfl, hv, h⟩ := of_value h
    simpa using Finishes.type (.dict hk hv) h

/-- The fields that are left, up to the parenthesis that ends them. -/
theorem of_fields {st : State} (h : Finishes st text T) :
    ∀ {before : List BusType} {stack : List Frame}, st = .wanted (.fields before :: stack) →
      ∃ s ts rest, text = s ++ ')' :: rest ∧ DerivesAll (')' :: rest) s ts ∧
        Finishes (settle (.struct (before.reverse ++ ts)) stack) rest T := by
  induction h with
  | complete t => intro _ _ he; cases he
  | entryEnd h ih => intro _ _ he; cases he
  | entry h ih => intro _ _ he; cases he
  | close h ih =>
    intro before stack he
    cases he
    exact ⟨[], [], _, rfl, .nil _, by simpa using h⟩
  | type ht h ih =>
    intro before stack he
    cases he
    obtain ⟨s, ts, rest, rfl, hs, h⟩ := ih rfl
    refine ⟨_ ++ s, _ :: ts, rest, by simp, .cons ht hs, ?_⟩
    simpa using h

end Finishes

/-- **One step, read backwards**: what the state after `c` asks of the text, the state before it
asks of the text with `c` in front. -/
theorem Finishes.of_move {st st' : State} {column : Nat} {c : Char} {rest : List Char}
    {issue : Option Issue} {T : BusType}
    (hs : Moves column rest.head? st c st' issue) (h : Finishes st' rest T) :
    Finishes st (c :: rest) T := by
  cases hs with
  | entryEnd k v stack => exact .entryEnd h
  | fields stack =>
    obtain ⟨s, ts, after, rfl, hts, h⟩ := h.of_fields rfl
    simpa using Finishes.type (.struct hts) h
  | close ts stack => exact .close h
  | entry stack => exact .entry h
  | element stack hn => exact h.of_element
  | dangling stack hn => exact Finishes.type (.dangling hn) h
  | prim p stack => exact Finishes.type (.prim rest p) h
  | unknown stack hc => exact Finishes.type (.unknown rest hc) h

/-- A text that is read to the end is one the grammar asks for. -/
theorem Finishes.of_scan {T : BusType} :
    ∀ {text : List Char} {last column : Nat} {st : State} {issues : List Issue},
      scan last column st text = .ok (T, issues) → Finishes st text T
  | [], last, column, st, issues, h => by
    obtain ⟨rfl, -⟩ := scan_nil_eq_ok_iff.mp h
    exact .complete T
  | c :: rest, last, column, st, issues, h => by
    obtain ⟨st', issue, later, hs, hlater, -⟩ := scan_cons_eq_ok_iff.mp h
    exact .of_move hs (of_scan hlater)

/-! ## What a derivation makes the reader do -/

/-- The reader takes the text from the state to the end with the type `T`, whatever the columns. -/
def Accepts (st : State) (text : List Char) (T : BusType) : Prop :=
  ∀ last column, ∃ issues, scan last column st text = .ok (T, issues)

namespace Accepts

variable {st st' : State} {stack : List Frame} {c : Char} {rest after s : List Char} {T : BusType}

theorem complete (t : BusType) : Accepts (.complete t) [] t :=
  fun _ _ => ⟨[], rfl⟩

theorem cons (hs : ∀ column, ∃ issue, Moves column rest.head? st c st' issue)
    (h : Accepts st' rest T) : Accepts st (c :: rest) T := by
  intro last column
  obtain ⟨issue, hs⟩ := hs column
  obtain ⟨issues, h⟩ := h column (nextColumn c column)
  exact ⟨_, scan_cons_eq_ok_iff.mpr ⟨st', issue, issues, hs, h, rfl⟩⟩

theorem prim {p : Primitive} (h : Accepts (settle (.prim p) stack) rest T) :
    Accepts (.wanted stack) (p.code :: rest) T :=
  h.cons fun _ => ⟨_, .prim p stack⟩

theorem unknown (hc : c ∉ meaningful) (h : Accepts (settle .unknown stack) rest T) :
    Accepts (.wanted stack) (c :: rest) T :=
  h.cons fun _ => ⟨_, .unknown stack hc⟩

theorem dangling (hr : rest.head? ∈ [none, some ')', some '\x7d'])
    (h : Accepts (settle (.array .unknown) stack) rest T) :
    Accepts (.wanted stack) ('a' :: rest) T :=
  h.cons fun _ => ⟨_, .dangling stack hr⟩

theorem element (hr : rest.head? ∉ [none, some ')', some '\x7d'])
    (h : Accepts (.wanted (.element :: stack)) rest T) : Accepts (.wanted stack) ('a' :: rest) T :=
  h.cons fun _ => ⟨_, .element stack hr⟩

theorem entry (h : Accepts (.wanted (.key :: stack)) rest T) :
    Accepts (.wanted (.element :: stack)) ('\x7b' :: rest) T :=
  h.cons fun _ => ⟨_, .entry stack⟩

theorem entryEnd {k v : BusType} (h : Accepts (settle (.dict k v) stack) rest T) :
    Accepts (.entryEnd k v stack) ('\x7d' :: rest) T :=
  h.cons fun _ => ⟨_, .entryEnd k v stack⟩

theorem fields (h : Accepts (.wanted (.fields [] :: stack)) rest T) :
    Accepts (.wanted stack) ('(' :: rest) T :=
  h.cons fun _ => ⟨_, .fields stack⟩

theorem close {ts : List BusType} (h : Accepts (settle (.struct ts.reverse) stack) rest T) :
    Accepts (.wanted (.fields ts :: stack)) (')' :: rest) T :=
  h.cons fun _ => ⟨_, .close ts stack⟩

end Accepts

mutual

/-- **A derivation is read**: what the reader makes of the text after it, once it has been handed
the type, it makes of the text with the spelling in front. -/
theorem Derives.accepts {after s : List Char} {t T : BusType} {stack : List Frame} :
    Derives after s t → Accepts (settle t stack) after T → Accepts (.wanted stack) (s ++ after) T
  | .prim _ p, h => h.prim
  | .unknown _ hc, h => h.unknown hc
  | .array hs, h => by
    exact Accepts.element hs.head?_append (hs.accepts h)
  | .dict (v := v) hk hv, h => by
    have hvalue : Accepts (.wanted (.value _ :: stack)) (v ++ '\x7d' :: after) T :=
      hv.accepts (Accepts.entryEnd h)
    have hkey : Accepts (.wanted (.key :: stack)) (_ ++ (v ++ '\x7d' :: after)) T :=
      hk.accepts hvalue
    simpa using Accepts.element (by simp) (Accepts.entry hkey)
  | @Derives.struct _ s ts hts, h => by
    have hclose : Accepts (.wanted (.fields (ts.reverse ++ []) :: stack)) (')' :: after) T :=
      Accepts.close (by simpa using h)
    have hfields : Accepts (.wanted (.fields [] :: stack)) (s ++ ')' :: after) T :=
      hts.accepts hclose
    simpa using Accepts.fields hfields
  | .dangling hr, h => h.dangling hr

theorem DerivesAll.accepts {after s : List Char} {ts before : List BusType} {T : BusType}
    {stack : List Frame} :
    DerivesAll after s ts →
      Accepts (.wanted (.fields (ts.reverse ++ before) :: stack)) after T →
      Accepts (.wanted (.fields before :: stack)) (s ++ after) T
  | .nil _, h => h
  | .cons (t := t) ht hts, h => by
    have hrest : Accepts (.wanted (.fields (t :: before) :: stack)) (_ ++ after) T :=
      hts.accepts (by simpa using h)
    have hfirst : Accepts (.wanted (.fields before :: stack)) (_ ++ (_ ++ after)) T :=
      ht.accepts hrest
    simpa using hfirst

end

/-- **A text is read as `T` exactly if the whole of it spells `T`**. -/
theorem scan_iff {text : List Char} {T : BusType} :
    (∃ issues, scan 0 1 (.wanted []) text = .ok (T, issues)) ↔ Derives [] text T := by
  constructor
  · rintro ⟨issues, h⟩
    cases Finishes.of_scan h with
    | type ht h =>
      cases h with
      | complete => simpa using ht
  · intro h
    have hread : Accepts (.wanted []) (text ++ []) T := h.accepts (Accepts.complete T)
    rw [List.append_nil] at hread
    exact hread 0 1

/-- No text spells two types. -/
theorem Derives.unique {text : List Char} {t u : BusType} (ht : Derives [] text t)
    (hu : Derives [] text u) : t = u := by
  obtain ⟨_, ht⟩ := scan_iff.mpr ht
  obtain ⟨_, hu⟩ := scan_iff.mpr hu
  rw [ht] at hu
  simp only [Except.ok.injEq, Prod.mk.injEq] at hu
  exact hu.1

/-! ## Reading a signature -/

/-- The signature `s` has the type `t`: the empty signature leaves the type open, any other one
spells it. -/
def Denotes (s : String) (t : BusType) : Prop :=
  s = "" ∧ t = .unknown ∨ Derives [] s.toList t

theorem parse_ok_iff {s : String} {t : BusType} :
    (∃ r, parse s = .ok r ∧ r.type = t) ↔ s.length ≤ maxLength ∧ Denotes s t := by
  unfold parse Denotes
  split
  · rename_i hlong
    simp [Nat.not_le.mpr hlong]
  · rename_i hshort
    rw [Nat.not_lt] at hshort
    split
    · rename_i hempty
      rw [String.isEmpty_iff] at hempty
      subst hempty
      simp [not_derives_nil, eq_comm]
    · rename_i hempty
      rw [String.isEmpty_iff] at hempty
      rw [← scan_iff]
      simp only [hshort, hempty, true_and, false_and, false_or]
      split
      · rename_i column hs
        simp [hs]
      · rename_i T issues hs
        simp [hs]

/-- What is not read is rejected. -/
theorem parse_error_iff {s : String} :
    (∃ e, parse s = .error e) ↔ maxLength < s.length ∨ ∀ t, ¬Denotes s t := by
  have hok : (∃ e, parse s = .error e) ↔ ∀ t, ¬∃ r, parse s = .ok r ∧ r.type = t := by
    cases parse s with
    | error e => simp
    | ok r => simp
  rw [hok]
  simp only [parse_ok_iff, not_and]
  constructor
  · intro h
    by_cases hlong : maxLength < s.length
    · exact Or.inl hlong
    · exact Or.inr fun t => h t (Nat.not_lt.mp hlong)
  · rintro (hlong | h) t hshort
    · exact absurd hshort (Nat.not_le.mpr hlong)
    · exact h t

/-- **The reader against its grammar**: a signature of at most 255 characters is read as the type
it denotes and rejected if it denotes none, a longer one is rejected, no text spells two types,
and what is read as a type without an unknown part is the signature of that type. -/
theorem parse_iff_derives (s : String) :
    (∀ t, (∃ r, parse s = .ok r ∧ r.type = t) ↔ s.length ≤ 255 ∧ Denotes s t) ∧
    ((∃ e, parse s = .error e) ↔ 255 < s.length ∨ ∀ t, ¬Denotes s t) ∧
    (∀ t u, Derives [] s.toList t ∧ Derives [] s.toList u → t = u) ∧
    (∀ t, (∃ r, parse s = .ok r ∧ r.type = t) ∧ t.known = true ↔
      s.length ≤ 255 ∧ t.known = true ∧ s.toList = t.spelling) := by
  refine ⟨fun t => parse_ok_iff, parse_error_iff, fun t u h => h.1.unique h.2, fun t => ?_⟩
  rw [parse_ok_iff, and_assoc]
  refine and_congr_right fun _ => ?_
  constructor
  · rintro ⟨⟨-, rfl⟩ | h, hk⟩
    · simp [BusType.known] at hk
    · exact ⟨hk, (Derives.iff_spelling hk).mp h⟩
  · rintro ⟨hk, h⟩
    exact ⟨Or.inr ((Derives.iff_spelling hk).mpr h), hk⟩

example : (parse "a(sa)").toOption.map (·.type) =
    some (.array (.struct [.prim .string, .array .unknown])) := by
  decide

end BusTraits.Signature
