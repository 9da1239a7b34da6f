import Mathlib.Data.List.Infix

/-!
# Lines that start in a certain way

A text is put together from parts, some of which may hold line feeds that nobody expects. What can
be said of the lines of the whole that start with a given text is said here, part by part.

* `linesStarting_append`: the lines of two texts with a line feed between them;
* `linesStarting_eq_nil_iff`: there is none exactly if the text does not start like that, and
  nowhere a line feed with that start behind it;
* `infix_append_cons`, `marker_infix_append_of_not_mem`: where that can stand in a text of several
  parts;
* `isOneLine_append`, `isOneLine_intercalate`: texts of one line, put together.
-/

namespace BusTraits.Text

/-! ## Parts of a text -/

/-- A character that a text does not have cuts another one in two where the text can stand. -/
theorem infix_append_cons {p u v : List Char} {c : Char} (hc : c ∉ p) :
    p <:+: u ++ c :: v ↔ p <:+: u ∨ p <:+: v := by
  have hstart : ∀ {l}, (∀ x ∈ l, x ≠ c) → l <+: c :: v → l = [] := by
    intro l hl h
    rcases List.prefix_cons_iff.mp h with hnil | ⟨t, rfl, -⟩
    · exact hnil
    · exact absurd rfl (hl c List.mem_cons_self)
  have hne : ∀ x ∈ p, x ≠ c := fun x hx hxc => hc (hxc ▸ hx)
  constructor
  · intro h
    rcases List.infix_append_iff.mp h with h | h | ⟨l₁, l₂, rfl, h₁, h₂⟩
    · exact Or.inl h
    · rcases List.infix_cons_iff.mp h with h | h
      · rw [hstart hne h]
        exact Or.inl (List.nil_infix)
      · exact Or.inr h
    · rw [hstart (fun x hx => hne x (List.mem_append_right _ hx)) h₂, List.append_nil]
      exact Or.inl h₁.isInfix
  · rintro (h | h)
    · exact h.trans (List.prefix_append u _).isInfix
    · exact h.trans ((List.suffix_cons c v).trans (List.suffix_append u _)).isInfix

/-- What starts a text and has no `c` in it stands before the first `c`. -/
theorem prefix_append_cons {p u v : List Char} {c : Char} (hc : c ∉ p) :
    p <+: u ++ c :: v ↔ p <+: u := by
  constructor
  · intro h
    rcases List.prefix_or_prefix_of_prefix h (List.prefix_append u (c :: v)) with h' | ⟨q, rfl⟩
    · exact h'
    · rcases List.prefix_cons_iff.mp ((List.prefix_append_right_inj u).mp h) with rfl | ⟨t, rfl, -⟩
      · rw [List.append_nil]
      · exact absurd (List.mem_append_right u List.mem_cons_self) hc
  · intro h
    exact h.trans (List.prefix_append u _)

/-! ## Marked lines -/

/-- The lines of a text that start with `start`. -/
def linesStarting (start text : List Char) : List (List Char) :=
  (text.splitOn '\n').filter fun line => start.isPrefixOf line

/-- What a text has where a line of it other than the first starts with `start`. -/
def marker (start : List Char) : List Char := '\n' :: start

variable {start : List Char}

theorem linesStarting_append (u v : List Char) :
    linesStarting start (u ++ '\n' :: v) = linesStarting start u ++ linesStarting start v := by
  unfold linesStarting
  rw [List.splitOn_append_cons_self, List.filter_append]

theorem linesStarting_of_not_mem {line : List Char} (h : '\n' ∉ line) :
    linesStarting start line = if start <+: line then [line] else [] := by
  unfold linesStarting
  rw [List.splitOn_eq_singleton h]
  by_cases hstarts : start <+: line
  · rw [if_pos hstarts, List.filter_cons_of_pos (List.isPrefixOf_iff_prefix.mpr hstarts)]
    rfl
  · rw [if_neg hstarts, List.filter_cons_of_neg (mt List.isPrefixOf_iff_prefix.mp hstarts)]
    rfl

/-- A text without line feeds in front makes no difference. -/
theorem marker_infix_append_of_not_mem {u : List Char} (hu : '\n' ∉ u) (v : List Char) :
    marker start <:+: u ++ v ↔ marker start <:+: v := by
  induction u with
  | nil => rfl
  | cons c u ih =>
    rw [List.mem_cons, not_or] at hu
    rw [List.cons_append, List.infix_cons_iff, ih hu.2, or_iff_right]
    intro h
    exact hu.1 (List.cons_prefix_cons.mp h).1

theorem marker_absent {line : List Char} (h : '\n' ∉ line) : ¬marker start <:+: line :=
  fun hmarker => h (hmarker.subset List.mem_cons_self)

/-- After a line feed there is either the start or a later line feed with the start. -/
theorem marker_infix_append_lineFeed {u : List Char} (hu : '\n' ∉ u)
    (v : List Char) :
    marker start <:+: u ++ '\n' :: v ↔ start <+: v ∨ marker start <:+: v := by
  rw [marker_infix_append_of_not_mem hu, List.infix_cons_iff, marker, List.cons_prefix_cons,
    and_iff_right rfl]

/-- **No line starts like that** exactly if the text does not, and has no line feed with that start
behind it. -/
theorem linesStarting_eq_nil_iff (hstart : '\n' ∉ start) (text : List Char) :
    linesStarting start text = [] ↔ ¬start <+: text ∧ ¬marker start <:+: text := by
  -- on the number of line feeds, through the length
  induction hn : text.length using Nat.strong_induction_on generalizing text with
  | _ n ih =>
    by_cases hfeed : '\n' ∈ text
    · obtain ⟨u, v, rfl, hu⟩ := List.eq_append_cons_of_mem hfeed
      have hlength : v.length < n := by
        rw [← hn, List.length_append, List.length_cons]
        omega
      rw [linesStarting_append, List.append_eq_nil_iff, ih v.length hlength v rfl,
        linesStarting_of_not_mem hu, marker_infix_append_lineFeed hu,
        prefix_append_cons hstart, not_or]
      simp
    · rw [linesStarting_of_not_mem hfeed]
      simp [marker_absent hfeed]

/-- The lines of lines that are each ended by a line feed. -/
theorem linesStarting_ended (hstart : start ≠ []) (lines : List (List Char)) :
    linesStarting start (['\n'].intercalate lines ++ ['\n']) =
      lines.flatMap (linesStarting start) := by
  have hnil : linesStarting start [] = [] := by
    rw [linesStarting_of_not_mem List.not_mem_nil, if_neg]
    exact fun h => hstart (List.prefix_nil.mp h)
  rw [linesStarting_append, hnil, List.append_nil]
  induction lines with
  | nil => exact hnil
  | cons line lines ih =>
    cases lines with
    | nil => rw [List.intercalate_singleton, List.flatMap_singleton]
    | cons next lines =>
      rw [List.intercalate_cons_cons, List.append_assoc, List.singleton_append,
        linesStarting_append, ih]
      rfl

end BusTraits.Text

namespace BusTraits

/-! ## Texts of one line -/

/-- A text without a line feed. -/
def IsOneLine (text : String) : Prop := '\n' ∉ text.toList

instance (text : String) : Decidable (IsOneLine text) :=
  inferInstanceAs (Decidable ('\n' ∉ text.toList))

theorem isOneLine_append {s t : String} : IsOneLine (s ++ t) ↔ IsOneLine s ∧ IsOneLine t := by
  unfold IsOneLine
  rw [String.toList_append, List.mem_append, not_or]

theorem isOneLine_ofList {text : List Char} : IsOneLine (String.ofList text) ↔ '\n' ∉ text := by
  unfold IsOneLine
  rw [String.toList_ofList]

theorem isOneLine_intercalate {separator : String} {ts : List String}
    (hseparator : IsOneLine separator) (h : ∀ t ∈ ts, IsOneLine t) :
    IsOneLine (separator.intercalate ts) := by
  induction ts with
  | nil =>
    show IsOneLine ""
    decide
  | cons t ts ih =>
    obtain ⟨ht, hts⟩ := List.forall_mem_cons.mp h
    cases ts with
    | nil => exact ht
    | cons u us =>
      rw [String.intercalate_cons_cons, isOneLine_append, isOneLine_append]
      exact ⟨⟨ht, hseparator⟩, ih hts⟩

end BusTraits
