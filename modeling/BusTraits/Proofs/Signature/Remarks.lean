import BusTraits.Proofs.Signature.Reading
import Mathlib.Data.List.Basic
import Mathlib.Tactic.SplitIfs

/-!
# The remarks on a signature

The reader keeps a stack and hands on a guess wherever it makes one. Which guesses those are can be
told without a stack: a character is guessed at or not by what it is, by the character after it and
by the text before it, which gives its column. And each guess leaves one unknown part in the type.

* `messages`: the messages on a signature, from left to right;
* `columnAfter_append`: the reader counts columns like this;
* `messages_eq`: each message is the one on a guess;
* `Moves.guess`, `Moves.unknowns`: a step makes the guess at its character, and that guess is one
  more unknown part among those of the open constructs;
* `scan_guesses`, `scan_unknowns`: so does a run;
* **`parseInto_eq`**: what a caller with a list of messages is left with.
-/

namespace BusTraits

/-! ## Unknown parts -/

namespace BusType

mutual

/-- How many parts of a type are unknown. -/
def unknowns : BusType → Nat
  | prim _ => 0
  | array t => unknowns t
  | dict k v => unknowns k + unknowns v
  | struct ts => unknownsAmong ts
  | unknown => 1

/-- How many parts of some fields are unknown. -/
def unknownsAmong : List BusType → Nat
  | [] => 0
  | t :: ts => unknowns t + unknownsAmong ts

end

theorem unknownsAmong_append (ts us : List BusType) :
    unknownsAmong (ts ++ us) = unknownsAmong ts + unknownsAmong us := by
  induction ts with
  | nil => simp [unknownsAmong]
  | cons t ts ih => simp only [List.cons_append, unknownsAmong, ih, Nat.add_assoc]

theorem unknownsAmong_reverse (ts : List BusType) :
    unknownsAmong ts.reverse = unknownsAmong ts := by
  induction ts with
  | nil => rfl
  | cons t ts ih =>
    simp only [List.reverse_cons, unknownsAmong_append, unknownsAmong, ih]
    omega

end BusType

namespace Signature

/-- How many parts that an open construct has so far are unknown. -/
def Frame.unknowns : Frame → Nat
  | .element => 0
  | .key => 0
  | .value k => k.unknowns
  | .fields before => BusType.unknownsAmong before

/-- How many parts of all the open constructs are unknown. -/
def unknownsOpen : List Frame → Nat
  | [] => 0
  | frame :: stack => frame.unknowns + unknownsOpen stack

/-- How many parts of what has been read so far are unknown. -/
def State.unknowns : State → Nat
  | .wanted stack => unknownsOpen stack
  | .entryEnd k v stack => k.unknowns + v.unknowns + unknownsOpen stack
  | .complete t => t.unknowns

/-- A finished type keeps its unknown parts, whatever it becomes a part of. -/
theorem settle_unknowns (t : BusType) (stack : List Frame) :
    (settle t stack).unknowns = t.unknowns + unknownsOpen stack := by
  induction stack generalizing t with
  | nil => rfl
  | cons frame stack ih =>
    rw [unknownsOpen]
    cases frame with
    | element => simp only [settle, ih, BusType.unknowns, Frame.unknowns, Nat.zero_add]
    | key => simp only [settle, State.unknowns, unknownsOpen, Frame.unknowns, Nat.zero_add]
    | value k =>
      simp only [settle, State.unknowns, Frame.unknowns]
      omega
    | fields ts =>
      simp only [settle, State.unknowns, unknownsOpen, Frame.unknowns, BusType.unknownsAmong,
        Nat.add_assoc]

/-! ## Guesses, told from the text alone -/

/-- The column of the character after a text. -/
def columnAfter (before : List Char) : Nat :=
  (before.reverse.takeWhile (· ≠ '\n')).length + 1

/-- What has to be guessed at a character in column `column` that stands before `next`. -/
def guess (column : Nat) (next : Option Char) (c : Char) : Option Issue :=
  if c ∉ meaningful then some (.unknownCode c column)
  else if c = 'a' ∧ next ∈ [none, some ')', some '\x7d'] then some (.danglingArray column)
  else none

/-- What has to be guessed at the `i`th character of a text. -/
def guessAt (text : List Char) (i : Nat) : Option Issue :=
  text[i]?.bind (guess (columnAfter (text.take i)) text[i + 1]?)

/-- All that has to be guessed, from left to right. -/
def guesses (text : List Char) : List Issue :=
  (List.range text.length).filterMap (guessAt text)

/-- The message on a character in column `column` of a signature, which stands before `next`. -/
def warning (s : String) (column : Nat) (next : Option Char) (c : Char) : Option String :=
  if c ∉ meaningful then
    some ("Warning: unknown D-Bus type '" ++ String.ofList [c] ++ "' at column " ++
      toString column ++ " of signature '" ++ s ++ "'")
  else if c = 'a' ∧ next ∈ [none, some ')', some '\x7d'] then
    some ("Warning: D-Bus signature '" ++ s ++ "' ends after the array code at column " ++
      toString column ++ ", using a variant element")
  else none

/-- The messages on a signature that is not rejected, from left to right. -/
def messages (s : String) : List String :=
  if s = "" then ["Warning: empty D-Bus signature '', using a variant"]
  else (List.range s.length).filterMap fun i =>
    s.toList[i]?.bind (warning s (columnAfter (s.toList.take i)) s.toList[i + 1]?)

theorem columnAfter_append (before : List Char) (c : Char) :
    columnAfter (before ++ [c]) = nextColumn c (columnAfter before) := by
  unfold columnAfter nextColumn
  rw [List.reverse_append, List.reverse_singleton, List.singleton_append]
  by_cases hc : c = '\n'
  · simp [hc]
  · simp [hc]

/-- After its first character, a text goes on like the text with that character behind it. -/
theorem range_filterMap_guessAt (before : List Char) (c : Char) (rest : List Char) :
    (List.range (c :: rest).length).filterMap
        (fun i => guessAt (before ++ c :: rest) (before.length + i)) =
      (guess (columnAfter before) rest.head? c).toList ++
        (List.range rest.length).filterMap
          (fun i => guessAt (before ++ [c] ++ rest) ((before ++ [c]).length + i)) := by
  have hhead : guessAt (before ++ c :: rest) before.length =
      guess (columnAfter before) rest.head? c := by
    simp [guessAt, List.head?_eq_getElem?, List.getElem?_append_right]
  have htail : (fun i => guessAt (before ++ c :: rest) (before.length + (i + 1))) =
      fun i => guessAt (before ++ [c] ++ rest) ((before ++ [c]).length + i) := by
    funext i
    rw [List.append_assoc, List.singleton_append, List.length_append, List.length_singleton,
      Nat.add_assoc, Nat.add_comm 1 i]
  rw [List.length_cons, List.range_succ_eq_map, List.filterMap_cons, List.filterMap_map,
    Nat.add_zero, hhead]
  show _ = _ ++ List.filterMap _ _
  rw [← htail]
  cases guess (columnAfter before) rest.head? c <;> rfl

/-- The message on a character is the one on what has to be guessed there. -/
theorem warning_eq (s : String) (column : Nat) (next : Option Char) (c : Char) :
    warning s column next c =
      (guess column next c).map fun issue => Remark.message ⟨s, issue⟩ := by
  unfold warning guess
  split_ifs <;> rfl

theorem messages_eq {s : String} (h : s ≠ "") :
    messages s = (guesses s.toList).map fun issue => Remark.message ⟨s, issue⟩ := by
  unfold messages guesses guessAt
  rw [if_neg h, List.map_filterMap, String.length_toList]
  refine List.filterMap_congr fun i _ => ?_
  cases s.toList[i]? with
  | none => rfl
  | some c => exact warning_eq s _ _ c

/-! ## One step -/

variable {column last : Nat} {next : Option Char} {c : Char} {st st' : State}
  {issue : Option Issue} {text : List Char} {issues : List Issue} {T : BusType}

/-- **The guess of a step** is the one that its character asks for, whatever is open. -/
theorem Moves.guess_eq (h : Moves column next st c st' issue) : issue = guess column next c := by
  unfold guess
  cases h with
  | entryEnd | fields | close | entry => rfl
  | element stack hn => rw [if_neg (not_not_intro (by decide)), if_neg fun h => hn h.2]
  | dangling stack hn => rw [if_neg (not_not_intro (by decide)), if_pos ⟨rfl, hn⟩]
  | prim p stack => cases p <;> rfl
  | unknown stack hc => rw [if_pos hc]

/-- **A step adds an unknown part exactly if it makes a guess**. -/
theorem Moves.unknowns (h : Moves column next st c st' issue) :
    st'.unknowns = st.unknowns + issue.toList.length := by
  cases h with
  | entryEnd k v stack => exact settle_unknowns _ stack
  | fields stack => simp [State.unknowns, unknownsOpen, Frame.unknowns, BusType.unknownsAmong]
  | close ts stack =>
    rw [settle_unknowns, BusType.unknowns, BusType.unknownsAmong_reverse]
    rfl
  | entry stack => rfl
  | element stack => simp [State.unknowns, unknownsOpen, Frame.unknowns]
  | dangling stack hn => rw [settle_unknowns, Nat.add_comm]; rfl
  | prim p stack => rw [settle_unknowns, BusType.unknowns, Nat.zero_add]; rfl
  | unknown stack hc => rw [settle_unknowns, Nat.add_comm]; rfl

/-! ## A run -/

/-- The guesses of a run are those at the characters it reads, one after another. -/
theorem scan_guesses (before : List Char) (h : scan last (columnAfter before) st text =
    .ok (T, issues)) : issues = (List.range text.length).filterMap
      fun i => guessAt (before ++ text) (before.length + i) := by
  induction text generalizing before last st issues with
  | nil => exact (scan_nil_eq_ok_iff.mp h).2
  | cons c rest ih =>
    obtain ⟨st', issue, later, hs, hlater, rfl⟩ := scan_cons_eq_ok_iff.mp h
    rw [← columnAfter_append] at hlater
    rw [range_filterMap_guessAt, ← ih _ hlater, ← hs.guess_eq]

/-- The unknown parts of the type that is read are those there were, and one for each guess. -/
theorem scan_unknowns (h : scan last column st text = .ok (T, issues)) :
    T.unknowns = st.unknowns + issues.length := by
  induction text generalizing last column st issues with
  | nil =>
    obtain ⟨rfl, rfl⟩ := scan_nil_eq_ok_iff.mp h
    rfl
  | cons c rest ih =>
    obtain ⟨st', issue, later, hs, hlater, rfl⟩ := scan_cons_eq_ok_iff.mp h
    rw [ih hlater, hs.unknowns, List.length_append, Nat.add_assoc]

/-- What is read leaves the messages that its text asks for, one for each unknown part. -/
theorem parse_messages {s : String} {r : Reading} (h : parse s = .ok r) :
    r.remarks.map (·.message) = messages s ∧ (messages s).length = r.type.unknowns := by
  unfold parse at h
  split at h
  · cases h
  · split at h
    · rename_i hempty
      cases h
      rw [String.isEmpty_iff.mp hempty]
      exact ⟨rfl, rfl⟩
    · rename_i hempty
      rw [messages_eq (mt String.isEmpty_iff.mpr hempty)]
      split at h
      · cases h
      · rename_i t issues hs
        cases h
        have hguesses : issues = guesses s.toList := by
          simpa [guesses] using scan_guesses [] hs
        have hunknowns : t.unknowns = issues.length := by
          simpa [State.unknowns, unknownsOpen] using scan_unknowns hs
        rw [← hguesses, List.map_map, List.length_map]
        exact ⟨rfl, hunknowns.symm⟩

/-! ## With the messages of a caller -/

theorem parseInto_run (s : String) (w : List String) :
    (parseInto s).run.run w =
      match parse s with
      | .error e => (.error e, w)
      | .ok r => (.ok r.type, w ++ r.remarks.map (·.message)) := by
  unfold parseInto
  cases parse s <;> rfl

/-- **What the caller of the reader is left with.** A signature is read as the type that it
denotes. If it is rejected, the list of messages is what it was. If it is read, the messages that
are added are those that a scan of the text finds, as many as the type has unknown parts. -/
theorem parseInto_eq (s : String) (w : List String) :
    (∀ t, ((parseInto s).run.run w).1 = .ok t ↔ s.length ≤ 255 ∧ Denotes s t) ∧
    ((∃ e, (parseInto s).run.run w = (.error e, w)) ∨
      ∃ t, (parseInto s).run.run w = (.ok t, w ++ messages s) ∧
        (messages s).length = t.unknowns) := by
  rw [parseInto_run]
  refine ⟨fun t => ?_, ?_⟩
  · rw [show s.length ≤ 255 ∧ Denotes s t ↔ _ from parse_ok_iff.symm]
    cases parse s with
    | error e => simp
    | ok r => simp
  · cases hs : parse s with
    | error e => exact Or.inl ⟨e, rfl⟩
    | ok r =>
      obtain ⟨hmessages, hcount⟩ := parse_messages hs
      exact Or.inr ⟨r.type, by rw [← hmessages], hcount⟩

/-- An unknown key of a dictionary and a struct that ends in an array code, after a line feed that
is no type code either. -/
example : messages "(\na{Zs}a)" =
    ["Warning: unknown D-Bus type '\n' at column 2 of signature '(\na{Zs}a)'",
      "Warning: unknown D-Bus type 'Z' at column 3 of signature '(\na{Zs}a)'",
      "Warning: D-Bus signature '(\na{Zs}a)' ends after the array code at column 6, " ++
        "using a variant element"] := by
  decide

end Signature

end BusTraits
