import BusTraits.Proofs.Signature.Remarks
import BusTraits.RustType

/-!
# Guesses written out

Whatever the reader guesses is a variant. So a signature that is read with remarks can be written
without anything to guess: a variant in place of every character without meaning, one behind every
array code that has no element, and one for the empty signature. The signature that results is the
canonical one of the type that was read, with a variant for each unknown part. The rest follows,
since such a signature is read in one way and leaves no remarks.

* `known_filled`, `toRust_filled`: a type with all unknown parts filled in, which nothing tells from
  the type in Rust;
* `writtenBefore_append`: what is written for two texts that follow one another;
* **`Derives.written_eq`**: what is written for the text of a type is the spelling of the type
  filled in;
* **`parse_written_out`**: a signature and the same one with its guesses written out.
-/

namespace BusTraits

namespace BusType

/-! ## Unknown parts filled in -/

mutual

/-- A type with a variant for each unknown part. -/
def filled : BusType → BusType
  | prim p => prim p
  | array t => array (filled t)
  | dict k v => dict (filled k) (filled v)
  | struct ts => struct (filledFields ts)
  | unknown => prim .variant

/-- The fields of a struct, each of them filled in. -/
def filledFields : List BusType → List BusType
  | [] => []
  | t :: ts => filled t :: filledFields ts

end

mutual

theorem known_filled (t : BusType) : t.filled.known = true := by
  cases t with
  | prim p => rfl
  | array t => exact known_filled t
  | dict k v =>
    rw [filled, known, known_filled k, known_filled v]
    rfl
  | struct ts => exact knownFields_filled ts
  | unknown => rfl

theorem knownFields_filled (ts : List BusType) : knownFields (filledFields ts) = true := by
  cases ts with
  | nil => rfl
  | cons t ts =>
    rw [filledFields, knownFields, known_filled t, knownFields_filled ts]
    rfl

end

mutual

theorem toRust_filled (context : RustType.Context) (t : BusType) :
    t.filled.toRust context = t.toRust context := by
  cases t with
  | prim p => rfl
  | array t => rw [filled, toRust, toRust, toRust_filled context t]
  | dict k v => rw [filled, toRust, toRust, toRust_filled context k, toRust_filled context v]
  | struct ts => rw [filled, toRust, toRust, fieldsToRust_filled context ts]
  | unknown => rfl

theorem fieldsToRust_filled (context : RustType.Context) (ts : List BusType) :
    fieldsToRust context (filledFields ts) = fieldsToRust context ts := by
  cases ts with
  | nil => rfl
  | cons t ts =>
    rw [filledFields, fieldsToRust, fieldsToRust, toRust_filled context t,
      fieldsToRust_filled context ts]

end

mutual

theorem unknowns_of_known {t : BusType} (h : t.known = true) : t.unknowns = 0 := by
  cases t with
  | prim p => rfl
  | array t => exact unknowns_of_known (t := t) h
  | dict k v =>
    rw [known, Bool.and_eq_true] at h
    rw [unknowns, unknowns_of_known h.1, unknowns_of_known h.2]
  | struct ts =>
    rw [known] at h
    exact unknownsAmong_of_known h
  | unknown => cases h

theorem unknownsAmong_of_known {ts : List BusType} (h : knownFields ts = true) :
    unknownsAmong ts = 0 := by
  cases ts with
  | nil => rfl
  | cons t ts =>
    rw [knownFields, Bool.and_eq_true] at h
    rw [unknownsAmong, unknowns_of_known h.1, unknownsAmong_of_known h.2]

end

end BusType

namespace Signature

/-! ## Variants written in a text -/

/-- What is written for a character that stands before `next`. -/
def written (next : Option Char) (c : Char) : List Char :=
  if c ∉ meaningful then ['v']
  else if c = 'a' ∧ (next = none ∨ next = some ')' ∨ next = some '\x7d') then ['a', 'v']
  else [c]

/-- What is written for a text that stands before `after`. -/
def writtenBefore (after : List Char) : List Char → List Char
  | [] => []
  | c :: rest => written (rest ++ after).head? c ++ writtenBefore after rest

/-- A signature with a variant written wherever one has to be guessed. -/
def writtenOut (s : String) : String :=
  if s = "" then "v" else String.ofList (writtenBefore [] s.toList)

theorem written_code (next : Option Char) (p : Primitive) : written next p.code = [p.code] := by
  unfold written
  cases p <;> simp [Primitive.code, meaningful]

theorem written_bracket (next : Option Char) {c : Char} (h : c ∈ ['(', ')', '\x7b', '\x7d']) :
    written next c = [c] := by
  simp only [List.mem_cons, List.not_mem_nil, or_false] at h
  unfold written
  rcases h with rfl | rfl | rfl | rfl <;> simp [meaningful]

/-- An array code with an element stays as it is. -/
theorem written_array {next : Option Char} (h : next ∉ [none, some ')', some '\x7d']) :
    written next 'a' = ['a'] := by
  unfold written
  rw [if_neg (not_not_intro (by decide)), if_neg fun hdangling => h (by simpa using hdangling.2)]

theorem writtenBefore_append (after s t : List Char) :
    writtenBefore after (s ++ t) = writtenBefore (t ++ after) s ++ writtenBefore after t := by
  induction s with
  | nil => rfl
  | cons c s ih => simp only [List.cons_append, writtenBefore, ih, List.append_assoc]

/-- A bracket behind a text. -/
theorem writtenBefore_concat (after s : List Char) {c : Char}
    (h : c ∈ ['(', ')', '\x7b', '\x7d']) :
    writtenBefore after (s ++ [c]) = writtenBefore (c :: after) s ++ [c] := by
  rw [writtenBefore_append, writtenBefore, written_bracket _ h]
  rfl

mutual

/-- **What is written for the text of a type** is the spelling of this type filled in. -/
theorem Derives.written_eq {after s : List Char} {t : BusType} :
    Derives after s t → writtenBefore after s = t.filled.spelling
  | .prim _ p => by
    rw [writtenBefore, written_code]
    rfl
  | .unknown _ hc => by
    rw [writtenBefore, written, if_pos hc]
    rfl
  | .array h => by
    rw [writtenBefore, written_array h.head?_append, h.written_eq]
    rfl
  | @Derives.dict _ k v key value hk hv => by
    have hkey := hk.written_eq
    have hvalue := hv.written_eq
    have hentry : writtenBefore after (k ++ (v ++ ['\x7d'])) =
        key.filled.spelling ++ (value.filled.spelling ++ ['\x7d']) := by
      rw [writtenBefore_append, writtenBefore_concat _ _ (by simp), List.append_assoc v,
        List.singleton_append, hkey, hvalue]
    rw [writtenBefore, writtenBefore, written_array (by simp), written_bracket _ (by simp), hentry]
    rfl
  | .struct h => by
    rw [writtenBefore, written_bracket _ (by simp), writtenBefore_concat _ _ (by simp),
      h.written_eq]
    rfl
  | .dangling h => by
    rw [writtenBefore, written, if_neg (not_not_intro (by decide)), if_pos ⟨rfl, by simpa using h⟩]
    rfl

theorem DerivesAll.written_eq {after s : List Char} {ts : List BusType} :
    DerivesAll after s ts → writtenBefore after s = BusType.spellings (BusType.filledFields ts)
  | .nil _ => rfl
  | .cons h hs => by
    rw [writtenBefore_append, h.written_eq, hs.written_eq]
    rfl

end

/-- The signature that is written denotes the type filled in. -/
theorem Denotes.writtenOut {s : String} {t : BusType} (h : Denotes s t) :
    Denotes (writtenOut s) t.filled := by
  rcases h with ⟨rfl, rfl⟩ | h
  · exact Or.inr (.prim [] .variant)
  · have hne : s ≠ "" := by
      rintro rfl
      exact not_derives_nil h
    refine Or.inr ?_
    rw [Signature.writtenOut, if_neg hne, String.toList_ofList, h.written_eq]
    exact derives_spelling [] t.filled t.known_filled

/-! ## Reading what is written -/

/-- A signature is read without remarks if all of its type is known. -/
theorem remarks_eq_nil {s : String} {r : Reading} (h : parse s = .ok r)
    (hknown : r.type.known = true) : r.remarks = [] := by
  obtain ⟨hmessages, hcount⟩ := parse_messages h
  rw [BusType.unknowns_of_known hknown, ← hmessages, List.length_map] at hcount
  exact List.length_eq_zero_iff.mp hcount

/-- **A guess is the same as a variant that is written.** If a signature is read, and is not too
long once every guess is written out in it, then it is read again, as the type with a variant for
each unknown part, without any remark, and the Rust type is the same in every context. -/
theorem parse_written_out {s : String} {r : Reading} (h : parse s = .ok r)
    (hlength : (writtenOut s).length ≤ 255) :
    parse (writtenOut s) = .ok ⟨r.type.filled, []⟩ ∧
    (∀ messages, (parseInto (writtenOut s)).run.run messages = (.ok r.type.filled, messages)) ∧
    ∀ context, ∃ text, RustType.ofSignature context s = .ok (text, r.remarks) ∧
      RustType.ofSignature context (writtenOut s) = .ok (text, []) := by
  have hdenotes : Denotes s r.type := (parse_ok_iff.mp ⟨r, h, rfl⟩).2
  obtain ⟨r', hr', htype⟩ := parse_ok_iff.mpr ⟨hlength, hdenotes.writtenOut⟩
  have hremarks : r'.remarks = [] := remarks_eq_nil hr' (by rw [htype]; exact r.type.known_filled)
  have hread : parse (writtenOut s) = .ok ⟨r.type.filled, []⟩ := by
    rw [hr', ← htype, ← hremarks]
  refine ⟨hread, fun messages => ?_, fun context => ⟨r.type.toRust context, ?_, ?_⟩⟩
  · rw [parseInto_run, hread]
    simp
  · rw [RustType.ofSignature, h]
    rfl
  · rw [RustType.ofSignature, hread, ← r.type.toRust_filled context]
    rfl

/-- A signature with an unknown key of a dictionary and with two arrays that have no element. -/
theorem ragged_written_out :
    writtenOut "(a\x7bZa\x7da)" = "(a\x7bvav\x7dav)" ∧
    parse "(a\x7bvav\x7dav)" =
      .ok ⟨.struct [.dict (.prim .variant) (.array (.prim .variant)), .array (.prim .variant)], []⟩ ∧
    ∃ text remarks, RustType.ofSignature { mapType := "Map" } "(a\x7bZa\x7da)" =
        .ok (text, remarks) ∧ remarks.length = 3 ∧
      RustType.ofSignature { mapType := "Map" } "(a\x7bvav\x7dav)" = .ok (text, []) := by
  have hwritten : writtenOut "(a\x7bZa\x7da)" = "(a\x7bvav\x7dav)" := by decide
  have hread : parse "(a\x7bZa\x7da)" =
      .ok ⟨.struct [.dict .unknown (.array .unknown), .array .unknown],
        [⟨"(a\x7bZa\x7da)", .unknownCode 'Z' 4⟩, ⟨"(a\x7bZa\x7da)", .danglingArray 5⟩,
          ⟨"(a\x7bZa\x7da)", .danglingArray 7⟩]⟩ := rfl
  obtain ⟨hparse, -, hrust⟩ := parse_written_out hread (by decide)
  obtain ⟨text, htext, hrust⟩ := hrust { mapType := "Map" }
  rw [hwritten] at hparse hrust
  exact ⟨hwritten, hparse, text, _, htext, rfl, hrust⟩

end Signature

end BusTraits
