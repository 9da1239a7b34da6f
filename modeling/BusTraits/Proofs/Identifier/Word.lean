import BusTraits.Proofs.Identifier.Boundary

/-!
# The words of a name

What `chunks` and the cut of each run make of a name: neither loses a letter or numeral.

* `chunks_eq`: the runs are what stands between the other characters;
* `words_eq`: the words of a name are those of its runs, each of which is cut once;
* `flatten_words`: together they are the letters and numerals of the name;
* `mem_words`: a word is not empty and has only letters and numerals of the name;
* `words_of_all`: a name of letters and numerals is one run;
* `words_append_break`: a name is split at each other character.
-/

namespace BusTraits.Identifier

open Text

/-! ## Runs -/

/-- The longest runs of letters and numerals in a text: what stands between its other characters,
where something does. -/
def runs (text : List Char) : List (List Char) :=
  (text.splitOnP fun c => !isAlphanumeric c).filter fun run => !run.isEmpty

/-- The run that has begun is the piece before the next character that belongs to none. -/
theorem chunksFrom_eq :
    ∀ begun text, chunksFrom begun text =
      (List.splitOnPPrepend (fun c => !isAlphanumeric c) text begun).filter fun run => !run.isEmpty
  | begun, [] => by
    rw [chunksFrom, List.splitOnPPrepend_nil]
    cases begun <;> simp
  | begun, c :: rest => by
    rw [chunksFrom, List.splitOnPPrepend_cons_eq_if, chunksFrom_eq (c :: begun) rest,
      chunksFrom_eq [] rest, List.splitOnPPrepend_nil_right]
    cases isAlphanumeric c <;> cases begun <;> simp

/-- **The runs that are taken apart are the longest ones.** -/
theorem chunks_eq (text : List Char) : chunks text = runs text := by
  rw [chunks, chunksFrom_eq, List.splitOnPPrepend_nil_right]
  rfl

/-- A text of letters and numerals is one run. -/
theorem chunks_of_all {text : List Char} (hne : text ≠ [])
    (h : ∀ c ∈ text, isAlphanumeric c = true) : chunks text = [text] := by
  rw [chunks_eq, runs, List.splitOnP_eq_singleton fun c hc => by rw [h c hc, Bool.not_true],
    List.filter_cons_of_pos (by simpa using hne)]
  rfl

/-- The runs of a text are those before one of its other characters and those after it. -/
theorem chunks_append_break (pre post : List Char) {sep : Char}
    (hsep : isAlphanumeric sep = false) :
    chunks (pre ++ sep :: post) = chunks pre ++ chunks post := by
  rw [chunks_eq, chunks_eq, chunks_eq, runs,
    List.splitOnP_append_cons pre post (by rw [hsep, Bool.not_false]), List.filter_append]
  rfl

/-- The run that has begun and the letters and numerals to come are all that the runs have. -/
theorem flatten_chunksFrom :
    ∀ begun text, (chunksFrom begun text).flatten = begun.reverse ++ text.filter isAlphanumeric
  | begun, [] => by
    rw [chunksFrom]
    cases begun <;> simp
  | begun, c :: rest => by
    rw [chunksFrom]
    split
    · rename_i hc
      rw [flatten_chunksFrom (c :: begun) rest, List.filter_cons_of_pos hc, List.reverse_cons,
        List.append_assoc, List.singleton_append]
    · rename_i hc
      rw [List.filter_cons_of_neg hc]
      split
      · rename_i hbegun
        rw [flatten_chunksFrom [] rest, List.isEmpty_iff.mp hbegun]
      · rw [List.flatten_cons, flatten_chunksFrom [] rest]
        rfl

/-- **Runs lose no letter or numeral** and have nothing else in them. -/
theorem flatten_chunks (text : List Char) : (chunks text).flatten = text.filter isAlphanumeric :=
  flatten_chunksFrom [] text

/-- A run is not empty and has only letters and numerals of the text. -/
theorem mem_chunks {text run : List Char} (h : run ∈ chunks text) :
    run ≠ [] ∧ ∀ c ∈ run, c ∈ text ∧ isAlphanumeric c = true := by
  refine ⟨?_, fun c hc => ?_⟩
  · rw [chunks_eq, runs, List.mem_filter] at h
    simpa using h.2
  · have hmem : c ∈ (chunks text).flatten := List.mem_flatten.mpr ⟨run, h, hc⟩
    rwa [flatten_chunks, List.mem_filter] at hmem

/-- The first character of a text that is in none of its runs. -/
theorem exists_break {text : List Char} (h : ¬∀ c ∈ text, isAlphanumeric c = true) :
    ∃ pre sep post, text = pre ++ sep :: post ∧ (∀ c ∈ pre, isAlphanumeric c = true) ∧
      isAlphanumeric sep = false := by
  have hfind : (text.find? fun c => !isAlphanumeric c).isSome = true := by
    simpa [List.find?_isSome] using h
  obtain ⟨sep, hsep⟩ := Option.isSome_iff_exists.mp hfind
  obtain ⟨hbreak, pre, post, htext, hpre⟩ := List.find?_eq_some_iff_append.mp hsep
  exact ⟨pre, sep, post, htext, by simpa using hpre, by simpa using hbreak⟩

/-! ## Words -/

theorem isAlphanumeric_break : isAlphanumeric '_' = false := by
  decide +kernel

/-- **The words of a name are those of its runs**, each of which is cut once. -/
theorem words_eq (name : List Char) : words name = (chunks name).flatMap (cutWhere startsWord) := by
  have hchunks : (chunks name).flatMap wordsOfChunk =
      (chunks name).flatMap (cutWhere startsWord) := by
    rw [List.flatMap_def, List.flatMap_def]
    refine congrArg List.flatten (List.map_congr_left fun chunk hchunk => ?_)
    obtain ⟨hne, hall⟩ := mem_chunks hchunk
    exact wordsOfChunk_eq hne fun hmem => by
      have halpha := (hall _ hmem).2
      rw [isAlphanumeric_break] at halpha
      cases halpha
  rw [words, hchunks, List.filter_eq_self]
  intro w hw
  obtain ⟨chunk, -, hpiece⟩ := List.mem_flatMap.mp hw
  rw [Bool.not_eq_true', List.isEmpty_eq_false_iff]
  exact ne_nil_of_mem_cutWhere chunk w hpiece

/-- **A word is not empty and has only letters and numerals**, all of them from the name. -/
theorem mem_words {name w : List Char} (h : w ∈ words name) :
    w ≠ [] ∧ ∀ c ∈ w, c ∈ name ∧ isAlphanumeric c = true := by
  rw [words_eq] at h
  obtain ⟨chunk, hchunk, hw⟩ := List.mem_flatMap.mp h
  refine ⟨ne_nil_of_mem_cutWhere chunk w hw, fun c hc => ?_⟩
  exact (mem_chunks hchunk).2 c (mem_of_mem_cutWhere hw hc)

theorem words_of_all {name : List Char} (hne : name ≠ [])
    (h : ∀ c ∈ name, isAlphanumeric c = true) : words name = cutWhere startsWord name := by
  rw [words_eq, chunks_of_all hne h, List.flatMap_singleton]

/-- **The words of a name are those before one of its other characters and those after it.** -/
theorem words_append_break (pre post : List Char) {sep : Char}
    (hsep : isAlphanumeric sep = false) :
    words (pre ++ sep :: post) = words pre ++ words post := by
  rw [words_eq, words_eq, words_eq, chunks_append_break pre post hsep, List.flatMap_append]

/-- **Words lose no letter or numeral** and have nothing else in them. -/
theorem flatten_words (name : List Char) : (words name).flatten = name.filter isAlphanumeric := by
  rw [words_eq, List.flatMap_def, List.flatten_flatten, List.map_map, ← flatten_chunks]
  refine congrArg List.flatten ?_
  calc (chunks name).map (List.flatten ∘ cutWhere startsWord)
      = (chunks name).map id := List.map_congr_left fun chunk _ => flatten_cutWhere chunk
    _ = chunks name := List.map_id _

theorem words_eq_nil_iff {name : List Char} :
    words name = [] ↔ ∀ c ∈ name, isAlphanumeric c = false := by
  have hempty : words name = [] ↔ (words name).flatten = [] := by
    constructor
    · intro h
      rw [h]
      rfl
    · intro h
      refine List.eq_nil_iff_forall_not_mem.mpr fun w hw => ?_
      exact (mem_words hw).1 (List.flatten_eq_nil_iff.mp h w hw)
  rw [hempty, flatten_words, List.filter_eq_nil_iff]
  exact forall₂_congr fun c _ => Bool.eq_false_iff.symm

end BusTraits.Identifier
