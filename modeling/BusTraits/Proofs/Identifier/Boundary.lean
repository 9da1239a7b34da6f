import BusTraits.Identifier.CaseFold

/-!
# Where words begin

The words of a run are found in two searches, for the ends of acronyms and for the ends of words.
The second one goes through what the first one has made of the run. Each search goes from left to
right, takes as much as it can of a run of capitals, and goes on behind what it has found. All the
same the words are those of one cut at which a character begins a word depending on the character
before it and on the one after it (`startsWord`).

* `breakMatches_eq`: a search puts an underscore at each cut, when its pattern finds the cuts
  (`Finds`);
* `acronymEnd_finds`, `wordEnd_finds`: so do the two patterns;
* `broken_broken`: the underscores of the first search make no difference to the second one;
* **`wordsOfChunk_eq`**: the words of a run come from one cut.
-/

namespace BusTraits.Identifier

open Text

/-! ## Cuts -/

/-- Puts a character in front of the first word. -/
def extendFirst (c : Char) : List (List Char) → List (List Char)
  | [] => [[c]]
  | w :: ws => (c :: w) :: ws

/-- Cuts a text between every two neighbours for which `cut` says so, seeing also the character
after them. -/
def cutWhere (cut : Char → Char → Option Char → Bool) : List Char → List (List Char)
  | [] => []
  | [c] => [[c]]
  | c :: d :: rest =>
    if cut c d rest.head? then [c] :: cutWhere cut (d :: rest)
    else extendFirst c (cutWhere cut (d :: rest))

/-- The last capital of a run of them begins a word when a small letter follows it. -/
def endsAcronym (c d : Char) (next : Option Char) : Bool :=
  isCapital c && isCapital d && next.any isSmall

/-- A capital begins a word when a small letter or a digit comes before it. -/
def endsWord (c d : Char) (_next : Option Char) : Bool :=
  (isSmall c || isNumeral c) && isCapital d

/-- Whether `d` begins a word after `c`. -/
def startsWord (c d : Char) (next : Option Char) : Bool :=
  endsAcronym c d next || endsWord c d next

section Cut

variable {cut : Char → Char → Option Char → Bool}

theorem cutWhere_cons (cut : Char → Char → Option Char → Bool) (c : Char) :
    ∀ rest, ∃ w ws, cutWhere cut (c :: rest) = (c :: w) :: ws
  | [] => ⟨[], [], rfl⟩
  | d :: rest => by
    rw [cutWhere]
    split
    · exact ⟨[], _, rfl⟩
    · obtain ⟨w, ws, h⟩ := cutWhere_cons cut d rest
      exact ⟨d :: w, ws, by rw [h, extendFirst]⟩

theorem flatten_extendFirst (c : Char) (ws : List (List Char)) :
    (extendFirst c ws).flatten = c :: ws.flatten := by
  cases ws with
  | nil => rfl
  | cons w ws => rfl

/-- A cut loses nothing. -/
theorem flatten_cutWhere : ∀ text, (cutWhere cut text).flatten = text
  | [] => rfl
  | [c] => rfl
  | c :: d :: rest => by
    rw [cutWhere]
    split
    · rw [List.flatten_cons, flatten_cutWhere (d :: rest), List.singleton_append]
    · rw [flatten_extendFirst, flatten_cutWhere (d :: rest)]

/-- A cut leaves no empty pieces. -/
theorem ne_nil_of_mem_cutWhere : ∀ text, ∀ w ∈ cutWhere cut text, w ≠ []
  | [], _, hw => absurd hw List.not_mem_nil
  | [c], w, hw => by
    rw [List.mem_singleton.mp hw]
    exact List.cons_ne_nil c []
  | c :: d :: rest, w, hw => by
    have hrest := ne_nil_of_mem_cutWhere (d :: rest)
    rw [cutWhere] at hw
    split at hw
    · rcases List.mem_cons.mp hw with rfl | hw
      · exact List.cons_ne_nil c []
      · exact hrest w hw
    · obtain ⟨u, us, hu⟩ := cutWhere_cons cut d rest
      rw [hu] at hw hrest
      rcases List.mem_cons.mp hw with rfl | hw
      · exact List.cons_ne_nil c _
      · exact hrest w (List.mem_cons_of_mem _ hw)

/-- The characters of the pieces are those of the text. -/
theorem mem_of_mem_cutWhere {text w : List Char} (hw : w ∈ cutWhere cut text) {c : Char}
    (hc : c ∈ w) : c ∈ text := by
  have hmem : c ∈ (cutWhere cut text).flatten := List.mem_flatten.mpr ⟨w, hw, hc⟩
  rwa [flatten_cutWhere] at hmem

end Cut

theorem isCapital_of_startsWord {c d : Char} {next : Option Char}
    (h : startsWord c d next = true) : isCapital d = true := by
  simp only [startsWord, endsAcronym, endsWord, Bool.or_eq_true, Bool.and_eq_true] at h
  rcases h with h | h
  · exact h.1.2
  · exact h.2

/-! ## Underscores at the cuts -/

/-- A text with an underscore at each cut. -/
def broken (cut : Char → Char → Option Char → Bool) (text : List Char) : List Char :=
  ['_'].intercalate (cutWhere cut text)

section Broken

variable {cut : Char → Char → Option Char → Bool} {pattern : Pattern}

theorem broken_cons_cons (cut : Char → Char → Option Char → Bool) (c d : Char) (rest : List Char) :
    broken cut (c :: d :: rest) =
      if cut c d rest.head? then c :: '_' :: broken cut (d :: rest)
      else c :: broken cut (d :: rest) := by
  obtain ⟨w, ws, h⟩ := cutWhere_cons cut d rest
  rw [broken, broken, cutWhere, h]
  split
  · rw [List.intercalate_cons_cons]
    rfl
  · cases ws with
    | nil => rfl
    | cons v vs =>
      rw [extendFirst, List.intercalate_cons_cons, List.intercalate_cons_cons]
      rfl

/-- A character that no cut follows. -/
theorem broken_cons {c : Char} {rest : List Char}
    (h : ∀ d tail, rest = d :: tail → cut c d tail.head? = false) :
    broken cut (c :: rest) = c :: broken cut rest := by
  cases rest with
  | nil => rfl
  | cons d rest => rw [broken_cons_cons, if_neg (by rw [h d rest rfl]; exact Bool.false_ne_true)]

/-- Whether a pattern finds the cuts of a text: what it matches at its start has one cut, which is
between the groups, and no other one up to what comes behind; and if it matches nothing, no cut
follows the first character. -/
structure Finds (pattern : Pattern) (cut : Char → Char → Option Char → Bool) : Prop where
  found : ∀ {text first second}, pattern text = some (first, second) →
    first ≠ [] ∧ ∃ rest, text = first ++ (second ++ rest) ∧
      broken cut text = first ++ '_' :: second ++ broken cut rest
  missed : ∀ {c rest}, pattern (c :: rest) = none →
    broken cut (c :: rest) = c :: broken cut rest

theorem breakMatches_skip (pattern : Pattern) :
    ∀ (skip : Nat) (text : List Char),
      breakMatches pattern skip text = breakMatches pattern 0 (text.drop skip)
  | 0, _ => rfl
  | _ + 1, [] => rfl
  | skip + 1, _ :: rest => breakMatches_skip pattern skip rest

/-- **A search puts an underscore at each cut.** -/
theorem breakMatches_eq (h : Finds pattern cut) (text : List Char) :
    breakMatches pattern 0 text = broken cut text := by
  match text with
  | [] => rfl
  | c :: rest =>
    rw [breakMatches]
    split
    · rename_i first second hmatch
      obtain ⟨hne, tail, htext, hbroken⟩ := h.found hmatch
      obtain ⟨x, xs, rfl⟩ := List.exists_cons_of_ne_nil hne
      -- the first character is that of the match, and the others are passed over
      have hrest : rest = xs ++ (second ++ tail) := (List.cons.inj htext).2
      have htail : rest.drop ((x :: xs).length + second.length - 1) = tail := by
        have hcount : (x :: xs).length + second.length - 1 = (xs ++ second).length := by
          rw [List.length_cons, List.length_append]
          omega
        rw [hrest, hcount, ← List.append_assoc, List.drop_left]
      rw [breakMatches_skip, htail, breakMatches_eq h tail, hbroken]
    · rename_i hmatch
      rw [breakMatches_eq h rest, h.missed hmatch]
termination_by text.length
decreasing_by
  · rw [hrest]
    simp only [List.length_cons, List.length_append]
    omega
  · exact Nat.lt_succ_self _

end Broken

/-! ## The two patterns -/

theorem forall_capital {P : Char → Prop} (h : ∀ n < 26, P (Char.ofNat (65 + n))) {c : Char}
    (hc : isCapital c = true) : P c := by
  simp only [isCapital, Bool.and_eq_true, decide_eq_true_eq] at hc
  have hlow : 65 ≤ c.toNat := hc.1
  have hhigh : c.toNat ≤ 90 := hc.2
  have hP := h (c.toNat - 65) (by omega)
  rwa [show 65 + (c.toNat - 65) = c.toNat by omega, Char.ofNat_toNat] at hP

theorem not_small_of_capital {c : Char} (h : isCapital c = true) :
    (isSmall c || isNumeral c) = false :=
  forall_capital (P := fun c => (isSmall c || isNumeral c) = false) (by decide) h

theorem not_capital_of_small {c : Char} (h : (isSmall c || isNumeral c) = true) :
    isCapital c = false := by
  rw [Bool.eq_false_iff]
  intro hc
  rw [not_small_of_capital hc] at h
  cases h

theorem wordStart_eq_some {text start : List Char} (h : wordStart text = some start) :
    ∃ c d rest, start = [c, d] ∧ text = c :: d :: rest ∧ isCapital c = true ∧ isSmall d = true := by
  unfold wordStart at h
  split at h
  · rename_i c d rest
    split at h
    · rename_i hcd
      rw [Bool.and_eq_true] at hcd
      exact ⟨c, d, rest, (Option.some.inj h).symm, rfl, hcd⟩
    · cases h
  · cases h

/-- An acronym that is found: the first group has only capitals, and the second one is a capital
and a small letter. -/
theorem acronymEnd_eq_some :
    ∀ {text first second}, acronymEnd text = some (first, second) →
      first ≠ [] ∧ (∀ c ∈ first, isCapital c = true) ∧
        ∃ c d rest, second = [c, d] ∧ text = first ++ c :: d :: rest ∧
          isCapital c = true ∧ isSmall d = true
  | c :: rest, first, second, h => by
    rw [acronymEnd] at h
    split at h
    · rename_i hc
      split at h
      · -- the first group goes on
        rename_i acronym start hrest
        obtain ⟨-, hall, d, e, tail, hsecond, htext, hde⟩ := acronymEnd_eq_some hrest
        cases h
        exact ⟨List.cons_ne_nil c _, List.forall_mem_cons.mpr ⟨hc, hall⟩, d, e, tail, hsecond,
          congrArg (c :: ·) htext, hde⟩
      · obtain ⟨start, hstart, hpair⟩ := Option.map_eq_some_iff.mp h
        obtain ⟨d, e, tail, hsecond, htext, hde⟩ := wordStart_eq_some hstart
        cases hpair
        exact ⟨List.cons_ne_nil c [], List.forall_mem_singleton.mpr hc, d, e, tail, hsecond,
          congrArg (c :: ·) htext, hde⟩
    · cases h

/-- The beginning of a capitalized word has no cut in it and none behind it. -/
theorem broken_wordStart {c d : Char} (rest : List Char) (hd : isSmall d = true) :
    broken endsAcronym (c :: d :: rest) = c :: d :: broken endsAcronym rest := by
  have hcapital : isCapital d = false := not_capital_of_small (by rw [hd, Bool.true_or])
  rw [broken_cons, broken_cons]
  · intro e tail _
    rw [endsAcronym, hcapital, Bool.false_and, Bool.false_and]
  · intro e tail hrest
    rw [← (List.cons.inj hrest).1, endsAcronym, hcapital, Bool.and_false, Bool.false_and]

/-- Capitals before the beginning of a capitalized word have one cut, which is behind them. -/
theorem broken_capitals {c d : Char} (rest : List Char) (hc : isCapital c = true)
    (hd : isSmall d = true) :
    ∀ {first : List Char}, first ≠ [] → (∀ b ∈ first, isCapital b = true) →
      broken endsAcronym (first ++ c :: d :: rest) =
        first ++ '_' :: c :: d :: broken endsAcronym rest
  | [b], _, hall => by
    have hcut : endsAcronym b c (d :: rest).head? = true := by
      rw [endsAcronym, hall b List.mem_cons_self, hc, List.head?_cons, Option.any_some, hd]
      rfl
    rw [List.singleton_append, broken_cons_cons, if_pos hcut, broken_wordStart rest hd]
    rfl
  | a :: b :: first, _, hall => by
    have hall' : ∀ x ∈ b :: first, isCapital x = true := fun x hx =>
      hall x (List.mem_cons_of_mem a hx)
    -- the character after `b` is a capital too
    have hnext : (first ++ c :: d :: rest).head?.any isSmall = false := by
      have hsmall : ∀ x, isCapital x = true → isSmall x = false := fun x hx =>
        (Bool.or_eq_false_iff.mp (not_small_of_capital hx)).1
      cases first with
      | nil => exact hsmall c hc
      | cons x first => exact hsmall x (hall' x (List.mem_cons_of_mem b List.mem_cons_self))
    rw [List.cons_append, broken_cons, broken_capitals rest hc hd (List.cons_ne_nil b first) hall']
    · rfl
    · intro x tail htail
      rw [List.cons_append, List.cons.injEq] at htail
      rw [← htail.2, endsAcronym, hnext, Bool.and_false]

theorem acronymEnd_finds : Finds acronymEnd endsAcronym where
  found := by
    intro text first second h
    obtain ⟨hne, hall, c, d, rest, rfl, rfl, hc, hd⟩ := acronymEnd_eq_some h
    refine ⟨hne, rest, rfl, ?_⟩
    rw [broken_capitals rest hc hd hne hall, List.append_assoc]
    rfl
  missed := by
    intro c rest h
    refine broken_cons fun d tail hrest => ?_
    subst hrest
    rw [Bool.eq_false_iff]
    intro hcut
    rw [endsAcronym, Bool.and_eq_true, Bool.and_eq_true, Option.any_eq_true] at hcut
    obtain ⟨⟨hc, hd⟩, e, hhead, he⟩ := hcut
    obtain ⟨tail, rfl⟩ := List.head?_eq_some_iff.mp hhead
    -- the first group may be `c` alone
    rw [acronymEnd, if_pos hc] at h
    split at h
    · cases h
    · rw [wordStart, hd, he] at h
      cases h

theorem wordEnd_finds : Finds wordEnd endsWord where
  found := by
    intro text first second h
    unfold wordEnd at h
    split at h
    · rename_i c d rest
      split at h
      · rename_i hcut
        cases h
        refine ⟨List.cons_ne_nil c [], rest, rfl, ?_⟩
        have hd := not_small_of_capital (Bool.and_eq_true_iff.mp hcut).2
        rw [broken_cons_cons, endsWord, if_pos hcut, broken_cons]
        · rfl
        · intro e tail _
          rw [endsWord, hd, Bool.false_and]
      · cases h
    · cases h
  missed := by
    intro c rest h
    refine broken_cons fun d tail hrest => ?_
    subst hrest
    rw [wordEnd] at h
    split at h
    · cases h
    · rename_i hcut
      exact Bool.eq_false_iff.mpr hcut

/-! ## Words -/

/-- The underscores of the first search make no difference to the second one. -/
theorem broken_broken :
    ∀ text, broken endsWord (broken endsAcronym text) = broken startsWord text
  | [] => rfl
  | [c] => rfl
  | c :: d :: rest => by
    have hrest := broken_broken (d :: rest)
    have hsmall : (isSmall '_' || isNumeral '_') = false := by decide
    have hcapital : isCapital '_' = false := by decide
    obtain ⟨tail, htail⟩ : ∃ tail, broken endsAcronym (d :: rest) = d :: tail := by
      obtain ⟨w, ws, hcut⟩ := cutWhere_cons endsAcronym d rest
      rw [broken, hcut]
      cases ws with
      | nil => exact ⟨w, List.intercalate_singleton⟩
      | cons v vs => exact ⟨_, List.intercalate_cons_cons⟩
    rw [broken_cons_cons endsAcronym, broken_cons_cons startsWord, startsWord]
    by_cases hcut : endsAcronym c d rest.head? = true
    · -- neither neighbour of an underscore ends a word
      rw [if_pos hcut, hcut, Bool.true_or, if_pos rfl, broken_cons, broken_cons, hrest]
      · intro x tail _
        rw [endsWord, hsmall, Bool.false_and]
      · intro x tail hx
        rw [← (List.cons.inj hx).1, endsWord, hcapital, Bool.and_false]
    · rw [Bool.not_eq_true] at hcut
      rw [hcut, Bool.false_or, if_neg Bool.false_ne_true, htail, broken_cons_cons, ← htail, hrest]
      rfl

/-- **The words of a run come from one cut.** -/
theorem wordsOfChunk_eq {chunk : List Char} (hne : chunk ≠ []) (hbreak : '_' ∉ chunk) :
    wordsOfChunk chunk = cutWhere startsWord chunk := by
  rw [wordsOfChunk, breakMatches_eq wordEnd_finds, breakMatches_eq acronymEnd_finds, broken_broken,
    broken]
  refine List.splitOn_intercalate '_' (fun w hw hmem => hbreak (mem_of_mem_cutWhere hw hmem)) ?_
  obtain ⟨c, rest, rfl⟩ := List.exists_cons_of_ne_nil hne
  obtain ⟨w, ws, hcut⟩ := cutWhere_cons startsWord c rest
  rw [hcut]
  exact List.cons_ne_nil _ _

end BusTraits.Identifier
