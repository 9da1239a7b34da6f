import BusTraits.Command.Arguments
import Mathlib.Data.List.TakeWhile
import Mathlib.Tactic.SplitIfs

/-!
# Single arguments

An argument by itself is an option or a value, or there is no use for it. The two ways to write an
option are told apart by the second character: after one hyphen there is a letter, and after two
there is a long name, of which the first letters are enough.

A value may begin with a hyphen too, if it cannot be meant for an option, and is a negative number
or has a space in it (`IsValue`).

* `ofArgument_hyphen`, `ofArgument_hyphens`: what becomes of an argument with one hyphen, or two;
* `candidates_eq_singleton_iff`: long names that are cut short (`Abbreviates`);
* **`ofArgument_eq_value_iff`**, `ofArgument_hyphens_eq_option_iff`: what a value is, and what a
  long name.
-/

namespace BusTraits.Command

/-! ## What a single argument is -/

/-- A text is a long name of an option, or its first letters behind the hyphens. -/
def Abbreviates (text : List Char) (name : String) : Prop := text <+: name.toList ∧ 2 < text.length

/-- Decimal digits, perhaps with a fraction. -/
def IsNumber (number : List Char) : Prop :=
  ∃ whole fraction, number = whole ++ fraction ∧ (∀ c ∈ whole, Text.isDecimal c = true) ∧
    (fraction = [] ∧ whole ≠ [] ∨ ∃ digits, fraction = '.' :: digits ∧ digits ≠ [] ∧
      ∀ c ∈ digits, Text.isDecimal c = true)

/-- A negative number, perhaps with a line feed behind it. -/
def IsNegative (text : List Char) : Prop :=
  ∃ number ending, text = '-' :: (number ++ ending) ∧ IsNumber number ∧ ending ∈ [[], ['\n']]

/-- A text may be meant for an option: it begins with two hyphens, and what stands before an equals
sign begins a long name, or it begins with one hyphen and the letter of an option. -/
def LooksLikeOption : List Char → Prop
  | '-' :: '-' :: rest => ∃ name ∈ ["--help", "--server", "--output", "--verbose"],
      '-' :: '-' :: rest.takeWhile (· ≠ '=') <+: name.toList
  | '-' :: c :: _ => c ∈ ['h', 'o', 'v']
  | _ => False

/-- An argument is a value. Behind a hyphen it is one if nothing else is, or if it cannot be meant
for an option, and is a negative number or has a space in it. -/
def IsValue (argument : String) : Prop :=
  argument.toList.head? ≠ some '-' ∨ argument = "-" ∨
    ¬LooksLikeOption argument.toList ∧ (IsNegative argument.toList ∨ ' ' ∈ argument.toList)

/-! ## Telling arguments apart -/

namespace Item

/-- What may be attached to a letter. -/
def attachedTo : List Char → Attachment
  | [] => .nothing
  | '=' :: after => .value (String.ofList after)
  | text => .letters text

/-- The options that a text with two hyphens may stand for. -/
def candidates (name : List Char) : List (String × Switch) :=
  Switch.spellings.filter fun (spelling, _) => name.isPrefixOf spelling.toList

theorem mem_spellings_of_lookup {a : String} {s : Switch}
    (h : Switch.spellings.lookup a = some s) : (a, s) ∈ Switch.spellings := by
  obtain ⟨before, after, hsplit, -⟩ := List.lookup_eq_some_iff.mp h
  rw [hsplit]
  exact List.mem_append_right _ List.mem_cons_self

/-- What is spelled in full with one hyphen is a letter. -/
theorem lookup_hyphen {c : Char} {rest : List Char} (hc : c ≠ '-') (hrest : rest ≠ []) :
    Switch.spellings.lookup (String.ofList ('-' :: c :: rest)) = none := by
  refine Option.eq_none_iff_forall_ne_some.mpr fun s hs => ?_
  have hlong : ∀ spelling ∈ Switch.spellings, spelling.1.toList.length = 2 ∨
      spelling.1.toList[1]? = some '-' := by
    decide
  rcases hlong _ (mem_spellings_of_lookup hs) with hshort | hhyphen
  · rw [String.toList_ofList] at hshort
    simp [hrest] at hshort
  · rw [String.toList_ofList] at hhyphen
    exact hc (Option.some.inj hhyphen)

theorem ne_equals_of_not_mem {text : List Char} (h : '=' ∉ text) :
    ∀ c ∈ text, decide (c ≠ '=') = true :=
  fun _ hc => decide_eq_true fun he => h (he ▸ hc)

theorem cutAtEquals_of_not_mem {text : List Char} (h : '=' ∉ text) :
    cutAtEquals text = (text, .nothing) := by
  unfold cutAtEquals
  rw [List.dropWhile_eq_nil_iff.mpr (ne_equals_of_not_mem h)]

theorem cutAtEquals_append {text : List Char} (h : '=' ∉ text) (after : List Char) :
    cutAtEquals (text ++ '=' :: after) = (text, .value (String.ofList after)) := by
  have hall := ne_equals_of_not_mem h
  unfold cutAtEquals
  rw [List.dropWhile_append_of_pos hall, List.takeWhile_append_of_pos hall]
  simp

/-- A text is cut at its first equals sign. -/
theorem cutAtEquals_cases (text : List Char) :
    '=' ∉ text ∧ cutAtEquals text = (text, .nothing) ∨
      ∃ name after, '=' ∉ name ∧ text = name ++ '=' :: after ∧
        cutAtEquals text = (name, .value (String.ofList after)) := by
  by_cases h : '=' ∈ text
  · obtain ⟨name, after, rfl, hname⟩ := List.eq_append_cons_of_mem h
    exact Or.inr ⟨name, after, hname, rfl, cutAtEquals_append hname after⟩
  · exact Or.inl ⟨h, cutAtEquals_of_not_mem h⟩

theorem attachedTo_of_ne {rest : List Char} (hrest : rest ≠ []) (hequals : rest.head? ≠ some '=') :
    attachedTo rest = .letters rest := by
  unfold attachedTo
  split
  · exact absurd rfl hrest
  · exact absurd rfl hequals
  · rfl

/-- The name of an option and a value behind an equals sign. -/
theorem ofHyphened_value {a : String} {name : List Char} {text : String} {s : Switch}
    (hcut : cutAtEquals a.toList = (name, .value text))
    (hname : Switch.spellings.lookup (String.ofList name) = some s) :
    ofHyphened a = .ok (.option s (.value text)) := by
  unfold ofHyphened
  rw [hcut]
  dsimp only
  rw [hname]

/-- Otherwise, the letter behind one hyphen counts. -/
theorem ofHyphened_letter {c : Char} {rest name : List Char} {attached : Attachment} (hc : c ≠ '-')
    (hcut : cutAtEquals ('-' :: c :: rest) = (name, attached))
    (h : attached = .nothing ∨ Switch.spellings.lookup (String.ofList name) = none) :
    ofHyphened (String.ofList ('-' :: c :: rest)) = match Switch.ofLetter? c with
      | some s => .ok (.option s (.letters rest))
      | none => .ok (ofOther (String.ofList ('-' :: c :: rest))) := by
  unfold ofHyphened
  rw [String.toList_ofList, hcut]
  dsimp only
  split
  · rename_i hvalue
    rcases h with hnothing | hnone
    · cases hnothing
    · cases hnone.symm.trans hvalue
  · split
    · rename_i htext
      cases htext
      exact absurd rfl hc
    · rename_i htext
      cases htext
      rfl
    · rename_i htext
      exact absurd rfl (htext _ _ _)

/-- What is not spelled in full has a letter behind its hyphen, with the rest attached to it. -/
theorem ofHyphened_hyphen {c : Char} {rest : List Char} (hc : c ≠ '-')
    (hlookup : Switch.spellings.lookup (String.ofList ('-' :: c :: rest)) = none) :
    ofHyphened (String.ofList ('-' :: c :: rest)) = match Switch.ofLetter? c with
      | some s => .ok (.option s (attachedTo rest))
      | none => .ok (ofOther (String.ofList ('-' :: c :: rest))) := by
  have hattached : rest.head? ≠ some '=' → ∀ s, Switch.ofLetter? c = some s →
      attachedTo rest = .letters rest := by
    intro hequals s hs
    refine attachedTo_of_ne ?_ hequals
    rintro rfl
    cases hlookup.symm.trans hs
  rcases cutAtEquals_cases ('-' :: c :: rest) with
    ⟨hnone, hcut⟩ | ⟨name, after, hname, htext, hcut⟩
  · rw [ofHyphened_letter hc hcut (Or.inl rfl)]
    have hequals : rest.head? ≠ some '=' := fun h => hnone (by simp [List.mem_of_mem_head? h])
    cases hs : Switch.ofLetter? c with
    | none => rfl
    | some s => rw [hattached hequals s hs]
  · -- the equals sign is the letter, or it is right behind the letter, or further on
    rcases name with _ | ⟨c₁, _ | ⟨c₂, _ | ⟨c₃, more⟩⟩⟩
    · cases htext
    · cases htext
      exact ofHyphened_letter hc hcut (Or.inr rfl)
    · cases htext
      cases hs : Switch.ofLetter? c with
      | none => rw [ofHyphened_letter hc hcut (Or.inr hs), hs]
      | some s => exact ofHyphened_value (by rw [String.toList_ofList, hcut]) hs
    · cases htext
      rw [ofHyphened_letter hc hcut (Or.inr (lookup_hyphen hc (List.cons_ne_nil _ _)))]
      have hequals : (c₃ :: more ++ '=' :: after).head? ≠ some '=' := by
        rintro ⟨⟩
        exact hname (by simp)
      cases hs : Switch.ofLetter? c with
      | none => rfl
      | some s => rw [hattached hequals s hs]

/-- **One hyphen**: a letter and what is attached to it, if the letter is that of an option. -/
theorem ofArgument_hyphen {c : Char} {rest : List Char} (hc : c ≠ '-') :
    ofArgument (String.ofList ('-' :: c :: rest)) = match Switch.ofLetter? c with
      | some s => .ok (.option s (attachedTo rest))
      | none => .ok (ofOther (String.ofList ('-' :: c :: rest))) := by
  unfold ofArgument
  rw [String.toList_ofList, if_neg (by simp)]
  cases hlookup : Switch.spellings.lookup (String.ofList ('-' :: c :: rest)) with
  | none => exact ofHyphened_hyphen hc hlookup
  | some s =>
    -- the argument is spelled in full, and so nothing is attached
    by_cases hrest : rest = []
    · subst hrest
      rw [Switch.ofLetter?, hlookup]
      rfl
    · rw [lookup_hyphen hc hrest] at hlookup
      cases hlookup

/-- A name that is spelled in full stands for its option alone. -/
theorem candidates_of_lookup {name : List Char} {s : Switch} (hname : name[1]? = some '-')
    (h : Switch.spellings.lookup (String.ofList name) = some s) :
    candidates name = [(String.ofList name, s)] := by
  have hall : ∀ p ∈ Switch.spellings, p.1.toList[1]? = some '-' → candidates p.1.toList = [p] := by
    decide
  have halone := hall _ (mem_spellings_of_lookup h)
  rw [String.toList_ofList] at halone
  exact halone hname

/-- Two hyphens and what follows them up to an equals sign. -/
def nameOf (rest : List Char) : List Char :=
  '-' :: '-' :: rest.takeWhile fun c => decide (c ≠ '=')

theorem nameOf_eq {rest name : List Char} {attached : Attachment}
    (hcut : cutAtEquals ('-' :: '-' :: rest) = (name, attached)) : nameOf rest = name := by
  have htake : nameOf rest = ('-' :: '-' :: rest).takeWhile fun c => decide (c ≠ '=') := by
    simp [nameOf]
  rw [htake]
  rcases cutAtEquals_cases ('-' :: '-' :: rest) with
    ⟨hnone, huncut⟩ | ⟨_, after, hname, htext, huncut⟩
  · cases hcut.symm.trans huncut
    exact List.takeWhile_eq_self_iff.mpr (ne_equals_of_not_mem hnone)
  · cases hcut.symm.trans huncut
    rw [htext, List.takeWhile_append_of_pos (ne_equals_of_not_mem hname)]
    simp

/-- **Two hyphens**: what may be in front of an equals sign stands for all the options whose names
begin with it. -/
theorem ofArgument_hyphens {rest name : List Char} {attached : Attachment}
    (hcut : cutAtEquals ('-' :: '-' :: rest) = (name, attached)) :
    ofArgument (String.ofList ('-' :: '-' :: rest)) = match candidates name with
      | [] => .ok (ofOther (String.ofList ('-' :: '-' :: rest)))
      | [(_, s)] => .ok (.option s attached)
      | several =>
        .error (.ambiguous (String.ofList ('-' :: '-' :: rest)) (several.map Prod.fst)) := by
  have hsecond : name[1]? = some '-' := by rw [← nameOf_eq hcut]; rfl
  unfold ofArgument
  rw [String.toList_ofList, if_neg (by simp)]
  cases hlookup : Switch.spellings.lookup (String.ofList ('-' :: '-' :: rest)) with
  | some s =>
    -- there is no equals sign in what is spelled in full
    have hall : ∀ p ∈ Switch.spellings, '=' ∉ p.1.toList := by decide
    have hnone := hall _ (mem_spellings_of_lookup hlookup)
    rw [String.toList_ofList] at hnone
    cases hcut.symm.trans (cutAtEquals_of_not_mem hnone)
    rw [candidates_of_lookup rfl hlookup]
  | none =>
    dsimp only
    unfold ofHyphened
    rw [String.toList_ofList, hcut]
    dsimp only
    split
    · rename_i hvalue
      rw [candidates_of_lookup hsecond hvalue]
    · rfl

/-! ## Values -/

theorem ofOther_ne_option {a : String} {s : Switch} {attached : Attachment} :
    ofOther a ≠ .option s attached := by
  unfold ofOther
  split <;> nofun

/-- What cannot be meant for an option is a value or nothing. -/
theorem ofOther_eq_value_iff {a text : String} : ofOther a = .value text ↔
    text = a ∧ (isNegative a.toList = true ∨ ' ' ∈ a.toList) := by
  have hcondition : (isNegative a.toList || a.toList.contains ' ') = true ↔
      isNegative a.toList = true ∨ ' ' ∈ a.toList := by
    rw [Bool.or_eq_true, List.contains_iff_mem]
  unfold ofOther
  rw [← hcondition]
  split
  · rename_i h
    rw [Item.value.injEq, and_iff_left h, eq_comm]
  · rename_i h
    exact ⟨nofun, fun hvalue => absurd hvalue.2 h⟩

theorem candidates_eq_nil_iff {rest : List Char} :
    candidates (nameOf rest) = [] ↔ ¬LooksLikeOption ('-' :: '-' :: rest) := by
  unfold candidates LooksLikeOption
  rw [List.filter_eq_nil_iff]
  simp [Switch.spellings, nameOf]

/-- The letters that stand for options. -/
theorem ofLetter?_eq_some_iff {c : Char} {s : Switch} : Switch.ofLetter? c = some s ↔
    c = 'h' ∧ s = .flag .help ∨ c = 'o' ∧ s = .output ∨ c = 'v' ∧ s = .flag .verbose := by
  constructor
  · intro h
    have hall : ∀ p ∈ Switch.spellings, p.1.toList.length = 2 →
        p.1.toList = ['-', 'h'] ∧ p.2 = .flag .help ∨ p.1.toList = ['-', 'o'] ∧ p.2 = .output ∨
          p.1.toList = ['-', 'v'] ∧ p.2 = .flag .verbose := by
      decide
    have hletter := hall _ (mem_spellings_of_lookup h)
    rw [String.toList_ofList] at hletter
    simpa using hletter rfl
  · rintro (⟨rfl, rfl⟩ | ⟨rfl, rfl⟩ | ⟨rfl, rfl⟩) <;> decide

theorem ofLetter?_eq_none_iff {c : Char} : Switch.ofLetter? c = none ↔ c ∉ ['h', 'o', 'v'] := by
  rw [Option.eq_none_iff_forall_ne_some]
  simp only [ne_eq, ofLetter?_eq_some_iff, List.mem_cons, List.not_mem_nil, or_false]
  grind

theorem looksLikeOption_hyphen_iff {c : Char} {rest : List Char} (hc : c ≠ '-') :
    LooksLikeOption ('-' :: c :: rest) ↔ c ∈ ['h', 'o', 'v'] := by
  unfold LooksLikeOption
  split
  · rename_i h
    cases h
    exact absurd rfl hc
  · rename_i h
    cases h
    rfl
  · rename_i h
    exact absurd rfl (h _ _)

theorem isNumber_iff {number : List Char} :
    (match number.dropWhile Text.isDecimal with
      | [] => !(number.takeWhile Text.isDecimal).isEmpty
      | '.' :: fraction => !fraction.isEmpty && fraction.all Text.isDecimal
      | _ => false) = true ↔ IsNumber number := by
  constructor
  · intro h
    refine ⟨number.takeWhile Text.isDecimal, number.dropWhile Text.isDecimal,
      List.takeWhile_append_dropWhile.symm, fun c hc => List.mem_takeWhile_imp hc, ?_⟩
    split at h
    · rename_i hdrop
      exact Or.inl ⟨hdrop, by simpa using h⟩
    · rename_i digits hdrop
      exact Or.inr ⟨digits, hdrop, by simpa using h⟩
    · cases h
  · rintro ⟨whole, fraction, rfl, hwhole, ⟨rfl, hne⟩ | ⟨digits, rfl, hne, hdigits⟩⟩
    · rw [List.append_nil, List.takeWhile_eq_self_iff.mpr hwhole, List.dropWhile_eq_nil_iff.mpr hwhole]
      simpa using hne
    · rw [List.dropWhile_append_of_pos hwhole]
      simpa [List.dropWhile_cons, show Text.isDecimal '.' = false by decide] using ⟨hne, hdigits⟩

/-- There is no line feed in a number. -/
theorem lineFeed_not_mem {number : List Char} (h : IsNumber number) : '\n' ∉ number := by
  have hfeed : Text.isDecimal '\n' ≠ true := by decide
  obtain ⟨whole, fraction, rfl, hwhole, hfraction⟩ := h
  intro hmem
  rcases List.mem_append.mp hmem with hmem | hmem
  · exact hfeed (hwhole _ hmem)
  · obtain ⟨rfl, -⟩ | ⟨digits, rfl, -, hdigits⟩ := hfraction
    · cases hmem
    · rcases List.mem_cons.mp hmem with hpoint | hmem
      · cases hpoint
      · exact hfeed (hdigits _ hmem)

theorem isNegative_iff {text : List Char} : isNegative text = true ↔ IsNegative text := by
  rcases text with _ | ⟨c, rest⟩
  · exact ⟨nofun, fun ⟨_, _, h, _⟩ => nomatch h⟩
  by_cases hc : c = '-'
  · subst hc
    refine isNumber_iff.trans ⟨fun h => ?_, ?_⟩
    · by_cases hfeed : rest.getLast? = some '\n'
      · rw [if_pos hfeed] at h
        obtain ⟨number, rfl⟩ := List.getLast?_eq_some_iff.mp hfeed
        rw [List.dropLast_concat] at h
        exact ⟨number, ['\n'], rfl, h, by simp⟩
      · rw [if_neg hfeed] at h
        exact ⟨rest, [], by rw [List.append_nil], h, by simp⟩
    · rintro ⟨number, ending, htext, hnumber, hending⟩
      cases htext
      simp only [List.mem_cons, List.not_mem_nil, or_false] at hending
      rcases hending with rfl | rfl
      · rw [List.append_nil, if_neg fun h => lineFeed_not_mem hnumber (List.mem_of_getLast? h)]
        exact hnumber
      · rwa [if_pos List.getLast?_concat, List.dropLast_concat]
  · constructor
    · intro h
      unfold isNegative at h
      split at h
      · rename_i htext
        cases htext
        exact absurd rfl hc
      · cases h
    · rintro ⟨_, _, ⟨⟩, _⟩
      exact absurd rfl hc

theorem ofArgument_of_head {a : String} (h : a.toList.head? ≠ some '-') :
    ofArgument a = .ok (.value a) := by
  unfold ofArgument
  rw [if_pos h]

/-- What begins with a hyphen is a value only if it cannot be meant for an option. -/
theorem isValue_hyphen_iff {c : Char} {rest : List Char} :
    IsValue (String.ofList ('-' :: c :: rest)) ↔ ¬LooksLikeOption ('-' :: c :: rest) ∧
      (isNegative ('-' :: c :: rest) = true ∨ ' ' ∈ '-' :: c :: rest) := by
  have hne : String.ofList ('-' :: c :: rest) ≠ "-" := fun h =>
    nomatch String.ofList_injective h
  unfold IsValue
  rw [String.toList_ofList, isNegative_iff]
  refine ⟨?_, fun h => Or.inr (Or.inr h)⟩
  rintro (hhead | heq | h)
  · exact absurd rfl hhead
  · exact absurd heq hne
  · exact h

/-- **An argument that is a value** stands for itself. -/
theorem ofArgument_eq_value_iff {a text : String} :
    ofArgument a = .ok (.value text) ↔ text = a ∧ IsValue a := by
  by_cases hhead : a.toList.head? = some '-'
  · obtain ⟨chars, rfl⟩ : ∃ chars, a = String.ofList chars := ⟨a.toList, String.ofList_toList.symm⟩
    have hother : ofOther (String.ofList chars) = .value text ↔ _ := ofOther_eq_value_iff
    rw [String.toList_ofList] at hhead hother
    rcases chars with _ | ⟨c₁, _ | ⟨c₂, rest⟩⟩
    · cases hhead
    · cases hhead
      have hlone : IsValue (String.ofList ['-']) := Or.inr (Or.inl rfl)
      rw [show ofArgument (String.ofList ['-']) = .ok (.value (String.ofList ['-'])) by decide,
        Except.ok.injEq, Item.value.injEq, and_iff_left hlone, eq_comm]
    · cases hhead
      rw [isValue_hyphen_iff]
      by_cases hsecond : c₂ = '-'
      · subst hsecond
        obtain ⟨name, attached, hcut⟩ : ∃ name attached,
            cutAtEquals ('-' :: '-' :: rest) = (name, attached) := ⟨_, _, rfl⟩
        rw [ofArgument_hyphens hcut, ← candidates_eq_nil_iff, nameOf_eq hcut]
        cases candidates name with
        | nil => simpa using hother
        | cons p ps => cases ps <;> simp
      · rw [ofArgument_hyphen hsecond, looksLikeOption_hyphen_iff hsecond, ← ofLetter?_eq_none_iff]
        cases Switch.ofLetter? c₂ with
        | none => simpa using hother
        | some s => simp
  · have hvalue : IsValue a := Or.inl hhead
    rw [ofArgument_of_head hhead, Except.ok.injEq, Item.value.injEq, and_iff_left hvalue, eq_comm]

/-- An option has a hyphen and something after it. -/
theorem exists_of_ofArgument_option {a : String} {s : Switch} {attached : Attachment}
    (h : ofArgument a = .ok (.option s attached)) : ∃ c rest, a.toList = '-' :: c :: rest := by
  by_contra hform
  have hvalue : IsValue a := by
    rcases htext : a.toList with _ | ⟨c, _ | ⟨d, rest⟩⟩
    · exact Or.inl (by simp [htext])
    · by_cases hc : c = '-'
      · exact Or.inr (Or.inl (String.toList_inj.mp (by rw [htext, hc]; rfl)))
      · exact Or.inl (by simpa [htext] using hc)
    · refine Or.inl fun hhead => hform ⟨d, rest, ?_⟩
      rw [htext] at hhead ⊢
      cases hhead
      rfl
  cases (ofArgument_eq_value_iff.mpr ⟨rfl, hvalue⟩).symm.trans h

/-! ## Long names -/

/-- **A name that is cut short** stands for one option. -/
theorem candidates_eq_singleton_iff {rest : List Char} {p : String × Switch} :
    candidates (nameOf rest) = [p] ↔ p ∈ Switch.spellings ∧ Abbreviates (nameOf rest) p.1 := by
  constructor
  · intro h
    obtain ⟨hp, hprefix⟩ := List.mem_filter.mp
      (show p ∈ candidates (nameOf rest) from h ▸ List.mem_singleton_self p)
    refine ⟨hp, List.isPrefixOf_iff_prefix.mp hprefix, ?_⟩
    -- two hyphens alone stand for all the long names
    by_contra hshort
    have hnil : rest.takeWhile (fun c => decide (c ≠ '=')) = [] := by
      simpa [nameOf] using hshort
    have hfour : (candidates ['-', '-']).length = 4 := by decide
    rw [nameOf, hnil] at h
    cases (congrArg List.length h).symm.trans hfour
  · rintro ⟨hp, hprefix, hlong⟩
    have hall : ∀ p ∈ Switch.spellings, ∀ n < p.1.toList.length + 1, 2 < n →
        candidates (p.1.toList.take n) = [p] := by
      decide
    rw [List.prefix_iff_eq_take.mp hprefix]
    exact hall p hp _ (Nat.lt_succ_of_le hprefix.length_le) hlong

/-- An argument with two hyphens is an option if it has its name, or the first letters of it. -/
theorem ofArgument_hyphens_eq_option_iff {rest name : List Char} {s : Switch}
    {attached attached' : Attachment}
    (hcut : cutAtEquals ('-' :: '-' :: rest) = (name, attached)) :
    ofArgument (String.ofList ('-' :: '-' :: rest)) = .ok (.option s attached') ↔
      attached' = attached ∧ ∃ spelling, (spelling, s) ∈ Switch.spellings ∧
        Abbreviates name spelling := by
  rw [ofArgument_hyphens hcut]
  constructor
  · intro h
    split at h
    · exact absurd (Except.ok.inj h) ofOther_ne_option
    · rename_i spelling s' hcandidates
      cases h
      rw [← nameOf_eq hcut] at hcandidates ⊢
      exact ⟨rfl, spelling, candidates_eq_singleton_iff.mp hcandidates⟩
    · cases h
  · rintro ⟨rfl, spelling, hspelling⟩
    rw [← nameOf_eq hcut] at hspelling ⊢
    rw [candidates_eq_singleton_iff.mpr hspelling]

/-- The long names. -/
theorem long_cases {text : List Char} {name : String} {s : Switch}
    (hp : (name, s) ∈ Switch.spellings) (h : Abbreviates text name) :
    name = "--help" ∧ s = .flag .help ∨ name = "--server" ∧ s = .flag .server ∨
      name = "--output" ∧ s = .output ∨ name = "--verbose" ∧ s = .flag .verbose := by
  have hall : ∀ p ∈ Switch.spellings, 2 < p.1.toList.length →
      p.1 = "--help" ∧ p.2 = .flag .help ∨ p.1 = "--server" ∧ p.2 = .flag .server ∨
        p.1 = "--output" ∧ p.2 = .output ∨ p.1 = "--verbose" ∧ p.2 = .flag .verbose := by
    decide
  exact hall _ hp (Nat.lt_of_lt_of_le h.2 h.1.length_le)

/-- A name that is cut short begins with two hyphens and has no equals sign in it. -/
theorem exists_of_abbreviates {text : List Char} {name : String} {s : Switch}
    (hp : (name, s) ∈ Switch.spellings) (h : Abbreviates text name) :
    ∃ rest, text = '-' :: '-' :: rest ∧ '=' ∉ text := by
  have hall : ∀ p ∈ Switch.spellings, '=' ∉ p.1.toList ∧
      (2 < p.1.toList.length → p.1.toList.take 2 = ['-', '-']) := by
    decide
  obtain ⟨hequals, hhyphens⟩ := hall _ hp
  have htake : text.take 2 = ['-', '-'] := by
    obtain ⟨more, hmore⟩ := h.1
    rw [← hhyphens (Nat.lt_of_lt_of_le h.2 h.1.length_le), ← hmore,
      List.take_append_of_le_length (Nat.le_of_lt h.2)]
  refine ⟨text.drop 2, ?_, fun hmem => hequals (h.1.subset hmem)⟩
  exact (List.take_append_drop 2 text).symm.trans (by rw [htake]; rfl)

/-- A long name by itself. -/
theorem ofArgument_of_abbreviates {text : List Char} {name : String} {s : Switch}
    (hp : (name, s) ∈ Switch.spellings) (h : Abbreviates text name) :
    ofArgument (String.ofList text) = .ok (.option s .nothing) := by
  obtain ⟨_, rfl, hequals⟩ := exists_of_abbreviates hp h
  exact (ofArgument_hyphens_eq_option_iff (cutAtEquals_of_not_mem hequals)).mpr ⟨rfl, name, hp, h⟩

/-- A long name with a value behind an equals sign. -/
theorem ofArgument_of_abbreviates_value {text : List Char} {name : String} {s : Switch}
    (hp : (name, s) ∈ Switch.spellings) (h : Abbreviates text name) (value : List Char) :
    ofArgument (String.ofList (text ++ '=' :: value)) =
      .ok (.option s (.value (String.ofList value))) := by
  obtain ⟨_, rfl, hequals⟩ := exists_of_abbreviates hp h
  exact (ofArgument_hyphens_eq_option_iff (cutAtEquals_append hequals value)).mpr
    ⟨rfl, name, hp, h⟩

end Item

end BusTraits.Command
