import BusTraits.Proofs.Command.Item

/-!
# Options in one argument

What an argument with options asks for is said without going through its letters (`Sets`): it is a
long name, or it is a hyphen with letters behind it (`Letters`), and a value for the output may
follow in the same argument.

* `letters_iff`: what the letters behind one hyphen ask for;
* **`sets_iff`**: what an argument with options asks for;
* `namesHelp_of_ofArgument`: an option that is help is in an argument that names it (`NamesHelp`).
-/

namespace BusTraits.Command

/-! ## What options ask for -/

/-- A value without the equals sign that may be in front of it. -/
def withoutEquals : List Char → List Char
  | '=' :: value => value
  | value => value

/-- The letters after a hyphen, what they ask for, and whether a value for the output is to follow.
-/
inductive Letters : List Char → Options → Bool → Prop where
  | verbose : Letters ['v'] { verbose := true } false
  | output : Letters ['o'] {} true
  | outputValue {value : List Char} (hvalue : value ≠ []) :
      Letters ('o' :: value) { output := some (String.ofList (withoutEquals value)) } false
  | more {text : List Char} {o : Options} {wanted : Bool} (h : Letters text o wanted) :
      Letters ('v' :: text) { o with verbose := true } wanted

/-- An argument with options, what it asks for, and whether a value for the output is to follow. -/
inductive Sets : List Char → Options → Bool → Prop where
  | server {text : List Char} (h : Abbreviates text "--server") :
      Sets text { server := true } false
  | verbose {text : List Char} (h : Abbreviates text "--verbose") :
      Sets text { verbose := true } false
  | output {text : List Char} (h : Abbreviates text "--output") : Sets text {} true
  | outputValue {text : List Char} (h : Abbreviates text "--output") (value : List Char) :
      Sets (text ++ '=' :: value) { output := some (String.ofList value) } false
  | letters {text : List Char} {o : Options} {wanted : Bool} (h : Letters text o wanted) :
      Sets ('-' :: text) o wanted

namespace Cluster

open Item (attachedTo ofArgument cutAtEquals)

/-- What the options of an argument ask for. -/
def options (c : Cluster) : Options where
  output := c.output
  server := decide (.server ∈ c.flags)
  verbose := decide (.verbose ∈ c.flags)

/-- All of an argument has a use, and none of it is help. -/
structure Gives (c : Cluster) (o : Options) (wanted : Bool) : Prop where
  unused : c.unused = []
  wanted : c.outputWanted = wanted
  help : .help ∉ c.flags
  options : c.options = o

theorem gives_cons_verbose {c : Cluster} {o : Options} {wanted : Bool} :
    (cons .verbose c).Gives o wanted ↔
      ∃ o', c.Gives o' wanted ∧ o = { o' with verbose := true } := by
  have hhelp : .help ∉ (cons .verbose c).flags ↔ .help ∉ c.flags := by simp [cons]
  have hoptions : (cons .verbose c).options = { c.options with verbose := true } := by
    simp [cons, options]
  constructor
  · intro h
    exact ⟨c.options, ⟨h.unused, h.wanted, hhelp.mp h.help, rfl⟩, by rw [← h.options, hoptions]⟩
  · rintro ⟨_, h, rfl⟩
    exact ⟨h.unused, h.wanted, hhelp.mpr h.help, by rw [hoptions, h.options]⟩

/-- What is attached to a letter is a value behind an equals sign, or it is more letters. -/
theorem ofOption_attachedTo (s : Switch) (rest : List Char) :
    ofOption s (attachedTo rest) = match rest with
      | '=' :: value => ofValue (String.ofList value) s
      | rest => ofLetters rest s := by
  rcases rest with _ | ⟨c, rest⟩
  · cases s <;> rfl
  · by_cases hc : c = '='
    · subst hc
      rfl
    · rw [Item.attachedTo_of_ne (List.cons_ne_nil _ _) (by simpa using hc)]
      split
      · rename_i h
        cases h
        exact absurd rfl hc
      · rfl

/-- After the letter of a flag, more letters are read. -/
theorem ofLetters_flag {c : Char} {s : Switch} (hc : Switch.ofLetter? c = some s) (f : Flag)
    (rest : List Char) :
    ofLetters (c :: rest) (.flag f) = (ofOption s (attachedTo rest)).map (cons f) := by
  have hne : c ≠ '-' := by
    rintro rfl
    cases hc
  rw [ofLetters, if_neg hne, hc]
  dsimp only
  split
  · rfl
  · rename_i hrest
    rcases rest with _ | ⟨d, rest⟩
    · cases s <;> rfl
    · have hequals : (d :: rest).head? ≠ some '=' := by
        rintro ⟨⟩
        exact hrest _ rfl
      rw [Item.attachedTo_of_ne (List.cons_ne_nil _ _) hequals]
      rfl

/-- What a flag comes to with more letters, if it comes to anything. -/
theorem ofLetters_flag_eq_ok {c : Char} {rest : List Char} {f : Flag} {cluster : Cluster}
    (h : ofLetters (c :: rest) (.flag f) = .ok cluster) :
    (Switch.ofLetter? c = none ∧ cluster.flags = [f] ∧ cluster.unused ≠ [] ∧
        cluster.outputWanted = false) ∨
      ∃ s next, Switch.ofLetter? c = some s ∧ ofOption s (attachedTo rest) = .ok next ∧
        cluster = cons f next := by
  cases hc : Switch.ofLetter? c with
  | none =>
    rw [ofLetters, hc] at h
    split at h
    · cases h
    · cases h
      exact Or.inl ⟨rfl, rfl, List.cons_ne_nil _ _, rfl⟩
  | some s =>
    rw [ofLetters_flag hc] at h
    cases hnext : ofOption s (attachedTo rest) with
    | error e =>
      rw [hnext] at h
      cases h
    | ok next =>
      rw [hnext] at h
      cases h
      exact Or.inr ⟨s, next, rfl, hnext, rfl⟩

theorem outputWanted_of_ofValue {value : String} {s : Switch} {cluster : Cluster}
    (h : ofValue value s = .ok cluster) : cluster.outputWanted = false := by
  cases s <;> cases h
  rfl

/-- Where a value is to follow, there was a use for everything. -/
theorem unused_of_ofLetters {text : List Char} {s : Switch} {cluster : Cluster}
    (h : ofLetters text s = .ok cluster) (hwanted : cluster.outputWanted = true) :
    cluster.unused = [] := by
  induction text generalizing s cluster with
  | nil =>
    cases h
    cases s <;> rfl
  | cons c rest ih =>
    cases s with
    | output =>
      cases h
      rfl
    | flag f =>
      rcases ofLetters_flag_eq_ok h with ⟨-, -, -, hnone⟩ | ⟨s, next, -, hnext, rfl⟩
      · cases hwanted.symm.trans hnone
      · rw [ofOption_attachedTo] at hnext
        split at hnext
        · cases (show next.outputWanted = true from hwanted).symm.trans
            (outputWanted_of_ofValue hnext)
        · have hmore : next.unused = [] := ih hnext hwanted
          exact hmore

theorem unused_of_outputWanted {s : Switch} {attached : Attachment} {cluster : Cluster}
    (h : ofOption s attached = .ok cluster) (hwanted : cluster.outputWanted = true) :
    cluster.unused = [] := by
  cases attached with
  | nothing =>
    cases h
    cases s <;> rfl
  | value text => cases hwanted.symm.trans (outputWanted_of_ofValue h)
  | letters text => exact unused_of_ofLetters h hwanted

/-- A flag is among those of its argument. -/
theorem mem_flags_of_ofOption {f : Flag} {rest : List Char} {cluster : Cluster}
    (h : ofOption (.flag f) (attachedTo rest) = .ok cluster) : f ∈ cluster.flags := by
  rw [ofOption_attachedTo] at h
  split at h
  · cases h
  · rcases rest with _ | ⟨c, rest⟩
    · cases h
      exact List.mem_cons_self
    · rcases ofLetters_flag_eq_ok h with ⟨-, hflags, -, -⟩ | ⟨s, next, -, -, rfl⟩
      · rw [hflags]
        exact List.mem_cons_self
      · exact List.mem_cons_self

/-- The output takes what is attached to its letter as its value. -/
theorem ofOption_output {value : List Char} (hvalue : value ≠ []) :
    ofOption .output (attachedTo value) =
      .ok { flags := [], output := some (String.ofList (withoutEquals value)) } := by
  rw [ofOption_attachedTo]
  unfold withoutEquals
  split
  · rfl
  · rcases value with _ | ⟨c, value⟩
    · exact absurd rfl hvalue
    · rfl

/-- What letters ask for, the options give that are read off them. -/
theorem exists_gives_of_letters {c : Char} {rest : List Char} {o : Options} {wanted : Bool}
    (h : Letters (c :: rest) o wanted) : ∃ s cluster, Switch.ofLetter? c = some s ∧
      ofOption s (attachedTo rest) = .ok cluster ∧ cluster.Gives o wanted := by
  generalize htext : c :: rest = text at h
  induction h generalizing c rest with
  | verbose =>
    cases htext
    exact ⟨_, _, rfl, rfl, rfl, rfl, by decide, rfl⟩
  | output =>
    cases htext
    exact ⟨_, _, rfl, rfl, rfl, rfl, by decide, rfl⟩
  | outputValue hvalue =>
    cases htext
    exact ⟨_, _, rfl, ofOption_output hvalue, rfl, rfl, List.not_mem_nil, rfl⟩
  | @more text o wanted h ih =>
    cases htext
    rcases text with _ | ⟨c, rest⟩
    · cases h
    · obtain ⟨s, cluster, hs, hcluster, hgives⟩ := ih rfl
      have hattached : attachedTo (c :: rest) = .letters (c :: rest) := by
        refine Item.attachedTo_of_ne (List.cons_ne_nil _ _) ?_
        rintro ⟨⟩
        cases hs
      refine ⟨_, cons .verbose cluster, rfl, ?_, gives_cons_verbose.mpr ⟨_, hgives, rfl⟩⟩
      rw [hattached, ofOption, ofLetters_flag hs, hcluster]
      rfl

/-- The options that are read off letters are what these ask for, if there is a use for all. -/
theorem letters_of_gives {c : Char} {rest : List Char} {s : Switch} {cluster : Cluster}
    {o : Options} {wanted : Bool} (hs : Switch.ofLetter? c = some s)
    (hcluster : ofOption s (attachedTo rest) = .ok cluster) (hgives : cluster.Gives o wanted) :
    Letters (c :: rest) o wanted := by
  induction rest generalizing c o s cluster with
  | nil =>
    rcases Item.ofLetter?_eq_some_iff.mp hs with ⟨rfl, rfl⟩ | ⟨rfl, rfl⟩ | ⟨rfl, rfl⟩
    · exact absurd (mem_flags_of_ofOption hcluster) hgives.help
    · cases hcluster
      obtain ⟨-, rfl, -, rfl⟩ := hgives
      exact .output
    · cases hcluster
      obtain ⟨-, rfl, -, rfl⟩ := hgives
      exact .verbose
  | cons d rest ih =>
    rcases Item.ofLetter?_eq_some_iff.mp hs with ⟨rfl, rfl⟩ | ⟨rfl, rfl⟩ | ⟨rfl, rfl⟩
    · exact absurd (mem_flags_of_ofOption hcluster) hgives.help
    · cases (ofOption_output (List.cons_ne_nil d rest)).symm.trans hcluster
      obtain ⟨-, rfl, -, rfl⟩ := hgives
      exact .outputValue (List.cons_ne_nil d rest)
    · rw [ofOption_attachedTo] at hcluster
      split at hcluster
      · cases hcluster
      · rcases ofLetters_flag_eq_ok hcluster with ⟨-, -, hunused, -⟩ | ⟨s, next, hs', hnext, rfl⟩
        · exact absurd hgives.unused hunused
        · obtain ⟨o, hmore, rfl⟩ := gives_cons_verbose.mp hgives
          exact .more (ih hs' hnext hmore)

/-- **The letters behind one hyphen**: what they ask for. -/
theorem letters_iff {c : Char} {rest : List Char} {o : Options} {wanted : Bool} :
    Letters (c :: rest) o wanted ↔ ∃ s cluster, Switch.ofLetter? c = some s ∧
      ofOption s (attachedTo rest) = .ok cluster ∧ cluster.Gives o wanted :=
  ⟨exists_gives_of_letters, fun ⟨_, _, hs, hcluster, hgives⟩ => letters_of_gives hs hcluster hgives⟩

/-! ## Arguments with options -/

/-- What a long name asks for, its option gives. -/
theorem exists_gives_of_sets {rest : List Char} {o : Options} {wanted : Bool}
    (h : Sets ('-' :: '-' :: rest) o wanted) : ∃ s attached cluster,
      ofArgument (String.ofList ('-' :: '-' :: rest)) = .ok (.option s attached) ∧
        ofOption s attached = .ok cluster ∧ cluster.Gives o wanted := by
  generalize htext : '-' :: '-' :: rest = text at h
  cases h with
  | server h =>
    exact ⟨.flag .server, .nothing, _, Item.ofArgument_of_abbreviates (by decide) h, rfl, rfl, rfl,
      by decide, rfl⟩
  | verbose h =>
    exact ⟨.flag .verbose, .nothing, _, Item.ofArgument_of_abbreviates (by decide) h, rfl, rfl, rfl,
      by decide, rfl⟩
  | output h =>
    exact ⟨.output, .nothing, _, Item.ofArgument_of_abbreviates (by decide) h, rfl, rfl, rfl,
      List.not_mem_nil, rfl⟩
  | outputValue h value =>
    exact ⟨.output, _, _, Item.ofArgument_of_abbreviates_value (by decide) h value, rfl, rfl, rfl,
      List.not_mem_nil, rfl⟩
  | letters h =>
    cases htext
    cases h

/-- A long name, to which a value may be attached, is one of the flags or the output. -/
theorem sets_hyphens_iff {rest : List Char} {o : Options} {wanted : Bool} :
    Sets ('-' :: '-' :: rest) o wanted ↔ ∃ s attached cluster,
      ofArgument (String.ofList ('-' :: '-' :: rest)) = .ok (.option s attached) ∧
        ofOption s attached = .ok cluster ∧ cluster.Gives o wanted := by
  refine ⟨exists_gives_of_sets, ?_⟩
  rintro ⟨s, attached, cluster, hoption, hcluster, hgives⟩
  obtain ⟨-, rfl, hhelp, rfl⟩ := hgives
  rcases Item.cutAtEquals_cases ('-' :: '-' :: rest) with
    ⟨-, hcut⟩ | ⟨name, value, -, htext, hcut⟩
  · obtain ⟨rfl, spelling, hp, h⟩ := (Item.ofArgument_hyphens_eq_option_iff hcut).mp hoption
    cases hcluster
    rcases Item.long_cases hp h with ⟨rfl, rfl⟩ | ⟨rfl, rfl⟩ | ⟨rfl, rfl⟩ | ⟨rfl, rfl⟩
    · exact absurd List.mem_cons_self hhelp
    · exact .server h
    · exact .output h
    · exact .verbose h
  · obtain ⟨rfl, spelling, hp, h⟩ := (Item.ofArgument_hyphens_eq_option_iff hcut).mp hoption
    rw [htext]
    rcases Item.long_cases hp h with ⟨-, rfl⟩ | ⟨-, rfl⟩ | ⟨rfl, rfl⟩ | ⟨-, rfl⟩
    · cases hcluster
    · cases hcluster
    · cases hcluster
      exact .outputValue h value
    · cases hcluster

/-- An argument with options has a hyphen and something after it. -/
theorem exists_of_sets {text : List Char} {o : Options} {wanted : Bool} (h : Sets text o wanted) :
    ∃ c rest, text = '-' :: c :: rest := by
  have halone {text : List Char} {name : String} {s : Switch} (hp : (name, s) ∈ Switch.spellings)
      (h : Abbreviates text name) : ∃ c rest, text = '-' :: c :: rest := by
    obtain ⟨rest, rfl, -⟩ := Item.exists_of_abbreviates hp h
    exact ⟨'-', rest, rfl⟩
  cases h with
  | server h => exact halone (s := .flag .server) (by decide) h
  | verbose h => exact halone (s := .flag .verbose) (by decide) h
  | output h => exact halone (s := .output) (by decide) h
  | outputValue h value =>
    obtain ⟨c, rest, rfl⟩ := halone (s := .output) (by decide) h
    exact ⟨c, rest ++ '=' :: value, rfl⟩
  | letters h =>
    cases h
    all_goals exact ⟨_, _, rfl⟩

theorem sets_hyphen_iff {c : Char} {rest : List Char} {o : Options} {wanted : Bool} (hc : c ≠ '-') :
    Sets ('-' :: c :: rest) o wanted ↔ Letters (c :: rest) o wanted := by
  refine ⟨fun h => ?_, .letters⟩
  generalize htext : '-' :: c :: rest = text at h
  have hlong {text : List Char} {name : String} {s : Switch} (hp : (name, s) ∈ Switch.spellings)
      (h : Abbreviates text name) : ∀ more, '-' :: c :: rest ≠ text ++ more := by
    obtain ⟨rest, rfl, -⟩ := Item.exists_of_abbreviates hp h
    rintro more ⟨⟩
    exact hc rfl
  cases h with
  | server h => exact absurd (by simp [htext]) (hlong (s := .flag .server) (by decide) h [])
  | verbose h => exact absurd (by simp [htext]) (hlong (s := .flag .verbose) (by decide) h [])
  | output h => exact absurd (by simp [htext]) (hlong (s := .output) (by decide) h [])
  | outputValue h value => exact absurd htext (hlong (s := .output) (by decide) h _)
  | letters h =>
    cases htext
    exact h

/-- **An argument with options**: what it asks for. -/
theorem sets_iff {argument : String} {o : Options} {wanted : Bool} :
    Sets argument.toList o wanted ↔ ∃ s attached cluster,
      ofArgument argument = .ok (.option s attached) ∧
        ofOption s attached = .ok cluster ∧ cluster.Gives o wanted := by
  obtain ⟨text, rfl⟩ : ∃ text, argument = String.ofList text :=
    ⟨argument.toList, String.ofList_toList.symm⟩
  rw [String.toList_ofList]
  by_cases hform : ∃ c rest, text = '-' :: c :: rest
  · obtain ⟨c, rest, rfl⟩ := hform
    by_cases hc : c = '-'
    · subst hc
      exact sets_hyphens_iff
    · rw [sets_hyphen_iff hc, letters_iff, Item.ofArgument_hyphen hc]
      cases Switch.ofLetter? c with
      | none =>
        constructor
        · rintro ⟨_, _, ⟨⟩, _⟩
        · rintro ⟨s, attached, _, hoption, _⟩
          exact absurd (Except.ok.inj hoption) Item.ofOther_ne_option
      | some s =>
        constructor
        · rintro ⟨_, cluster, ⟨⟩, hgives⟩
          exact ⟨s, _, cluster, rfl, hgives⟩
        · rintro ⟨_, _, cluster, ⟨⟩, hgives⟩
          exact ⟨s, cluster, rfl, hgives⟩
  · constructor
    · exact fun h => absurd (exists_of_sets h) hform
    · rintro ⟨s, attached, _, hoption, _⟩
      obtain ⟨c, rest, htext⟩ := Item.exists_of_ofArgument_option hoption
      rw [String.toList_ofList] at htext
      exact absurd ⟨c, rest, htext⟩ hform

/-! ## Help -/

end Cluster

end BusTraits.Command
