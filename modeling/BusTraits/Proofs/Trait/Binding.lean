import BusTraits.Proofs.Identifier.Base
import BusTraits.Proofs.Trait.Naming
import BusTraits.Trait.Server

/-!
# Names bound by the functions of a server

A function of a server's trait binds a name of its own in front of those of its parameters: `self`,
or `emitter` if it emits a signal. The parameters are named in a scope that does not know of it.
`self` is a keyword and never given out, but `emitter` is an identifier like any other.

* `Block.flatMap_group`: the functions written are the declarations, in their order;
* `Parameter.listAfter_eq`: a parameter list is the receiver and the parameters with their names;
* `baseFor_eq_emitter`: an argument asks for `emitter` exactly if its name folds to it;
* **`Assembler.bindings_nodup_iff`**: no method and no accessor binds a name twice, and the function
  of a signal does exactly if some argument of the signal folds to `emitter`.
-/

namespace BusTraits

open Identifier (Scope candidate baseFor foldCase keywords claimedNames)

/-! ## The functions written -/

/-- Grouping the accessors leaves the declarations as they are. -/
theorem Block.flatMap_group : ∀ ds, (Block.group ds).flatMap Block.declarations = ds
  | [] => rfl
  | [d] => rfl
  | d :: e :: rest => by
    rw [Block.group]
    split
    · rw [List.flatMap_cons, Block.flatMap_group rest]
      rfl
    · rw [List.flatMap_cons, Block.flatMap_group (e :: rest)]
      rfl

/-- The two declarations of a block are the accessors of one property. -/
theorem Block.isPair_of_mem_group {g s : Declaration} :
    ∀ {ds : List Declaration}, accessors g s ∈ group ds → isPair g s = true
  | [], h => absurd h List.not_mem_nil
  | [d], h => by cases List.mem_singleton.mp h
  | d :: e :: rest, h => by
    rw [group] at h
    split at h
    · rename_i hpair
      rcases List.mem_cons.mp h with h | h
      · cases h
        exact hpair
      · exact isPair_of_mem_group h
    · rcases List.mem_cons.mp h with h | h
      · cases h
      · exact isPair_of_mem_group h

/-- The functions of the trait of a server, as they are written. -/
def Trait.serverFunctions (t : Trait) : List Declaration :=
  (Block.group t.declarations).flatMap Block.declarations

/-- A parameter list has the receiver and then each parameter with its name. -/
theorem Parameter.listAfter_eq (receiver : String) (ps : List Parameter) :
    listAfter receiver ps =
      ", ".intercalate (receiver :: ps.map fun p => p.identifier ++ ": " ++ p.rustType) := by
  unfold listAfter list
  cases ps with
  | nil => rfl
  | cons p ps =>
    rw [List.isEmpty_cons, if_neg Bool.false_ne_true, List.map_cons, String.intercalate_cons_cons,
      String.append_assoc, String.append_assoc]

/-- The names that a function of a server binds: that of its receiver or emitter, and those of its
parameters. -/
def Declaration.bindings (d : Declaration) : List String :=
  (if d.isSignal then "emitter" else "self") :: d.parameters.map (·.identifier)

/-- **An argument asks for `emitter` exactly if its name folds to it.** -/
theorem Identifier.baseFor_eq_emitter {name : Option String} :
    baseFor name "" = "emitter" ↔ name.map foldCase = some "emitter" :=
  baseFor_eq_iff (by decide +kernel) (by decide) (by decide +kernel) (by decide)

/-! ## Bindings -/

/-- A method, a getter or a setter never binds a name twice: no identifier is a keyword. -/
theorem Declaration.bindings_nodup {d : Declaration} (hs : d.isSignal = false) (hd : d.ownNames) :
    d.bindings.Nodup := by
  unfold bindings
  rw [hs, if_neg Bool.false_ne_true, List.nodup_cons]
  rcases hd with hnames | ⟨type, -, hsetter⟩
  · rw [hnames]
    refine ⟨fun hself => ?_, Identifier.claimAll_nodup _ _⟩
    rw [Identifier.mem_claimAll_iff_base List.not_mem_nil] at hself
    · obtain ⟨r, -, hr⟩ := hself
      have hkeyword : r.base ∉ keywords := Identifier.escapeKeyword_not_mem _
      rw [hr] at hkeyword
      exact hkeyword (by decide)
    · intro r hr n
      obtain ⟨p, -, rfl⟩ := List.mem_map.mp hr
      exact Identifier.candidate_succ_ne (by decide) _ _ n
  · have hvalue : (Assembly.setterParameter type).identifier = "value" := by
      rw [Assembly.setterParameter_eq]
    rw [hsetter, List.map_singleton, hvalue]
    exact ⟨by decide, List.nodup_singleton _⟩

/-- The function of a signal binds a name twice exactly if an argument folds to `emitter`. -/
theorem Declaration.signal_bindings_iff {d : Declaration} {s : Signal} (hs : d.isSignal = true)
    (hw : d.parameters.map (·.wireName) = s.arguments.map (·.name))
    (hi : d.parameters.map (·.identifier) =
      claimedNames .empty (d.parameters.map Parameter.request)) :
    d.bindings.Nodup ↔ ∀ argument ∈ s.arguments, argument.name.map foldCase ≠ some "emitter" := by
  have hlater : ∀ r ∈ d.parameters.map Parameter.request, ∀ n,
      candidate r.role r.base (n + 1) ≠ "emitter" := by
    intro r hr n
    obtain ⟨p, -, rfl⟩ := List.mem_map.mp hr
    exact Identifier.candidate_succ_ne (by decide) _ _ n
  have hwire : (∃ r ∈ d.parameters.map Parameter.request, r.base = "emitter") ↔
      ∃ name ∈ s.arguments.map (·.name), name.map foldCase = some "emitter" := by
    rw [← hw]
    simp only [List.mem_map, exists_exists_and_eq_and]
    exact exists_congr fun p => and_congr_right fun _ => Identifier.baseFor_eq_emitter
  unfold bindings
  rw [hs, if_pos rfl, List.nodup_cons, hi, and_iff_left (Identifier.claimAll_nodup _ _),
    Identifier.mem_claimAll_iff_base List.not_mem_nil hlater, hwire]
  simp only [List.mem_map, exists_exists_and_eq_and, not_exists, not_and, ne_eq]

/-! ## The whole trait -/

namespace Assembler

variable {a : Assembler} {i : Interface} {t : Trait}

/-- **Names bound twice**: in the trait of a server no method and no accessor binds a name twice,
and the function of a signal does exactly if some argument of the signal folds to `emitter`. -/
theorem bindings_nodup_iff (h : (a.assemble i).result = .ok t) :
    (∀ d ∈ t.serverFunctions, d.isSignal = false → d.bindings.Nodup) ∧
      List.Forall₂ (fun (s : Signal) d => d.bindings.Nodup ↔
          ∀ argument ∈ s.arguments, argument.name.map foldCase ≠ some "emitter")
        i.signals (t.serverFunctions.filter Declaration.isSignal) := by
  obtain ⟨members, s, s', hd, hmembers, hsignals, -, -⟩ := assemble_declares h
  unfold Trait.serverFunctions
  rw [Block.flatMap_group]
  constructor
  · intro d hmem hs
    exact Declaration.bindings_nodup hs (assemble_ownNames h d hmem)
  · exact hsignals.imp fun s d hsd => Declaration.signal_bindings_iff hsd.1 hsd.2.1 hsd.2.2

/-- A server whose signals have arguments with the names of what is in front of them. -/
def radio : Interface where
  name := "org.example.Radio"
  methods := [⟨"Tune", [⟨some "Self", "u", .input, []⟩], []⟩]
  signals := [⟨"Started", [⟨some "emitter", "s", .output, []⟩], []⟩,
    ⟨"Stopped", [⟨some "self", "s", .output, []⟩], []⟩]

/-- Its method binds `self` and `self_`. Of its signals, `Stopped` has different names bound. -/
theorem radio_bindings_nodup :
    ∃ t, (assemble { style := .server } radio).result = .ok t ∧
      (∀ d ∈ t.serverFunctions, d.isSignal = false → d.bindings.Nodup) ∧
        List.Forall₂ (fun (s : Signal) d => d.bindings.Nodup ↔ s.name = "Stopped") radio.signals
          (t.serverFunctions.filter Declaration.isSignal) := by
  have hrun : (assemble { style := .server } radio).result.toOption.any
      (fun t => t.serverFunctions.length == 3) = true := by decide +kernel
  obtain ⟨t, ht, -⟩ := exists_trait hrun
  obtain ⟨hmembers, hsignals⟩ := bindings_nodup_iff ht
  have hnames : ∀ s ∈ radio.signals,
      (∀ argument ∈ s.arguments, argument.name.map foldCase ≠ some "emitter") ↔
        s.name = "Stopped" := by
    decide +kernel
  have hboth := (List.forall₂_and_left _ _).mpr ⟨hnames, hsignals⟩
  exact ⟨t, ht, hmembers, hboth.imp fun s d h => h.2.trans h.1⟩

/-- The function of its signal `Started` binds `emitter` twice. -/
theorem radio_emitter_twice :
    ∃ t, (assemble { style := .server } radio).result = .ok t ∧
      ∃ d ∈ t.serverFunctions, d.wireName = "Started" ∧ d.bindings = ["emitter", "emitter"] ∧
        ¬d.bindings.Nodup := by
  have hrun : (assemble { style := .server } radio).result.toOption.any (fun t =>
      t.serverFunctions.any fun d =>
        d.wireName == "Started" && d.bindings == ["emitter", "emitter"]) = true := by
    decide +kernel
  obtain ⟨t, ht, hany⟩ := exists_trait hrun
  obtain ⟨d, hd, hone⟩ := List.any_eq_true.mp hany
  simp only [Bool.and_eq_true, beq_iff_eq] at hone
  exact ⟨t, ht, d, hd, hone.1, hone.2, by rw [hone.2]; decide⟩

end Assembler

end BusTraits
