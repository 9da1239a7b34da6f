import BusTraits.Proofs.FirstFault
import BusTraits.Proofs.Trait.Diagnosis
import BusTraits.Proofs.Trait.Naming
import BusTraits.Proofs.Trait.TwoRuns
import BusTraits.Trait.Source

/-!
# The source for several interfaces

The source for a list of interfaces is made by one assembler that goes through all of them, and the
remarks are handed to the caller at the end. It is nothing but the sources for each interface by
itself with something in front of them (`Style.opening`). If one of them has none, neither has the
list, and the messages of the caller stay as they were.

* `assembleAll_eq_mapM`: the assembler makes of each interface what it makes of it alone;
* `header_eq_opening`: what has to be in front of the traits can be told from the interfaces;
* `generateAll_eq`, `generateAll_remarks`: the source for several interfaces from their sources one
  by one, and its remarks;
* `generateInto_calledWith`, `generateAllInto_calledWith`: what becomes of the messages of a caller;
* `generateAllInto_result`: the code does not depend on them;
* **`Style.generateAllInto_eq`**: a call for several interfaces and the calls for each of them.
-/

namespace BusTraits

/-! ## Messages of the caller -/

namespace Collecting

variable {α β : Type}

theorem calledWith_bind (x : Collecting α) (f : α → Collecting β) (w : List String) :
    calledWith (x >>= f) w =
      match x.calledWith w with
      | (.error fault, w) => (.error fault, w)
      | (.ok v, w) => (f v).calledWith w := by
  unfold calledWith
  rw [ExceptT.run_bind, StateT.run_bind]
  cases x.run.run w with
  | mk result w => cases result <;> rfl

/-- The remarks on traits are added one trait after another. -/
theorem forM_report_calledWith (traits : List Trait) (w : List String) :
    calledWith (traits.forM report) w =
      (.ok (), w ++ (traits.flatMap (·.remarks)).map (·.message)) := by
  induction traits generalizing w with
  | nil =>
    rw [List.flatMap_nil, List.map_nil, List.append_nil]
    rfl
  | cons t traits ih =>
    rw [List.flatMap_cons, List.map_append, ← List.append_assoc]
    exact ih (w ++ t.remarks.map (·.message))

/-- What a caller with messages is left with by a source, or by the lack of one. -/
def handed (w : List String) : Except Fault Source → Except Fault String × List String
  | .error fault => (.error fault, w)
  | .ok s => (.ok s.text, w ++ s.remarks.map (·.message))

theorem handed_error_iff {w : List String} {r : Except Fault Source} {fault : Fault} :
    (handed w r).1 = .error fault ↔ r = .error fault := by
  cases r with
  | error f =>
    show Except.error f = Except.error fault ↔ Except.error f = Except.error fault
    rw [Except.error.injEq, Except.error.injEq]
  | ok s => exact ⟨nofun, nofun⟩

theorem exists_of_handed_ok {w : List String} {r : Except Fault Source} {text : String}
    (h : (handed w r).1 = .ok text) : ∃ s, r = .ok s := by
  cases r with
  | error fault => cases h
  | ok s => exact ⟨s, rfl⟩

theorem handed_nil_ok {r : Except Fault Source} {text : String} {messages : List String}
    (h : handed [] r = (.ok text, messages)) :
    ∃ s, r = .ok s ∧ s.text = text ∧ s.remarks.map (·.message) = messages := by
  cases r with
  | error fault => cases h
  | ok s =>
    cases h
    exact ⟨s, rfl, rfl, rfl⟩

end Collecting

namespace Style

open Assembler (assemble_declares)
open Collecting (calledWith_bind forM_report_calledWith calledWith handed)

variable (style : Style)

/-! ## One by one -/

/-- What the assembler of a style makes of one interface. -/
def traitOf (i : Interface) : Except Fault Trait := (style.assembler.assemble i).result

theorem assembler_alike (verbose : Bool) : (style.assembler verbose).Alike style.assembler := by
  cases style <;> exact ⟨rfl, rfl, rfl⟩

/-- **An assembler that goes through several interfaces** makes of each what it makes of it alone.
-/
theorem assembleAll_eq_mapM (interfaces : List Interface) (verbose : Bool) :
    ((style.assembler verbose).assembleAll interfaces).1 = interfaces.mapM style.traitOf :=
  Assembler.assembleAll_eq (style.assembler_alike verbose) interfaces

/-- What has to be in front of the traits for a list of interfaces. -/
def opening (interfaces : List Interface) : String :=
  match style with
  | .proxy => "use zbus::proxy;\n"
  | .server =>
    if ∃ i ∈ interfaces, i.signals ≠ [] then "use zbus::object_server::SignalEmitter;\n\n" else ""

theorem header_eq_opening {interfaces : List Interface} {traits : List Trait}
    (h : List.Forall₂ (fun i t => style.traitOf i = .ok t) interfaces traits) :
    style.header traits = style.opening interfaces := by
  have hsignals : (traits.any fun t => !t.signals.isEmpty) = true ↔
      ∃ i ∈ interfaces, i.signals ≠ [] := by
    induction h with
    | nil => simp
    | @cons i t is ts ht _ ih =>
      obtain ⟨-, -, -, -, -, hsignals, -, -⟩ := assemble_declares ht
      have hempty : t.signals = [] ↔ i.signals = [] := by
        rw [← List.length_eq_zero_iff, ← hsignals.length_eq, List.length_eq_zero_iff]
      rw [List.any_cons, Bool.or_eq_true, ih, Bool.not_eq_true', List.isEmpty_eq_false_iff,
        ne_eq, hempty]
      simp
  unfold header opening
  cases style with
  | proxy => rfl
  | server =>
    show (if (traits.any fun t => !t.signals.isEmpty) = true then _ else _) = ite _ _ _
    simp only [hsignals]

/-- **The source for several interfaces** is put together from their sources one by one. -/
theorem generateAll_eq (interfaces : List Interface) (verbose : Bool) :
    (style.generateAll interfaces verbose).1 =
      (interfaces.mapM style.generate).map fun sources =>
        ⟨style.opening interfaces ++ "\n".intercalate (sources.map (·.text)),
          sources.flatMap (·.remarks)⟩ := by
  have hsources : interfaces.mapM style.generate = (interfaces.mapM style.traitOf).map
      (List.map fun t => ⟨t.source style, t.remarks⟩) := mapM_map _ _
  unfold generateAll
  rw [hsources, ← style.assembleAll_eq_mapM interfaces verbose]
  have htraits := style.assembleAll_eq_mapM interfaces verbose
  cases hall : (style.assembler verbose).assembleAll interfaces with
  | mk result trace =>
    rw [hall] at htraits
    cases result with
    | error fault => rfl
    | ok traits =>
      have hheader := style.header_eq_opening (mapM_eq_ok_iff.mp htraits.symm)
      simp only [Except.map, hheader, List.map_map, List.flatMap_map, Function.comp_def]

/-- The remarks in assembling interfaces one by one. -/
def remarksOn (interfaces : List Interface) : List Signature.Remark :=
  interfaces.flatMap fun i => (style.assembler.assemble i).assembler.remarks

theorem generate_remarks {i : Interface} {source : Source} (h : style.generate i = .ok source) :
    source.remarks = (style.assembler.assemble i).assembler.remarks := by
  unfold generate at h
  cases ht : (style.assembler.assemble i).result with
  | error fault =>
    rw [ht] at h
    cases h
  | ok t =>
    rw [ht] at h
    cases h
    exact Assembler.assemble_remarks ht

/-- A source carries the remarks on all interfaces that it is for. -/
theorem generateAll_remarks {interfaces : List Interface} {verbose : Bool} {source : Source}
    (h : (style.generateAll interfaces verbose).1 = .ok source) :
    source.remarks = style.remarksOn interfaces := by
  rw [generateAll_eq] at h
  cases hall : interfaces.mapM style.generate with
  | error fault =>
    rw [hall] at h
    cases h
  | ok sources =>
    rw [hall] at h
    cases h
    have hsources := mapM_eq_ok_iff.mp hall
    clear hall
    induction hsources with
    | nil => rfl
    | cons hs _ ih => exact congrArg₂ (· ++ ·) (style.generate_remarks hs) ih

/-! ## With the messages of a caller -/

theorem generateInto_calledWith (i : Interface) (w : List String) :
    (style.generateInto i).calledWith w = handed w (style.generate i) := by
  unfold generateInto generate
  cases (style.assembler.assemble i).result <;> rfl

theorem generateAllInto_calledWith (interfaces : List Interface) (verbose : Bool)
    (w : List String) :
    (style.generateAllInto interfaces verbose).calledWith w =
      handed w (style.generateAll interfaces verbose).1 := by
  unfold generateAllInto generateAll
  cases hall : (style.assembler verbose).assembleAll interfaces with
  | mk result trace =>
    cases result with
    | error fault => rfl
    | ok traits =>
      show calledWith (traits.forM Collecting.report >>= fun _ => pure _) w = _
      rw [calledWith_bind, forM_report_calledWith]
      rfl

/-- Neither telling of the steps nor the messages of the caller make a difference to the code. -/
theorem generateAllInto_result (interfaces : List Interface) (verbose verbose' : Bool)
    (w : List String) :
    ((style.generateAllInto interfaces verbose).calledWith w).1 =
      (style.generateAll interfaces verbose').1.map (·.text) := by
  rw [generateAllInto_calledWith, generateAll_eq, generateAll_eq]
  cases interfaces.mapM style.generate <;> rfl

/-- Calls that all succeed give the sources one by one, as far as a caller sees them. -/
theorem exists_sources {interfaces : List Interface} {sources : List (String × List String)}
    (h : List.Forall₂ (fun i s => handed [] (style.generate i) = (.ok s.1, s.2)) interfaces
      sources) :
    ∃ all, interfaces.mapM style.generate = .ok all ∧
      sources = all.map fun s => (s.text, s.remarks.map (·.message)) := by
  induction h with
  | nil => exact ⟨[], rfl, rfl⟩
  | @cons i s is ss hi _ ih =>
    obtain ⟨all, hall, rfl⟩ := ih
    obtain ⟨source, hsource, htext, hmessages⟩ := Collecting.handed_nil_ok hi
    refine ⟨source :: all, ?_, ?_⟩
    · rw [mapM_cons_of_ok hsource, hall]
      rfl
    · rw [List.map_cons, htext, hmessages]

/-- **Several interfaces at once and one by one**: a call for all of them fails exactly if the call
for one of them does, with the fault of the first that does and nothing added to the messages.
Otherwise it gives the texts of the calls one by one, after what has to be in front, and adds the
messages that these add, in their order. -/
theorem generateAllInto_eq (interfaces : List Interface) (verbose : Bool) (w : List String) :
    ((∃ fault, ((style.generateAllInto interfaces verbose).calledWith w).1 = .error fault) ↔
      ∃ i ∈ interfaces, ∃ fault, ((style.generateInto i).calledWith w).1 = .error fault) ∧
    (∀ before i after fault, interfaces = before ++ i :: after →
      (∀ j ∈ before, ∃ text, ((style.generateInto j).calledWith w).1 = .ok text) →
        ((style.generateInto i).calledWith w).1 = .error fault →
          (style.generateAllInto interfaces verbose).calledWith w = (.error fault, w)) ∧
    ∀ sources : List (String × List String),
      List.Forall₂ (fun i s => (style.generateInto i).calledWith [] = (.ok s.1, s.2)) interfaces
        sources →
        (style.generateAllInto interfaces verbose).calledWith w =
          (.ok (style.opening interfaces ++ "\n".intercalate (sources.map Prod.fst)),
            w ++ sources.flatMap Prod.snd) := by
  simp only [generateAllInto_calledWith, generateInto_calledWith, generateAll_eq,
    Collecting.handed_error_iff]
  refine ⟨⟨?_, ?_⟩, ?_, ?_⟩
  · rintro ⟨fault, hall⟩
    cases hrun : interfaces.mapM style.generate with
    | error fault' =>
      obtain ⟨before, i, after, rfl, -, hi⟩ := mapM_eq_error_iff.mp hrun
      exact ⟨i, by simp, fault', hi⟩
    | ok sources =>
      rw [hrun] at hall
      cases hall
  · rintro ⟨i, hi, fault, hfault⟩
    cases hrun : interfaces.mapM style.generate with
    | error fault' => exact ⟨fault', rfl⟩
    | ok sources =>
      obtain ⟨s, hs⟩ := exists_of_mapM_eq_ok hrun i hi
      rw [hfault] at hs
      cases hs
  · intro before i after fault hsplit hbefore hi
    have hrun : interfaces.mapM style.generate = .error fault :=
      mapM_eq_error_iff.mpr ⟨before, i, after, hsplit, fun j hj => by
        obtain ⟨text, htext⟩ := hbefore j hj
        exact Collecting.exists_of_handed_ok htext, hi⟩
    rw [hrun]
    rfl
  · intro sources hsources
    obtain ⟨all, hall, rfl⟩ := style.exists_sources hsources
    rw [hall]
    simp only [Except.map, handed, List.map_map, List.flatMap_map, List.map_flatMap,
      Function.comp_def]

/-- An interface with a property of no known type. -/
def gauge : Interface where
  name := "org.example.Gauge"
  properties := [⟨"Level", "?", .read, []⟩]

/-- An interface with a signal. -/
def beacon : Interface where
  name := "org.example.Beacon"
  signals := [⟨"Lit", [⟨some "Since", "t", .output, []⟩], []⟩]

/-- An interface with a struct that does not end. -/
def torn : Interface where
  name := "org.example.Torn"
  methods := [⟨"Open", [⟨none, "(i", .input, []⟩], []⟩]

/-- The trait of a server for the first of them. -/
def gaugeText : String :=
  "pub trait GaugeServer \x7b\n    /// property: Level\n" ++
    "    fn get_level(&self) -> zbus::Result<zbus::zvariant::Value<'_>>;\n\n\x7d\n"

/-- The trait of a server for the second one. -/
def beaconText : String :=
  "pub trait BeaconServer \x7b\n    /// emits Lit with body &(since,)\n" ++
    "    fn emit_lit<'a>(emitter: &SignalEmitter<'a>, since: u64) -> " ++
    "impl std::future::Future<Output = zbus::Result<()>> + Send;\n\n\x7d\n"

/-- The first two make the source of a server, with the remark on the property added to the caller's
messages. With the third one between them there is no source, and the remark is not added. -/
theorem gauge_beacon_generateAllInto :
    (Style.server.generateAllInto [gauge, beacon]).calledWith ["earlier"] =
      (.ok ("use zbus::object_server::SignalEmitter;\n\n" ++ gaugeText ++ "\n" ++ beaconText),
        ["earlier", "Warning: unknown D-Bus type '?' at column 1 of signature '?'"]) ∧
    (Style.server.generateAllInto [gauge, torn, beacon]).calledWith ["earlier"] =
      (.error ⟨"org.example.Torn", "Open", .malformed "(i" 2⟩, ["earlier"]) := by
  have hgauge : (Style.server.generateInto gauge).calledWith [] =
      (.ok gaugeText, ["Warning: unknown D-Bus type '?' at column 1 of signature '?'"]) := by
    decide +kernel
  have hbeacon : (Style.server.generateInto beacon).calledWith [] = (.ok beaconText, []) := by
    decide +kernel
  have hread : ((Style.server.generateInto gauge).calledWith ["earlier"]).1 = .ok gaugeText := by
    decide +kernel
  have htorn : ((Style.server.generateInto torn).calledWith ["earlier"]).1 =
      .error ⟨"org.example.Torn", "Open", .malformed "(i" 2⟩ := by
    decide +kernel
  constructor
  · rw [(generateAllInto_eq .server [gauge, beacon] false ["earlier"]).2.2
      [(gaugeText, _), (beaconText, _)] (.cons hgauge (.cons hbeacon .nil))]
    decide +kernel
  · exact (generateAllInto_eq .server [gauge, torn, beacon] false ["earlier"]).2.1 [gauge] torn
      [beacon] _ rfl (List.forall_mem_singleton.mpr ⟨gaugeText, hread⟩) htorn

end Style

end BusTraits
