import BusTraits.Proofs.Trait.Batch
import BusTraits.Proofs.Trait.Binding

/-!
# What is generated does not depend on everything

Two assemblies may differ in much and still give the same in part.

* **The style.** A client and a server for one interface have the same members with the same
  parameters and types. The style shows in the identifiers of accessors and signals and nowhere
  else, however these collide (`Declaration.SameMember`).
* **What a client does not show.** Signals are no members of a client's trait, and neither
  annotations nor the names of outputs are written in it. Interfaces that differ in nothing else
  (`Interface.SameCalls`) have the same code.
* **What comes last.** Signals that are added behind all others (`Interface.addSignals`) change
  nothing of what is declared and remarked before them, in either style.

Results:
* **`Assembler.assemble_styles`**: one interface in two styles;
* `Assembler.proxyLines_of_sameCalls`, `Style.generateInto_of_sameCalls`: the code of a client;
* `Assembler.assemble_addSignals_error`, `Assembler.assemble_addSignals_ok`: an interface and the
  same one with more signals;
* **`Assembler.assemble_unseen`**: what is not shown and what comes last.
-/

namespace BusTraits

/-! ## One interface in two styles -/

/-- Declarations of one member. Their roles carry the types that come back. The identifiers may be
different ones, unless the member is a method. -/
structure Declaration.SameMember (d e : Declaration) : Prop where
  role : d.role = e.role
  wireName : d.wireName = e.wireName
  parameters : d.parameters = e.parameters
  annotations : d.annotations = e.annotations
  method : d.isMethod = true → d.identifier = e.identifier ∧ d.namesWire = e.namesWire

theorem Declaration.Alike.sameMember {named : Prop} {d e : Declaration}
    (h : d.Alike Eq named e) : d.SameMember e :=
  ⟨h.role, h.wireName, h.parameters_eq, h.annotations, fun hmethod => h.names (Or.inr hmethod)⟩

namespace Assembler

variable {a b : Assembler}

/-- **One interface in two styles**: assemblers that write types alike fail with the same fault, or
give traits with the same members and the same remarks. In both cases they are left with the same
remarks. -/
theorem assemble_styles (h : a.SameContexts b) (i : Interface) :
    (a.assemble i).assembler.remarks = (b.assemble i).assembler.remarks ∧
      ((∃ fault, (a.assemble i).result = .error fault ∧ (b.assemble i).result = .error fault) ∨
        ∃ t u, (a.assemble i).result = .ok t ∧ (b.assemble i).result = .ok u ∧
          t.interface = u.interface ∧ t.annotations = u.annotations ∧ t.remarks = u.remarks ∧
          List.Forall₂ Declaration.SameMember t.declarations u.declarations) := by
  have hsame : i.Alike Eq i := Interface.Alike.refl (fun _ => rfl) i
  -- nothing is asked of the identifiers of accessors and signals
  have hnames : False → a.style = b.style := False.elim
  obtain ⟨hremarks, hresult⟩ := assemble_related h hnames rfl hsame
  refine ⟨hremarks, hresult.imp_right ?_⟩
  rintro ⟨t, u, ht, hu, htu⟩
  exact ⟨t, u, ht, hu, htu.interface, htu.annotations, htu.remarks,
    htu.declarations.imp fun _ _ => Declaration.Alike.sameMember⟩

/-- A method with the name that a server gives a getter, and a property and a signal of one name. -/
def lamp : Interface where
  name := "org.example.Lamp"
  methods := [⟨"GetLevel", [⟨some "Type", "s", .input, []⟩, ⟨none, "u", .output, []⟩], []⟩]
  properties := [⟨"Level", "u", .readWrite, [⟨"unit", "lm"⟩]⟩]
  signals := [⟨"Level", [⟨none, "?", .output, []⟩], []⟩]

/-- The getter has to give way to the method in a server only, and the signal has an affix there.
The members are the same. -/
theorem lamp_styles :
    ∃ t u, (assemble { style := .proxy } lamp).result = .ok t ∧
      (assemble { style := .server } lamp).result = .ok u ∧
      t.declarations.map (·.identifier) = ["get_level", "level", "set_level", "level"] ∧
      u.declarations.map (·.identifier) =
        ["get_level", "get_level_prop", "set_level", "emit_level"] ∧
      List.Forall₂ Declaration.SameMember t.declarations u.declarations := by
  have hclient : (assemble { style := .proxy } lamp).result.toOption.any (fun t =>
      t.declarations.map (·.identifier) == ["get_level", "level", "set_level", "level"]) = true := by
    decide +kernel
  have hserver : (assemble { style := .server } lamp).result.toOption.any (fun u =>
      u.declarations.map (·.identifier) ==
        ["get_level", "get_level_prop", "set_level", "emit_level"]) = true := by
    decide +kernel
  obtain ⟨t, ht, htest⟩ := exists_trait hclient
  obtain ⟨u, hu, hutest⟩ := exists_trait hserver
  have hsame : Assembler.SameContexts { style := .proxy } { style := .server } := ⟨rfl, rfl⟩
  rcases (assemble_styles hsame lamp).2 with
    ⟨fault, hfault, -⟩ | ⟨t', u', ht', hu', -, -, -, hmembers⟩
  · rw [ht] at hfault
    cases hfault
  · rw [ht] at ht'
    rw [hu] at hu'
    cases ht'
    cases hu'
    exact ⟨t, u, ht, hu, beq_iff_eq.mp htest, beq_iff_eq.mp hutest, hmembers⟩

end Assembler

/-! ## What a client does not show -/

/-- Interfaces with the same methods and properties, up to annotations and the names of outputs. -/
structure Interface.SameCalls (i j : Interface) : Prop where
  name : i.name = j.name
  methods : List.Forall₂ (Method.Alike fun _ _ => True) i.methods j.methods
  properties : List.Forall₂ (Property.Alike fun _ _ => True) i.properties j.properties

section Lines

variable {R : List Annotation → List Annotation → Prop}

theorem Parameter.listAfter_of_alike {ps qs : List Parameter}
    (h : List.Forall₂ (Parameter.Alike R) ps qs) (receiver : String) :
    Parameter.listAfter receiver ps = Parameter.listAfter receiver qs := by
  have htexts : ps.map (fun p => p.identifier ++ ": " ++ p.rustType) =
      qs.map fun q => q.identifier ++ ": " ++ q.rustType :=
    forall₂_map_eq_iff.mp (h.imp fun p q hpq => by rw [hpq.identifier, hpq.rustType])
  rw [Parameter.listAfter_eq, Parameter.listAfter_eq, htexts]

namespace Declaration

variable {d e : Declaration} {ds es : List Declaration}

/-- Annotations are not written in a client. -/
theorem Alike.proxyLines_eq (h : d.Alike R True e) : d.proxyLines = e.proxyLines := by
  obtain ⟨hidentifier, hnames⟩ := h.names (Or.inl trivial)
  have hfunction : ∀ type, d.proxyFunction type = e.proxyFunction type := by
    intro type
    unfold proxyFunction
    rw [hidentifier, Parameter.listAfter_of_alike h.parameters]
  have hattribute : d.proxyAttribute = e.proxyAttribute := by
    unfold proxyAttribute
    rw [hnames, h.wireName]
  unfold proxyLines
  simp only [h.role, h.wireName, hnames, hattribute, hfunction]

theorem flatMap_proxyLines_eq (h : List.Forall₂ (Alike R True) ds es) :
    ds.flatMap proxyLines = es.flatMap proxyLines := by
  induction h with
  | nil => rfl
  | cons hde _ ih => rw [List.flatMap_cons, List.flatMap_cons, hde.proxyLines_eq, ih]

/-- Signals are not written in a client. -/
theorem flatMap_proxyLines_append (h : ∀ e ∈ es, e.isSignal = true) :
    (ds ++ es).flatMap proxyLines = ds.flatMap proxyLines := by
  have hnone : es.flatMap proxyLines = [] := by
    refine List.flatMap_eq_nil_iff.mpr fun e he => ?_
    have hsignal := h e he
    unfold isSignal at hsignal
    unfold proxyLines
    cases hrole : e.role with
    | signal => rfl
    | _ =>
      rw [hrole] at hsignal
      cases hsignal
  rw [List.flatMap_append, hnone, List.append_nil]

end Declaration

end Lines

namespace Assembler

open Assembly

variable {a : Assembler} {i j : Interface} {t u : Trait}

/-- Interfaces with the same calls have the same lines in a client. -/
theorem proxyLines_of_sameCalls (h : i.SameCalls j) (hi : (a.assemble i).result = .ok t)
    (hj : (a.assemble j).result = .ok u) : t.proxyLines = u.proxyLines := by
  obtain ⟨q, hq⟩ := assemble_ok.mp hi
  obtain ⟨q', hq'⟩ := assemble_ok.mp hj
  obtain ⟨methods, p₁, accessors, p₂, signals, p₃, hm, ha, hs, -, rfl⟩ := yields_interface.mp hq
  obtain ⟨methods', p₁', accessors', p₂', signals', p₃', hm', ha', hs', -, rfl⟩ :=
    yields_interface.mp hq'
  rw [h.name] at hm ha
  -- the two runs claim the same identifiers until they come to the signals
  have hstart : Progress.Alike True {} {} := ⟨fun _ => rfl, rfl⟩
  have hmethodRuns : Related (Progress.Alike True) (Progress.Alike True)
      (List.Forall₂ (Declaration.Alike (fun _ _ => True) True))
      (i.methods.mapM (method a j.name)) (j.methods.mapM (method a j.name)) :=
    Related.mapM (fun _ _ hmn => method_related rfl hmn) h.methods
  have hpropertyRuns : Related (Progress.Alike True) (Progress.Alike True)
      (List.Forall₂ (List.Forall₂ (Declaration.Alike (fun _ _ => True) True)))
      (i.properties.mapM (property a j.name)) (j.properties.mapM (property a j.name)) :=
    Related.mapM (fun _ _ hpq => property_related rfl (fun _ => rfl) trivial hpq) h.properties
  obtain ⟨hmethods, hp₁⟩ := hmethodRuns.yields hstart hm hm'
  obtain ⟨haccessors, -⟩ := hpropertyRuns.yields hp₁ ha ha'
  have hsignals := forall_of_mapM (f := signal a i.name)
    (fun _ _ _ _ hd => (signal_parameters hd).1) hs
  have hsignals' := forall_of_mapM (f := signal a j.name)
    (fun _ _ _ _ hd => (signal_parameters hd).1) hs'
  have hmembers : (methods ++ accessors.flatten).flatMap Declaration.proxyLines =
      (methods' ++ accessors'.flatten).flatMap Declaration.proxyLines :=
    Declaration.flatMap_proxyLines_eq (List.rel_append hmethods (List.rel_flatten haccessors))
  have hlines : (methods ++ accessors.flatten ++ signals).flatMap Declaration.proxyLines =
      (methods' ++ accessors'.flatten ++ signals').flatMap Declaration.proxyLines := by
    rw [Declaration.flatMap_proxyLines_append hsignals,
      Declaration.flatMap_proxyLines_append hsignals', hmembers]
  unfold Trait.proxyLines Trait.name
  simp only [h.name, hlines]

end Assembler

/-- The code of a client shows the calls alone, whatever messages its callers keep. -/
theorem Style.generateInto_of_sameCalls {i j : Interface} {t u : Trait} (h : i.SameCalls j)
    (hi : (Style.proxy.assembler.assemble i).result = .ok t)
    (hj : (Style.proxy.assembler.assemble j).result = .ok u) (messages messages' : List String) :
    ∃ text, ((Style.proxy.generateInto i).calledWith messages).1 = .ok text ∧
      ((Style.proxy.generateInto j).calledWith messages').1 = .ok text := by
  refine ⟨t.source .proxy, ?_, ?_⟩
  · rw [generateInto_calledWith, generate, hi]
    rfl
  · rw [generateInto_calledWith, generate, hj]
    show Except.ok (sourceText u.proxyLines) = Except.ok (sourceText t.proxyLines)
    rw [Assembler.proxyLines_of_sameCalls h hi hj]

/-! ## What comes last -/

/-- An interface with more signals behind its own. -/
def Interface.addSignals (i : Interface) (more : List Signal) : Interface :=
  { i with signals := i.signals ++ more }

theorem Interface.occurrences_addSignals (i : Interface) (more : List Signal) :
    (i.addSignals more).occurrences = i.occurrences ++ more.flatMap Signal.occurrences := by
  unfold occurrences addSignals
  simp only [List.flatMap_append, List.append_assoc]

namespace Assembler

open Assembly

variable {a : Assembler} {i : Interface} {more : List Signal}

theorem survey_addSignals (a : Assembler) (i : Interface) (more : List Signal) :
    (a.assemble (i.addSignals more)).assembler.remarks =
        (survey i.name (i.occurrences ++ more.flatMap Signal.occurrences)).1 ∧
      fault? (a.assemble (i.addSignals more)).result =
        (survey i.name (i.occurrences ++ more.flatMap Signal.occurrences)).2 := by
  have h := assemble_survey a (i.addSignals more)
  rw [Interface.occurrences_addSignals] at h
  exact h

theorem fault?_eq_some_iff {α : Type} {r : Except Fault α} {fault : Fault} :
    fault? r = some fault ↔ r = .error fault := by
  cases r with
  | error f => simp [fault?]
  | ok v => simp [fault?]

/-- An interface that fails does so before any signals that are added. -/
theorem assemble_addSignals_error {fault : Fault} (h : (a.assemble i).result = .error fault) :
    (a.assemble (i.addSignals more)).result = .error fault := by
  have hfault : (survey i.name i.occurrences).2 = some fault := by
    rw [← (assemble_survey a i).2]
    exact fault?_eq_some_iff.mpr h
  rw [← fault?_eq_some_iff, (survey_addSignals a i more).2, survey_append_of_fault hfault, hfault]

/-- Signals that are added are declared and remarked on after everything else. -/
theorem assemble_addSignals_ok {t u : Trait} (ht : (a.assemble i).result = .ok t)
    (hu : (a.assemble (i.addSignals more)).result = .ok u) :
    t.declarations <+: u.declarations ∧ t.remarks <+: u.remarks := by
  constructor
  · obtain ⟨q, hq⟩ := assemble_ok.mp ht
    obtain ⟨q', hq'⟩ := assemble_ok.mp hu
    obtain ⟨methods, p₁, accessors, p₂, signals, p₃, hm, ha, hs, -, rfl⟩ := yields_interface.mp hq
    obtain ⟨methods', p₁', accessors', p₂', signals', p₃', hm', ha', hs', -, rfl⟩ :=
      yields_interface.mp hq'
    obtain ⟨rfl, rfl⟩ := hm.unique hm'
    obtain ⟨rfl, rfl⟩ := ha.unique ha'
    obtain ⟨first, p₄, others, hfirst, -, rfl⟩ := yields_mapM_append.mp hs'
    obtain ⟨rfl, -⟩ := hs.unique hfirst
    exact ⟨others, List.append_assoc _ _ _⟩
  · have hnone : (survey i.name i.occurrences).2 = none := by
      rw [← (assemble_survey a i).2, ht]
      rfl
    rw [assemble_remarks ht, assemble_remarks hu, (assemble_survey a i).1,
      (survey_addSignals a i more).1, survey_append_of_none hnone]
    exact List.prefix_append _ _

/-- **What is not shown and what comes last.** Interfaces with the same calls have the same client,
if they have one at all. In either style, an interface that fails does so with the same fault when
it has more signals behind its own, and what is declared and remarked of it otherwise is followed by
what is declared and remarked of these. -/
theorem assemble_unseen (a : Assembler) (i j : Interface) (more : List Signal) :
    (i.SameCalls j → ∀ t u, (Style.proxy.assembler.assemble i).result = .ok t →
      (Style.proxy.assembler.assemble j).result = .ok u → ∀ messages messages', ∃ text,
        ((Style.proxy.generateInto i).calledWith messages).1 = .ok text ∧
          ((Style.proxy.generateInto j).calledWith messages').1 = .ok text) ∧
    (∀ fault, (a.assemble i).result = .error fault →
      (a.assemble (i.addSignals more)).result = .error fault) ∧
    ∀ t u, (a.assemble i).result = .ok t → (a.assemble (i.addSignals more)).result = .ok u →
      t.declarations <+: u.declarations ∧ t.remarks <+: u.remarks :=
  ⟨fun h _ _ hi hj => Style.generateInto_of_sameCalls h hi hj,
    fun _ => assemble_addSignals_error, fun _ _ => assemble_addSignals_ok⟩

/-- The lamp with other annotations, a name for the output of its method, and another signal. -/
def otherLamp : Interface where
  name := "org.example.Lamp"
  methods := [⟨"GetLevel", [⟨some "Type", "s", .input, [⟨"since", "2"⟩]⟩,
    ⟨some "Level", "u", .output, []⟩], []⟩]
  properties := [⟨"Level", "u", .readWrite, []⟩]
  signals := [⟨"Broken", [], [⟨"since", "2"⟩]⟩]

/-- The client for both lamps. -/
def lampText : String :=
  "#[proxy(interface = \"org.example.Lamp\", assume_defaults = true)]\npub trait Lamp \x7b\n" ++
    "  /// GetLevel method\n  fn get_level(&self, type_: String) -> zbus::Result<u32>;\n\n" ++
    "  /// Level property\n  #[zbus(property)]\n  fn level(&self) -> zbus::Result<u32>;\n\n" ++
    "  /// Set the Level property\n  #[zbus(property)]\n" ++
    "  fn set_level(&self, value: u32) -> zbus::Result<()>;\n\n\x7d\n"

/-- Both lamps have this client. A server for the lamp goes on to have its four declarations and one
remark with a signal added that clashes with all names, and an interface that is torn stays so. -/
theorem lamp_unseen :
    lamp.SameCalls otherLamp ∧
    ((Style.proxy.generateInto otherLamp).calledWith ["earlier"]).1 = .ok lampText ∧
    (assemble { style := .server } (Style.torn.addSignals [⟨"Lit", [], []⟩])).result =
      .error ⟨"org.example.Torn", "Open", .malformed "(i" 2⟩ ∧
    ∃ t u, (assemble { style := .server } lamp).result = .ok t ∧
      (assemble { style := .server } (lamp.addSignals [⟨"Level", [⟨none, "a", .output, []⟩],
        []⟩])).result = .ok u ∧
      t.declarations.length = 4 ∧ u.declarations.length = 5 ∧ u.remarks.length = 2 ∧
      t.declarations <+: u.declarations ∧ t.remarks <+: u.remarks := by
  have hcalls : lamp.SameCalls otherLamp :=
    ⟨rfl, .cons ⟨rfl, .cons ⟨rfl, rfl, trivial⟩ .nil, .cons rfl .nil, trivial⟩ .nil,
      .cons ⟨rfl, rfl, rfl, trivial⟩ .nil⟩
  have hclient : (Style.proxy.assembler.assemble lamp).result.toOption.any (fun _ => true) = true :=
    by decide +kernel
  have hother : (Style.proxy.assembler.assemble otherLamp).result.toOption.any
      (fun _ => true) = true := by
    decide +kernel
  have htext : ((Style.proxy.generateInto lamp).calledWith []).1 = .ok lampText := by
    decide +kernel
  have htorn : (assemble { style := .server } Style.torn).result =
      .error ⟨"org.example.Torn", "Open", .malformed "(i" 2⟩ := by
    decide +kernel
  have hserver : (assemble { style := .server } lamp).result.toOption.any
      (fun t => t.declarations.length == 4) = true := by
    decide +kernel
  have hmore : (assemble { style := .server } (lamp.addSignals [⟨"Level",
      [⟨none, "a", .output, []⟩], []⟩])).result.toOption.any
        (fun u => u.declarations.length == 5 && u.remarks.length == 2) = true := by
    decide +kernel
  obtain ⟨c, hc, -⟩ := exists_trait hclient
  obtain ⟨o, ho, -⟩ := exists_trait hother
  obtain ⟨t, ht, htest⟩ := exists_trait hserver
  obtain ⟨u, hu, hutest⟩ := exists_trait hmore
  rw [Bool.and_eq_true, beq_iff_eq, beq_iff_eq] at hutest
  obtain ⟨text, hl, hol⟩ := (assemble_unseen { style := .proxy } lamp otherLamp []).1 hcalls c o hc
    ho [] ["earlier"]
  rw [htext] at hl
  cases hl
  exact ⟨hcalls, hol, (assemble_unseen _ Style.torn Style.torn _).2.1 _ htorn, t, u, ht, hu,
    beq_iff_eq.mp htest, hutest.1, hutest.2, (assemble_unseen _ lamp lamp _).2.2 t u ht hu⟩

end Assembler

end BusTraits
