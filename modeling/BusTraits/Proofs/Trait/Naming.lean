import BusTraits.Proofs.Identifier.Claim
import BusTraits.Proofs.Trait.Run

/-!
# Names of members and of parameters

The declarations of a trait take their identifiers one after another (`Declares`), each for the
request that its role and its name on the bus make. The parameters of a function do the same in a
scope for themselves (`ownNames`).

* `assemble_declares`: the members of an assembled trait take their identifiers in one scope, and
  its signals go on in that scope or begin a new one, as the style says.
* `assemble_ownNames`: the parameters of every declaration are named in a scope of their own.
* `assemble_identifiers_nodup`: no two members share an identifier, nor do two parameters of one
  member.
-/

namespace BusTraits

open Identifier (Scope Request claimAll claimedNames)

/-! ## Requests -/

/-- What a declaration asks for in the scope of the trait. -/
def Declaration.request (style : Style) (d : Declaration) : Request :=
  match d.role with
  | .method _ => { role := .method, name := some d.wireName }
  | .getter _ => { role := .property, name := some d.wireName, affix := style.getterAffix }
  | .setter => { role := .property, name := some d.wireName, affix := style.setterAffix }
  | .signal => { role := .signal, name := some d.wireName, affix := style.signalAffix }

/-- What a parameter asks for in the scope of its function. -/
def Parameter.request (p : Parameter) : Request := { role := .argument, name := p.wireName }

/-- The parameters of a function have the identifiers that an empty scope gives out for the names
of the arguments, or they are the one parameter of a setter. -/
def Declaration.ownNames (d : Declaration) : Prop :=
  d.parameters.map (·.identifier) = claimedNames .empty (d.parameters.map Parameter.request) ∨
    ∃ type, d.isSetter = true ∧ d.parameters = [Assembly.setterParameter type]

/-! ## Declarations, one after another -/

/-- From the scope `s`, the declarations take their identifiers one after another and leave `s'`.
-/
inductive Declares (style : Style) : Scope → List Declaration → Scope → Prop where
  | nil (s : Scope) : Declares style s [] s
  | cons {s s' : Scope} {d : Declaration} {ds : List Declaration} (i : Identifier)
      (claim : i = (s.claim (d.request style).role (d.request style).name
        (d.request style).affix).1)
      (identifier : d.identifier = i.name) (namesWire : d.namesWire = i.diverges)
      (rest : Declares style (s.add i.name) ds s') : Declares style s (d :: ds) s'

namespace Declares

variable {style : Style} {s s₁ s' : Scope} {ds es : List Declaration}

theorem single {d : Declaration} (i : Identifier) {r : Request} (hr : d.request style = r)
    (hc : i = (s.claim r.role r.name r.affix).1) (hi : d.identifier = i.name)
    (hn : d.namesWire = i.diverges) :
    Declares style s [d] (s.claim r.role r.name r.affix).2 := by
  subst hr
  have hadd : (s.claim (d.request style).role (d.request style).name
      (d.request style).affix).2 = s.add i.name := by rw [hc]; rfl
  rw [hadd]
  exact cons i hc hi hn (nil _)

theorem append (h : Declares style s ds s₁) (h' : Declares style s₁ es s') :
    Declares style s (ds ++ es) s' := by
  induction h with
  | nil => exact h'
  | cons i hc hi hn _ ih => exact cons i hc hi hn (ih h')

theorem identifiers (h : Declares style s ds s') :
    ds.map (·.identifier) = claimedNames s (ds.map (·.request style)) := by
  induction h with
  | nil => rfl
  | cons i hc hi _ _ ih =>
    subst hc
    rw [List.map_cons, List.map_cons, Identifier.claimedNames_cons, hi, ih]
    rfl

/-- A declaration that does not name the wire has the base of its request. -/
theorem identifier_eq_base (h : Declares style s ds s') :
    ∀ d ∈ ds, d.namesWire = false → d.identifier = (d.request style).base := by
  induction h with
  | nil => exact fun _ h => absurd h List.not_mem_nil
  | cons i hc hi hn _ ih =>
    intro e he hw
    rcases List.mem_cons.mp he with rfl | he
    · rw [hn] at hw
      rw [hi, Identifier.name_eq_base hw, hc]
      rfl
    · exact ih e he hw

end Declares

/-! ## What the parts of an assembly declare -/

namespace Assembly

variable {a : Assembler} {context : RustType.Context} {interface member : String}
  {p q : Progress}

theorem method_declares {m : Method} {d : Declaration} (h : Yields (method a interface m) p d q) :
    Declares a.style p.scope [d] q.scope := by
  obtain ⟨i, ps, p₁, results, hi, hps, hrs, rfl⟩ := yields_method.mp h
  have hq : q.scope = (claimed p .method m.name "").scope := by
    rw [kept_of_mapM (·.scope) (fun _ _ _ _ hr => rustType_scope hr) hrs, parameters_scope hps,
      told_scope]
  rw [hq]
  exact Declares.single (r := ⟨.method, some m.name, ""⟩) i rfl hi rfl rfl

theorem getter_declares {type : String} {pr : Property} {d : Declaration}
    (h : Yields (getter a type pr) p d q) : Declares a.style p.scope [d] q.scope := by
  obtain ⟨i, hi, rfl, rfl⟩ := yields_getter.mp h
  rw [told_scope]
  exact Declares.single (r := ⟨.property, some pr.name, a.style.getterAffix⟩) i rfl hi rfl rfl

theorem setter_declares {type : String} {pr : Property} {d : Declaration}
    (h : Yields (setter a type pr) p d q) : Declares a.style p.scope [d] q.scope := by
  obtain ⟨i, hi, rfl, rfl⟩ := yields_setter.mp h
  rw [told_scope]
  exact Declares.single (r := ⟨.property, some pr.name, a.style.setterAffix⟩) i rfl hi rfl rfl

theorem property_declares {pr : Property} {ds : List Declaration}
    (h : Yields (property a interface pr) p ds q) : Declares a.style p.scope ds q.scope := by
  obtain ⟨type, p₁, getters, p₂, setters, ht, hg, hs, rfl⟩ := yields_property.mp h
  have hgetters : Declares a.style p.scope getters p₂.scope := by
    rw [← rustType_scope ht]
    rcases hg with ⟨-, d, hd, rfl⟩ | ⟨-, rfl, rfl⟩
    · exact getter_declares hd
    · exact Declares.nil _
  have hsetters : Declares a.style p₂.scope setters q.scope := by
    rcases hs with ⟨-, d, hd, rfl⟩ | ⟨-, rfl, rfl⟩
    · exact setter_declares hd
    · exact Declares.nil _
  exact hgetters.append hsetters

theorem signal_declares {s : Signal} {d : Declaration} (h : Yields (signal a interface s) p d q) :
    Declares a.style p.scope [d] q.scope := by
  obtain ⟨i, ps, hi, hps, rfl⟩ := yields_signal.mp h
  rw [parameters_scope hps, told_scope]
  exact Declares.single (r := ⟨.signal, some s.name, a.style.signalAffix⟩) i rfl hi rfl rfl

/-- What one part declares, a run over a list of parts declares one after another. -/
theorem mapM_declares {α β : Type} {style : Style} {f : α → Assembly β} {g : β → List Declaration}
    (hf : ∀ x p w q, Yields (f x) p w q → Declares style p.scope (g w) q.scope) :
    ∀ {xs : List α} {p : Progress} {ws : List β} {q : Progress},
      Yields (xs.mapM f) p ws q → Declares style p.scope (ws.flatMap g) q.scope
  | [], _, _, _, h => by
    obtain ⟨rfl, rfl⟩ := yields_mapM_nil.mp h
    exact Declares.nil _
  | x :: xs, _, _, _, h => by
    obtain ⟨w, p₁, vs, hx, hxs, rfl⟩ := yields_mapM_cons.mp h
    rw [List.flatMap_cons]
    exact (hf x _ w p₁ hx).append (mapM_declares hf hxs)

/-! ## Roles and parameters -/

/-- Parameters are named by the claims of their arguments, of which each keeps its name. -/
theorem parameters_names :
    ∀ {arguments : List Argument} {scope : Scope} {p q : Progress} {ps : List Parameter},
      Yields (parameters context interface member scope arguments) p ps q →
        ps.map (·.wireName) = arguments.map (·.name) ∧
        ps.map (·.identifier) = claimedNames scope (ps.map Parameter.request)
  | [], _, _, _, _, h => by
    obtain ⟨rfl, -⟩ := yields_parameters_nil.mp h
    exact ⟨rfl, rfl⟩
  | argument :: rest, _, _, _, _, h => by
    obtain ⟨type, p₁, others, -, ho, rfl⟩ := yields_parameters_cons.mp h
    obtain ⟨hw, hi⟩ := parameters_names ho
    constructor
    · rw [List.map_cons, List.map_cons, hw]
    · rw [List.map_cons, List.map_cons, Identifier.claimedNames_cons, hi]
      rfl

/-- A method is no signal and names its parameters in a scope of their own. -/
theorem method_parameters {m : Method} {d : Declaration}
    (h : Yields (method a interface m) p d q) : d.isSignal = false ∧ d.ownNames := by
  obtain ⟨i, ps, p₁, results, -, hps, -, rfl⟩ := yields_method.mp h
  exact ⟨rfl, Or.inl (parameters_names hps).2⟩

theorem property_parameters {pr : Property} {ds : List Declaration}
    (h : Yields (property a interface pr) p ds q) :
    ∀ d ∈ ds, d.isSignal = false ∧ d.ownNames := by
  obtain ⟨type, p₁, getters, p₂, setters, -, hg, hs, rfl⟩ := yields_property.mp h
  intro d hd
  rcases List.mem_append.mp hd with hd | hd
  · rcases hg with ⟨-, e, he, rfl⟩ | ⟨-, rfl, -⟩
    · obtain ⟨i, -, -, rfl⟩ := yields_getter.mp he
      rw [List.mem_singleton.mp hd]
      exact ⟨rfl, Or.inl rfl⟩
    · exact absurd hd List.not_mem_nil
  · rcases hs with ⟨-, e, he, rfl⟩ | ⟨-, rfl, -⟩
    · obtain ⟨i, -, -, rfl⟩ := yields_setter.mp he
      rw [List.mem_singleton.mp hd]
      exact ⟨rfl, Or.inr ⟨type, rfl, rfl⟩⟩
    · exact absurd hd List.not_mem_nil

theorem signal_parameters {s : Signal} {d : Declaration} (h : Yields (signal a interface s) p d q) :
    d.isSignal = true ∧ d.parameters.map (·.wireName) = s.arguments.map (·.name) ∧
      d.parameters.map (·.identifier) =
        claimedNames .empty (d.parameters.map Parameter.request) := by
  obtain ⟨i, ps, -, hps, rfl⟩ := yields_signal.mp h
  exact ⟨rfl, parameters_names hps⟩

end Assembly

/-! ## The whole trait -/

namespace Assembler

open Assembly

variable {a : Assembler} {i : Interface} {t : Trait}

/-- The scope with which the signals begin when the members have left `s`. -/
def signalScope (style : Style) (s : Scope) : Scope :=
  if style.signalsAreMembers then s else .empty

theorem entered_scope (style : Style) (p : Progress) :
    (entered style p).scope = signalScope style p.scope := by
  unfold entered signalScope
  split <;> rfl

/-- **The parts of an assembled trait**: first the methods and accessors, then one declaration for
each signal, all of them named one after another. -/
theorem assemble_declares (h : (a.assemble i).result = .ok t) :
    ∃ members s s',
      t.declarations = members ++ t.signals ∧
      (∀ d ∈ members, d.isSignal = false ∧ d.ownNames) ∧
      List.Forall₂ (fun (e : Signal) d => d.isSignal = true ∧
        d.parameters.map (·.wireName) = e.arguments.map (·.name) ∧
        d.parameters.map (·.identifier) =
          claimedNames .empty (d.parameters.map Parameter.request)) i.signals t.signals ∧
      Declares a.style .empty members s ∧
      Declares a.style (signalScope a.style s) t.signals s' := by
  obtain ⟨q, hq⟩ := assemble_ok.mp h
  obtain ⟨methods, p₁, accessors, p₂, signals, p₃, hm, ha, hs, -, rfl⟩ := yields_interface.mp hq
  have hmembers : ∀ d ∈ methods ++ accessors.flatten, d.isSignal = false ∧ d.ownNames := by
    intro d hd
    rcases List.mem_append.mp hd with hd | hd
    · exact forall_of_mapM (f := method a i.name) (fun _ _ _ _ h => method_parameters h) hm d hd
    · obtain ⟨ds, hds, hd⟩ := List.mem_flatten.mp hd
      have hp := forall_of_mapM (f := property a i.name)
        (fun _ _ _ _ h => property_parameters h) ha
      exact hp ds hds d hd
  have hsignals := forall₂_of_mapM (f := signal a i.name) (fun _ _ _ _ h => signal_parameters h) hs
  have hall : ∀ d ∈ signals, d.isSignal = true :=
    forall_of_mapM (f := signal a i.name) (fun _ _ _ _ h => (signal_parameters h).1) hs
  -- the filter that finds the signals of the trait drops the members and keeps the rest
  have hfilter : (methods ++ accessors.flatten ++ signals).filter Declaration.isSignal =
      signals := by
    have hnone : (methods ++ accessors.flatten).filter Declaration.isSignal = [] :=
      List.filter_eq_nil_iff.mpr fun d hd => by rw [(hmembers d hd).1]; exact Bool.false_ne_true
    rw [List.filter_append, hnone, List.filter_eq_self.mpr hall, List.nil_append]
  have hdm := mapM_declares (f := method a i.name) (g := fun d => [d])
    (fun _ _ _ _ h => method_declares h) hm
  have hda := mapM_declares (f := property a i.name) (g := fun ds => ds)
    (fun _ _ _ _ h => property_declares h) ha
  have hds := mapM_declares (f := signal a i.name) (g := fun d => [d])
    (fun _ _ _ _ h => signal_declares h) hs
  rw [List.flatMap_singleton'] at hdm hds
  rw [List.flatMap_id'] at hda
  rw [entered_scope] at hds
  unfold Trait.signals
  rw [hfilter]
  exact ⟨methods ++ accessors.flatten, p₂.scope, p₃.scope, rfl, hmembers, hsignals, hdm.append hda,
    hds⟩

/-- The parameters of every declaration are named in a scope of their own. -/
theorem assemble_ownNames (h : (a.assemble i).result = .ok t) :
    ∀ d ∈ t.declarations, d.ownNames := by
  obtain ⟨members, s, s', hd, hmembers, hsignals, -, -⟩ := assemble_declares h
  have hs : ∀ d ∈ t.signals, d.ownNames := by
    intro d hd
    obtain ⟨e, -, -, -, hnames⟩ := exists_of_forall₂ hsignals d hd
    exact Or.inl hnames
  intro d hmem
  rw [hd] at hmem
  rcases List.mem_append.mp hmem with hmem | hmem
  · exact (hmembers d hmem).2
  · exact hs d hmem

/-! ## No identifier twice -/

/-- **No identifier twice in one place.** In the trait of a server all declarations have different
identifiers; in that of a client the methods and accessors have, and so have the signals, which
are no members there. In both, so have the parameters of every declaration. -/
theorem assemble_identifiers_nodup (h : (a.assemble i).result = .ok t) :
    (a.style = .server → (t.declarations.map (·.identifier)).Nodup) ∧
      (a.style = .proxy →
        ((t.declarations.filter fun d => !d.isSignal).map (·.identifier)).Nodup ∧
          (t.signals.map (·.identifier)).Nodup) ∧
      ∀ d ∈ t.declarations, (d.parameters.map (·.identifier)).Nodup := by
  obtain ⟨members, s, s', hd, hmembers, -, hm, hs⟩ := assemble_declares h
  refine ⟨fun hstyle => ?_, fun hstyle => ?_, fun d hmem => ?_⟩
  · -- the signals of a server go on in the scope of the members
    rw [hstyle, show signalScope .server s = s from rfl] at hs
    rw [hstyle] at hm
    rw [hd, (hm.append hs).identifiers]
    exact Identifier.claimAll_nodup _ _
  · have hfilter : (t.declarations.filter fun d => !d.isSignal) = members := by
      have hnone : (t.signals.filter fun d => !d.isSignal) = [] :=
        List.filter_eq_nil_iff.mpr fun d hmem => by simp [(List.mem_filter.mp hmem).2]
      rw [hd, List.filter_append, hnone, List.append_nil]
      exact List.filter_eq_self.mpr fun d hmem => by rw [(hmembers d hmem).1]; rfl
    rw [hfilter, hm.identifiers, hs.identifiers]
    exact ⟨Identifier.claimAll_nodup _ _, Identifier.claimAll_nodup _ _⟩
  · rcases assemble_ownNames h d hmem with hnames | ⟨type, -, hsetter⟩
    · rw [hnames]
      exact Identifier.claimAll_nodup _ _
    · rw [hsetter]
      exact List.nodup_singleton _

/-- An interface in which suffixes, affixes and missing names all clash. -/
def crowded : Interface where
  name := "org.example.Crowded"
  methods := [⟨"Foo", [⟨none, "s", .input, []⟩, ⟨some "Arg", "i", .input, []⟩], []⟩,
    ⟨"foo_2", [], []⟩, ⟨"foo", [], []⟩, ⟨"SetFoo", [], []⟩, ⟨"EmitFoo", [], []⟩]
  properties := [⟨"Foo", "s", .readWrite, []⟩, ⟨"foo", "u", .readWrite, []⟩]
  signals := [⟨"Foo", [⟨some "Arg", "s", .output, []⟩, ⟨none, "s", .output, []⟩], []⟩,
    ⟨"foo", [], []⟩]

/-- Its eleven declarations for a server, `set_foo_prop2` and `emit_foo_3` among them. -/
theorem crowded_identifiers_nodup :
    ∃ t, (assemble { style := .server } crowded).result = .ok t ∧
      t.declarations.length = 11 ∧ (t.declarations.map (·.identifier)).Nodup := by
  have hrun : (assemble { style := .server } crowded).result.toOption.any
      (fun t => t.declarations.length == 11) = true := by decide +kernel
  obtain ⟨t, ht, hlength⟩ := exists_trait hrun
  exact ⟨t, ht, beq_iff_eq.mp hlength, (assemble_identifiers_nodup ht).1 rfl⟩

end Assembler

end BusTraits
