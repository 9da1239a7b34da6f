import BusTraits.Proofs.Identifier.Reserved
import BusTraits.Proofs.Identifier.Shape
import BusTraits.Proofs.Trait.Run

/-!
# The identifiers of a trait can be written

The declarations of a trait come from the members of the interface in order, with their names and
those of their arguments (`Interface.origins`). Whatever these are, the identifiers are no keywords,
and those made from ASCII names have the shape of an identifier.

* `parameters_fit`, `method_named`, `property_named`, `signal_named`: what each part of an assembly
  makes of its names;
* **`Assembler.assemble_named`**: the same for the whole trait.
-/

namespace BusTraits

open Identifier (Scope Role isAscii isShaped keywords)

/-! ## Names and what is made of them -/

/-- What an identifier made from a name has to be: no keyword, and of the right shape if the name is
ASCII or missing. -/
def Identifier.Fits (name : Option String) (identifier : String) : Prop :=
  identifier ∉ keywords ∧
    ((∀ n ∈ name, isAscii n = true) → isShaped identifier.toList = true)

theorem Identifier.claim_fits (s : Scope) (role : Role) (name : Option String) (affix : String)
    (haffix : affix ∈ ["", "get_", "set_", "emit_"]) :
    Fits name (s.claim role name affix).1.name :=
  ⟨claim_not_mem_keywords s role name affix, claim_isShaped s role haffix⟩

/-- The names that a declaration is made from: that of the member and those of the arguments that
become parameters. -/
structure Origin where
  member : String
  arguments : List (Option String)

def Method.origin (m : Method) : Origin := ⟨m.name, m.inputs.map (·.name)⟩

/-- The accessors of a property, of which the setter has an argument of a fixed name. -/
def Property.origins (p : Property) : List Origin :=
  (if p.access.readable then [⟨p.name, []⟩] else []) ++
    if p.access.writable then [⟨p.name, [some "value"]⟩] else []

def Signal.origin (s : Signal) : Origin := ⟨s.name, s.arguments.map (·.name)⟩

/-- The names for the declarations of an interface, in their order. -/
def Interface.origins (i : Interface) : List Origin :=
  i.methods.map Method.origin ++ i.properties.flatMap Property.origins ++
    i.signals.map Signal.origin

/-- A declaration of the member with fitting identifiers for it and for each of its parameters. -/
structure Declaration.Named (o : Origin) (d : Declaration) : Prop where
  wireName : d.wireName = o.member
  identifier : Identifier.Fits (some o.member) d.identifier
  parameters : List.Forall₂ (fun name (p : Parameter) => Identifier.Fits name p.identifier)
    o.arguments d.parameters

/-! ## The parts of an assembly -/

namespace Assembly

variable {a : Assembler} {context : RustType.Context} {interface member : String}
  {p q : Progress}

theorem parameters_fit :
    ∀ {arguments : List Argument} {scope : Scope} {p q : Progress} {ps : List Parameter},
      Yields (parameters context interface member scope arguments) p ps q →
        List.Forall₂ (fun name (p : Parameter) => Identifier.Fits name p.identifier)
          (arguments.map (·.name)) ps
  | [], _, _, _, _, h => by
    obtain ⟨rfl, -⟩ := yields_parameters_nil.mp h
    exact List.Forall₂.nil
  | argument :: rest, scope, _, _, _, h => by
    obtain ⟨type, p₁, others, -, ho, rfl⟩ := yields_parameters_cons.mp h
    exact List.Forall₂.cons (Identifier.claim_fits scope .argument argument.name "" (by decide))
      (parameters_fit ho)

theorem method_named {m : Method} {d : Declaration} (h : Yields (method a interface m) p d q) :
    d.Named m.origin := by
  obtain ⟨i, ps, p₁, results, rfl, hps, -, rfl⟩ := yields_method.mp h
  exact ⟨rfl, Identifier.claim_fits _ _ _ _ (by decide), parameters_fit hps⟩

theorem getter_named {type : String} {pr : Property} {d : Declaration}
    (h : Yields (getter a type pr) p d q) : d.Named ⟨pr.name, []⟩ := by
  obtain ⟨i, rfl, -, rfl⟩ := yields_getter.mp h
  exact ⟨rfl, Identifier.claim_fits _ _ _ _ (by cases a.style <;> decide), List.Forall₂.nil⟩

theorem setter_named {type : String} {pr : Property} {d : Declaration}
    (h : Yields (setter a type pr) p d q) : d.Named ⟨pr.name, [some "value"]⟩ := by
  obtain ⟨i, rfl, -, rfl⟩ := yields_setter.mp h
  have hvalue : Identifier.Fits (some "value") (setterParameter type).identifier :=
    Identifier.claim_fits .empty .argument (some "value") "" (by decide)
  exact ⟨rfl, Identifier.claim_fits _ _ _ _ (by cases a.style <;> decide),
    List.Forall₂.cons hvalue List.Forall₂.nil⟩

/-- An accessor, if the property has it. -/
theorem accessor_named {c : Bool} {o : Origin} {x : Assembly Declaration} {ds : List Declaration}
    (hx : ∀ {d}, Yields x p d q → d.Named o)
    (h : (c = true ∧ ∃ d, Yields x p d q ∧ ds = [d]) ∨ (c = false ∧ ds = [] ∧ q = p)) :
    List.Forall₂ Declaration.Named (if c then [o] else []) ds := by
  rcases h with ⟨rfl, d, hd, rfl⟩ | ⟨rfl, rfl, -⟩
  · exact List.Forall₂.cons (hx hd) List.Forall₂.nil
  · exact List.Forall₂.nil

theorem property_named {pr : Property} {ds : List Declaration}
    (h : Yields (property a interface pr) p ds q) :
    List.Forall₂ Declaration.Named pr.origins ds := by
  obtain ⟨type, p₁, getters, p₂, setters, -, hg, hs, rfl⟩ := yields_property.mp h
  exact List.rel_append (accessor_named getter_named hg) (accessor_named setter_named hs)

theorem signal_named {s : Signal} {d : Declaration} (h : Yields (signal a interface s) p d q) :
    d.Named s.origin := by
  obtain ⟨i, ps, rfl, hps, rfl⟩ := yields_signal.mp h
  exact ⟨rfl, Identifier.claim_fits _ _ _ _ (by cases a.style <;> decide), parameters_fit hps⟩

end Assembly

/-! ## The whole trait -/

namespace Assembler

open Assembly

variable {a : Assembler} {i : Interface} {t : Trait}

/-- **All identifiers of a trait can be written**: those of its declarations and of their
parameters, in both styles and after any number of collisions. -/
theorem assemble_named (h : (a.assemble i).result = .ok t) :
    List.Forall₂ Declaration.Named i.origins t.declarations := by
  obtain ⟨q, hq⟩ := assemble_ok.mp h
  obtain ⟨methods, p₁, accessors, p₂, signals, p₃, hm, ha, hs, -, rfl⟩ := yields_interface.mp hq
  have hmethods := forall₂_of_mapM (f := method a i.name) (fun _ _ _ _ h => method_named h) hm
  have haccessors := forall₂_of_mapM (f := property a i.name)
    (fun _ _ _ _ h => property_named h) ha
  have hsignals := forall₂_of_mapM (f := signal a i.name) (fun _ _ _ _ h => signal_named h) hs
  refine List.rel_append (List.rel_append ?_ ?_) ?_
  · exact List.forall₂_map_left_iff.mpr hmethods
  · exact List.rel_flatten (List.forall₂_map_left_iff.mpr haccessors)
  · exact List.forall₂_map_left_iff.mpr hsignals

/-- An interface of names that begin with a digit, are keywords or have no letter at all. -/
def odd : Interface where
  name := "org.example.Odd"
  methods := [⟨"2ndTry", [⟨some "type", "s", .input, []⟩, ⟨none, "u", .input, []⟩], []⟩,
    ⟨"---", [], []⟩, ⟨"type", [], []⟩, ⟨"type_", [], []⟩]
  properties := [⟨"_", "s", .readWrite, []⟩]
  signals := [⟨"Größe", [⟨some "3", "s", .output, []⟩], []⟩]

/-- Its seven declarations, among them `_2nd_try`, `arg`, `type__2`, `arg_prop` and `größe`. -/
theorem odd_named :
    ∃ t, (assemble { style := .proxy } odd).result = .ok t ∧ t.declarations.length = 7 ∧
      List.Forall₂ Declaration.Named odd.origins t.declarations := by
  have hrun : (assemble { style := .proxy } odd).result.toOption.any
      (fun t => t.declarations.length == 7) = true := by decide +kernel
  obtain ⟨t, ht, hlength⟩ := exists_trait hrun
  exact ⟨t, ht, beq_iff_eq.mp hlength, assemble_named ht⟩

end Assembler

end BusTraits
