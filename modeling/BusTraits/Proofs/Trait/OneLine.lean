import BusTraits.Proofs.Identifier.Shape
import BusTraits.Proofs.Text.Lines
import BusTraits.Proofs.Text.LowerCase
import BusTraits.Proofs.Trait.Binding
import BusTraits.Trait.Proxy

/-!
# Functions are written on one line

Of the names in a document, those that become identifiers are folded to letters, numerals and
underscores first, and signatures become types with words of our own. So whatever the names are,
there is no line feed in the line of a function.

* `claim_isOneLine`: no identifier has a line feed in it;
* `toRust_isOneLine`: no type has, if its context has none;
* `assemble_isOneLine`: nor do the parts of a declaration that its function is written with;
* `proxyFunction_isOneLine`, `serverFunction_isOneLine`, `emitterFunction_isOneLine`: nor does the
  function.
-/

namespace BusTraits

/-! ## Identifiers -/

namespace Identifier

open Text

theorem foldCase_isOneLine (name : String) : IsOneLine (foldCase name) := by
  refine isOneLine_intercalate (by decide) fun t ht => ?_
  obtain ⟨w, hw, rfl⟩ := List.mem_map.mp ht
  exact isOneLine_ofList.mpr (not_mem_lowerAfter [] (fun c hc => ((mem_words hw).2 c hc).2)
    (by decide +kernel) (by decide))

theorem started_isOneLine (name : Option String) : IsOneLine (started name) := by
  have hfolded : IsOneLine ((name.map foldCase).getD "") := by
    cases name with
    | none => decide
    | some n => exact foldCase_isOneLine n
  rw [started]
  split
  · decide
  · split
    · exact isOneLine_append.mpr ⟨by decide, hfolded⟩
    · exact hfolded

theorem suffix_isOneLine (role : Role) (n : Nat) : IsOneLine (suffix role n) := fun h =>
  absurd (List.all_eq_true.mp (all_isPart_suffix role n) _ h) (by decide)

/-- **No identifier has a line feed in it.** -/
theorem claim_isOneLine (s : Scope) (role : Role) (name : Option String) (affix : String)
    (haffix : IsOneLine affix) : IsOneLine (s.claim role name affix).1.name := by
  obtain ⟨k, -, hname, -, -⟩ := claim_spec s role name affix
  have hbase : IsOneLine (baseFor name affix) := by
    rw [baseFor_eq, escapeKeyword]
    have hword := isOneLine_append.mpr ⟨haffix, started_isOneLine name⟩
    split
    · exact isOneLine_append.mpr ⟨hword, by decide⟩
    · exact hword
  rw [hname, candidate_eq, isOneLine_append]
  exact ⟨hbase, suffix_isOneLine role k⟩

end Identifier

/-! ## Types -/

/-- A context that is written on one line. -/
structure RustType.Context.OnOneLine (context : RustType.Context) : Prop where
  lifetime : IsOneLine context.lifetime
  mapType : IsOneLine context.mapType

variable {context : RustType.Context}

theorem Primitive.toRust_isOneLine {lifetime : String} (h : IsOneLine lifetime) (p : Primitive) :
    IsOneLine (p.toRust lifetime) := by
  have hborrows : ∀ name : String, IsOneLine name → IsOneLine (name ++ lifetime ++ ">") :=
    fun name hname => isOneLine_append.mpr ⟨isOneLine_append.mpr ⟨hname, h⟩, by decide⟩
  cases p with
  | objectPath => exact hborrows "zbus::zvariant::ObjectPath<" (by decide)
  | signature => exact hborrows "zbus::zvariant::Signature<" (by decide)
  | variant => exact hborrows "zbus::zvariant::Value<" (by decide)
  | byte => exact show IsOneLine "u8" by decide
  | boolean => exact show IsOneLine "bool" by decide
  | int16 => exact show IsOneLine "i16" by decide
  | uint16 => exact show IsOneLine "u16" by decide
  | int32 => exact show IsOneLine "i32" by decide
  | uint32 => exact show IsOneLine "u32" by decide
  | int64 => exact show IsOneLine "i64" by decide
  | uint64 => exact show IsOneLine "u64" by decide
  | double => exact show IsOneLine "f64" by decide
  | string => exact show IsOneLine "String" by decide

theorem RustType.tuple_isOneLine {ts : List String} (h : ∀ t ∈ ts, IsOneLine t) :
    IsOneLine (RustType.tuple ts) := by
  unfold RustType.tuple
  split
  · decide
  · exact h _ List.mem_cons_self
  · rw [isOneLine_append, isOneLine_append]
    exact ⟨⟨by decide, isOneLine_intercalate (by decide) h⟩, by decide⟩

mutual

theorem BusType.toRust_isOneLine (h : context.OnOneLine) :
    ∀ t : BusType, IsOneLine (t.toRust context)
  | .prim p => p.toRust_isOneLine h.lifetime
  | .array t => by
    rw [BusType.toRust, isOneLine_append, isOneLine_append]
    exact ⟨⟨by decide, toRust_isOneLine h t⟩, by decide⟩
  | .dict k v => by
    simp only [BusType.toRust, isOneLine_append]
    exact ⟨⟨⟨⟨⟨h.mapType, by decide⟩, toRust_isOneLine h k⟩, by decide⟩,
      toRust_isOneLine h v⟩, by decide⟩
  | .struct ts => RustType.tuple_isOneLine (fieldsToRust_isOneLine h ts)
  | .unknown => Primitive.variant.toRust_isOneLine h.lifetime

theorem BusType.fieldsToRust_isOneLine (h : context.OnOneLine) :
    ∀ ts : List BusType, ∀ s ∈ BusType.fieldsToRust context ts, IsOneLine s
  | [] => fun _ hs => absurd hs List.not_mem_nil
  | t :: ts => List.forall_mem_cons.mpr ⟨toRust_isOneLine h t, fieldsToRust_isOneLine h ts⟩

end

theorem RustType.ofSignature_isOneLine (h : context.OnOneLine) {signature type : String}
    {remarks : List Signature.Remark} (ht : ofSignature context signature = .ok (type, remarks)) :
    IsOneLine type := by
  unfold ofSignature at ht
  cases hs : Signature.parse signature with
  | error e =>
    rw [hs] at ht
    cases ht
  | ok reading =>
    rw [hs] at ht
    cases ht
    exact reading.type.toRust_isOneLine h

/-! ## Declarations -/

/-- A parameter that is written on one line. -/
structure Parameter.OnOneLine (p : Parameter) : Prop where
  identifier : IsOneLine p.identifier
  rustType : IsOneLine p.rustType

/-- A declaration whose function is written on one line. -/
structure Declaration.OnOneLine (d : Declaration) : Prop where
  identifier : IsOneLine d.identifier
  parameters : ∀ p ∈ d.parameters, p.OnOneLine
  result : ∀ type ∈ d.role.returnType?, IsOneLine type

namespace Assembly

variable {a : Assembler} {interface member : String} {p q : Progress}

theorem rustType_isOneLine (hcontext : context.OnOneLine) {signature type : String}
    (h : Yields (rustType context interface member signature) p type q) : IsOneLine type := by
  obtain ⟨remarks, hparse, -⟩ := yields_rustType.mp h
  exact RustType.ofSignature_isOneLine hcontext hparse

theorem parameters_isOneLine (hcontext : context.OnOneLine) :
    ∀ {arguments : List Argument} {scope : Identifier.Scope} {p q : Progress} {ps : List Parameter},
      Yields (parameters context interface member scope arguments) p ps q →
        ∀ p ∈ ps, p.OnOneLine
  | [], _, _, _, _, h => by
    obtain ⟨rfl, -⟩ := yields_parameters_nil.mp h
    exact fun _ hp => absurd hp List.not_mem_nil
  | argument :: rest, scope, _, _, _, h => by
    obtain ⟨type, p₁, others, ht, ho, rfl⟩ := yields_parameters_cons.mp h
    have hidentifier := Identifier.claim_isOneLine scope .argument argument.name "" (by decide)
    exact List.forall_mem_cons.mpr ⟨⟨hidentifier, rustType_isOneLine hcontext ht⟩,
      parameters_isOneLine hcontext ho⟩

theorem method_isOneLine (hcontext : a.context.OnOneLine) {m : Method} {d : Declaration}
    (h : Yields (method a interface m) p d q) : d.OnOneLine := by
  obtain ⟨i, ps, p₁, results, rfl, hps, hrs, rfl⟩ := yields_method.mp h
  have hresults := forall_of_mapM
    (f := fun o : Argument => rustType a.context interface m.name o.signature)
    (fun _ _ _ _ hr => rustType_isOneLine hcontext hr) hrs
  refine ⟨Identifier.claim_isOneLine _ _ _ _ (by decide), parameters_isOneLine hcontext hps, ?_⟩
  rintro _ ⟨⟩
  exact RustType.tuple_isOneLine hresults

theorem getter_isOneLine {type : String} (htype : IsOneLine type) {pr : Property}
    {d : Declaration} (h : Yields (getter a type pr) p d q) : d.OnOneLine := by
  obtain ⟨i, rfl, -, rfl⟩ := yields_getter.mp h
  refine ⟨Identifier.claim_isOneLine _ _ _ _ (by cases a.style <;> decide),
    fun _ hp => absurd hp List.not_mem_nil, ?_⟩
  rintro _ ⟨⟩
  exact htype

theorem setter_isOneLine {type : String} (htype : IsOneLine type) {pr : Property}
    {d : Declaration} (h : Yields (setter a type pr) p d q) : d.OnOneLine := by
  obtain ⟨i, rfl, -, rfl⟩ := yields_setter.mp h
  have hvalue : (setterParameter type).OnOneLine := by
    rw [setterParameter_eq]
    exact ⟨show IsOneLine "value" by decide, htype⟩
  refine ⟨Identifier.claim_isOneLine _ _ _ _ (by cases a.style <;> decide),
    List.forall_mem_singleton.mpr hvalue, ?_⟩
  rintro _ ⟨⟩
  decide

/-- An accessor, if the property has it. -/
theorem accessor_isOneLine {c : Bool} {x : Assembly Declaration} {ds : List Declaration}
    (hx : ∀ {d}, Yields x p d q → d.OnOneLine)
    (h : (c = true ∧ ∃ d, Yields x p d q ∧ ds = [d]) ∨ (c = false ∧ ds = [] ∧ q = p)) :
    ∀ d ∈ ds, d.OnOneLine := by
  rcases h with ⟨-, d, hd, rfl⟩ | ⟨-, rfl, -⟩
  · exact List.forall_mem_singleton.mpr (hx hd)
  · exact fun _ hd => absurd hd List.not_mem_nil

theorem property_isOneLine (hcontext : a.context.OnOneLine) {pr : Property}
    {ds : List Declaration} (h : Yields (property a interface pr) p ds q) :
    ∀ d ∈ ds, d.OnOneLine := by
  obtain ⟨type, p₁, getters, p₂, setters, ht, hg, hs, rfl⟩ := yields_property.mp h
  have htype := rustType_isOneLine hcontext ht
  exact List.forall_mem_append.mpr ⟨accessor_isOneLine (getter_isOneLine htype) hg,
    accessor_isOneLine (setter_isOneLine htype) hs⟩

theorem signal_isOneLine (hcontext : a.signalContext.OnOneLine) {s : Signal} {d : Declaration}
    (h : Yields (signal a interface s) p d q) : d.OnOneLine := by
  obtain ⟨i, ps, rfl, hps, rfl⟩ := yields_signal.mp h
  exact ⟨Identifier.claim_isOneLine _ _ _ _ (by cases a.style <;> decide),
    parameters_isOneLine hcontext hps, fun _ ht => nomatch ht⟩

end Assembly

/-- **The functions of a trait are written on one line**, whatever names its interface has. -/
theorem Assembler.assemble_isOneLine {a : Assembler} {i : Interface} {t : Trait}
    (hcontext : a.context.OnOneLine) (hsignal : a.signalContext.OnOneLine)
    (h : (a.assemble i).result = .ok t) : ∀ d ∈ t.declarations, d.OnOneLine := by
  obtain ⟨q, hq⟩ := assemble_ok.mp h
  obtain ⟨methods, p₁, accessors, p₂, signals, p₃, hm, ha, hs, -, rfl⟩ :=
    Assembly.yields_interface.mp hq
  have hmethods := Assembly.forall_of_mapM (f := Assembly.method a i.name)
    (fun _ _ _ _ h => Assembly.method_isOneLine hcontext h) hm
  have haccessors := Assembly.forall_of_mapM (f := Assembly.property a i.name)
    (fun _ _ _ _ h => Assembly.property_isOneLine hcontext h) ha
  have hsignals := Assembly.forall_of_mapM (f := Assembly.signal a i.name)
    (fun _ _ _ _ h => Assembly.signal_isOneLine hsignal h) hs
  refine List.forall_mem_append.mpr ⟨List.forall_mem_append.mpr ⟨hmethods, ?_⟩, hsignals⟩
  intro d hd
  obtain ⟨ds, hds, hmem⟩ := List.mem_flatten.mp hd
  exact haccessors ds hds d hmem

/-! ## Functions -/

theorem Parameter.listAfter_isOneLine {receiver : String} {ps : List Parameter}
    (hreceiver : IsOneLine receiver) (h : ∀ p ∈ ps, p.OnOneLine) :
    IsOneLine (listAfter receiver ps) := by
  rw [listAfter_eq]
  refine isOneLine_intercalate (by decide) (List.forall_mem_cons.mpr ⟨hreceiver, ?_⟩)
  intro t ht
  obtain ⟨p, hp, rfl⟩ := List.mem_map.mp ht
  rw [isOneLine_append, isOneLine_append]
  exact ⟨⟨(h p hp).identifier, by decide⟩, (h p hp).rustType⟩

theorem resultType_isOneLine {type : String} (h : IsOneLine type) :
    IsOneLine (resultType type) := by
  rw [resultType, isOneLine_append, isOneLine_append]
  exact ⟨⟨by decide, h⟩, by decide⟩

namespace Declaration

variable {d : Declaration} {type : String}

theorem proxyFunction_isOneLine (hd : d.OnOneLine) (htype : IsOneLine type) :
    IsOneLine (d.proxyFunction type) := by
  simp only [proxyFunction, isOneLine_append]
  exact ⟨⟨⟨⟨⟨⟨by decide, hd.identifier⟩, by decide⟩,
    Parameter.listAfter_isOneLine (by decide) hd.parameters⟩, by decide⟩,
      resultType_isOneLine htype⟩, by decide⟩

theorem serverFunction_isOneLine {receiver : String} (hreceiver : IsOneLine receiver)
    (hd : d.OnOneLine) (htype : IsOneLine type) :
    IsOneLine (d.serverFunction receiver type) := by
  simp only [serverFunction, isOneLine_append]
  exact ⟨⟨⟨⟨⟨⟨by decide, hd.identifier⟩, by decide⟩,
    Parameter.listAfter_isOneLine hreceiver hd.parameters⟩, by decide⟩,
      resultType_isOneLine htype⟩, by decide⟩

theorem emitterFunction_isOneLine (hd : d.OnOneLine) : IsOneLine d.emitterFunction := by
  simp only [emitterFunction, isOneLine_append]
  exact ⟨⟨⟨⟨by decide, hd.identifier⟩, by decide⟩,
    Parameter.listAfter_isOneLine (by decide) hd.parameters⟩, by decide⟩

end Declaration

end BusTraits
