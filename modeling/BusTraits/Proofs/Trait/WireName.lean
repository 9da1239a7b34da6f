import BusTraits.Proofs.Identifier.PlainCase
import BusTraits.Proofs.Trait.Naming

/-!
# Members that do not name the wire

In the trait of a client, a member whose identifier is the base of its name is written without its
name on the bus, which is then up to plain case conversion of the identifier. Whether that gives
the right name does not depend on the other members: it does for the plain names, and `GetURL`,
say, is taken for `GetUrl`.

* **`Assembler.plainName_iff`**: a member that does not name the wire is found under its name on
  the bus exactly if that name is plain.
-/

namespace BusTraits

namespace Declaration

/-- The name that plain case conversion gives for the identifier of a declaration. The affix of a
setter is no part of it. -/
def plainName (d : Declaration) : String :=
  String.ofList (Identifier.plainCase
    (if d.isSetter then Identifier.withoutAffix "set_".toList d.identifier.toList
    else d.identifier.toList))

/-- A member of a client's trait with the base of its name as its identifier. -/
theorem plainName_iff_of_base {d : Declaration} (hs : d.isSignal = false)
    (hb : d.identifier = (d.request .proxy).base) :
    d.plainName = d.wireName ↔ Identifier.isPlain d.wireName.toList = true := by
  have hlist : ∀ text : List Char, String.ofList text = d.wireName ↔ text = d.wireName.toList := by
    intro text
    rw [← String.toList_inj, String.toList_ofList]
  rw [plainName, hlist, hb, Identifier.Request.base]
  cases hrole : d.role with
  | method result =>
    have hsetter : d.isSetter = false := by rw [isSetter, hrole]
    have hrequest : d.request .proxy = ⟨.method, some d.wireName, ""⟩ := by rw [request, hrole]
    rw [hsetter, if_neg Bool.false_ne_true, hrequest]
    exact Identifier.plainCase_base_iff d.wireName
  | getter type =>
    have hsetter : d.isSetter = false := by rw [isSetter, hrole]
    have hrequest : d.request .proxy = ⟨.property, some d.wireName, ""⟩ := by
      rw [request, hrole, Style.getterAffix]
    rw [hsetter, if_neg Bool.false_ne_true, hrequest]
    exact Identifier.plainCase_base_iff d.wireName
  | setter =>
    have hsetter : d.isSetter = true := by rw [isSetter, hrole]
    have hrequest : d.request .proxy = ⟨.property, some d.wireName, "set_"⟩ := by
      rw [request, hrole, Style.setterAffix]
    rw [hsetter, if_pos rfl, hrequest]
    exact Identifier.plainCase_setter_iff d.wireName
  | signal =>
    rw [isSignal, hrole] at hs
    cases hs

end Declaration

namespace Assembler

variable {a : Assembler} {i : Interface} {t : Trait}

/-- **Members that do not name the wire**: plain case conversion gives their name on the bus
exactly if that name is plain. -/
theorem plainName_iff (hstyle : a.style = .proxy) (h : (a.assemble i).result = .ok t) :
    ∀ d ∈ t.declarations, d.isSignal = false → d.namesWire = false →
      (d.plainName = d.wireName ↔ Identifier.isPlain d.wireName.toList = true) := by
  obtain ⟨members, s, s', hd, -, -, hm, -⟩ := assemble_declares h
  rw [hstyle] at hm
  intro d hmem hs hw
  rw [hd] at hmem
  rcases List.mem_append.mp hmem with hmem | hmem
  · exact Declaration.plainName_iff_of_base hs (hm.identifier_eq_base d hmem hw)
  · rw [(List.mem_filter.mp hmem).2] at hs
    cases hs

/-- An interface with a plain name and an acronym in another one. -/
def fetch : Interface where
  name := "org.example.Fetch"
  methods := [⟨"GetAll", [], []⟩, ⟨"GetURL", [], []⟩]

/-- The plain one of its two names is given back, the other one is not. -/
theorem fetch_plainName_iff :
    ∃ t, (assemble { style := .proxy } fetch).result = .ok t ∧
      ∀ d ∈ t.declarations, d.plainName = d.wireName ↔ d.wireName = "GetAll" := by
  have hrun : (assemble { style := .proxy } fetch).result.toOption.any (fun t =>
      t.declarations.all fun d => !d.isSignal && !d.namesWire &&
        (Identifier.isPlain d.wireName.toList == (d.wireName == "GetAll"))) = true := by
    decide +kernel
  obtain ⟨t, ht, hall⟩ := exists_trait hrun
  refine ⟨t, ht, fun d hd => ?_⟩
  have hone := List.all_eq_true.mp hall d hd
  simp only [Bool.and_eq_true, Bool.not_eq_true', beq_iff_eq] at hone
  rw [plainName_iff rfl ht d hd hone.1.1 hone.1.2, hone.2, beq_iff_eq]

/-- The method `GetURL` of this interface is written as `get_url`, without its name on the bus, and
taken for `GetUrl`. -/
theorem fetch_taken_for_other :
    ∃ t, (assemble { style := .proxy } fetch).result = .ok t ∧
      ∃ d ∈ t.declarations, d.isSignal = false ∧ d.namesWire = false ∧ d.identifier = "get_url" ∧
        d.wireName = "GetURL" ∧ d.plainName = "GetUrl" ∧ d.plainName ≠ d.wireName := by
  have hrun : (assemble { style := .proxy } fetch).result.toOption.any (fun t =>
      t.declarations.any fun d => !d.isSignal && !d.namesWire && d.identifier == "get_url" &&
        d.wireName == "GetURL" && d.plainName == "GetUrl") = true := by
    decide +kernel
  obtain ⟨t, ht, hany⟩ := exists_trait hrun
  obtain ⟨d, hd, hone⟩ := List.any_eq_true.mp hany
  simp only [Bool.and_eq_true, Bool.not_eq_true', beq_iff_eq] at hone
  obtain ⟨⟨⟨⟨hsignal, hwire⟩, hidentifier⟩, hname⟩, hplain⟩ := hone
  exact ⟨t, ht, d, hd, hsignal, hwire, hidentifier, hname, hplain, by rw [hplain, hname]; decide⟩

end Assembler

end BusTraits
