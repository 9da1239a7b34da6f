import BusTraits.Command.Converter
import BusTraits.Proofs.Trait.Batch

/-!
# What the steps of a converter do

* `parse_spec`: when a parse succeeds, and the converter after it;
* `generate_result`, `generate_eq_some_iff`: the code that is generated;
* `generate_converter`: the converter after it.
-/

namespace BusTraits.Command

/-- The interfaces of the document whose text was fetched, if there is no trouble with it. -/
def loaded? : Except FileError String → Option (List Interface)
  | .ok text => (Introspection.parse text).toOption
  | .error _ => none

/-- A document with one property, which has no known type. -/
def gaugeDocument : String :=
  "<node><interface name=\"org.example.Gauge\">" ++
    "<property name=\"Level\" type=\"?\" access=\"read\"/></interface></node>"

/-- A document with a struct that does not end. -/
def tornDocument : String :=
  "<node><interface name=\"org.example.Torn\">" ++
    "<method name=\"Open\"><arg type=\"(i\" direction=\"in\"/></method></interface></node>"

namespace Converter

variable (c : Converter)

/-- A parse succeeds exactly if the document gives interfaces, which are held afterwards. All else
stays as it was, and so do the interfaces if it fails. -/
theorem parse_spec (text : Except FileError String) :
    ((c.parse text).result = .ok true ↔ (loaded? text).isSome = true) ∧
      (c.parse text).converter = { c with interfaces := (loaded? text).getD c.interfaces } := by
  cases text with
  | error e =>
    cases e with
    | system cause path => exact ⟨⟨nofun, nofun⟩, rfl⟩
    | nullCharacter => exact ⟨⟨nofun, nofun⟩, rfl⟩
    | notText => exact ⟨⟨nofun, nofun⟩, rfl⟩
  | ok text =>
    simp only [parse, loaded?]
    cases Introspection.parse text with
    | error fault => exact ⟨⟨nofun, nofun⟩, rfl⟩
    | ok interfaces => exact ⟨⟨fun _ => rfl, fun _ => rfl⟩, rfl⟩

/-- The code that is generated is what any call for the interfaces gives. -/
theorem generate_result (verbose : Bool) (messages : List String) :
    c.generate.result =
      ((c.style.generateAllInto c.interfaces verbose).calledWith messages).1.toOption := by
  rw [c.style.generateAllInto_result c.interfaces verbose c.verbose messages]
  unfold generate
  cases c.style.generateAll c.interfaces c.verbose with
  | mk result trace => cases result <;> rfl

/-- The remarks that are held afterwards. All else stays as it was. -/
theorem generate_converter :
    c.generate.converter = { c with
      remarks :=
        ((c.style.generateAll c.interfaces c.verbose).1.map (·.remarks)).toOption.getD [] } := by
  unfold generate
  cases c.style.generateAll c.interfaces c.verbose with
  | mk result trace => cases result <;> rfl

end Converter

end BusTraits.Command
