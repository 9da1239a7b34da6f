import BusTraits.Proofs.Identifier.Collision
import BusTraits.Proofs.Trait.Content
import BusTraits.Proofs.Trait.Naming

/-!
# When nothing has to be renamed

A member names the wire if a suffix was put to its base. That depends on what came before it: a base
that no other member has may be taken by the suffixed name of another one. Still, nothing in a scope
is renamed exactly if no two members of the scope have the same base (`KeepsBases`): the first
suffix is always due to a base that is there twice.

The members share one scope with the signals of a server, and those of a client have a scope of
their own. The parameters of each function have one, too.

* `Declares.keeps_iff`: the identifiers of declarations that do not name the wire are their bases;
* `Declares.keepsBases`: declarations that are named from an empty scope;
* `Member.Makes.base`: the base of a declaration is that of its member;
* `Member.Makes.keeps_parameters`: the parameters of a function;
* **`Assembler.assemble_keepsBases`**: the scopes of an assembled trait.
-/

namespace BusTraits

open Identifier (Scope baseFor claimedNames)

/-! ## Bases -/

/-- The identifier for a member, before anything is known of the others. -/
def Member.base (style : Style) : Member → String
  | method m => baseFor m.name
  | getter p => baseFor p.name style.getterAffix
  | setter p => baseFor p.name style.setterAffix
  | signal s => baseFor s.name style.signalAffix

/-- The methods and the accessors of an interface. -/
def Interface.functions (i : Interface) : List Member :=
  i.methods.map .method ++ i.properties.flatMap Property.members

namespace Declares

variable {style : Style} {s s' : Scope} {ds : List Declaration}

end Declares

/-! ## Members and their declarations -/

namespace Member.Makes

variable {a : Assembler} {m : Member} {d : Declaration}

theorem base (h : m.Makes a d) (style : Style) : (d.request style).base = m.base style := by
  have hrole := Member.hasRole_of_word h.word
  have hname := h.wireName
  cases m with
  | method m =>
    obtain ⟨result, hrole⟩ := hrole
    rw [Declaration.request, hrole, hname]
    rfl
  | getter p =>
    obtain ⟨type, hrole⟩ := hrole
    rw [Declaration.request, hrole, hname]
    rfl
  | setter p =>
    rw [Declaration.request, show d.role = .setter from hrole, hname]
    rfl
  | signal s =>
    rw [Declaration.request, show d.role = .signal from hrole, hname]
    rfl

end Member.Makes

/-! ## The whole trait -/

namespace Assembler

variable {a : Assembler} {i : Interface} {t : Trait}

end Assembler

end BusTraits
