import BusTraits.Proofs.Trait.Batch

/-!
# Using an assembler again

An assembler keeps the remarks on the interface it was given last, also when that failed halfway.
The next assembly begins without them. So an assembler can be given any number of interfaces, one
after another (`Assembler.assembleEach`), and whatever came before and however it ended, each of
them is assembled as a new assembler would do it (`Assembler.fresh`). What has come of an interface
is not changed by those that follow.

* `assemble_fresh`: an assembly does not look at the remarks that the assembler holds;
* `fresh_assemble`: it leaves everything else of the assembler as it was;
* **`Assembler.assembleEach_eq`**: an assembler that is used again and new ones.
-/

namespace BusTraits

namespace Assembler

variable (a : Assembler) (i : Interface)

/-- The assembler as it was before it was given an interface. -/
def fresh : Assembler := { a with remarks := [] }

/-- What comes of interfaces that are given to one assembler, one after another, whether they can be
assembled or not. -/
def assembleEach (a : Assembler) : List Interface → List Outcome
  | [] => []
  | i :: rest =>
    let outcome := a.assemble i
    outcome :: outcome.assembler.assembleEach rest

/-! ## One interface -/

theorem interface_fresh : Assembly.interface a.fresh i = Assembly.interface a i := rfl

/-- The remarks that an assembler holds do not matter. -/
theorem assemble_fresh : a.fresh.assemble i = a.assemble i := by
  unfold assemble
  rw [interface_fresh]
  rfl

/-- An assembler is used up in no way. -/
theorem fresh_assemble : (a.assemble i).assembler.fresh = a.fresh := rfl

/-! ## Any number of interfaces -/

theorem assembleEach_eq_map (is : List Interface) :
    a.assembleEach is = is.map a.fresh.assemble := by
  induction is generalizing a with
  | nil => rfl
  | cons i is ih =>
    show a.assemble i :: (a.assemble i).assembler.assembleEach is = _
    rw [ih, fresh_assemble, List.map_cons, assemble_fresh]

/-- **An assembler that is used again**: every interface comes out as it does from a new assembler
that is given this interface alone, with the same trait and remarks, or the same fault and the
remarks up to it. More interfaces leave what has come of the earlier ones as it is. -/
theorem assembleEach_eq (is later : List Interface) :
    a.assembleEach is = is.map a.fresh.assemble ∧
      a.assembleEach is <+: a.assembleEach (is ++ later) := by
  refine ⟨a.assembleEach_eq_map is, ?_⟩
  rw [assembleEach_eq_map, assembleEach_eq_map, List.map_append]
  exact List.prefix_append _ _

/-- A fault between two assemblies of one interface, with the remarks that are held after each. -/
example : (({ style := .proxy } : Assembler).assembleEach
    [Style.gauge, Style.torn, Style.gauge]).map (·.assembler.remarks) =
      [[⟨"?", .unknownCode '?' 1⟩], [], [⟨"?", .unknownCode '?' 1⟩]] := by
  decide +kernel

end Assembler

end BusTraits
