import BusTraits.Text.Quoted

/-!
# Scopes

A scope holds the identifiers that are taken in one place: the members of a trait, or the
parameters of one of them. Every name is in it once.

* `Scope.mem_add`: adding a name takes that name and no other.
* `Scope.size_add`: a free name makes the scope larger by one.
-/

namespace BusTraits.Identifier

/-- The names that are taken, each of them once. -/
structure Scope where
  names : List String
  nodup : names.Nodup

namespace Scope

/-- The scope in which every name is free. -/
def empty : Scope := ⟨[], List.nodup_nil⟩

instance : Inhabited Scope := ⟨empty⟩

instance : Membership String Scope := ⟨fun s name => name ∈ s.names⟩

theorem mem_iff {s : Scope} {name : String} : name ∈ s ↔ name ∈ s.names := Iff.rfl

instance (s : Scope) (name : String) : Decidable (name ∈ s) :=
  inferInstanceAs (Decidable (name ∈ s.names))

/-- The number of names that are taken. -/
def size (s : Scope) : Nat := s.names.length

/-- Takes a name. -/
def add (s : Scope) (name : String) : Scope :=
  if h : name ∈ s then s else ⟨name :: s.names, List.nodup_cons.2 ⟨h, s.nodup⟩⟩

/-- The scope with these names taken. -/
def ofList (names : List String) : Scope := names.foldl add empty

theorem mem_add {s : Scope} {name other : String} :
    other ∈ s.add name ↔ other = name ∨ other ∈ s := by
  unfold add
  split
  · rename_i h
    constructor
    · exact Or.inr
    · rintro (rfl | h')
      · exact h
      · exact h'
  · exact List.mem_cons

theorem size_add {s : Scope} {name : String} (h : name ∉ s) : (s.add name).size = s.size + 1 := by
  simp [add, h, size]

/-- The names that are taken, in the order of their code points. -/
def sorted (s : Scope) : List String := s.names.mergeSort fun a b => decide (a ≤ b)

/-- A scope and its label, written out. -/
def outline (label : String) (s : Scope) : String :=
  "NamingScope(label=" ++ Text.quoted label ++ ", names=" ++
    Text.bracketed (s.sorted.map Text.quoted) ++ ")"

end Scope

end BusTraits.Identifier
