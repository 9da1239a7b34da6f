/-!
# Types of the bus

A signature such as `a{sv}` spells one type: a basic type has a code of its own, `a` starts an
array, `a{kv}` is a dictionary and parentheses hold the fields of a struct. `BusType` is the tree
behind the text. `unknown` stands where a signature names no type that is known, or stops before
naming one.

* `Primitive.ofCode?_code`: the codes of the basic types are pairwise different.
* `BusType.same_iff`: the comparison of two trees is equality, which makes it decidable.
-/

namespace BusTraits

/-- The basic types, each with a code of one letter. -/
inductive Primitive where
  | byte
  | boolean
  | int16
  | uint16
  | int32
  | uint32
  | int64
  | uint64
  | double
  | string
  | objectPath
  | signature
  | variant
  deriving DecidableEq, Repr

namespace Primitive

/-- The letter that stands for a basic type in a signature. -/
def code : Primitive → Char
  | byte => 'y'
  | boolean => 'b'
  | int16 => 'n'
  | uint16 => 'q'
  | int32 => 'i'
  | uint32 => 'u'
  | int64 => 'x'
  | uint64 => 't'
  | double => 'd'
  | string => 's'
  | objectPath => 'o'
  | signature => 'g'
  | variant => 'v'

/-- The basic type of a letter, if it has one. -/
def ofCode? : Char → Option Primitive
  | 'y' => some byte
  | 'b' => some boolean
  | 'n' => some int16
  | 'q' => some uint16
  | 'i' => some int32
  | 'u' => some uint32
  | 'x' => some int64
  | 't' => some uint64
  | 'd' => some double
  | 's' => some string
  | 'o' => some objectPath
  | 'g' => some signature
  | 'v' => some variant
  | _ => none

theorem ofCode?_code (p : Primitive) : ofCode? p.code = some p := by
  cases p <;> rfl

/-- The name of a basic type in an outline. -/
def outlineName : Primitive → String
  | byte => "BYTE"
  | boolean => "BOOLEAN"
  | int16 => "INT16"
  | uint16 => "UINT16"
  | int32 => "INT32"
  | uint32 => "UINT32"
  | int64 => "INT64"
  | uint64 => "UINT64"
  | double => "DOUBLE"
  | string => "STRING"
  | objectPath => "OBJECT_PATH"
  | signature => "SIGNATURE"
  | variant => "VARIANT"

end Primitive

/-- The type that a signature spells. -/
inductive BusType where
  | prim (kind : Primitive)
  | array (element : BusType)
  | dict (key value : BusType)
  | struct (fields : List BusType)
  | unknown
  deriving Repr, Inhabited

namespace BusType

/-! ## Equality -/

mutual

/-- Whether two types have the same tree. -/
def same : BusType → BusType → Bool
  | prim p, prim q => p == q
  | array s, array t => same s t
  | dict k v, dict l w => same k l && same v w
  | struct ss, struct ts => sameFields ss ts
  | unknown, unknown => true
  | _, _ => false

/-- Whether two lists of fields have the same trees in the same order. -/
def sameFields : List BusType → List BusType → Bool
  | [], [] => true
  | s :: ss, t :: ts => same s t && sameFields ss ts
  | _, _ => false

end

mutual

theorem same_iff (s t : BusType) : same s t = true ↔ s = t := by
  cases s <;> cases t <;> simp [same, same_iff, sameFields_iff]

theorem sameFields_iff (ss ts : List BusType) : sameFields ss ts = true ↔ ss = ts := by
  cases ss <;> cases ts <;> simp [sameFields, same_iff, sameFields_iff]

end

instance : DecidableEq BusType := fun s t => decidable_of_iff _ (same_iff s t)

/-! ## Outline -/

mutual

/-- The tree of a type, written out node by node. -/
def outline : BusType → String
  | prim p => "Primitive(" ++ p.outlineName ++ ")"
  | array t => "Sequence(" ++ outline t ++ ")"
  | dict k v => "Mapping(" ++ outline k ++ ", " ++ outline v ++ ")"
  | struct ts => "Tuple_([" ++ ", ".intercalate (outlines ts) ++ "])"
  | unknown => "Unknown()"

/-- The outlines of the fields of a struct. -/
def outlines : List BusType → List String
  | [] => []
  | t :: ts => outline t :: outlines ts

end

end BusType

end BusTraits
