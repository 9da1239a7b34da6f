import BusTraits.Signature.Parser

/-!
# Rust types

The type of a signature written as a type of Rust. Strings and containers are owned; object paths,
signatures and variants borrow, so they name a lifetime. The lifetime and the name of the map type
come from a `Context`, since a signal emitter borrows for another lifetime than a method does.

A struct is a tuple, except that one with a single field is that field. Nothing tells an unknown
type from a variant.
-/

namespace BusTraits

namespace RustType

/-- What depends on where a type is written. -/
structure Context where
  lifetime : String := "'_"
  mapType : String := "std::collections::HashMap"
  deriving DecidableEq, Repr

/-- The type of nothing. -/
def unit : String := "()"

/-- The type of several values together. -/
def tuple : List String → String
  | [] => unit
  | [t] => t
  | ts => "(" ++ ", ".intercalate ts ++ ")"

end RustType

/-- The Rust type of a basic type. -/
def Primitive.toRust (lifetime : String) : Primitive → String
  | byte => "u8"
  | boolean => "bool"
  | int16 => "i16"
  | uint16 => "u16"
  | int32 => "i32"
  | uint32 => "u32"
  | int64 => "i64"
  | uint64 => "u64"
  | double => "f64"
  | string => "String"
  | objectPath => "zbus::zvariant::ObjectPath<" ++ lifetime ++ ">"
  | signature => "zbus::zvariant::Signature<" ++ lifetime ++ ">"
  | variant => "zbus::zvariant::Value<" ++ lifetime ++ ">"

namespace BusType

mutual

/-- The Rust type of a type of the bus. -/
def toRust (context : RustType.Context) : BusType → String
  | prim p => p.toRust context.lifetime
  | array t => "Vec<" ++ toRust context t ++ ">"
  | dict k v => context.mapType ++ "<" ++ toRust context k ++ ", " ++ toRust context v ++ ">"
  | struct ts => RustType.tuple (fieldsToRust context ts)
  | unknown => Primitive.variant.toRust context.lifetime

/-- The Rust types of the fields of a struct. -/
def fieldsToRust (context : RustType.Context) : List BusType → List String
  | [] => []
  | t :: ts => toRust context t :: fieldsToRust context ts

end

end BusType

namespace RustType

/-- The Rust type that a signature asks for, and the remarks made in reading it. -/
def ofSignature (context : Context) (signature : String) :
    Except Signature.Error (String × List Signature.Remark) :=
  (Signature.parse signature).map fun reading => (reading.type.toRust context, reading.remarks)

end RustType

end BusTraits
