import BusTraits.Trait.Function

/-!
# Client traits

The trait of a client has a function for each method and each accessor. Signals are left out.
-/

namespace BusTraits

namespace Declaration

/-- The function line of a client. -/
def proxyFunction (d : Declaration) (returnType : String) : String :=
  "  fn " ++ d.identifier ++ "(" ++ Parameter.listAfter "&self" d.parameters ++ ") -> " ++
    resultType returnType ++ ";"

/-- The attribute that makes a function the accessor of a property. -/
def proxyAttribute (d : Declaration) : String :=
  if d.namesWire then "  #[zbus(property, name = \"" ++ d.wireName ++ "\")]"
  else "  #[zbus(property)]"

/-- The lines of a declaration in the trait of a client. -/
def proxyLines (d : Declaration) : List String :=
  match d.role with
  | .method result =>
    ["  /// " ++ d.wireName ++ " method"] ++
      (if d.namesWire then ["  #[zbus(name = \"" ++ d.wireName ++ "\")]"] else []) ++
      [d.proxyFunction result, ""]
  | .getter type =>
    ["  /// " ++ d.wireName ++ " property", d.proxyAttribute, d.proxyFunction type, ""]
  | .setter =>
    ["  /// Set the " ++ d.wireName ++ " property", d.proxyAttribute,
      d.proxyFunction RustType.unit, ""]
  | .signal => []

end Declaration

/-- The lines of the trait of a client. -/
def Trait.proxyLines (t : Trait) : List String :=
  ["#[proxy(interface = \"" ++ t.interface ++ "\", assume_defaults = true)]",
    "pub trait " ++ t.name ++ " \x7b"] ++
    t.declarations.flatMap Declaration.proxyLines ++ ["\x7d"]

end BusTraits
