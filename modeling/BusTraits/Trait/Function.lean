import BusTraits.Trait.Basic

/-!
# Parts of a generated function

The comments and the parameter list of a generated function. A comment takes one line: a line feed
in the value of an annotation is written as a backslash and an `n`.
-/

namespace BusTraits

/-- A text with every line feed written as a backslash and an `n`. -/
def escapeLineFeeds (text : String) : String :=
  String.ofList (text.toList.flatMap fun c => if c = '\n' then ['\\', 'n'] else [c])

/-- An annotation as it stands in a comment. -/
def Annotation.comment (a : Annotation) : String :=
  "[annotation] " ++ a.name ++ " = \"" ++ escapeLineFeeds a.value ++ "\""

/-- The comment lines for annotations. -/
def annotationComments (indent : String) (annotations : List Annotation) : List String :=
  annotations.map fun a => indent ++ "/// " ++ a.comment

namespace Parameter

/-- The name of a parameter in a comment. -/
def commentName (p : Parameter) : String :=
  match p.wireName with
  | none | some "" => "unnamed"
  | some name => name

/-- The comment lines for the annotations of parameters. -/
def comments (indent : String) (parameters : List Parameter) : List String :=
  parameters.flatMap fun p =>
    p.annotations.map fun a => indent ++ "/// [arg: " ++ p.commentName ++ "] " ++ a.comment

/-- Parameters with their types, between commas. -/
def list (parameters : List Parameter) : String :=
  ", ".intercalate (parameters.map fun p => p.identifier ++ ": " ++ p.rustType)

/-- Parameters after a receiver. -/
def listAfter (receiver : String) (parameters : List Parameter) : String :=
  if parameters.isEmpty then receiver else receiver ++ ", " ++ list parameters

end Parameter

/-- The type of a call that may fail. -/
def resultType (type : String) : String := "zbus::Result<" ++ type ++ ">"

/-- Lines as a text that ends with a line feed. -/
def sourceText (lines : List String) : String := "\n".intercalate lines ++ "\n"

end BusTraits
