import BusTraits.Text.Alphanumeric
import BusTraits.Text.Quoted

/-!
# Arguments

The arguments of the command are options and at most one value, the input. Options may come before
and after it. They have long names, which may be cut short as long as one name is meant, and some
have a letter. Letters may stand together after one hyphen. The option for the output takes a
value: the rest of its argument, or else the next one. After two hyphens there are only values.

Arguments are told apart first, each by itself (`Item.ofArgument`), and then gone through in order
(`Options.consume`). What cannot be used is collected and reported at the end, unless help was
asked for or another fault came first.
-/

namespace BusTraits.Command

/-! ## Options -/

/-- The options that take no value. -/
inductive Flag where
  | help
  | server
  | verbose
  deriving DecidableEq, Repr

/-- The options of the command. -/
inductive Switch where
  | flag (flag : Flag)
  | output
  deriving DecidableEq, Repr

namespace Switch

/-- The ways to write the options, in the order of the help text. -/
def spellings : List (String × Switch) := [
  ("-h", flag .help), ("--help", flag .help), ("--server", flag .server), ("--output", output),
  ("-o", output), ("--verbose", flag .verbose), ("-v", flag .verbose)]

/-- The name of an option in an error message. -/
def title : Switch → String
  | flag .help => "-h/--help"
  | flag .server => "--server"
  | output => "--output/-o"
  | flag .verbose => "--verbose/-v"

/-- The option that a letter stands for. -/
def ofLetter? (c : Char) : Option Switch := spellings.lookup (String.ofList ['-', c])

end Switch

/-- What is wrong with the arguments. -/
inductive UsageError where
  | ambiguous (argument : String) (candidates : List String)
  | unusedValue (switch : Switch) (value : String)
  | valueMissing (switch : Switch)
  | unrecognized (arguments : List String)
  deriving DecidableEq, Repr

/-- The line that tells the user of wrong arguments. -/
def UsageError.message : UsageError → String
  | ambiguous argument candidates =>
    "ambiguous option: " ++ argument ++ " could match " ++ ", ".intercalate candidates
  | unusedValue switch value =>
    "argument " ++ switch.title ++ ": ignored explicit argument " ++ Text.quoted value
  | valueMissing switch => "argument " ++ switch.title ++ ": expected one argument"
  | unrecognized arguments => "unrecognized arguments: " ++ " ".intercalate arguments

/-! ## Telling arguments apart -/

/-- What an argument holds beside the name of an option. -/
inductive Attachment where
  | nothing
  /-- What stands after an equals sign. -/
  | value (text : String)
  /-- What stands directly after a letter. -/
  | letters (text : List Char)
  deriving DecidableEq, Repr

/-- An argument by itself. -/
inductive Item where
  | value (text : String)
  /-- Two hyphens, after which there are only values. -/
  | hyphens
  | option (switch : Switch) (attached : Attachment)
  | unknown (text : String)
  deriving DecidableEq, Repr

namespace Item

/-- Whether a text is a negative number, perhaps with a line feed after it. -/
def isNegative (text : List Char) : Bool :=
  match text with
  | '-' :: rest =>
    let number := if rest.getLast? = some '\n' then rest.dropLast else rest
    let whole := number.takeWhile Text.isDecimal
    match number.dropWhile Text.isDecimal with
    | [] => !whole.isEmpty
    | '.' :: fraction => !fraction.isEmpty && fraction.all Text.isDecimal
    | _ => false
  | _ => false

/-- What stands before the first equals sign of a text, and what after it. -/
def cutAtEquals (text : List Char) : List Char × Attachment :=
  match text.dropWhile (· ≠ '=') with
  | [] => (text, .nothing)
  | _ :: after => (text.takeWhile (· ≠ '='), .value (String.ofList after))

/-- An argument that starts with a hyphen but names no option. It may still be a value. -/
def ofOther (argument : String) : Item :=
  if isNegative argument.toList || argument.toList.contains ' ' then .value argument
  else .unknown argument

/-- An argument that starts with a hyphen and is not the whole name of an option. -/
def ofHyphened (argument : String) : Except UsageError Item :=
  let (name, attached) := cutAtEquals argument.toList
  match attached, Switch.spellings.lookup (String.ofList name) with
  | .value text, some switch => .ok (.option switch (.value text))
  | _, _ =>
    match argument.toList with
    | '-' :: '-' :: _ =>
      match Switch.spellings.filter fun (spelling, _) => name.isPrefixOf spelling.toList with
      | [] => .ok (ofOther argument)
      | [(_, switch)] => .ok (.option switch attached)
      | candidates => .error (.ambiguous argument (candidates.map Prod.fst))
    | _ :: c :: rest =>
      match Switch.ofLetter? c with
      | some switch => .ok (.option switch (.letters rest))
      | none => .ok (ofOther argument)
    | _ => .ok (.value argument)

/-- An argument by itself, other than two hyphens. -/
def ofArgument (argument : String) : Except UsageError Item :=
  if argument.toList.head? ≠ some '-' then .ok (.value argument)
  else
    match Switch.spellings.lookup argument with
    | some switch => .ok (.option switch .nothing)
    | none => ofHyphened argument

/-- The arguments one by one. -/
def ofArguments : List String → Except UsageError (List Item)
  | [] => .ok []
  | argument :: rest => do
    if argument = "--" then return .hyphens :: rest.map .value
    let item ← ofArgument argument
    return item :: (← ofArguments rest)

end Item

/-! ## Going through them -/

/-- What the arguments ask for. -/
structure Options where
  input : Option String := none
  output : Option String := none
  server : Bool := false
  verbose : Bool := false
  deriving DecidableEq, Repr

/-- What arguments come to that do not ask for a conversion. -/
inductive Interruption where
  | help
  | usage (error : UsageError)
  deriving DecidableEq, Repr

/-- What one argument with options comes to: flags, and what follows the last of them. -/
structure Cluster where
  flags : List Flag
  /-- The value of the output, where it is in the same argument. -/
  output : Option String := none
  /-- Whether the next argument is to be the value of the output. -/
  outputWanted : Bool := false
  /-- What has no use. -/
  unused : List String := []
  deriving DecidableEq, Repr

namespace Cluster

/-- Puts a flag in front. -/
def cons (flag : Flag) (c : Cluster) : Cluster := { c with flags := flag :: c.flags }

/-- An option without a value. -/
def ofSwitch : Switch → Cluster
  | .flag flag => { flags := [flag] }
  | .output => { flags := [], outputWanted := true }

/-- An option with what stands after an equals sign. -/
def ofValue (value : String) : Switch → Except UsageError Cluster
  | .output => .ok { flags := [], output := some value }
  | switch => .error (.unusedValue switch value)

/-- An option with what stands directly after its letter: the value of the output, or more
letters. -/
def ofLetters : List Char → Switch → Except UsageError Cluster
  | [], switch => .ok (ofSwitch switch)
  | text, .output => .ok { flags := [], output := some (String.ofList text) }
  | c :: rest, .flag flag =>
    if c = '-' then .error (.unusedValue (.flag flag) (String.ofList (c :: rest)))
    else
      match Switch.ofLetter? c with
      | none => .ok { flags := [flag], unused := [String.ofList ('-' :: c :: rest)] }
      | some next =>
        match rest with
        | '=' :: value => (ofValue (String.ofList value) next).map (cons flag)
        | rest => (ofLetters rest next).map (cons flag)

/-- An option with what is attached to it. -/
def ofOption (switch : Switch) : Attachment → Except UsageError Cluster
  | .nothing => .ok (ofSwitch switch)
  | .value text => ofValue text switch
  | .letters text => ofLetters text switch

end Cluster

namespace Options

/-- Turns flags on. Help interrupts everything. -/
def turnOn (o : Options) : List Flag → Except Interruption Options
  | [] => .ok o
  | .help :: _ => .error .help
  | .server :: rest => turnOn { o with server := true } rest
  | .verbose :: rest => turnOn { o with verbose := true } rest

/-- Goes through the arguments, of which `settled` says that the input is known already. Beside
the options, it gives the arguments that have no use. -/
def consume (o : Options) (settled : Bool) : List Item → Except Interruption (Options × List String)
  | [] => .ok (o, [])
  | .value text :: rest =>
    if settled then keep [text] (consume o true rest)
    else
      match rest with
      | .hyphens :: rest => consume { o with input := some text } true rest
      | rest => consume { o with input := some text } true rest
  | .hyphens :: rest =>
    if settled then keep ["--"] (consume o true rest)
    else
      match rest with
      | .value text :: rest => consume { o with input := some text } true rest
      | rest => consume o true rest
  | .unknown text :: rest => keep [text] (consume o settled rest)
  | .option switch attached :: rest =>
    match Cluster.ofOption switch attached with
    | .error e => .error (.usage e)
    | .ok cluster =>
      if cluster.outputWanted then
        match rest with
        | .value text :: rest =>
          match o.turnOn cluster.flags with
          | .error i => .error i
          | .ok o => consume { o with output := some text } settled rest
        | _ => .error (.usage (.valueMissing .output))
      else
        match o.turnOn cluster.flags with
        | .error i => .error i
        | .ok o =>
          keep cluster.unused (consume { o with output := cluster.output.or o.output } settled rest)
where
  /-- Puts arguments in front of those that have no use. -/
  keep (texts : List String) :
      Except Interruption (Options × List String) → Except Interruption (Options × List String)
    | .error i => .error i
    | .ok (o, unused) => .ok (o, texts ++ unused)

/-- What the arguments of the command ask for. -/
def parse (arguments : List String) : Except Interruption Options :=
  match Item.ofArguments arguments with
  | .error e => .error (.usage e)
  | .ok items =>
    match consume {} false items with
    | .error i => .error i
    | .ok (o, []) => .ok o
    | .ok (_, unused) => .error (.usage (.unrecognized unused))

end Options

/-! ## Texts for the user -/

/-- How the command is used. -/
def usageText : String :=
  "usage: zbus_xmlgen.py [-h] [--server] [--output OUTPUT] [--verbose] [input]\n"

/-- The answer to wrong arguments. -/
def UsageError.text (e : UsageError) : String :=
  usageText ++ "zbus_xmlgen.py: error: " ++ e.message ++ "\n"

/-- The answer when help is asked for. -/
def helpText : String :=
  usageText ++
  "\n" ++
  "Generate zbus Rust traits from D-Bus introspection XML\n" ++
  "\n" ++
  "positional arguments:\n" ++
  "  input                 Introspection XML file (defaults to stdin)\n" ++
  "\n" ++
  "options:\n" ++
  "  -h, --help            show this help message and exit\n" ++
  "  --server              Generate server traits (default is client proxies)\n" ++
  "  --output OUTPUT, -o OUTPUT\n" ++
  "                        Write generated code to this file instead of stdout\n" ++
  "  --verbose, -v         Enable verbose output for debugging\n"

end BusTraits.Command
