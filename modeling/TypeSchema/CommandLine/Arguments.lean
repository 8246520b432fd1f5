/-!
# Arguments of the command line

Two arguments stand for themselves: the graph files and the type names.  Everything else is an option
with a value or a flag, in a long spelling after two dashes or a short one after one dash; short ones
may be written together.  After `--` every argument stands for itself.  No option and no flag may be
given twice.
-/

set_option autoImplicit false

namespace TypeSchema.CommandLine

/-- The options that take a value. -/
inductive ValueOption
  | optionsFile
  | specFile
  | output
deriving DecidableEq, Repr

/-- The options that take none. -/
inductive Flag
  | schemaOnly
  | verbose
  | help
  | version
deriving DecidableEq, Repr

/-- An option. -/
inductive Switch
  | value (option : ValueOption)
  | flag (flag : Flag)
deriving DecidableEq, Repr

/-- The options by their long and short spellings. -/
def switches : List (String × Char × Switch) :=
  [ ("options-file", 'p', .value .optionsFile),
    ("spec-file", 's', .value .specFile),
    ("schema-only", 'e', .flag .schemaOnly),
    ("output", 'o', .value .output),
    ("verbose", 'v', .flag .verbose),
    ("help", 'h', .flag .help),
    ("version", 'V', .flag .version) ]

/-- The option with the long spelling. -/
def longSwitch? (name : String) : Option Switch :=
  (switches.find? fun s => s.1 == name).map fun s => s.2.2

/-- The option with the short spelling. -/
def shortSwitch? (letter : Char) : Option Switch :=
  (switches.find? fun s => s.2.1 == letter).map fun s => s.2.2

/-- Why arguments were refused, or what was asked for instead of a run. -/
inductive UsageFault
  | missingArgument
  | unknownArgument
  | unneededValue
  | invalidValue
  | repeated
  | helpAsked
  | versionAsked
deriving DecidableEq, Repr

/-- The arguments of a run. -/
structure Arguments where
  graphFiles : String
  typeNames : String
  optionsFile : Option String
  specFile : Option String
  schemaOnly : Bool
  output : Option String
  verbose : Bool
deriving DecidableEq, Repr

/-- What was read so far.  The last option with a value is `pending`, with its value once it was met;
it is only looked at when the next option or argument makes sure that nothing more belongs to it. -/
structure Scan where
  plain : List String := []
  values : List (ValueOption × String) := []
  flags : List Flag := []
  pending : Option (ValueOption × Option String) := none

namespace Scan

/-- Whether the option was given. -/
def hasValue (scan : Scan) (option : ValueOption) : Bool :=
  scan.values.any fun given => given.1 == option

/-- Enters an option with its value, which may not be empty. -/
def enter (scan : Scan) (option : ValueOption) (value : String) : Except UsageFault Scan :=
  if scan.hasValue option then .error .repeated
  else if value.isEmpty then .error .invalidValue
  else .ok { scan with values := scan.values ++ [(option, value)] }

/-- Enters the pending option. -/
def settle (scan : Scan) : Except UsageFault Scan :=
  match scan.pending with
  | none => .ok scan
  | some (_, none) => .error .invalidValue
  | some (option, some value) => { scan with pending := none }.enter option value

/-- Enters a flag. -/
def raise (scan : Scan) (flag : Flag) : Except UsageFault Scan := do
  let settled ← scan.settle
  match flag with
  | .help => throw .helpAsked
  | .version => throw .versionAsked
  | _ =>
    if settled.flags.contains flag then throw .repeated
    else return { settled with flags := settled.flags ++ [flag] }

/-- Enters an option whose value is attached, or waits for its value. -/
def give (scan : Scan) (option : ValueOption) (attached : Option String) :
    Except UsageFault Scan := do
  let settled ← scan.settle
  match attached with
  | some value => settled.enter option value
  | none => return { settled with pending := some (option, none) }

/-- Enters an argument that stands for itself; there are two of them. -/
def place (scan : Scan) (argument : String) : Except UsageFault Scan :=
  if scan.plain.length < 2 then do
    let settled ← scan.settle
    return { settled with plain := settled.plain ++ [argument] }
  else .error .unknownArgument

/-- Enters an argument after two dashes: a name, perhaps with a value after an equals sign. -/
def long (scan : Scan) (cs : List Char) : Except UsageFault Scan :=
  let name := String.ofList (cs.takeWhile (· ≠ '='))
  let attached := match cs.dropWhile (· ≠ '=') with
    | _ :: value => some (String.ofList value)
    | [] => none
  match longSwitch? name, attached with
  | none, _ => .error .unknownArgument
  | some (.value option), attached => scan.give option attached
  | some (.flag flag), none => scan.raise flag
  | some (.flag _), some _ => .error .unneededValue

/-- The value attached to a short option, with or without an equals sign. -/
def attachedValue? : List Char → Option String
  | [] => none
  | '=' :: rest => some (String.ofList rest)
  | rest => some (String.ofList rest)

/-- Enters the letters after one dash: flags, and at the end perhaps an option with its value. -/
def short (scan : Scan) : List Char → Except UsageFault Scan
  | [] => .ok scan
  | c :: rest =>
    match shortSwitch? c with
    | none => .error .unknownArgument
    | some (.flag flag) => do short (← scan.raise flag) rest
    | some (.value option) => scan.give option (attachedValue? rest)

/-- Enters an argument that is no option: the value an option waits for, or one that stands for
itself. -/
def plainArgument (scan : Scan) (argument : String) : Except UsageFault Scan :=
  match scan.pending with
  | some (option, none) => .ok { scan with pending := some (option, some argument) }
  | _ => scan.place argument

/-- Enters the arguments one after the other. -/
def all (scan : Scan) : List String → Except UsageFault Scan
  | [] => .ok scan
  | argument :: rest =>
    match argument.toList with
    | ['-', '-'] => rest.foldlM place scan
    | '-' :: '-' :: name => do all (← scan.long name) rest
    | '-' :: c :: letters => do all (← scan.short (c :: letters)) rest
    | _ => do all (← scan.plainArgument argument) rest

/-- The value of an option. -/
def value? (scan : Scan) (option : ValueOption) : Option String :=
  (scan.values.find? fun given => given.1 == option).map Prod.snd

end Scan

/-- Reads the arguments of a run. -/
def Arguments.ofList (arguments : List String) : Except UsageFault Arguments := do
  let scan ← (← Scan.all {} arguments).settle
  match scan.plain with
  | [graphFiles, typeNames] =>
    return {
      graphFiles, typeNames
      optionsFile := scan.value? .optionsFile
      specFile := scan.value? .specFile
      schemaOnly := scan.flags.contains .schemaOnly
      output := scan.value? .output
      verbose := scan.flags.contains .verbose }
  | _ => throw .missingArgument

end TypeSchema.CommandLine
