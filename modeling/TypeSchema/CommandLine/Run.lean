import TypeSchema.CommandLine.Arguments
import TypeSchema.Files.Glob
import TypeSchema.Graph.Merge
import TypeSchema.Json.Printer
import TypeSchema.OpenApi.Assembly

/-!
# A run of the command

Graph files are read and merged in the order they are named, patterns select declarations, and the
document is written to a file or handed back as text.  A run is a sequence of requests to a disk and
stops at the first fault: graphs come before options, options before patterns, and what describes the
document is only read for an OpenAPI document.
-/

set_option autoImplicit false

namespace TypeSchema.CommandLine

/-- Why a run ended without a document. -/
inductive RunFault
  | error (cause : Error)
  /-- A pattern for files that is none. -/
  | invalidGlob (pattern : String)
  | unlistable (path : String) (fault : FileFault)
  | unmatchedGlob (pattern : String)
  | noGraphFiles
  | noTypeNames
  | uncreatable (path : String) (fault : FileFault)
  | unwritable (path : String) (fault : FileFault)
deriving DecidableEq

/-- The fault in words. -/
def RunFault.message : RunFault → String
  | .error cause => cause.message
  | .invalidGlob pattern => "invalid glob pattern: " ++ pattern
  | .unlistable path fault =>
    "attempting to read `" ++ path ++ "` resulted in an error: " ++ fault.text
  | .unmatchedGlob pattern => "glob pattern matched no files: " ++ pattern
  | .noGraphFiles => "no type graph files given"
  | .noTypeNames => "no type names given"
  | .uncreatable path fault => "failed to create " ++ path ++ ": " ++ fault.text
  | .unwritable path fault => "failed to write " ++ path ++ ": " ++ fault.text

/-- What a run leaves: the text for the standard output or a fault, and what was logged. -/
structure RunOutcome where
  result : Except RunFault String
  log : List LogEntry

variable {m : Type → Type} [Monad m]

/-- A run on a disk: it may stop with a fault, and keeps a log. -/
abbrev RunM (m : Type → Type) := ExceptT RunFault (StateT (List LogEntry) m)

namespace RunM

/-- Asks the disk. -/
def ask {α : Type} (request : m α) : RunM m α :=
  ExceptT.lift (StateT.lift request)

/-- Goes on with a result. -/
def take {α : Type} (result : Except Error α) : RunM m α :=
  match result with
  | .ok value => pure value
  | .error error => throw (.error error)

/-- Logs events. -/
def note (entries : List LogEntry) : RunM m Unit :=
  modifyThe (List LogEntry) (· ++ entries)

/-- Goes on with what building has left. -/
def finish {α : Type} (outcome : Outcome α) : RunM m α := do
  note outcome.log
  take outcome.result

end RunM

/-! ## Input -/

/-- Whether a text is a pattern for paths and not a path. -/
def isGlob (text : String) : Bool :=
  text.toList.any fun c => c == '*' || c == '?' || c == '[' || c == '\x7b'

/-- The files that an item of the list of graph files names. -/
def graphPaths (disk : Disk m) (item : String) : RunM m (List String) :=
  if isGlob item then
    match Glob.ofText? item with
    | none => throw (.invalidGlob item)
    | some glob => do
      match ← RunM.ask (ExceptT.run (glob.find disk)) with
      | .error (path, fault) => throw (.unlistable path fault)
      | .ok [] => throw (.unmatchedGlob item)
      | .ok paths => return paths
  else return [item]

/-- Reads a file as a document. -/
def readFile {α : Type} (disk : Disk m) (decode : Decoder α) (path : String) : RunM m α := do
  RunM.take (decodeRead decode path (← RunM.ask (disk.read path)))

/-- Accepts a graph without dangling references. -/
def accept (graph : TypeGraph) : RunM m Unit :=
  RunM.take (graph.validate.mapError Error.graph)

/-- Reads a graph from a file. -/
def readGraph (disk : Disk m) (path : String) : RunM m TypeGraph := do
  let graph ← readFile disk TypeGraph.decode path
  accept graph
  return graph

/-- Reads and merges the graphs. -/
def loadGraph (disk : Disk m) (graphFiles : String) : RunM m TypeGraph := do
  let paths ← (Text.commaList graphFiles).mapM (graphPaths disk)
  match paths.flatten with
  | [] => throw .noGraphFiles
  | first :: others =>
    let start ← readGraph disk first
    let graph ← others.foldlM (fun graph path => do
      return graph.merge (← readGraph disk path)) start
    accept graph
    return graph

/-- The options in the file, or the presets. -/
def loadOptions (disk : Disk m) (optionsFile : Option String) : RunM m Options :=
  match optionsFile with
  | some path => readFile disk Options.decode path
  | none => return {}

/-- Reads the patterns for type names. -/
def loadPatterns (typeNames : String) : RunM m (List NamePattern) := do
  let patterns ← (Text.commaList typeNames).mapM fun text =>
    RunM.take ((NamePattern.ofText text).mapError Error.pattern)
  if patterns.isEmpty then throw .noTypeNames else return patterns

/-! ## Output -/

/-- Creates a directory unless the path is empty. -/
def createDirectory (disk : Disk m) (path : String) : RunM m Unit :=
  if path.isEmpty then return ()
  else do
    match ← RunM.ask (disk.createDirectories path) with
    | .ok () => return ()
    | .error fault => throw (.uncreatable path fault)

/-- Writes the document to a file, in a directory that is created if it is missing. -/
def writeDocument (disk : Disk m) (path text : String) : RunM m Unit := do
  createDirectory disk ((Path.parent? path).getD "")
  match ← RunM.ask (disk.write path text) with
  | .ok () => return ()
  | .error fault => throw (.unwritable path fault)

/-- Builds the document that is asked for. -/
def buildDocument (disk : Disk m) (arguments : Arguments) (catalog : Catalog)
    (patterns : List NamePattern) : RunM m Json :=
  if arguments.schemaOnly then do
    return Catalog.schemasJson (← RunM.finish (catalog.schemas patterns))
  else do
    let metadata ← match arguments.specFile with
      | some path => readFile disk OpenApi.Metadata.decode path
      | none => pure {}
    return (← RunM.finish (catalog.openApi patterns metadata)).toJson

/-- Makes the catalog of a graph, or logs why there is none. -/
def openCatalog (disk : Disk m) (graph : TypeGraph) (options : Options) : RunM m Catalog := do
  let modules ← RunM.ask (Modules.ofDisk disk "." graph)
  match Catalog.ofGraph graph options modules with
  | .ok catalog => return catalog
  | .error error =>
    RunM.note (Catalog.refusalLog error)
    throw (.error error)

/-- A run; the answer is the text for the standard output. -/
def perform (disk : Disk m) (arguments : Arguments) : RunM m String := do
  let graph ← loadGraph disk arguments.graphFiles
  let options ← loadOptions disk arguments.optionsFile
  let patterns ← loadPatterns arguments.typeNames
  let catalog ← openCatalog disk graph options
  let text := (← buildDocument disk arguments catalog patterns).pretty
  match arguments.output with
  | some path =>
    writeDocument disk path text
    return ""
  | none => return text ++ "\n"

/-- Runs the command on a disk. -/
def run (disk : Disk m) (arguments : Arguments) : m RunOutcome := do
  let (result, log) ← StateT.run (ExceptT.run (perform disk arguments)) []
  return ⟨result, log⟩

end TypeSchema.CommandLine
