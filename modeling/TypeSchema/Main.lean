import TypeSchema.CommandLine.Run

/-!
# The command

Runs on the disk of the machine: the document goes to the standard output or into a file, events and
faults to the standard error.
-/

set_option autoImplicit false

namespace TypeSchema.Command

/-- A fault of the system. -/
def faultOf (e : IO.Error) : FileFault :=
  match e with
  | .noFileOrDirectory _ _ _ => .notFound
  | .alreadyExists _ _ _ => .alreadyExists
  | .inappropriateType _ code _ => if code = 20 then .notDirectory else .isDirectory
  | other => .other (toString other)

/-- Runs a request to the system. -/
def attempt {α : Type} (request : IO α) : IO (Except FileFault α) := do
  try
    return .ok (← request)
  catch e =>
    return .error (faultOf e)

/-- What stands at the path. -/
def kindAt? (path : String) : IO (Option EntryKind) := do
  let place := (← IO.currentDir) / path
  if ← place.isDir then return some .directory
  else if ← place.pathExists then return some .file
  else return none

/-- The names in a directory. -/
def namesIn (path : String) : IO (List String) := do
  let entries ← ((← IO.currentDir) / path).readDir
  return entries.toList.map fun entry => entry.fileName

/-- The disk of the machine. -/
def disk : Disk IO where
  kind? := kindAt?
  read path := attempt (IO.FS.readFile path)
  entries path := attempt (namesIn path)
  createDirectories path := attempt (IO.FS.createDirAll path)
  write path text := attempt (IO.FS.writeFile path text)

/-- How the command is used. -/
def usage : String :=
  "usage: <graph files> <type names> [-p <options file>] [-s <spec file>] [-e] [-o <file>] [-v]\n" ++
  "  graph files  comma-separated paths or glob patterns of type graphs\n" ++
  "  type names   comma-separated names or /patterns/ of declarations\n" ++
  "  -p, --options-file  options of the schemas\n" ++
  "  -s, --spec-file     what the document says beside its paths\n" ++
  "  -e, --schema-only   write definitions only\n" ++
  "  -o, --output        write to this file\n" ++
  "  -v, --verbose       say more on the standard error"

/-- One event in a line. -/
def entryLine (entry : LogEntry) : String :=
  let level := match entry.level with
    | .warning => "WARN "
    | .error => "ERROR "
  level ++ entry.message ++
    String.join (entry.details.map fun (name, value) => " " ++ name ++ "=" ++ value)

/-- Runs the command and gives its exit code. -/
def exec (arguments : CommandLine.Arguments) : IO UInt32 := do
  let outcome ← CommandLine.run disk arguments
  outcome.log.forM fun entry => IO.eprintln (entryLine entry)
  match outcome.result with
  | .ok text =>
    IO.print text
    return 0
  | .error fault =>
    IO.eprintln ("error: " ++ fault.message)
    return 1

end TypeSchema.Command

open TypeSchema in
def main (arguments : List String) : IO UInt32 := do
  match CommandLine.Arguments.ofList arguments with
  | .ok parsed => Command.exec parsed
  | .error .helpAsked =>
    IO.println Command.usage
    return 0
  | .error .versionAsked =>
    IO.println "0.1.0"
    return 0
  | .error _ =>
    IO.eprintln Command.usage
    return 2
