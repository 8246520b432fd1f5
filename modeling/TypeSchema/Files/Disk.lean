import TypeSchema.Dict
import TypeSchema.Files.Path

/-!
# Disks and file trees

What the program asks of a disk is collected in `Disk`, so that the same commands run on the real one
and on a `FileTree`, a value that holds a working directory with everything in it.
-/

set_option autoImplicit false

namespace TypeSchema

/-- Why a file could not be used. -/
inductive FileFault
  | notFound
  | isDirectory
  | notDirectory
  | alreadyExists
  /-- The path holds a character with code zero. -/
  | zeroCharacter
  | other (text : String)
deriving DecidableEq, Repr

/-- The fault in the words of the system. -/
def FileFault.text : FileFault → String
  | .notFound => "No such file or directory (os error 2)"
  | .isDirectory => "Is a directory (os error 21)"
  | .notDirectory => "Not a directory (os error 20)"
  | .alreadyExists => "File exists (os error 17)"
  | .zeroCharacter => "file name contained an unexpected NUL byte"
  | .other text => text

/-- What stands at a path. -/
inductive EntryKind
  | file
  | directory
deriving DecidableEq, Repr

/-- What the program asks of a disk. -/
structure Disk (m : Type → Type) where
  /-- What stands at the path, if anything. -/
  kind? : String → m (Option EntryKind)
  read : String → m (Except FileFault String)
  /-- The names of the entries of a directory, in any order. -/
  entries : String → m (Except FileFault (List String))
  /-- Creates a directory with all directories above it; it may be there already. -/
  createDirectories : String → m (Except FileFault Unit)
  /-- Writes a file, in place of one that is there. -/
  write : String → String → m (Except FileFault Unit)

/-! ## File trees -/

/-- What a file tree holds at one place. -/
inductive Entry
  | file (contents : String)
  | directory
deriving DecidableEq

/-- The entries of a working directory by their names from there on, which are joined by slashes.
Every directory above an entry is an entry too. -/
structure FileTree where
  entries : Dict Entry
deriving DecidableEq

/-- Where a path leads: to a place inside the working directory, or to one outside of it. -/
inductive Location
  | inside (names : List String)
  | outside
deriving DecidableEq

namespace FileTree

/-- The working directory without entries. -/
def empty : FileTree := ⟨[]⟩

/-- The key of a place. -/
def key (names : List String) : String :=
  String.intercalate "/" names

/-- What stands at a place.  The working directory itself and everything known of the world outside
are directories. -/
def entryAt? (tree : FileTree) : Location → Option Entry
  | .inside [] => some .directory
  | .inside names => Dict.get? tree.entries (key names)
  | .outside => some .directory

/-- The place one name further.  Outside of the working directory nothing has a name. -/
def step? (location : Location) (name : String) : Option Location :=
  match location with
  | .inside names =>
    if name = ".." then
      match names with
      | [] => some .outside
      | _ => some (.inside names.dropLast)
    else some (.inside (names ++ [name]))
  | .outside => if name = ".." then some .outside else none

/-- Follows the names of a path from directory to directory. -/
def follow (tree : FileTree) : Location → List String → Except FileFault Location
  | location, [] => .ok location
  | location, name :: rest =>
    match tree.entryAt? location with
    | none => .error .notFound
    | some (.file _) => .error .notDirectory
    | some .directory =>
      match step? location name with
      | some next => follow tree next rest
      | none => .error .notFound

/-- Where a path leads; what is asked of the last name is that everything above it is a directory. -/
def locate (tree : FileTree) (path : String) : Except FileFault Location :=
  let cs := path.toList
  if cs.contains '\x00' then .error .zeroCharacter
  else if cs.isEmpty then .error .notFound
  else
    let names := ((Text.split '/' path).filter fun name => name != "" && name != ".")
    let start := if Path.isAbsolute cs then Location.outside else .inside []
    follow tree start names

/-- Whether the path can only name a directory, since it ends with a slash or with `.`. -/
def demandsDirectory (path : String) : Bool :=
  match (Text.split '/' path).getLast? with
  | some last => (last == "" || last == ".") && path != ""
  | none => false

/-- What stands at a path. -/
def lookup (tree : FileTree) (path : String) : Except FileFault Entry := do
  let location ← tree.locate path
  match tree.entryAt? location with
  | none => throw .notFound
  | some (.file contents) =>
    if demandsDirectory path then throw .notDirectory else return .file contents
  | some .directory => return .directory

/-- The contents of a file. -/
def read (tree : FileTree) (path : String) : Except FileFault String := do
  match ← tree.lookup path with
  | .file contents => return contents
  | .directory => throw .isDirectory

/-- Whether a file stands at the path. -/
def isFile (tree : FileTree) (path : String) : Bool :=
  match tree.lookup path with
  | .ok (.file _) => true
  | _ => false

/-- What stands at the path, if anything. -/
def kind? (tree : FileTree) (path : String) : Option EntryKind :=
  match tree.lookup path with
  | .ok (.file _) => some .file
  | .ok .directory => some .directory
  | .error _ => none

/-- The name of a key directly below the directory. -/
def childName? (directory : List String) (entry : String) : Option String :=
  let names := Text.split '/' entry
  if names.dropLast = directory ∧ names ≠ [] then names.getLast? else none

/-- The names of the entries of a directory. -/
def children (tree : FileTree) (path : String) : Except FileFault (List String) := do
  match ← tree.locate path with
  | .outside => return []
  | .inside names =>
    match tree.entryAt? (.inside names) with
    | none => throw .notFound
    | some (.file _) => throw .notDirectory
    | some .directory => return (Dict.keys tree.entries).filterMap (childName? names)

/-- Creates the directories named one after the other. -/
def createFrom (tree : FileTree) : Location → List String → Except FileFault FileTree
  | location, [] =>
    match tree.entryAt? location with
    | some (.file _) => .error .alreadyExists
    | _ => .ok tree
  | location, name :: rest =>
    match tree.entryAt? location with
    | some (.file _) => .error .notDirectory
    | _ =>
      match step? location name with
      | none => .error (.other "Permission denied (os error 13)")
      | some .outside => createFrom tree .outside rest
      | some (.inside names) =>
        match tree.entryAt? (.inside names) with
        | some _ => createFrom tree (.inside names) rest
        | none =>
          createFrom ⟨Dict.insert tree.entries (key names) .directory⟩ (.inside names) rest

/-- Creates a directory and the directories above it. -/
def createDirectories (tree : FileTree) (path : String) : Except FileFault FileTree :=
  let cs := path.toList
  if cs.contains '\x00' then .error .zeroCharacter
  else
    let names := (Text.split '/' path).filter fun name => name != "" && name != "."
    createFrom tree (if Path.isAbsolute cs then .outside else .inside []) names

/-- Writes a file. -/
def write (tree : FileTree) (path contents : String) : Except FileFault FileTree := do
  match ← tree.locate path with
  | .outside => throw .isDirectory
  | .inside names =>
    match tree.entryAt? (.inside names) with
    | some .directory => throw .isDirectory
    | some (.file _) =>
      if demandsDirectory path then throw .notDirectory
      else return ⟨Dict.insert tree.entries (key names) (.file contents)⟩
    | none =>
      if demandsDirectory path then throw .isDirectory
      else return ⟨Dict.insert tree.entries (key names) (.file contents)⟩

/-- Places a file with the directories above it. -/
def place (tree : FileTree) (path contents : String) : FileTree :=
  let directories := match Path.parent? path with
    | some above => (tree.createDirectories above).toOption.getD tree
    | none => tree
  (directories.write path contents).toOption.getD directories

/-- The tree with these files. -/
def ofFiles (files : List (String × String)) : FileTree :=
  files.foldl (fun tree file => tree.place file.1 file.2) empty

/-- Runs a change of the tree. -/
def change (update : FileTree → Except FileFault FileTree) :
    StateM FileTree (Except FileFault Unit) := do
  match update (← get) with
  | .ok tree => set tree; return .ok ()
  | .error fault => return .error fault

/-- A file tree as a disk. -/
def disk : Disk (StateM FileTree) where
  kind? path := return (← get).kind? path
  read path := return (← get).read path
  entries path := return (← get).children path
  createDirectories path := change fun tree => tree.createDirectories path
  write path contents := change fun tree => tree.write path contents

end FileTree

end TypeSchema
