import TypeSchema.Error

/-!
# Modules of values

A tag may take its value from a JSON document: `require('<specifier>')`, optionally followed by the
name of an export.  A specifier that begins with a point or a slash is looked up from the directory of
the file that declares the symbol, any other from the base directory; without an extension it may
leave out `.json`.
-/

set_option autoImplicit false

namespace TypeSchema

/-- A value asked for by `require(...)`. -/
structure Require where
  specifier : String
  /-- The name of the export; by default `default`. -/
  exported : Option String
deriving DecidableEq, Repr

namespace Require

open TypeSchema.Text

/-- A character of a specifier. -/
def isSpecifierCharacter (c : Char) : Bool :=
  c.isAlphanum || c == '.' || c == '/' || c == '_' || c == '-'

/-- A character of the name of an export. -/
def isExportCharacter (c : Char) : Bool :=
  c.isAlphanum || c == '_' || c == '$'

/-- The specifier inside quotes, which may begin with `@`, and what follows its closing quote. -/
def quotedSpecifier? (quote : Char) (cs : List Char) : Option (List Char × List Char) :=
  let (lead, body) := match cs with
    | '@' :: rest => (['@'], rest)
    | rest => ([], rest)
  let name := body.takeWhile isSpecifierCharacter
  match name, body.dropWhile isSpecifierCharacter with
  | [], _ => none
  | _, c :: rest => if c = quote then some (lead ++ name, rest) else none
  | _, [] => none

/-- Whether the text ends here or goes on with a blank. -/
def endsWord : List Char → Bool
  | [] => true
  | c :: _ => isBlank c

/-- A text that begins with `require(...)`. -/
def ofText? (text : String) : Option Require :=
  let cs := text.toList.dropWhile isBlank
  let opening := "require(".toList
  if !opening.isPrefixOf cs then none
  else match cs.drop opening.length with
    | [] => none
    | quote :: rest =>
      if quote ≠ '\x27' ∧ quote ≠ '\x22' then none
      else match quotedSpecifier? quote rest with
        | some (specifier, ')' :: '.' :: after) =>
          let name := after.takeWhile isExportCharacter
          if name ≠ [] ∧ endsWord (after.dropWhile isExportCharacter) then
            some ⟨String.ofList specifier, some (String.ofList name)⟩
          else none
        | some (specifier, ')' :: after) =>
          if endsWord after then some ⟨String.ofList specifier, none⟩ else none
        | _ => none

end Require

/-- Where modules are looked up: a base directory and what is known of the files. -/
structure Modules where
  base : String
  isFile : String → Bool
  read : String → Except FileFault String

namespace Modules

/-- Modules of a file tree. -/
def ofTree (base : String) (tree : FileTree) : Modules :=
  ⟨base, tree.isFile, tree.read⟩

/-- No modules at all. -/
def none : Modules :=
  ⟨".", fun _ => false, fun _ => .error .notFound⟩

/-- The path a specifier names, before an extension is supplied. -/
def plainPath (base : String) (declaringFile : Option String) (specifier : String) : String :=
  let letters := specifier.toList
  let isRelative := letters.head? == some '.' || letters.head? == some '/'
  let root := match declaringFile.bind Path.parent? with
    | some directory => if isRelative then Path.join base directory else base
    | Option.none => base
  Path.join root (String.ofList (letters.dropWhile (· = '/')))

/-- The path of a module. -/
def locate (modules : Modules) (declaringFile : Option String) (specifier : String) : String :=
  let path := plainPath modules.base declaringFile specifier
  if (Path.extension? path).isNone && !modules.isFile path then Path.withExtension path "json"
  else path

/-- The document of a module. -/
def load (modules : Modules) (path : String) : Except RequireFault Json :=
  match modules.read path with
  | .error fault => .error (.unreadable path fault)
  | .ok text => (decodeText Decoder.any text).mapError (RequireFault.unparsable path)

/-- The value of an export: the one under its name, or for the default export the whole document if
it has no entry `default`. -/
def select (exported : Option String) (document : Json) : Except RequireFault Json :=
  match exported with
  | some name =>
    match document.get? name with
    | some value => .ok value
    | Option.none => .error (.undefined name)
  | Option.none => .ok ((document.get? "default").getD document)

/-- The value asked for. -/
def resolve (modules : Modules) (declaringFile : Option String) (require : Require) :
    Except Error Json :=
  let path := modules.locate declaringFile require.specifier
  ((modules.load path).bind (select require.exported)).mapError (Error.require require.specifier)

/-! ## Modules on a disk -/

/-- The values that a tag's text may ask for: by the text itself, or by what follows the name of a
keyword in it. -/
def requiresOf (text : String) : List Require :=
  (Require.ofText? text).toList ++
    ((Text.splitOnce? ' ' text).bind fun (_, value) => Require.ofText? value).toList

/-- The paths at which the modules that a symbol asks for may be. -/
def pathsOf (base : String) (symbol : Symbol) : List String :=
  symbol.tags.flatMap fun tag =>
    (requiresOf (tag.text.getD "")).flatMap fun require =>
      let path := plainPath base (symbol.declaration.map Declaration.file) require.specifier
      [path, Path.withExtension path "json"]

/-- What was found at paths: whether a file stands there, and its contents. -/
def ofFound (base : String) (found : Dict (Bool × Except FileFault String)) : Modules where
  base := base
  isFile path := (Dict.get? found path).any Prod.fst
  read path := ((Dict.get? found path).map Prod.snd).getD (.error .notFound)

/-- The modules that a graph may ask for, read from a disk. -/
def ofDisk {m : Type → Type} [Monad m] (disk : Disk m) (base : String) (graph : TypeGraph) :
    m Modules := do
  let paths := graph.symbols.toList.flatMap (pathsOf base)
  let found ← paths.mapM fun path => do
    return (path, (← disk.kind? path) == some .file, ← disk.read path)
  return ofFound base found

end Modules

end TypeSchema
