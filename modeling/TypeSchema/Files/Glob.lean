import TypeSchema.Files.Disk

/-!
# Glob patterns

A glob pattern is a path whose names may hold `?` for one character, `*` for any number of them, and
brackets for one character of a class.  A name `**` stands for any number of directories, itself
included.  `Glob.find` lists the paths a pattern matches: names without such characters are looked
up, for all others the directory is listed and its entries are taken in ascending order.
-/

set_option autoImplicit false

namespace TypeSchema

/-- A span of characters, both ends included. -/
structure GlobSpan where
  low : Char
  high : Char
deriving DecidableEq

/-- A piece of a pattern. -/
inductive GlobToken
  | char (c : Char)
  | anyCharacter
  | anySequence
  | anyDirectories
  | within (spans : List GlobSpan)
  | outside (spans : List GlobSpan)
deriving DecidableEq

/-- The pattern of one name in a path. -/
abbrev GlobName := List GlobToken

/-- A pattern for paths. -/
structure Glob where
  isAbsolute : Bool
  names : List GlobName
  /-- Whether only directories match, since the pattern ends with a slash. -/
  demandsDirectory : Bool

namespace Glob

/-! ## Reading patterns -/

/-- The spans inside brackets. -/
def spans : List Char → List GlobSpan
  | a :: '-' :: b :: rest => ⟨a, b⟩ :: spans rest
  | a :: rest => ⟨a, a⟩ :: spans rest
  | [] => []

/-- What stands before and after the first closing bracket. -/
def closing? (cs : List Char) : Option (List Char × List Char) :=
  match cs.dropWhile (· ≠ ']') with
  | _ :: rest => some (cs.takeWhile (· ≠ ']'), rest)
  | [] => none

/-- A class of characters after its opening bracket.  The first character of a class may be a closing
bracket. -/
def bracket? : List Char → Option (GlobToken × List Char)
  | '!' :: first :: more =>
    (closing? more).map fun (inner, rest) => (.outside (spans (first :: inner)), rest)
  | first :: more =>
    (closing? more).map fun (inner, rest) => (.within (spans (first :: inner)), rest)
  | [] => none

/-- The token that a run of stars is, with what follows.  Two stars have to be a name of their own, and
the slash after them belongs to them; more stars are not allowed. -/
def stars? (before : Option Char) (count : Nat) (rest : List Char) :
    Option (GlobToken × List Char) :=
  if count = 1 then some (.anySequence, rest)
  else if count = 2 ∧ (before = none ∨ before = some '/') then
    match rest with
    | [] => some (.anyDirectories, [])
    | '/' :: more => some (.anyDirectories, more)
    | _ => none
  else none

/-- The tokens of a text, of at most as many characters as the number says; `before` is the character
before it. -/
def tokens? : Nat → Option Char → List Char → Option (List GlobToken)
  | _, _, [] => some []
  | 0, _, _ => none
  | n + 1, before, c :: rest =>
    match c with
    | '?' => (tokens? n (some c) rest).map (.anyCharacter :: ·)
    | '*' =>
      match stars? before ((c :: rest).takeWhile (· = '*')).length (rest.dropWhile (· = '*')) with
      | some (token, after) =>
        let last := if token = .anyDirectories ∧ after ≠ [] then '/' else '*'
        (tokens? n (some last) after).map (token :: ·)
      | none => none
    | '[' =>
      match bracket? rest with
      | some (token, after) => (tokens? n (some ']') after).map (token :: ·)
      | none => none
    | _ => (tokens? n (some c) rest).map (.char c :: ·)

/-- The tokens of a text. -/
def tokensOf? (text : String) : Option (List GlobToken) :=
  tokens? text.length none text.toList

/-- The names of a path; a slash at the end begins no other name. -/
def namesOf (text : String) : List String :=
  let pieces := Text.split '/' text
  if pieces.getLast? = some "" then pieces.dropLast else pieces

/-- Reads a pattern, which has to be one as a whole and name by name. -/
def ofText? (text : String) : Option Glob := do
  let _ ← tokensOf? text
  let cs := text.toList
  let isAbsolute := Path.isAbsolute cs
  let below := if isAbsolute then String.ofList (cs.drop 1) else text
  let names ← (namesOf below).mapM tokensOf?
  return { isAbsolute, names, demandsDirectory := cs.getLast? == some '/' }

/-! ## Matching names -/

/-- Whether a character lies in one of the spans. -/
def inSpans (spans : List GlobSpan) (c : Char) : Bool :=
  spans.any fun span => span.low ≤ c && c ≤ span.high

/-- Whether a token matches the character. -/
def tokenMatches : GlobToken → Char → Bool
  | .char wanted, c => wanted == c
  | .anyCharacter, _ => true
  | .within spans, c => inSpans spans c
  | .outside spans, c => !inSpans spans c
  | _, _ => false

/-- Whether the tokens match the whole name. -/
def nameMatches : GlobName → List Char → Bool
  | [], cs => cs.isEmpty
  | .anySequence :: rest, cs =>
    (List.range (cs.length + 1)).any fun n => nameMatches rest (cs.drop n)
  | .anyDirectories :: rest, cs => nameMatches rest cs
  | _ :: _, [] => false
  | token :: rest, c :: cs => tokenMatches token c && nameMatches rest cs

/-- Whether the name stands for any number of directories. -/
def isRecursive (name : GlobName) : Bool :=
  name.contains .anyDirectories

/-- The name itself, if it holds only characters that stand for themselves. -/
def literal? (name : GlobName) : Option String :=
  (name.mapM fun (token : GlobToken) => match token with
    | .char c => some c
    | _ => none).map String.ofList

/-- The special names `..` and `.`, as far as the pattern begins with a point and matches them. -/
def specialNames (name : GlobName) : List String :=
  if name.head? = some (.char '.') then
    ["..", "."].filter fun special => nameMatches name special.toList
  else []

/-! ## Finding paths -/

/-- Whether the path is the working directory as it is written. -/
def isHere (path : String) : Bool :=
  (Path.parts path.toList).map Path.Part.name == [['.']]

/-- The path of an entry in a directory; the working directory is not written before it. -/
def below (directory name : String) : String :=
  if isHere directory then name else Path.join directory name

/-- How many directories deep a search goes; paths of more names cannot be opened. -/
def maxDepth : Nat := 4096

variable {m : Type → Type} [Monad m]

/-- A search ends with what it looks for, or with a directory that could not be listed. -/
abbrev Search (m : Type → Type) := ExceptT (String × FileFault) m

/-- What stands at the path, if anything. -/
def kind? (disk : Disk m) (path : String) : Search m (Option EntryKind) :=
  ExceptT.lift (disk.kind? path)

/-- Whether a directory stands at the path. -/
def isDirectory (disk : Disk m) (path : String) : Search m Bool := do
  return (← kind? disk path) == some .directory

/-- The names in a directory in ascending order. -/
def sortedEntries (disk : Disk m) (path : String) : Search m (List String) := do
  match ← ExceptT.lift (disk.entries path) with
  | .ok names => return names.mergeSort fun a b => decide (a ≤ b)
  | .error fault => throw (path, fault)

/-- The paths below `path` that the names match, `depth` directories deep at most. -/
def findBelow (disk : Disk m) (demandsDirectory : Bool) :
    Nat → String → List GlobName → Search m (List String)
  | 0, _, _ => return []
  | _, _, [] => return []
  | depth + 1, path, name :: rest => do
    let keep (found : String) (isDirectory : Bool) : List String :=
      if demandsDirectory && !isDirectory then [] else [found]
    let reach (found : String) (rest : List GlobName) : Search m (List String) := do
      if rest.isEmpty then return keep found (← isDirectory disk found)
      else findBelow disk demandsDirectory depth found rest
    match literal? name with
    | some text =>
      let found := below path text
      let stands ← if text = "." ∨ text = ".." then isDirectory disk path
        else do pure (← kind? disk found).isSome
      if stands then reach found rest else return []
    | none =>
      if !(← isDirectory disk path) then return []
      let specials ← (specialNames name).mapM fun special => reach (Path.join path special) rest
      let entries ← sortedEntries disk path
      let found ← entries.mapM fun entry => do
        let child := below path entry
        if isRecursive name then
          let after := rest.dropWhile isRecursive
          let isDirectory ← isDirectory disk child
          let own ← match after with
            | [] => pure (if isDirectory then [child] else [])
            | next :: others =>
              if nameMatches next entry.toList then reach child others else pure []
          let deeper ←
            if isDirectory then findBelow disk demandsDirectory depth child (name :: after)
            else pure []
          return own ++ deeper
        else if nameMatches name entry.toList then reach child rest
        else return []
      return specials.flatten ++ found.flatten

/-- The paths that the pattern matches. -/
def find (glob : Glob) (disk : Disk m) : Search m (List String) :=
  findBelow disk glob.demandsDirectory (maxDepth + glob.names.length)
    (if glob.isAbsolute then "/" else ".") glob.names

end Glob

end TypeSchema
