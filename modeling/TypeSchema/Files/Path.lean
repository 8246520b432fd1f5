import TypeSchema.Text.Basic

/-!
# Paths

Operations on the text of a path.  None of them looks at a disk: joining, the directory above, and
the extension of the last name are questions about the text alone, and the text is kept as it was
written wherever it can be.
-/

set_option autoImplicit false

namespace TypeSchema.Path

/-- A name in a path, with the text of the path up to its end. -/
structure Part where
  name : List Char
  upTo : List Char
deriving DecidableEq

/-- Whether the path begins at the root. -/
def isAbsolute : List Char → Bool
  | '/' :: _ => true
  | _ => false

/-- The pieces between slashes, each with the text up to its end. -/
def pieces (before : List Char) (piece : List Char) : List Char → List Part
  | [] => [⟨piece.reverse, before.reverse⟩]
  | c :: rest =>
    if c = '/' then ⟨piece.reverse, before.reverse⟩ :: pieces (c :: before) [] rest
    else pieces (c :: before) (c :: piece) rest

/-- The names of a path.  Doubled slashes and names `.` count for nothing, except that a relative path
may begin with `.`. -/
def parts (path : List Char) : List Part :=
  let all := pieces [] [] path
  let isReal (part : Part) : Bool := part.name != [] && part.name != ['.']
  match all with
  | first :: rest =>
    if first.name = ['.'] then first :: rest.filter isReal else (first :: rest).filter isReal
  | [] => []

/-- The path inside the directory; a path from the root stays what it is. -/
def join (directory path : String) : String :=
  let below := path.toList
  if isAbsolute below then path
  else match directory.toList.getLast? with
    | none => path
    | some '/' => directory ++ path
    | some _ => directory ++ "/" ++ path

/-- The directory a path lies in, as far as the text tells: the empty path above a single name, and
nothing above the root or the empty path. -/
def parent? (path : String) : Option String :=
  let cs := path.toList
  match (parts cs).reverse with
  | [] => none
  | [_] => some (if isAbsolute cs then "/" else "")
  | _ :: above :: _ => some (String.ofList above.upTo)

/-- The last name of a path, if it is the name of an entry and not `.` or `..`. -/
def lastName? (path : String) : Option Part :=
  match (parts path.toList).getLast? with
  | some part => if part.name = ['.'] ∨ part.name = ['.', '.'] then none else some part
  | none => none

/-- Splits a name at its last point.  A point at the beginning belongs to the name. -/
def splitExtension (name : List Char) : List Char × Option (List Char) :=
  match name.reverse.dropWhile (· ≠ '.') with
  | [] => (name, none)
  | _ :: [] => (name, none)
  | _ :: stem => (stem.reverse, some (name.reverse.takeWhile (· ≠ '.')).reverse)

/-- What stands after the last point of the last name. -/
def extension? (path : String) : Option String :=
  (lastName? path).bind fun part => (splitExtension part.name).2.map String.ofList

/-- Gives the last name of the path the extension, in place of the one it has. -/
def withExtension (path extension : String) : String :=
  match lastName? path with
  | none => path
  | some part =>
    let stem := (splitExtension part.name).1
    let kept := part.upTo.take (part.upTo.length - part.name.length + stem.length)
    String.ofList kept ++ "." ++ extension

end TypeSchema.Path
