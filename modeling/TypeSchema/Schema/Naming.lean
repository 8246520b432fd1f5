import TypeSchema.Digest.Sha256
import TypeSchema.Graph.Basic

/-!
# Names of definitions

A type is known in a document by a name derived from its printed form: module paths and spaces are
dropped, and the place of the declaration may be added as a short hash.  Since different types may
print alike, a registry hands out the names and numbers those that are taken.
-/

set_option autoImplicit false

namespace TypeSchema

/-! ## Canonical names -/

namespace Naming

open TypeSchema.Text

/-- The number of characters up to the end of the first `mark`; no new line may stand before it. -/
def through? (mark : List Char) : List Char → Option Nat
  | [] => none
  | c :: rest =>
    if mark.isPrefixOf (c :: rest) then some mark.length
    else if c = '\n' then none
    else (through? mark rest).map (· + 1)

/-- The length of the module path a text begins with, with the point after it: a quoted path, or a
quoted path inside `import(...)`, if a word can begin here. -/
def modulePath? (insideWord : Bool) (cs : List Char) : Option Nat :=
  let opening := "import(\"".toList
  if !insideWord && opening.isPrefixOf cs then
    (through? ['\x22', ')', '.'] (cs.drop opening.length)).map (· + opening.length)
  else match cs with
    | '\x22' :: rest => (through? ['\x22', '.'] rest).map (· + 1)
    | _ => none

/-- Drops module paths and spaces, and `skipped` characters before that.  `insideWord` says whether
the character before was one of a word. -/
def withoutPaths : Nat → Bool → List Char → List Char
  | _, _, [] => []
  | skipped + 1, _, c :: rest => withoutPaths skipped (isWordCharacter c) rest
  | 0, insideWord, c :: rest =>
    match modulePath? insideWord (c :: rest) with
    | some length => withoutPaths (length - 1) (isWordCharacter c) rest
    | none =>
      if c = ' ' then withoutPaths 0 false rest
      else c :: withoutPaths 0 (isWordCharacter c) rest

end Naming

/-- The name a printed type is known by: without module paths and spaces. -/
def canonicalName (printed : String) : String :=
  String.ofList (Naming.withoutPaths 0 false printed.toList)

/-- Whether a definition may be referred to by the name: ASCII letters, digits, points and
underscores only. -/
def isReferenceName (name : String) : Bool :=
  !name.isEmpty && name.toList.all fun c => c.isAlphanum || c == '.' || c == '_'

namespace Declaration

/-- What is hashed of a declaration: its file and its position, with a zero byte between. -/
def hashedBytes (declaration : Declaration) : List UInt8 :=
  (declaration.file.toList ++ '\x00' :: (toString declaration.position.toNat).toList).flatMap
    String.utf8EncodeChar

/-- The first eight hexadecimal digits of the hash of the place of a declaration. -/
def hash (declaration : Declaration) : String :=
  String.ofList (((Sha256.digest declaration.hashedBytes).take 4).flatMap fun byte =>
    [Text.hexDigit (byte.toNat / 16), Text.hexDigit (byte.toNat % 16)])

end Declaration

/-! ## The registry -/

/-- The names handed out: the current name of each type, and who holds each name.  A name once given
to a type is never given to another one. -/
structure NameRegistry where
  current : List (TypeId × String) := []
  holders : Dict TypeId := []

namespace NameRegistry

/-- The names a type is offered, one after the other: the base itself, then the base with numbers. -/
def candidate (base : String) : Nat → String
  | 0 => base
  | n + 1 => base ++ "_" ++ toString (n + 1)

/-- Whether the type may have the name: nobody else holds it. -/
def isOpen (registry : NameRegistry) (id : TypeId) (name : String) : Bool :=
  match Dict.get? registry.holders name with
  | some holder => holder == id
  | none => true

/-- The first number whose candidate the type may have; one of the first `holders.length + 1` is
open, as there are not enough holders to take them all. -/
def openNumber (registry : NameRegistry) (id : TypeId) (base : String) : Nat :=
  ((List.range (registry.holders.length + 1)).find? fun n =>
    registry.isOpen id (candidate base n)).getD 0

/-- Hands a name to a type. -/
def assign (registry : NameRegistry) (id : TypeId) (name : String) : NameRegistry :=
  { current := (id, name) :: registry.current.filter fun entry => entry.1 != id
    holders := Dict.insert registry.holders name id }

/-- Gives the type a name made from the base, in place of the name it has. -/
def makeUnique (registry : NameRegistry) (id : TypeId) (base : String) : String × NameRegistry :=
  let name := candidate base (registry.openNumber id base)
  (name, registry.assign id name)

/-- The current name of the type. -/
def name? (registry : NameRegistry) (id : TypeId) : Option String :=
  (registry.current.find? fun entry => entry.1 == id).map Prod.snd

/-- The name of the type; one that has none is given one made from the base. -/
def nameOf (registry : NameRegistry) (id : TypeId) (base : String) : String × NameRegistry :=
  match registry.name? id with
  | some name => (name, registry)
  | none => registry.makeUnique id base

end NameRegistry

end TypeSchema
