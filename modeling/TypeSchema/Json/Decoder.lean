import TypeSchema.Json.Draft

/-!
# Decoding documents of a known shape

A decoder turns a draft into a value of a known type and says where the draft is at fault.  Faults
are found in reading order: entries one after the other, a repeated field as soon as it is met, a
missing field only when the end of the object is reached.  `mismatch` gives the place of the value
that is wrong; `malformed` means that the text stopped being JSON before anything else was found.

Records are decoded from a list of `RecordField`s.  A record may also be written as the array of its
fields in order.
-/

set_option autoImplicit false

namespace TypeSchema

universe u v

/-- One step from a value into a part of it. -/
inductive Step
  | key (name : String)
  | index (n : Nat)
deriving DecidableEq, Repr

/-- A place inside a document. -/
abbrev Place := List Step

/-- The text of a place: `a.b[0].c`, and `.` for the document itself. -/
def Place.text : Place → String
  | [] => "."
  | first :: rest => rest.foldl addStep (addStep "" first)
where
  /-- Keys are separated from what stands before them by a point, indices are not. -/
  addStep (before : String) : Step → String
    | .key name => if before = "" then name else before ++ "." ++ name
    | .index n => before ++ "[" ++ toString n ++ "]"

/-- Why a document was refused. -/
inductive DecodeFault
  /-- The text is not JSON. -/
  | malformed
  /-- The value at the place does not have the shape that is asked for. -/
  | mismatch (place : Place)
deriving DecidableEq, Repr

/-- The fault seen from one step further out. -/
def DecodeFault.under (step : Step) : DecodeFault → DecodeFault
  | .malformed => .malformed
  | .mismatch place => .mismatch (step :: place)

/-- A decoder; the number is how many more levels of arrays and objects may be entered. -/
abbrev Decoder (α : Type u) := Nat → Draft → Except DecodeFault α

namespace Decoder

variable {α : Type u} {β : Type v}

/-- The fault of a value that was looked at and is not what is asked for. -/
def refuse : Draft → DecodeFault
  | .broken => .malformed
  | .number none => .malformed
  | .string none => .malformed
  | _ => .mismatch []

/-- Runs a decoder on a part of a value. -/
def inside (step : Step) (result : Except DecodeFault α) : Except DecodeFault α :=
  result.mapError (DecodeFault.under step)

/-- Applies a function to what is decoded. -/
def map (f : α → β) (decode : Decoder α) : Decoder β := fun levels draft =>
  (decode levels draft).map f

/-- A string. -/
def string : Decoder String
  | _, .string (some s) => .ok s
  | _, draft => .error (refuse draft)

/-- A truth value. -/
def flag : Decoder Bool
  | _, .bool b => .ok b
  | _, draft => .error (refuse draft)

/-- An integer from 0 to below the bound. -/
def naturalBelow (bound : Nat) : Decoder Nat
  | _, .number (some (.integer n)) =>
    if 0 ≤ n ∧ n < bound then .ok n.toNat else .error (.mismatch [])
  | _, draft => .error (refuse draft)

/-- A word of 32 bits. -/
def word32 : Decoder UInt32 :=
  map UInt32.ofNat (naturalBelow UInt32.size)

/-- A number as a double. -/
def double : Decoder Float
  | _, .number (some n) => .ok n.toDouble
  | _, draft => .error (refuse draft)

/-- Any value. -/
def any : Decoder Json := fun levels draft =>
  match draft.json? levels with
  | some value => .ok value
  | none => .error .malformed

/-- A value or `null`. -/
def optional (decode : Decoder α) : Decoder (Option α)
  | _, .null => .ok none
  | levels, draft => (decode levels draft).map some

/-- The items of an array, the first of them at index `n`. -/
def items (decode : Decoder α) (levels : Nat) : Nat → List Draft → Except DecodeFault (List α)
  | _, [] => .ok []
  | n, draft :: rest => do
    let first ← inside (.index n) (decode levels draft)
    let others ← items decode levels (n + 1) rest
    return first :: others

/-- An array. -/
def list (decode : Decoder α) : Decoder (List α)
  | 0, .array _ _ => .error .malformed
  | levels + 1, .array drafts closed => do
    let values ← items decode levels 0 drafts
    if closed then return values else throw .malformed
  | _, draft => .error (refuse draft)

/-- The entries of an object. -/
def entries (decode : Decoder α) (levels : Nat) :
    List (Option String × Draft) → Except DecodeFault (List (String × α))
  | [] => .ok []
  | (none, _) :: _ => .error .malformed
  | (some key, draft) :: rest => do
    let value ← inside (.key key) (decode levels draft)
    let others ← entries decode levels rest
    return (key, value) :: others

/-- An object whose values all have one shape.  A repeated key keeps its first place and takes its
last value. -/
def dict (decode : Decoder α) : Decoder (Dict α)
  | 0, .object _ _ => .error .malformed
  | levels + 1, .object fields closed => do
    let values ← entries decode levels fields
    if closed then return Dict.ofEntries values else throw .malformed
  | _, draft => .error (refuse draft)

/-- The choice with the name. -/
def choose? (choices : List (String × α)) (name : String) : Option α :=
  Dict.get? choices name

/-- One of several words: the word itself, or an object with the word as its only key and `null`
under it. -/
def choice (choices : List (String × α)) : Decoder α
  | _, .string (some name) =>
    match choose? choices name with
    | some value => .ok value
    | none => .error (.mismatch [])
  | 0, .object _ _ => .error .malformed
  | _ + 1, .object ((some name, draft) :: rest) closed =>
    match choose? choices name with
    | none => .error (.mismatch [])
    | some value =>
      match draft with
      | .null => if rest.isEmpty && closed then .ok value else .error .malformed
      | other => .error ((refuse other).under (.key name))
  | _, _ => .error .malformed

/-! ## Records -/

/-- What it means that a record does not have one of its fields. -/
inductive Absence
  /-- The record is refused. -/
  | refused
  /-- An object does without the field; the array form does not. -/
  | empty
  /-- The field keeps its value of the blank record. -/
  | preset
deriving DecidableEq, Repr

/-- A field of a record: its name, what its absence means, and how its value is entered. -/
structure RecordField (ρ : Type u) where
  name : String
  absence : Absence
  enter : ρ → Decoder ρ

/-- A field that must be there. -/
def RecordField.required {ρ : Type u} (name : String) (decode : Decoder α) (set : ρ → α → ρ) :
    RecordField ρ :=
  ⟨name, .refused, fun record levels draft => (decode levels draft).map (set record)⟩

/-- A field that may be `null` or missing. -/
def RecordField.nullable {ρ : Type u} (name : String) (decode : Decoder α)
    (set : ρ → Option α → ρ) : RecordField ρ :=
  ⟨name, .empty, fun record levels draft => (optional decode levels draft).map (set record)⟩

/-- A field that keeps its preset value when it is missing. -/
def RecordField.preset {ρ : Type u} (name : String) (decode : Decoder α) (set : ρ → α → ρ) :
    RecordField ρ :=
  ⟨name, .preset, fun record levels draft => (decode levels draft).map (set record)⟩

/-- What a walk over the entries of an object has gathered: the record, the names of the fields met,
and the entries that belong to no field. -/
structure Walk (ρ : Type u) where
  record : ρ
  seen : List String
  others : List (String × Draft)

variable {ρ : Type u}

/-- Walks over the entries in reading order.  `keep` says whether entries that belong to no field
are gathered (and must have a value) or only skipped. -/
def walk (fields : List (RecordField ρ)) (keep : Bool) (levels : Nat) :
    Walk ρ → List (Option String × Draft) → Except DecodeFault (Walk ρ)
  | done, [] => .ok done
  | _, (none, _) :: _ => .error .malformed
  | done, (some key, draft) :: rest =>
    match fields.find? fun field => field.name == key with
    | some field =>
      if done.seen.contains key then .error (.mismatch [])
      else do
        let record ← inside (.key key) (field.enter done.record levels draft)
        walk fields keep levels { done with record, seen := key :: done.seen } rest
    | none =>
      if keep then
        if (draft.json? levels).isSome then
          walk fields keep levels { done with others := done.others ++ [(key, draft)] } rest
        else .error .malformed
      else if draft.isWhole then walk fields keep levels done rest
      else .error .malformed

/-- Whether the walk met every field that must be there. -/
def complete (fields : List (RecordField ρ)) (seen : List String) : Bool :=
  fields.all fun field => field.absence != .refused || seen.contains field.name

/-- An object read as a record; also the entries that belong to no field, as they are written. -/
def fromObject (blank : ρ) (fields : List (RecordField ρ)) (keep : Bool) :
    Decoder (ρ × List (String × Draft))
  | 0, .object _ _ => .error .malformed
  | levels + 1, .object drafts closed => do
    let done ← walk fields keep levels ⟨blank, [], []⟩ drafts
    if !closed then throw .malformed
    if complete fields done.seen then return (done.record, done.others) else throw (.mismatch [])
  | _, draft => .error (refuse draft)

/-- The array form of a record: the first item belongs to the first field, and so on.  `extra` is the
fault of an array with too many items. -/
def fromItems (levels : Nat) :
    Nat → ρ → List (RecordField ρ) → List Draft → Except DecodeFault (ρ × List Draft)
  | _, record, [], drafts => .ok (record, drafts)
  | _, record, fields, [] =>
    if fields.all fun field => field.absence == .preset then .ok (record, [])
    else .error (.mismatch [])
  | n, record, field :: fields, draft :: rest => do
    let next ← inside (.index n) (field.enter record levels draft)
    fromItems levels (n + 1) next fields rest

/-- A record of fields: an object, where entries that belong to no field are skipped, or the array
of the fields in order. -/
def record (blank : ρ) (fields : List (RecordField ρ)) : Decoder ρ
  | 0, .array _ _ => .error .malformed
  | levels + 1, .array drafts closed =>
    if closed then
      match fromItems levels 0 blank fields drafts with
      | .ok (done, []) => .ok done
      | .ok (_, _ :: _) => .error .malformed
      | .error fault => .error fault
    else
      match fromItems levels 0 blank fields drafts with
      | .ok _ => .error .malformed
      | .error fault => .error fault
  | levels, draft => (fromObject blank fields false levels draft).map Prod.fst

/-- A record that gathers the entries belonging to none of its fields; an object only. -/
def openRecord (blank : ρ) (fields : List (RecordField ρ)) (gather : ρ → Dict Json → ρ) :
    Decoder ρ :=
  fun levels draft => do
    let (done, others) ← fromObject blank fields true levels draft
    return gather done (Dict.ofEntries (others.filterMap fun (key, draft) =>
      (draft.json? levels).map fun value => (key, value)))

end Decoder

/-- Decodes the value a text begins with; what follows it is not looked at. -/
def decodeText {α : Type u} (decode : Decoder α) (text : String) : Except DecodeFault α :=
  decode Draft.maxLevels (Draft.read text).1

end TypeSchema
