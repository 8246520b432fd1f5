import TypeSchema.Proofs.Json.Records

/-!
# Graphs are read back

Of what is written for a graph, everything is read back but two things (**`TypeGraph.readBack_toJson`**).
A number is read as what its text is read as, which is not always the number.  And the constant of an
enum member is read as missing where it is `null`.  So a graph is read back as itself if and only if all
its numbers are and no constant is `null`.

The proof follows the format: each part of a graph is one record (`Decoder.readBack_of_enters`), except
for a type, whose object holds the entries of its structure next to its own.
-/

set_option autoImplicit false

namespace TypeSchema

open Json Decoder

/-! ## What is read back -/

/-- The double that the text of a double is read as. -/
def Double.reread? (x : Float) : Option Float :=
  (Number.double x).reread?.map Number.toDouble

/-- What a constant is read back as: `null` is taken for a missing one. -/
def Literal.reread? : Literal → Option (Option Literal)
  | .null => some none
  | .bool b => some (some (.bool b))
  | .number x => (Double.reread? x).map fun y => some (.number y)
  | .string s => some (some (.string s))

/-- What an enum member is read back as. -/
def EnumMember.reread? (member : EnumMember) : Option EnumMember :=
  match member.value with
  | none => some member
  | some constant => constant.reread?.map fun value => { member with value }

/-- What a structure is read back as. -/
def TypeKind.reread? : TypeKind → Option TypeKind
  | .numberLiteral x => (Double.reread? x).map .numberLiteral
  | .enum members => (members.mapM EnumMember.reread?).map .enum
  | kind => some kind

/-- What a type is read back as. -/
def TypeNode.reread? (node : TypeNode) : Option TypeNode :=
  node.kind.reread?.map fun kind => { node with kind }

/-- What a graph is read back as: other numbers, and no constants that are `null`. -/
def TypeGraph.reread? (graph : TypeGraph) : Option TypeGraph :=
  (graph.types.toList.mapM TypeNode.reread?).map fun types => { graph with types := types.toArray }

/-- The constants in a structure that keep their kind only by how they are written. -/
def TypeKind.constants : TypeKind → List Literal
  | .numberLiteral x => [.number x]
  | .enum members => members.filterMap EnumMember.value
  | _ => []

/-- The constants in a graph that keep their kind only by how they are written. -/
def TypeGraph.constants (graph : TypeGraph) : List Literal :=
  graph.types.toList.flatMap fun node => node.kind.constants

/-- The lengths in a structure are words of 64 bits. -/
def TypeKind.IsStored : TypeKind → Prop
  | .tuple _ minLength _ => minLength < UInt64.size
  | _ => True

/-- A graph as a program can hold it: lengths are words, and the table has each name once. -/
structure TypeGraph.IsStored (graph : TypeGraph) : Prop where
  kinds : ∀ node ∈ graph.types, node.kind.IsStored
  declarations : (Dict.keys graph.declarations).Nodup

theorem TypeKind.mem_constants_enum {members : List EnumMember} {constant : Literal} :
    constant ∈ (TypeKind.enum members).constants ↔
      ∃ member ∈ members, member.value = some constant :=
  List.mem_filterMap

theorem TypeGraph.mem_constants {graph : TypeGraph} {constant : Literal} :
    constant ∈ graph.constants ↔ ∃ node ∈ graph.types, constant ∈ node.kind.constants := by
  simp [constants]

/-! ## Numbers in what is written -/

section Numbers

variable {P : Number → Prop}

theorem allNumbers_nullable {α : Type} {write : α → Json} {value : Option α} :
    (nullable (value.map write)).AllNumbers P ↔
      ∀ inner, value = some inner → (write inner).AllNumbers P := by
  cases value <;> simp [nullable]

theorem EnumMember.allNumbers_toJson {member : EnumMember}
    (h : ∀ x, member.value = some (.number x) → P (.double x)) : member.toJson.AllNumbers P := by
  have hvalue : ∀ literal, member.value = some literal → literal.toExchange.AllNumbers P := by
    rintro (_ | b | x | s) hliteral
    · exact allNumbers_null
    · exact allNumbers_bool b
    · exact allNumbers_number.2 (h x hliteral)
    · exact allNumbers_string s
  simp only [EnumMember.toJson, allNumbers_object, List.forall_mem_append, List.forall_mem_cons,
    forall_mem_optionalEntry]
  simpa using hvalue

variable (hword : ∀ n : Nat, n < UInt64.size → P (.integer n))

include hword

theorem allNumbers_word (n : UInt32) : (Json.ofNat n.toNat).AllNumbers P :=
  allNumbers_number.2 (hword _ (n.toNat_lt_size.trans (by decide)))

theorem TypeId.allNumbers_toJson (id : TypeId) : id.toJson.AllNumbers P :=
  allNumbers_word hword id.index

theorem SymbolId.allNumbers_toJson (id : SymbolId) : id.toJson.AllNumbers P :=
  allNumbers_word hword id.index

theorem allNumbers_typeIds (ids : List TypeId) : (Json.array (ids.map TypeId.toJson)).AllNumbers P :=
  allNumbers_array.2 (List.forall_mem_map.2 fun id _ => id.allNumbers_toJson hword)

theorem Property.allNumbers_toJson (p : Property) : p.toJson.AllNumbers P := by
  simp only [Property.toJson, allNumbers_object, List.forall_mem_append, List.forall_mem_cons,
    forall_mem_optionalEntry, SymbolId.allNumbers_toJson hword, TypeId.allNumbers_toJson hword]
  simp

theorem Declaration.allNumbers_toJson (d : Declaration) : d.toJson.AllNumbers P := by
  simp [Declaration.toJson, allNumbers_word hword]

theorem Symbol.allNumbers_toJson (symbol : Symbol) : symbol.toJson.AllNumbers P := by
  simp only [Symbol.toJson, allNumbers_object, List.forall_mem_append, List.forall_mem_cons,
    forall_mem_optionalEntry, forall_mem_listEntry, Declaration.allNumbers_toJson hword]
  simp [DocPart.toJson, DocTag.toJson, allNumbers_nullable]

theorem Diagnostic.allNumbers_toJson (d : Diagnostic) : d.toJson.AllNumbers P := by
  simp [Diagnostic.toJson, allNumbers_nullable, allNumbers_word hword]

theorem TypeKind.allNumbers_entries {kind : TypeKind} (hstored : kind.IsStored)
    (h : ∀ x, .number x ∈ kind.constants → P (.double x)) : ∀ entry ∈ kind.entries, entry.2.AllNumbers P := by
  cases kind with
  | numberLiteral x => simpa [entries, named] using h x List.mem_cons_self
  | union members => simpa [entries, named] using fun id _ => TypeId.allNumbers_toJson hword id
  | intersection members => simpa [entries, named] using fun id _ => TypeId.allNumbers_toJson hword id
  | tuple elements minLength hasRest =>
    have hlength : (Json.ofNat minLength).AllNumbers P :=
      allNumbers_number.2 (hword _ (hstored))
    simp [entries, named, hlength, TypeId.allNumbers_toJson hword]
  | object properties anonymous index =>
    simp only [entries, List.forall_mem_append, List.forall_mem_cons, forall_mem_optionalEntry,
      TypeId.allNumbers_toJson hword]
    simp [named, Property.allNumbers_toJson hword]
  | enum members =>
    have hmembers : ∀ member ∈ members, member.toJson.AllNumbers P := fun member hmem =>
      member.allNumbers_toJson fun x hx => h x (mem_constants_enum.2 ⟨member, hmem, hx⟩)
    simpa [entries, named] using hmembers
  | _ => simp [entries, named]

theorem TypeNode.allNumbers_toJson {node : TypeNode} (hstored : node.kind.IsStored)
    (h : ∀ x, .number x ∈ node.kind.constants → P (.double x)) : node.toJson.AllNumbers P := by
  have hkind := TypeKind.allNumbers_entries hword hstored h
  simp only [TypeNode.toJson, allNumbers_object, List.forall_mem_append, forall_mem_optionalEntry,
    forall_mem_listEntry, SymbolId.allNumbers_toJson hword, TypeId.allNumbers_toJson hword,
    allNumbers_typeIds hword]
  simpa using hkind

/-- What is written for a graph holds no numbers but words and the numbers of the graph. -/
theorem TypeGraph.allNumbers_toJson {graph : TypeGraph} (hstored : graph.IsStored)
    (h : ∀ x, .number x ∈ graph.constants → P (.double x)) : graph.toJson.AllNumbers P := by
  have htypes : ∀ node ∈ graph.types, node.toJson.AllNumbers P := fun node hmem =>
    node.allNumbers_toJson hword (hstored.kinds node hmem) fun x hx =>
      h x (mem_constants.2 ⟨node, hmem, hx⟩)
  simp only [TypeGraph.toJson, allNumbers_object, List.forall_mem_cons, List.forall_mem_map,
    TypeId.allNumbers_toJson hword]
  simpa [Symbol.allNumbers_toJson hword, Diagnostic.allNumbers_toJson hword] using htypes

end Numbers

/-! ## Parts that are read back as they are -/

theorem TypeId.readBack_toJson (levels : Nat) (id : TypeId) :
    readBack TypeId.decode levels id.toJson = some id := by
  rw [TypeId.decode, TypeId.toJson, readBack_map, readBack_word32]
  rfl

theorem SymbolId.readBack_toJson (levels : Nat) (id : SymbolId) :
    readBack SymbolId.decode levels id.toJson = some id := by
  rw [SymbolId.decode, SymbolId.toJson, readBack_map, readBack_word32]
  rfl

theorem TypeId.toJson_ne_null (id : TypeId) : id.toJson ≠ .null := by
  rintro ⟨⟩

theorem SymbolId.toJson_ne_null (id : SymbolId) : id.toJson ≠ .null := by
  rintro ⟨⟩

theorem readBack_typeIds (levels : Nat) (ids : List TypeId) :
    readBack (list TypeId.decode) (levels + 1) (.array (ids.map TypeId.toJson)) = some ids :=
  readBack_list_some fun id _ => id.readBack_toJson levels

theorem DocPart.readBack_toJson (levels : Nat) (part : DocPart) :
    readBack DocPart.decode (levels + 1) part.toJson = some part := by
  have hkind : Dict.get? DocPartKind.names part.kind.name = some part.kind := by
    cases part.kind <;> rfl
  exact readBack_of_enters
    ((Enters.entry rfl (readBack_choice hkind)).append (.entry rfl (readBack_string part.text)))
    rfl rfl (by decide) (by simp [Dict.keys])

theorem DocTag.readBack_toJson (levels : Nat) (tag : DocTag) :
    readBack DocTag.decode (levels + 1) tag.toJson = some tag := by
  have htext : readBack (optional string) levels (nullable (tag.text.map .string)) = some tag.text :=
    readBack_nullable fun text _ => ⟨by simp, readBack_string text⟩
  exact readBack_of_enters
    ((Enters.entry rfl (readBack_string tag.name)).append (.entry rfl htext))
    rfl rfl (by decide) (by simp [Dict.keys])

theorem Declaration.readBack_toJson (levels : Nat) (d : Declaration) :
    readBack Declaration.decode (levels + 1) d.toJson = some d := by
  have hkind : Dict.get? DeclarationKind.names d.kind.name = some d.kind := by cases d.kind <;> rfl
  exact readBack_of_enters
    ((((Enters.entry rfl (readBack_string d.file)).append
      (.entry rfl (readBack_word32 d.position))).append
      (.entry rfl (readBack_choice hkind))).append
      (.entry rfl (readBack_flag d.isAbstract)))
    rfl rfl (by decide) (by simp [Dict.keys])

theorem Symbol.readBack_toJson (levels : Nat) (symbol : Symbol) :
    readBack Symbol.decode (levels + 3) symbol.toJson = some symbol := by
  exact readBack_of_enters
    ((((((Enters.entry rfl (readBack_string symbol.name)).append
      (.optional rfl (fun name _ => ⟨by simp, readBack_string name⟩) rfl)).append
      (.list rfl (fun _ => readBack_list_some fun part _ => part.readBack_toJson levels) rfl)).append
      (.list rfl (fun _ => readBack_list_some fun tag _ => tag.readBack_toJson levels) rfl)).append
      (.optional rfl (fun d _ => ⟨by simp [Declaration.toJson], d.readBack_toJson _⟩) rfl)).append
      (.entry rfl (readBack_flag symbol.isBuiltin)))
    rfl rfl (by decide) (by simp [Dict.keys])

theorem Property.readBack_toJson (levels : Nat) (p : Property) :
    readBack Property.decode (levels + 1) p.toJson = some p := by
  exact readBack_of_enters
    ((((((Enters.entry rfl (p.symbol.readBack_toJson levels)).append
      (.entry rfl (p.type.readBack_toJson levels))).append
      (.entry rfl (readBack_flag p.isOptional))).append
      ((Enters.entry rfl (readBack_flag p.isMethod)).append
      (.entry rfl (readBack_flag p.isPrivate)))).append
      (.optional rfl (fun id _ => ⟨id.toJson_ne_null, id.readBack_toJson levels⟩) rfl)).append
      (.optional rfl (fun source _ => ⟨by simp, readBack_string source⟩) rfl))
    rfl rfl (by decide) (by simp [Dict.keys])

theorem Diagnostic.readBack_toJson (levels : Nat) (d : Diagnostic) :
    readBack Diagnostic.decode (levels + 1) d.toJson = some d := by
  have hfile : readBack (optional string) levels (nullable (d.file.map .string)) = some d.file :=
    readBack_nullable fun file _ => ⟨by simp, readBack_string file⟩
  have hword : ∀ n : Option UInt32, readBack (optional word32) levels
      (nullable (n.map fun n => Json.ofNat n.toNat)) = some n := fun _ =>
    readBack_nullable fun n _ => ⟨by simp [Json.ofNat], readBack_word32 n⟩
  exact readBack_of_enters
    ((((Enters.entry rfl (readBack_string d.message)).append (.entry rfl hfile)).append
      (.entry rfl (hword d.line))).append (.entry rfl (hword d.column)))
    rfl rfl (by decide) (by simp [Dict.keys])

/-! ## Structures -/

theorem Literal.readBack_toExchange (levels : Nat) (literal : Literal) :
    readBack (optional Literal.decode) levels literal.toExchange = literal.reread? := by
  cases literal with
  | number x =>
    rw [toExchange, readBack_optional (by simp), Literal.reread?, Double.reread?, readBack, draft,
      Literal.decode, Draft.json?]
    cases (Number.double x).reread? <;> rfl
  | _ => rfl

theorem EnumMember.readBack_toJson (levels : Nat) (member : EnumMember) :
    readBack EnumMember.decode (levels + 1) member.toJson = member.reread? := by
  obtain ⟨name, value, initializer⟩ := member
  have hkeys := ((List.Sublist.refl ["name"]).append
    (keys_optionalEntry "value" (value.map Literal.toExchange))).append
    (keys_optionalEntry "initializer" (initializer.map .string))
  rw [EnumMember.decode, EnumMember.toJson, readBack_record (by simpa [Dict.keys] using hkeys)
    (by decide) (by simp [Dict.keys]), EnumMember.reread?, List.foldlM_append, List.foldlM_append,
    foldlM_entry rfl, readBack_string, Option.map_some, Option.bind_eq_bind, Option.bind_some]
  cases value with
  | none =>
    exact (foldlM_optionalEntry rfl (fun source _ => ⟨by simp, readBack_string source⟩) rfl).trans rfl
  | some constant =>
    show Option.bind (List.foldlM _ _ [("value", constant.toExchange)]) _ = constant.reread?.map _
    rw [foldlM_entry rfl, Literal.readBack_toExchange]
    cases constant.reread? with
    | none => rfl
    | some read =>
      exact (foldlM_optionalEntry rfl (fun source _ => ⟨by simp, readBack_string source⟩) rfl).trans rfl

/-- A structure is read from the entries next to the one that names it. -/
theorem TypeKind.toOption_ofEntries {name : String} {decode : Decoder TypeKind}
    {fields : List (String × Json)} (hget : Dict.get? decoders name = some decode)
    (hfields : ∀ entry ∈ fields, entry.1 ≠ "kind") :
    (ofEntries ((named name :: fields).map fun entry => (entry.1, entry.2.draft))).toOption =
      readBack decode Draft.maxLevels (.object fields) := by
  have hothers : ∀ entry ∈ fields.map fun entry => (entry.1, entry.2.draft), entry.1 ≠ "kind" :=
    List.forall_mem_map.2 hfields
  have hkind : ((named name :: fields).map fun entry => (entry.1, entry.2.draft)).filter
      (fun entry => entry.1 == "kind") = [("kind", .string (some name))] := by
    rw [List.map_cons, List.filter_cons_of_pos (by rfl), List.filter_eq_nil_iff.2 fun entry hmem =>
      by simpa using hothers entry hmem]
    rfl
  have hrest : ((named name :: fields).map fun entry => (entry.1, entry.2.draft)).filter
      (fun entry => entry.1 != "kind") = fields.map fun entry => (entry.1, entry.2.draft) := by
    rw [List.map_cons, List.filter_cons_of_neg (by simp [named]), List.filter_eq_self.2 fun entry hmem =>
      by simpa using hothers entry hmem]
  rw [ofEntries, hkind, hrest, List.map_map]
  dsimp only
  rw [hget, readBack, draft, fieldDrafts_eq_map]
  dsimp only [decodeFields, Function.comp_def]
  cases decode Draft.maxLevels (.object (fields.map fun entry => (some entry.1, entry.2.draft)) true) <;> rfl

namespace TypeKind

theorem readBack_value {α : Type} {blank : α} {decode : Decoder α} {build : α → TypeKind}
    (value : Json) :
    readBack (decodeValue blank decode build) Draft.maxLevels (.object [("value", value)]) =
      (readBack decode 126 value).map build := by
  rw [decodeValue, readBack_map, Draft.maxLevels, readBack_record (.refl _) (by simp)
    (by simp [Dict.keys]), foldlM_entry (h := rfl)]
  cases readBack decode 126 value <;> rfl

theorem readBack_members (key : String) (build : List TypeId → TypeKind) (ids : List TypeId) :
    readBack (decodeMembers key build) Draft.maxLevels (.object [(key, .array (ids.map TypeId.toJson))]) =
      some (build ids) := by
  have hfield : HasField [RecordField.required key (list TypeId.decode) fun _ v => v] key
      (list TypeId.decode) fun _ v => v := by simp [HasField, RecordField.required]
  exact readBack_map_of (readBack_of_enters (.entry hfield (readBack_typeIds 125 ids)) rfl rfl
    (by simp) (by simp [Dict.keys]))

theorem readBack_tuple {elements : List TypeId} {minLength : Nat} {hasRest : Bool}
    (h : minLength < UInt64.size) :
    readBack decodeTuple Draft.maxLevels (.object [("elements", .array (elements.map TypeId.toJson)),
      ("minLength", Json.ofNat minLength), ("hasRest", .bool hasRest)]) =
        some (.tuple elements minLength hasRest) := by
  exact readBack_map_of (a := (elements, minLength, hasRest)) (readBack_of_enters
    (((Enters.entry rfl (readBack_typeIds 125 elements)).append
      (.entry rfl (readBack_naturalBelow h le_rfl))).append (.entry rfl (readBack_flag hasRest)))
    rfl rfl (by decide) (by simp [Dict.keys]))

theorem readBack_object (properties : List Property) (anonymous : Bool) (index : Option TypeId) :
    readBack decodeObject Draft.maxLevels (.object
      ([("properties", .array (properties.map Property.toJson)), ("anonymous", .bool anonymous)] ++
        optionalEntry "index" (index.map TypeId.toJson))) =
      some (.object properties anonymous index) := by
  have hproperties : readBack (list Property.decode) 126 (.array (properties.map Property.toJson)) =
      some properties := readBack_list_some fun p _ => p.readBack_toJson 124
  exact readBack_map_of (a := (properties, anonymous, index)) (readBack_of_enters
    (((Enters.entry rfl hproperties).append (.entry rfl (readBack_flag anonymous))).append
      (.optional rfl (fun id _ => ⟨id.toJson_ne_null, id.readBack_toJson 126⟩) rfl))
    rfl rfl (by decide) (by simp [Dict.keys]))

theorem readBack_enum (members : List EnumMember) :
    readBack decodeEnum Draft.maxLevels
      (.object [("members", .array (members.map EnumMember.toJson))]) =
        (members.mapM EnumMember.reread?).map .enum := by
  have hmembers : readBack (list EnumMember.decode) 126 (.array (members.map EnumMember.toJson)) =
      members.mapM EnumMember.reread? := readBack_list fun member _ => member.readBack_toJson 124
  rw [decodeEnum, readBack_map, Draft.maxLevels, readBack_record (.refl _) (by simp)
    (by simp [Dict.keys]), foldlM_entry (h := rfl), hmembers]
  cases members.mapM EnumMember.reread? <;> rfl

end TypeKind

/-- A structure is read back. -/
theorem TypeKind.toOption_ofEntries_entries {kind : TypeKind} (hstored : kind.IsStored) :
    (ofEntries (kind.entries.map fun entry => (entry.1, entry.2.draft))).toOption = kind.reread? := by
  cases kind with
  | stringLiteral value =>
    rw [entries, toOption_ofEntries rfl (by simp), readBack_value]
    rfl
  | numberLiteral x =>
    rw [entries, toOption_ofEntries rfl (by simp), readBack_value, readBack_double]
    rfl
  | booleanLiteral value =>
    rw [entries, toOption_ofEntries rfl (by simp), readBack_value]
    rfl
  | enumLiteral value =>
    rw [entries, toOption_ofEntries rfl (by simp), readBack_value]
    rfl
  | union members => rw [entries, toOption_ofEntries rfl (by simp), readBack_members]; rfl
  | intersection members => rw [entries, toOption_ofEntries rfl (by simp), readBack_members]; rfl
  | tuple elements minLength hasRest =>
    rw [entries, toOption_ofEntries rfl (by simp), readBack_tuple (hstored)]
    rfl
  | object properties anonymous index =>
    have hfields : ∀ entry ∈ [("properties", .array (properties.map Property.toJson)),
        ("anonymous", .bool anonymous)] ++ optionalEntry "index" (index.map TypeId.toJson),
        entry.1 ≠ "kind" := by
      simp only [List.forall_mem_append, forall_mem_optionalEntry]
      simp
    exact (toOption_ofEntries rfl hfields).trans (readBack_object properties anonymous index)
  | enum members =>
    rw [entries, toOption_ofEntries rfl (by simp), readBack_enum]
    rfl
  | _ => exact (toOption_ofEntries rfl (by simp)).trans rfl

/-! ## Types -/

theorem Property.nestsWithin_toJson (p : Property) (levels : Nat) :
    p.toJson.NestsWithin (levels + 1) := by
  show ∀ entry ∈ _, _
  simp only [List.forall_mem_append, List.forall_mem_cons, forall_mem_optionalEntry]
  simp [NestsWithin, SymbolId.toJson, TypeId.toJson, Json.ofNat]

theorem EnumMember.nestsWithin_toJson (member : EnumMember) (levels : Nat) :
    member.toJson.NestsWithin (levels + 1) := by
  have hvalue : ∀ literal : Literal, literal.toExchange.NestsWithin levels := by
    rintro (_ | _ | _ | _) <;> simp [Literal.toExchange, NestsWithin]
  show ∀ entry ∈ _, _
  simp only [List.forall_mem_append, List.forall_mem_cons, forall_mem_optionalEntry]
  simp [NestsWithin, hvalue]

namespace TypeKind

/-- The values in a structure nest twice at most: a list of records. -/
theorem nestsWithin_entries (kind : TypeKind) (levels : Nat) :
    ∀ entry ∈ kind.entries, entry.2.NestsWithin (levels + 2) := by
  cases kind with
  | object properties anonymous index =>
    simp only [entries, List.forall_mem_append, List.forall_mem_cons, forall_mem_optionalEntry]
    simp [NestsWithin, named, TypeId.toJson, Json.ofNat, Property.nestsWithin_toJson]
  | enum members => simp [entries, named, NestsWithin, EnumMember.nestsWithin_toJson]
  | _ => simp [entries, named, NestsWithin, TypeId.toJson, Json.ofNat]

/-- A structure is not read back if a number in it is not. -/
theorem isSome_of_reread? {kind read : TypeKind} (h : kind.reread? = some read) (x : Float)
    (hx : .number x ∈ kind.constants) : (Number.double x).reread?.isSome = true := by
  have hdouble : ∃ y, Double.reread? x = some y := by
    cases kind with
    | numberLiteral y =>
      cases List.mem_singleton.1 hx
      obtain ⟨y, hy, _⟩ := Option.map_eq_some_iff.1 h
      exact ⟨y, hy⟩
    | enum members =>
      obtain ⟨member, hmem, hvalue⟩ := mem_constants_enum.1 hx
      obtain ⟨others, hothers, _⟩ := Option.map_eq_some_iff.1 h
      obtain ⟨_, hmember⟩ := exists_of_mapM_eq_some hothers member hmem
      rw [EnumMember.reread?, hvalue] at hmember
      obtain ⟨_, hconstant, _⟩ := Option.map_eq_some_iff.1 hmember
      obtain ⟨y, hy, _⟩ := Option.map_eq_some_iff.1 hconstant
      exact ⟨y, hy⟩
    | _ => cases hx
  obtain ⟨_, hy⟩ := hdouble
  obtain ⟨n, hn, _⟩ := Option.map_eq_some_iff.1 hy
  exact Option.isSome_of_eq_some hn

/-- The values in a structure that is read back are taken. -/
theorem isSome_json? {kind read : TypeKind} (hstored : kind.IsStored) (h : kind.reread? = some read)
    (levels : Nat) : ∀ entry ∈ kind.entries, (entry.2.draft.json? (levels + 2)).isSome = true := by
  have hword : ∀ n : Nat, n < UInt64.size → (Number.integer n).reread?.isSome = true := fun n hn =>
    Option.isSome_of_eq_some (Number.reread?_natCast hn)
  have hnumbers := allNumbers_entries (P := fun n => n.reread?.isSome = true) hword hstored
    (isSome_of_reread? h)
  exact fun entry hmem =>
    Json.isSome_json? (kind.nestsWithin_entries levels entry hmem) (hnumbers entry hmem)

/-- A structure has none of the entries of a type. -/
theorem key_notMem_of_mem_entries (kind : TypeKind) : ∀ entry ∈ kind.entries,
    entry.1 ∉ ["symbol", "aliasSymbol", "aliasArguments", "numberIndex", "baseTypes"] := by
  cases kind with
  | object properties anonymous index =>
    simp only [entries, List.forall_mem_append, List.forall_mem_cons, forall_mem_optionalEntry]
    simp [named]
  | _ => simp [entries, named]

end TypeKind

/-- **A type is read back.** -/
theorem TypeNode.readBack_toJson {node : TypeNode} (hstored : node.kind.IsStored) (levels : Nat) :
    readBack TypeNode.decode (levels + 3) node.toJson = node.reread? := by
  have hkind := TypeKind.toOption_ofEntries_entries hstored
  by_cases hread : ∀ entry ∈ node.kind.entries, (entry.2.draft.json? (levels + 2)).isSome = true
  · refine toOption_bind_of (fromObject_of_enters
      ((((((Enters.foreign node.kind.key_notMem_of_mem_entries hread).append
        (.optional rfl (fun id _ => ⟨SymbolId.toJson_ne_null id, SymbolId.readBack_toJson _ id⟩) rfl)).append
        (.optional rfl (fun id _ => ⟨SymbolId.toJson_ne_null id, SymbolId.readBack_toJson _ id⟩) rfl)).append
        (.list rfl (fun _ => readBack_typeIds _ _) rfl)).append
        (.optional rfl (fun id _ => ⟨TypeId.toJson_ne_null id, TypeId.readBack_toJson _ id⟩) rfl)).append
        (.list rfl (fun _ => readBack_typeIds _ _) rfl)) (by decide) (by simp)) ?_
    simp only [List.append_nil]
    rw [toOption_bind, hkind, TypeNode.reread?]
    cases node.kind.reread? <;> rfl
  · have hnone : node.kind.reread? = none := by
      cases h : node.kind.reread? with
      | none => rfl
      | some read => exact absurd (TypeKind.isSome_json? hstored h levels) hread
    obtain ⟨entry, hmem, hvalue⟩ : ∃ entry ∈ node.kind.entries,
        entry.2.draft.json? (levels + 2) = none := by simpa using hread
    have hentry : entry ∈ node.kind.entries ++
        optionalEntry "symbol" (node.symbol.map SymbolId.toJson) ++
        optionalEntry "aliasSymbol" (node.aliasSymbol.map SymbolId.toJson) ++
        listEntry "aliasArguments" (node.aliasArguments.map TypeId.toJson) ++
        optionalEntry "numberIndex" (node.numberIndex.map TypeId.toJson) ++
        listEntry "baseTypes" (node.baseTypes.map TypeId.toJson) := by
      simp [hmem]
    rw [TypeNode.reread?, hnone]
    exact toOption_bind_eq_none (toOption_fromObject_eq_none hentry
      (node.kind.key_notMem_of_mem_entries entry hmem) hvalue)

/-! ## Graphs -/

/-- **A graph is read back**, with its numbers as they are read back and without constants that are
`null`. -/
theorem TypeGraph.readBack_toJson {graph : TypeGraph} (hstored : graph.IsStored) (levels : Nat) :
    readBack TypeGraph.decode (levels + 5) graph.toJson = graph.reread? := by
  have htypes : readBack (list TypeNode.decode) (levels + 4)
      (.array (graph.types.toList.map TypeNode.toJson)) = graph.types.toList.mapM TypeNode.reread? :=
    readBack_list fun node hmem =>
      TypeNode.readBack_toJson (hstored.kinds node (Array.mem_toList_iff.1 hmem)) levels
  have hsymbols : readBack (list Symbol.decode) (levels + 4)
      (.array (graph.symbols.toList.map Symbol.toJson)) = some graph.symbols.toList :=
    readBack_list_some fun symbol _ => symbol.readBack_toJson levels
  have hdeclarations : readBack (dict TypeId.decode) (levels + 4)
      (.object (graph.declarations.map fun entry => (entry.1, entry.2.toJson))) =
        some graph.declarations :=
    readBack_dict hstored.declarations fun entry _ => entry.2.readBack_toJson _
  have hdiagnostics : readBack (list Diagnostic.decode) (levels + 4)
      (.array (graph.diagnostics.map Diagnostic.toJson)) = some graph.diagnostics :=
    readBack_list_some fun d _ => d.readBack_toJson _
  rw [TypeGraph.decode, TypeGraph.toJson, readBack_record (.refl _) (by decide) (by simp [Dict.keys]),
    TypeGraph.reread?, foldlM_cons_entry rfl, htypes]
  cases graph.types.toList.mapM TypeNode.reread? with
  | none => rfl
  | some types =>
    rw [Option.bind_some, foldlM_cons_entry rfl, hsymbols, Option.bind_some, foldlM_cons_entry rfl,
      hdeclarations, Option.bind_some, foldlM_entry rfl, hdiagnostics]
    rfl

/-! ## Graphs that are read back as themselves -/

theorem EnumMember.reread?_eq_self_iff {member : EnumMember} : member.reread? = some member ↔
    ∀ constant, member.value = some constant → constant.reread? = some (some constant) := by
  obtain ⟨name, value, initializer⟩ := member
  cases value with
  | none => simp [reread?]
  | some constant => cases h : constant.reread? <;> simp [reread?, h]

/-- A structure is read back as itself if its constants are. -/
theorem TypeKind.reread?_eq_self_iff {kind : TypeKind} : kind.reread? = some kind ↔
    ∀ constant ∈ kind.constants, constant.reread? = some (some constant) := by
  cases kind with
  | numberLiteral x => cases h : Double.reread? x <;> simp [reread?, constants, Literal.reread?, h]
  | enum members =>
    have hmembers : (TypeKind.enum members).reread? = some (.enum members) ↔
        members.mapM EnumMember.reread? = some members := by
      simp [reread?]
    simp only [hmembers, mapM_eq_self_iff, EnumMember.reread?_eq_self_iff, mem_constants_enum]
    exact ⟨fun h constant ⟨member, hmem, hvalue⟩ => h member hmem constant hvalue,
      fun h member hmem constant hvalue => h constant ⟨member, hmem, hvalue⟩⟩
  | _ => exact iff_of_true rfl (List.forall_mem_nil _)

theorem TypeNode.reread?_eq_self_iff {node : TypeNode} :
    node.reread? = some node ↔ node.kind.reread? = some node.kind := by
  cases node
  simp [reread?]

/-- A graph is read back as itself if its constants are. -/
theorem TypeGraph.reread?_eq_self_iff {graph : TypeGraph} : graph.reread? = some graph ↔
    ∀ constant ∈ graph.constants, constant.reread? = some (some constant) := by
  have htypes : graph.reread? = some graph ↔
      graph.types.toList.mapM TypeNode.reread? = some graph.types.toList := by
    obtain ⟨types, symbols, declarations, diagnostics⟩ := graph
    simp only [reread?, Option.map_eq_some_iff, TypeGraph.mk.injEq, and_true]
    exact ⟨fun ⟨_, hread, heq⟩ => heq ▸ hread, fun hread => ⟨_, hread, Array.toArray_toList⟩⟩
  simp only [htypes, mapM_eq_self_iff, TypeNode.reread?_eq_self_iff, TypeKind.reread?_eq_self_iff,
    Array.mem_toList_iff, mem_constants]
  exact ⟨fun h constant ⟨node, hmem, hconstant⟩ => h node hmem constant hconstant,
    fun h node hmem constant hconstant => h constant ⟨node, hmem, hconstant⟩⟩

/-- The constants that are not read back as themselves: numbers whose text is read as another one, and
`null`. -/
theorem forall_reread?_iff {constants : List Literal} :
    (∀ constant ∈ constants, constant.reread? = some (some constant)) ↔
      (∀ x, .number x ∈ constants → Double.reread? x = some x) ∧ .null ∉ constants := by
  constructor
  · refine fun h => ⟨fun x hx => ?_, fun hnull => ?_⟩
    · simpa [Literal.reread?] using h _ hx
    · cases h .null hnull
  · rintro ⟨hnumbers, hnull⟩ (_ | b | x | s) hmem
    · exact absurd hmem hnull
    · rfl
    · rw [Literal.reread?, hnumbers x hmem, Option.map_some]
    · rfl

/-! ## Through text -/

/-- What is read from the text of a graph. -/
theorem TypeGraph.toOption_decodeText {graph : TypeGraph} (hstored : graph.IsStored)
    (hfinite : ∀ x, .number x ∈ graph.constants → Double.isFinite x = true) :
    (decodeText TypeGraph.decode graph.toJson.compact).toOption = graph.reread? := by
  have hread : graph.toJson.IsFinite :=
    TypeGraph.allNumbers_toJson (P := Number.IsFinite) (fun _ _ => trivial) hstored hfinite
  rw [decodeText, Json.read_compact hread]
  exact TypeGraph.readBack_toJson hstored 122

/-- **Reading what is written for a graph** gives the graph with its numbers as they are read back and
without constants that are `null`.  So it gives the graph itself just when every number in it is read
back as itself and no constant is `null`. -/
theorem TypeGraph.decodeText_compact {graph : TypeGraph} (hstored : graph.IsStored)
    (hfinite : ∀ x, .number x ∈ graph.constants → Double.isFinite x = true) :
    (∀ read, decodeText TypeGraph.decode graph.toJson.compact = .ok read ↔
      graph.reread? = some read) ∧
    (decodeText TypeGraph.decode graph.toJson.compact = .ok graph ↔
      (∀ x, .number x ∈ graph.constants → Double.reread? x = some x) ∧
        .null ∉ graph.constants) := by
  have hread : ∀ read, decodeText TypeGraph.decode graph.toJson.compact = .ok read ↔
      graph.reread? = some read := fun read => by
    rw [← toOption_eq_some, TypeGraph.toOption_decodeText hstored hfinite]
  exact ⟨hread, (hread graph).trans (TypeGraph.reread?_eq_self_iff.trans forall_reread?_iff)⟩

/-- A record with an optional property, an enum and a number, with all that may be said of them. -/
def TypeGraph.settings : TypeGraph where
  types := #[{ kind := .object [{ symbol := ⟨1⟩, type := ⟨1⟩, isOptional := true },
      { symbol := ⟨2⟩, type := ⟨2⟩, initializer := some "0.5" }] false none, symbol := some ⟨0⟩ },
    { kind := .enum [⟨"Low", some (.number 1), none⟩, ⟨"High", none, some "Low + 1"⟩] },
    { kind := .numberLiteral 0.5 }]
  symbols := #[{ name := "Settings", tags := [⟨"ignore", none⟩] }, { name := "level" },
    { name := "ratio", documentation := [⟨.text, "the share"⟩] }]
  declarations := [("Settings", ⟨0⟩)]
  diagnostics := [{ message := "unused", line := some 3 }]

theorem TypeGraph.decodeText_settings :
    decodeText TypeGraph.decode TypeGraph.settings.toJson.compact = .ok TypeGraph.settings := by
  have hstored : TypeGraph.settings.IsStored :=
    ⟨by simp [settings, TypeKind.IsStored], by decide⟩
  have hnumbers : ∀ x, .number x ∈ TypeGraph.settings.constants → x = 1 ∨ x = 0.5 := by
    simp [settings, constants, TypeKind.constants]
  have hfinite : ∀ x, .number x ∈ TypeGraph.settings.constants → Double.isFinite x = true := by
    intro x hx
    rcases hnumbers x hx with rfl | rfl <;> decide +kernel
  refine (TypeGraph.decodeText_compact hstored hfinite).2.2 ⟨fun x hx => ?_, by decide⟩
  rcases hnumbers x hx with rfl | rfl <;> decide +kernel

/-- An enum with a constant that is `null`. -/
def TypeGraph.withNull : TypeGraph where
  types := #[{ kind := .enum [⟨"Missing", some .null, none⟩] }]

/-- A number whose text is read as the next greater double. -/
def TypeGraph.withTiny : TypeGraph where
  types := #[{ kind := .numberLiteral 2e-23 }]

theorem TypeGraph.not_read_back :
    (TypeGraph.withNull.IsStored ∧ .number ∉ TypeGraph.withNull.constants.map Literal.kind ∧
      decodeText TypeGraph.decode TypeGraph.withNull.toJson.compact ≠ .ok TypeGraph.withNull) ∧
    (TypeGraph.withTiny.IsStored ∧ TypeGraph.withTiny.constants = [.number 2e-23] ∧
      Double.isFinite 2e-23 = true ∧
      decodeText TypeGraph.decode TypeGraph.withTiny.toJson.compact ≠ .ok TypeGraph.withTiny) := by
  have hnull : TypeGraph.withNull.IsStored := ⟨by simp [withNull, TypeKind.IsStored], by decide⟩
  have htiny : TypeGraph.withTiny.IsStored := ⟨by simp [withTiny, TypeKind.IsStored], by decide⟩
  refine ⟨⟨hnull, by decide, fun h => ?_⟩, htiny, rfl, by decide +kernel, fun h => ?_⟩
  · have hread := TypeGraph.toOption_decodeText hnull (by simp [withNull, constants, TypeKind.constants])
    rw [h] at hread
    cases hread
  · have hread := TypeGraph.toOption_decodeText htiny fun x hx => by
      cases List.mem_singleton.1 hx
      decide +kernel
    have hconstant := TypeGraph.reread?_eq_self_iff.1 (hread.symm.trans (congrArg _ h))
      (.number 2e-23) List.mem_cons_self
    revert hconstant
    decide +kernel

example : Double.reread? 2e-23 = some 2.0000000000000002e-23 := by decide +kernel

end TypeSchema
