import Mathlib.Data.List.ReduceOption
import TypeSchema.Proofs.Building.Requests
import TypeSchema.Proofs.Results

/-!
# What a request is answered with

The builder threads a context through all rules, and carries a bound on its depth.  Most of what it does
there has no bearing on the shape of its answers.  This file says without a context and without a bound
what an answer is made of: `Catalog.Composed` has one case for each rule, and says how the schema of a
subject is composed of the answers for its parts; `Catalog.Yields` says what becomes of it, whether the
answer is the schema itself or a reference to the definition of a name.

Both are relations between a request and an answer, with parts related by the same relation, so what
every answer has in common is proved by induction on `Yields` and by cases on `Composed`.  That the
builder answers with what is so derived follows in `TypeSchema.Proofs.Building.Descent`
(`Contract.answers_buildWithin`).
-/

set_option autoImplicit false

namespace TypeSchema

/-! ## Related lists -/

section

variable {α β : Type} {R : α → β → Prop} {as : List α} {bs : List β}

theorem exists_right_of_forall₂ (h : List.Forall₂ R as bs) {a : α} (ha : a ∈ as) :
    ∃ b ∈ bs, R a b := by
  induction h with
  | nil => cases ha
  | @cons first second _ _ hfirst _ ih =>
    rcases List.mem_cons.1 ha with rfl | hrest
    · exact ⟨second, List.mem_cons_self, hfirst⟩
    · obtain ⟨b, hb, hab⟩ := ih hrest
      exact ⟨b, List.mem_cons_of_mem _ hb, hab⟩

theorem exists_left_of_forall₂ (h : List.Forall₂ R as bs) {b : β} (hb : b ∈ bs) :
    ∃ a ∈ as, R a b :=
  exists_right_of_forall₂ h.flip hb

end

/-! ## What members leave -/

/-- Whether the kind has no rule but that for arrays, if it has one at all. -/
def TypeKind.isLeftOver : TypeKind → Bool
  | .object _ _ _ => true
  | .enum _ => true
  | .never => true
  | .typeParameter => true
  | _ => false

theorem TypeKind.literal?_of_isLeftOver {kind : TypeKind} (h : kind.isLeftOver = true) :
    kind.literal? = none := by
  cases kind <;> first | rfl | cases h

/-- What a member of a union contributes: a literal by its value, any other member by its schema. -/
inductive Contribution
  | value (literal : Literal)
  | schema (schema : Definition)

/-- The branches with one more contribution.  A schema of `undefined` leaves no branch, and `null` is
written as the options say. -/
def Branches.enter (nullable : Bool) (branches : Branches) : Contribution → Branches
  | .value literal => branches.addValue literal
  | .schema schema => match schema.typeName? with
    | some "undefined" => branches
    | some "null" => branches.addSchema (if nullable then schema.makeNullable else schema)
    | _ => branches.addSchema schema

namespace Branches

variable {nullable : Bool} {branches : Branches} {schema : Definition}

theorem mem_schemas_enter {contribution : Contribution}
    (h : schema ∈ (branches.enter nullable contribution).schemas) :
    schema ∈ branches.schemas ∨
      (contribution = .schema schema ∧ schema.typeName? ≠ some "undefined") ∨
      ∃ null, contribution = .schema null ∧ nullable = true ∧ null.typeName? = some "null" ∧
        schema = null.makeNullable := by
  cases contribution with
  | value literal =>
    rw [enter, addValue] at h
    split at h
    · exact .inl h
    · exact .inl h
  | schema entered =>
    rw [enter] at h
    split at h
    · exact .inl h
    · rename_i hnull
      rcases List.mem_append.1 h with hold | hnew
      · exact .inl hold
      · rw [List.mem_singleton] at hnew
        split at hnew
        · exact .inr (.inr ⟨entered, rfl, ‹_›, hnull, hnew⟩)
        · subst hnew
          exact .inr (.inl ⟨rfl, by simp [hnull]⟩)
    · rename_i hother _
      rcases List.mem_append.1 h with hold | hnew
      · exact .inl hold
      · obtain rfl := List.mem_singleton.1 hnew
        exact .inr (.inl ⟨rfl, hother⟩)

/-- The schemas of a union are those that members contribute, but `undefined` leaves none, and `null` may
be written differently. -/
theorem mem_schemas_foldl {contributions : List Contribution}
    (h : schema ∈ (contributions.foldl (enter nullable) branches).schemas) :
    schema ∈ branches.schemas ∨
      (.schema schema ∈ contributions ∧ schema.typeName? ≠ some "undefined") ∨
      ∃ null, .schema null ∈ contributions ∧ nullable = true ∧ null.typeName? = some "null" ∧
        schema = null.makeNullable := by
  induction contributions generalizing branches with
  | nil => exact .inl h
  | cons first rest ih =>
    rcases ih h with hfirst | ⟨hmem, hrest⟩ | ⟨null, hmem, hnull⟩
    · rcases mem_schemas_enter hfirst with hold | ⟨heq, hname⟩ | ⟨null, heq, hnull⟩
      · exact .inl hold
      · exact .inr (.inl ⟨heq ▸ List.mem_cons_self, hname⟩)
      · exact .inr (.inr ⟨null, heq ▸ List.mem_cons_self, hnull⟩)
    · exact .inr (.inl ⟨List.mem_cons_of_mem _ hmem, hrest⟩)
    · exact .inr (.inr ⟨null, List.mem_cons_of_mem _ hmem, hnull⟩)

end Branches

/-- The factors with the schema of one more member. -/
def Factors.enter (factors : Factors) (schema : Definition) : Factors :=
  if schema.typeName? = some "undefined" then factors
  else if schema.isBareType then
    match schema.typeName? with
    | some name => factors.addType name
    | none => factors
  else factors.addSchema schema

namespace Factors

variable {factors : Factors} {schema : Definition}

theorem mem_schemas_enter {member : Definition} (h : schema ∈ (factors.enter member).schemas) :
    schema ∈ factors.schemas ∨ (schema = member ∧ schema.typeName? ≠ some "undefined") := by
  rw [enter] at h
  split at h
  · exact .inl h
  · rename_i hother
    split at h
    · split at h
      · rw [addType] at h
        split at h
        · exact .inl h
        · exact .inl h
      · exact .inl h
    · rcases List.mem_append.1 h with hold | hnew
      · exact .inl hold
      · obtain rfl := List.mem_singleton.1 hnew
        exact .inr ⟨rfl, hother⟩

/-- The schemas of an intersection are those of members, but `undefined` leaves none. -/
theorem mem_schemas_foldl {schemas : List Definition}
    (h : schema ∈ (schemas.foldl Factors.enter factors).schemas) :
    schema ∈ factors.schemas ∨ (schema ∈ schemas ∧ schema.typeName? ≠ some "undefined") := by
  induction schemas generalizing factors with
  | nil => exact .inl h
  | cons first rest ih =>
    rcases ih h with hfirst | ⟨hmem, hrest⟩
    · exact (mem_schemas_enter hfirst).imp_right
        fun ⟨heq, hname⟩ => ⟨heq ▸ List.mem_cons_self, hname⟩
    · exact .inr ⟨List.mem_cons_of_mem _ hmem, hrest⟩

/-- The type names that are folded are those of members. -/
theorem mem_types_enter {member : Definition} {name : String}
    (h : name ∈ (factors.enter member).types) :
    name ∈ factors.types ∨ (member.typeName? = some name ∧ name ≠ "undefined") := by
  rw [enter] at h
  split at h
  · exact .inl h
  · rename_i hother
    split at h
    · split at h
      · rename_i hname
        rw [addType] at h
        split at h
        · exact .inl h
        · rcases List.mem_append.1 h with hold | hnew
          · exact .inl hold
          · obtain rfl := List.mem_singleton.1 hnew
            exact .inr ⟨hname, fun heq => hother (heq ▸ hname)⟩
      · exact .inl h
    · exact .inl h

theorem mem_types_foldl {schemas : List Definition} {name : String}
    (h : name ∈ (schemas.foldl Factors.enter factors).types) :
    name ∈ factors.types ∨ ((∃ member ∈ schemas, member.typeName? = some name) ∧ name ≠ "undefined") := by
  induction schemas generalizing factors with
  | nil => exact .inl h
  | cons first rest ih =>
    rcases ih h with hfirst | ⟨⟨member, hmem, hname⟩, hne⟩
    · exact (mem_types_enter hfirst).imp_right
        fun ⟨hname, hne⟩ => ⟨⟨first, List.mem_cons_self, hname⟩, hne⟩
    · exact .inr ⟨⟨member, List.mem_cons_of_mem _ hmem, hname⟩, hne⟩

end Factors

namespace Catalog

/-- Whether schemas know of the property: it is not private, and its type is not `never`. -/
def isVisible (catalog : Catalog) (property : Property) : Bool :=
  !property.isPrivate && match catalog.graph.lookupType property.type with
    | .ok node => node.kind != .never
    | .error _ => false

/-- The schema of a property with what the property adds to it: a title and a default value. -/
def propertyDefinition (catalog : Catalog) (property : Property) (name : String)
    (schema : Definition) : Definition :=
  let titled := if catalog.options.titles then schema.insert "title" (.string name) else schema
  match property.initializer with
  | none => titled
  | some source => (titled.setDefault name source).1

/-! ## Annotations -/

/-- The annotations with those of one more symbol. -/
def extendBy (catalog : Catalog) (annotations : Annotations) (id : SymbolId) :
    Except Error Annotations := do
  catalog.reader.extend annotations (← (catalog.graph.lookupSymbol id).mapError Error.missing)

/-- The annotations of the symbols, entered one after the other. -/
def description (catalog : Catalog) (symbols : List SymbolId) : Except Error Annotations :=
  symbols.foldlM catalog.extendBy {}

theorem extendBy_eq_ok {catalog : Catalog} {annotations extended : Annotations} {id : SymbolId} :
    catalog.extendBy annotations id = .ok extended ↔
      ∃ symbol, catalog.graph.lookupSymbol id = .ok symbol ∧
        catalog.reader.extend annotations symbol = .ok extended := by
  simp only [extendBy, bind_eq_ok_iff, mapError_eq_ok_iff]

/-- What holds without annotations and is kept by those of each symbol holds of all of them. -/
theorem description_induction {catalog : Catalog} {P : Annotations → Prop}
    {symbols : List SymbolId} {done : Annotations} (start : P {})
    (step : ∀ annotations id symbol extended, P annotations →
      catalog.graph.lookupSymbol id = .ok symbol →
      catalog.reader.extend annotations symbol = .ok extended → P extended)
    (h : catalog.description symbols = .ok done) : P done := by
  refine foldlM_induction h start fun annotations hannotations id _ extended hextended => ?_
  obtain ⟨symbol, hsymbol, hread⟩ := extendBy_eq_ok.1 hextended
  exact step annotations id symbol extended hannotations hsymbol hread

/-! ## How schemas are composed -/

section Composition

variable (catalog : Catalog) (Part : Request → Definition → Prop)

/-- What the member contributes to its union. -/
inductive Contributes (id : TypeId) : Contribution → Prop
  | value {node : TypeNode} {literal : Literal} (hnode : catalog.graph.lookupType id = .ok node)
      (hliteral : node.kind.literal? = some literal) : Contributes id (.value literal)
  | schema {node : TypeNode} {owner : Option Owner} {schema : Definition}
      (hnode : catalog.graph.lookupType id = .ok node) (hliteral : node.kind.literal? = none)
      (howner : catalog.OwnsMember node owner)
      (hpart : Part { catalog.member id node.aliasSymbol with owner := owner } schema) :
      Contributes id (.schema schema)

/-- What becomes of a property that schemas know of: it is kept with its schema, or left out. -/
inductive Keeping (property : Property) : Option KeptProperty → Prop
  | method (hmethod : property.isMethod = true) : Keeping property none
  | ignored {annotations : Annotations} (howner : catalog.Describes ⟨property.symbol, annotations⟩)
      (hignored : annotations.isIgnored = true) : Keeping property none
  | undefined {annotations : Annotations} {schema : Definition}
      (howner : catalog.Describes ⟨property.symbol, annotations⟩)
      (hpart : Part { catalog.member property.type property.referenced with
        owner := some ⟨property.symbol, annotations⟩ } schema)
      (hundefined : schema.typeName? = some "undefined") : Keeping property none
  | kept {annotations : Annotations} {symbol : Symbol} {schema : Definition}
      (hfield : property.isMethod = false)
      (howner : catalog.Describes ⟨property.symbol, annotations⟩)
      (hignored : annotations.isIgnored = false)
      (hsymbol : catalog.graph.lookupSymbol property.symbol = .ok symbol)
      (hpart : Part { catalog.member property.type property.referenced with
        owner := some ⟨property.symbol, annotations⟩ } schema)
      (hdefined : schema.typeName? ≠ some "undefined") :
      Keeping property
        (some ⟨property, symbol.name, catalog.propertyDefinition property symbol.name schema⟩)

/-- The keyword types and what they are called. -/
inductive KeywordName : TypeKind → String → Prop
  | string : KeywordName .string "string"
  | number : KeywordName .number "number"
  | integer : KeywordName .number "integer"
  | boolean : KeywordName .boolean "boolean"
  | null (hkeyword : catalog.options.usesNullableKeyword = false) : KeywordName .null "null"
  | undefined : KeywordName .undefined "undefined"
  | void : KeywordName .void "undefined"

/-- How the schema of the subject is composed of what its annotations give and of the answers for its
parts, one case for each rule. -/
inductive Composed (keyword : UnionKeyword) (owner : Option Owner) (subject : Subject)
    (isRaw : Bool) (start : Definition) : Definition → Prop
  | union {members : List TypeId} {contributions : List Contribution}
      (hkind : subject.node.kind = .union members)
      (hmembers : List.Forall₂ (Contributes catalog Part) members contributions) :
      Composed keyword owner subject isRaw start
        (start.unite keyword catalog.options.usesNullableKeyword
          (contributions.foldl (Branches.enter catalog.options.usesNullableKeyword) {}).all)
  | intersection {members : List TypeId} {schemas : List Definition}
      (hkind : subject.node.kind = .intersection members)
      (hmembers : List.Forall₂ (fun id schema => Part (catalog.member id) schema) members schemas) :
      Composed keyword owner subject isRaw start
        (start.intersect (schemas.foldl Factors.enter {}).all)
  | tuple {elements : List TypeId} {minLength : Nat} {hasRest : Bool} {items : List Definition}
      (hkind : subject.node.kind = .tuple elements minLength hasRest)
      (helements : List.Forall₂ (fun id item => Part (catalog.member id) item) elements items) :
      Composed keyword owner subject isRaw start (start.setTuple items minLength hasRest)
  | keyword {name : String} (hname : KeywordName catalog subject.node.kind name) :
      Composed keyword owner subject isRaw start (start.setType name)
  | nullable (hkind : subject.node.kind = .null)
      (hkeyword : catalog.options.usesNullableKeyword = true) :
      Composed keyword owner subject isRaw start
        ((start.setType "object").insert "nullable" (.bool true))
  | anything (hkind : subject.node.kind = .any ∨ subject.node.kind = .unknown) :
      Composed keyword owner subject isRaw start start
  | anyObject (hkind : subject.node.kind = .nonPrimitive) :
      Composed keyword owner subject isRaw start
        (((start.setType "object").insert "properties" (.object [])).insert
          "additionalProperties" (.bool true))
  | date {properties : List Property} {anonymous : Bool} {index : Option TypeId} {id : SymbolId}
      {symbol : Symbol} (hkind : subject.node.kind = .object properties anonymous index)
      (hsymbol : subject.node.symbol = some id)
      (hlookup : catalog.graph.lookupSymbol id = .ok symbol) (hname : symbol.fullName = "Date") :
      Composed keyword owner subject isRaw start
        ((start.setType "string").insertNew "format" (.string "date-time"))
  | literal {value : Literal} (hliteral : subject.node.kind.literal? = some value) :
      Composed keyword owner subject isRaw start (start.setLiteral value)
  /-- An array whose items the annotations give. -/
  | listed {element : TypeId} (hkind : subject.node.kind.isLeftOver = true)
      (hindex : subject.node.numberIndex = some element)
      (hitems : (start.setType "array").contains "items" = true) :
      Composed keyword owner subject isRaw start (start.setType "array")
  | array {element : TypeId} {item : Definition} (hkind : subject.node.kind.isLeftOver = true)
      (hindex : subject.node.numberIndex = some element)
      (hpart : Part (catalog.member element) item) :
      Composed keyword owner subject isRaw start
        ((start.setType "array").insert "items" item.toJson)
  | enum {members : List EnumMember} (hkind : subject.node.kind = .enum members) :
      Composed keyword owner subject isRaw start (Enumeration.define members start)
  | emptyObject (hraw : isRaw = false) (hkind : subject.node.kind = .object [] true none) :
      Composed keyword owner subject isRaw start
        ((start.setType "object").insert "properties" (.object []))
  | dictionary {value : TypeId} {schema : Definition} (hraw : isRaw = false)
      (hkind : subject.node.kind = .object [] true (some value))
      (hpart : Part { catalog.member value subject.named with
        unionKeyword := keyword
        owner := owner } schema) :
      Composed keyword owner subject isRaw start
        (((start.setType "object").insert "properties" (.object [])).insert
          "additionalProperties" schema.toJson)
  | subtypes {properties : List Property} {anonymous : Bool} {index : Option TypeId}
      {symbol : SymbolId} {base : Symbol} {printed : String} {names : List String}
      {schemas : List Definition} (hraw : isRaw = false)
      (hkind : subject.node.kind = .object properties anonymous index)
      (hsymbol : subject.node.symbol = some symbol)
      (hbase : catalog.graph.lookupSymbol symbol = .ok base) (habstract : base.isAbstract = true)
      (hprinted : catalog.graph.typeText subject.id = .ok printed)
      (hnames : Dict.get? catalog.subtypes printed = some names)
      (hschemas : List.Forall₂ (fun id schema => Part (catalog.member id) schema)
        (names.filterMap (Dict.get? catalog.declared)) schemas) :
      Composed keyword owner subject isRaw start
        (start.insert "oneOf" (.array (schemas.map Definition.toJson)))
  | object {properties : List Property} {anonymous : Bool} {index : Option TypeId}
      {answers : List (Option KeptProperty)} {absent : List SymbolId} (hraw : isRaw = false)
      (hkind : subject.node.kind = .object properties anonymous index)
      (hproperties : List.Forall₂ (Keeping catalog Part)
        (subject.node.properties.filter catalog.isVisible) answers) :
      Composed keyword owner subject isRaw start
        (catalog.listProperties start answers.reduceOption absent)

/-- The schema of the subject: what its annotations give, if they say what its type is, and else what
the rule composes. -/
inductive Defined (keyword : UnionKeyword) (owner : Option Owner) (subject : Subject)
    (isRaw : Bool) (start : Definition) : Definition → Prop
  | typed (htyped : start.contains "type" = true) :
      Defined keyword owner subject isRaw start start
  | composed {definition : Definition} (hstart : start.contains "type" = false)
      (h : Composed catalog Part keyword owner subject isRaw start definition) :
      Defined keyword owner subject isRaw start definition

/-! ## What is written down of it -/

/-- What the listing keeps is what is kept of the properties of its object that schemas know of. -/
def Gathers (listing : Listing) : Prop :=
  ∃ node answers, catalog.graph.lookupType listing.id = .ok node ∧
    List.Forall₂ (Keeping catalog Part) (node.properties.filter catalog.isVisible) answers ∧
    listing.kept = answers.reduceOption

/-- A union that is built for the symbol has a member whose schema is that of `undefined`. -/
def Drops (symbol : SymbolId) : Prop :=
  ∃ id named subject members member schema, catalog.Owns symbol id ∧
    catalog.graph.unwrap (catalog.graph.types.size + 1) id named = .ok subject ∧
    subject.node.kind = .union members ∧ member ∈ members ∧
    Contributes catalog Part member (.schema schema) ∧ schema.typeName? = some "undefined"

/-- The journal tells of the schema: an object that is no choice of subtypes was listed with it, and for
each member of a union that is `undefined` the owner was marked. -/
structure Recorded (p : Progress) (owner : Option Owner) (subject : Subject) (isRaw : Bool)
    (start definition : Definition) : Prop where
  listed : isRaw = false → ∀ own anonymous index, subject.node.kind = .object own anonymous index →
    (own = [] → anonymous = false) →
    (∀ symbol base, subject.node.symbol = some symbol →
      catalog.graph.lookupSymbol symbol = .ok base → base.isAbstract = false) →
    ∃ listing, .listed listing ∈ p.journal ∧ listing.id = subject.id ∧ listing.start = start ∧
      listing.schema = definition
  dropped : ∀ members o, subject.node.kind = .union members → owner = some o → ∀ member ∈ members,
    ∃ contribution, Contributes catalog Part member contribution ∧
      ∀ schema, contribution = .schema schema → schema.typeName? = some "undefined" →
        .dropped o.symbol ∈ p.journal

end Composition

section Mono

variable {catalog : Catalog} {Part Part' : Request → Definition → Prop} {keyword : UnionKeyword}
  {owner : Option Owner} {subject : Subject} {isRaw : Bool} {start definition : Definition}

theorem Contributes.mono (hmono : ∀ part schema, Part part schema → Part' part schema)
    {id : TypeId} {contribution : Contribution} (h : catalog.Contributes Part id contribution) :
    catalog.Contributes Part' id contribution := by
  cases h with
  | value hnode hliteral => exact .value hnode hliteral
  | schema hnode hliteral howner hpart =>
    exact .schema hnode hliteral howner (hmono _ _ hpart)

theorem Keeping.mono (hmono : ∀ part schema, Part part schema → Part' part schema)
    {property : Property} {kept : Option KeptProperty} (h : catalog.Keeping Part property kept) :
    catalog.Keeping Part' property kept := by
  cases h with
  | method hmethod => exact .method hmethod
  | ignored howner hignored => exact .ignored howner hignored
  | undefined howner hpart hundefined => exact .undefined howner (hmono _ _ hpart) hundefined
  | kept hfield howner hignored hsymbol hpart hdefined =>
    exact .kept hfield howner hignored hsymbol (hmono _ _ hpart) hdefined

/-- What is kept is the property. -/
theorem Keeping.kept_property {property : Property} {kept : KeptProperty}
    (h : catalog.Keeping Part property (some kept)) : property = kept.property := by
  cases h with
  | kept _ _ _ _ _ _ => rfl

theorem Composed.mono (hmono : ∀ part schema, Part part schema → Part' part schema)
    (h : catalog.Composed Part keyword owner subject isRaw start definition) :
    catalog.Composed Part' keyword owner subject isRaw start definition := by
  cases h with
  | union hkind hmembers => exact .union hkind (hmembers.imp fun _ _ h => h.mono hmono)
  | intersection hkind hmembers => exact .intersection hkind (hmembers.imp fun _ _ => hmono _ _)
  | tuple hkind helements => exact .tuple hkind (helements.imp fun _ _ => hmono _ _)
  | keyword hname => exact .keyword hname
  | nullable hkind hkeyword => exact .nullable hkind hkeyword
  | anything hkind => exact .anything hkind
  | anyObject hkind => exact .anyObject hkind
  | date hkind hsymbol hlookup hname => exact .date hkind hsymbol hlookup hname
  | literal hliteral => exact .literal hliteral
  | listed hkind hindex hitems => exact .listed hkind hindex hitems
  | array hkind hindex hpart => exact .array hkind hindex (hmono _ _ hpart)
  | enum hkind => exact .enum hkind
  | emptyObject hraw hkind => exact .emptyObject hraw hkind
  | dictionary hraw hkind hpart => exact .dictionary hraw hkind (hmono _ _ hpart)
  | subtypes hraw hkind hsymbol hbase habstract hprinted hnames hschemas =>
    exact .subtypes hraw hkind hsymbol hbase habstract hprinted hnames
      (hschemas.imp fun _ _ => hmono _ _)
  | object hraw hkind hproperties =>
    exact .object hraw hkind (hproperties.imp fun _ _ h => h.mono hmono)

theorem Defined.mono (hmono : ∀ part schema, Part part schema → Part' part schema)
    (h : catalog.Defined Part keyword owner subject isRaw start definition) :
    catalog.Defined Part' keyword owner subject isRaw start definition := by
  cases h with
  | typed htyped => exact .typed htyped
  | composed hstart h => exact .composed hstart (h.mono hmono)

/-- A property that is gathered is kept. -/
theorem Gathers.keeping {listing : Listing} {kept : KeptProperty} (h : catalog.Gathers Part listing)
    (hkept : kept ∈ listing.kept) : catalog.Keeping Part kept.property (some kept) := by
  obtain ⟨node, answers, _, hanswers, heq⟩ := h
  obtain ⟨property, _, hkeeping⟩ :=
    exists_left_of_forall₂ hanswers (List.reduceOption_mem_iff.1 (heq ▸ hkept))
  exact hkeeping.kept_property ▸ hkeeping

theorem Gathers.mono (hmono : ∀ part schema, Part part schema → Part' part schema)
    {listing : Listing} (h : catalog.Gathers Part listing) : catalog.Gathers Part' listing := by
  obtain ⟨node, answers, hnode, hanswers, heq⟩ := h
  exact ⟨node, answers, hnode, hanswers.imp fun _ _ h => h.mono hmono, heq⟩

theorem Drops.mono (hmono : ∀ part schema, Part part schema → Part' part schema)
    {symbol : SymbolId} (h : catalog.Drops Part symbol) : catalog.Drops Part' symbol := by
  obtain ⟨id, named, subject, members, member, schema, howns, hsubject, hkind, hmem, hpart, hname⟩ := h
  exact ⟨id, named, subject, members, member, schema, howns, hsubject, hkind, hmem,
    hpart.mono hmono, hname⟩

theorem Recorded.mono {p q : Progress} (hpq : Grows p q)
    (hmono : ∀ part schema, Part part schema → Part' part schema)
    (h : catalog.Recorded Part p owner subject isRaw start definition) :
    catalog.Recorded Part' q owner subject isRaw start definition where
  listed hraw own anonymous index hkind hempty habstract := by
    obtain ⟨listing, hmem, hlisting⟩ := h.listed hraw own anonymous index hkind hempty habstract
    exact ⟨listing, hpq.mem_journal hmem, hlisting⟩
  dropped members o hkind howner member hmem := by
    obtain ⟨contribution, hpart, hdropped⟩ := h.dropped members o hkind howner member hmem
    exact ⟨contribution, hpart.mono hmono, fun schema heq hname =>
      hpq.mem_journal (hdropped schema heq hname)⟩

/-- The journal need not tell of what is neither an object nor a union. -/
theorem Recorded.of_kind {p : Progress}
    (hobject : isRaw = false → ∀ own anonymous index,
      subject.node.kind = .object own anonymous index → own = [] ∧ anonymous = true)
    (hunion : ∀ members, subject.node.kind ≠ .union members) :
    catalog.Recorded Part p owner subject isRaw start definition where
  listed hraw own anonymous index hkind hempty _ := by
    obtain ⟨hnil, htrue⟩ := hobject hraw own anonymous index hkind
    rw [hempty hnil] at htrue
    cases htrue
  dropped members _ hkind _ := absurd hkind (hunion members)

end Mono

/-! ## Which rule was applied -/

section Inversion

variable {catalog : Catalog} {Part : Request → Definition → Prop} {keyword : UnionKeyword}
  {owner : Option Owner} {subject : Subject} {isRaw : Bool} {start definition : Definition}

theorem Composed.of_union {members : List TypeId}
    (h : catalog.Composed Part keyword owner subject isRaw start definition)
    (hkind : subject.node.kind = .union members) :
    ∃ contributions, List.Forall₂ (Contributes catalog Part) members contributions ∧
      definition = start.unite keyword catalog.options.usesNullableKeyword
        (contributions.foldl (Branches.enter catalog.options.usesNullableKeyword) {}).all := by
  cases h with
  | union hunion hmembers =>
    obtain rfl := TypeKind.union.inj (hkind.symm.trans hunion)
    exact ⟨_, hmembers, rfl⟩
  | keyword hname =>
    rw [hkind] at hname
    cases hname
  | _ => simp_all [TypeKind.literal?, TypeKind.isLeftOver]

theorem Composed.of_intersection {members : List TypeId}
    (h : catalog.Composed Part keyword owner subject isRaw start definition)
    (hkind : subject.node.kind = .intersection members) :
    ∃ schemas, List.Forall₂ (fun id schema => Part (catalog.member id) schema) members schemas ∧
      definition = start.intersect (schemas.foldl Factors.enter {}).all := by
  cases h with
  | intersection hintersection hmembers =>
    obtain rfl := TypeKind.intersection.inj (hkind.symm.trans hintersection)
    exact ⟨_, hmembers, rfl⟩
  | keyword hname =>
    rw [hkind] at hname
    cases hname
  | _ => simp_all [TypeKind.literal?, TypeKind.isLeftOver]

theorem Composed.of_tuple {elements : List TypeId} {minLength : Nat} {hasRest : Bool}
    (h : catalog.Composed Part keyword owner subject isRaw start definition)
    (hkind : subject.node.kind = .tuple elements minLength hasRest) :
    ∃ items, List.Forall₂ (fun id item => Part (catalog.member id) item) elements items ∧
      definition = start.setTuple items minLength hasRest := by
  cases h with
  | tuple htuple helements =>
    obtain ⟨rfl, rfl, rfl⟩ := TypeKind.tuple.inj (hkind.symm.trans htuple)
    exact ⟨_, helements, rfl⟩
  | keyword hname =>
    rw [hkind] at hname
    cases hname
  | _ => simp_all [TypeKind.literal?, TypeKind.isLeftOver]

/-- An array that is no date has an answer for its items, unless annotations give them. -/
theorem Composed.of_array {element : TypeId}
    (h : catalog.Composed Part keyword owner subject true start definition)
    (hitems : start.contains "items" = false) (hraw : catalog.graph.isRaw subject.node = .ok true)
    (hkind : subject.node.kind.isLeftOver = true) (hindex : subject.node.numberIndex = some element)
    (hdate : ∀ id symbol, subject.node.symbol = some id →
      catalog.graph.lookupSymbol id = .ok symbol → symbol.fullName ≠ "Date") :
    ∃ item, Part (catalog.member element) item ∧
      definition = (start.setType "array").insert "items" item.toJson := by
  cases h with
  | array _ hitem hpart =>
    obtain rfl := Option.some.inj (hindex.symm.trans hitem)
    exact ⟨_, hpart, rfl⟩
  | listed _ _ hlisted =>
    rw [Definition.contains, Definition.setType, Definition.insert, Dict.contains_insert] at hlisted
    rw [Definition.contains] at hitems
    simp [hitems] at hlisted
  | date _ hsymbol hlookup hname => exact absurd hname (hdate _ _ hsymbol hlookup)
  | enum henum => simp [TypeGraph.isRaw, henum, pure, Except.pure] at hraw
  | keyword hname =>
    generalize subject.node.kind = kind at hname hkind
    cases hname <;> cases hkind
  | anything hany => rcases hany with hany | hany <;> simp [hany, TypeKind.isLeftOver] at hkind
  | literal hliteral => cases (TypeKind.literal?_of_isLeftOver hkind).symm.trans hliteral
  | _ => simp_all [TypeKind.isLeftOver]

end Inversion

/-! ## What the builder answered -/

section Answered

variable {catalog : Catalog} {inv inv' : Progress → Prop} {p q : Progress} {request : Request}
  {frame : Frame} {start answer : Definition}

/-- The builder has answered the request, and when it was asked the invariant held. -/
structure Answered (catalog : Catalog) (inv : Progress → Prop) (p : Progress) (request : Request)
    (answer : Definition) : Prop where
  described : catalog.Described request
  run : ∃ depth above q r, q.context.names.Sound ∧ inv q ∧
    (catalog.buildWithin depth { request with above := above }).exec q = (.ok answer, r) ∧ Grows r p

theorem Answered.grows (h : catalog.Answered inv p request answer) (hpq : Grows p q) :
    catalog.Answered inv q request answer := by
  obtain ⟨depth, above, start, done, hsound, hinv, hrun, hdone⟩ := h.run
  exact ⟨h.described, depth, above, start, done, hsound, hinv, hrun, hdone.trans hpq⟩

theorem Answered.mono (h : catalog.Answered inv p request answer) (hinv : ∀ p, inv p → inv' p) :
    catalog.Answered inv' p request answer := by
  obtain ⟨depth, above, start, done, hsound, hstart, hrun, hdone⟩ := h.run
  exact ⟨h.described, depth, above, start, done, hsound, hinv _ hstart, hrun, hdone⟩

/-- The schema was built for the frame from the start, out of what the builder answered, and the journal
tells of it. -/
structure Built (catalog : Catalog) (p : Progress) (request : Request) (frame : Frame)
    (start definition : Definition) : Prop where
  defined : catalog.Defined (catalog.Answered (fun _ => True) p) request.unionKeyword request.owner
    frame.subject frame.plan.isRaw start definition
  recorded : start.contains "type" = false → catalog.Recorded (catalog.Answered (fun _ => True) p) p
    request.owner frame.subject frame.plan.isRaw start definition

theorem Built.grows (h : catalog.Built p request frame start answer) (hpq : Grows p q) :
    catalog.Built q request frame start answer where
  defined := h.defined.mono fun _ _ hpart => hpart.grows hpq
  recorded hstart := (h.recorded hstart).mono hpq fun _ _ hpart => hpart.grows hpq

end Answered

/-! ## How requests are answered -/

/-- Owners settle a request by what their annotations give. -/
theorem settled?_eq_some {owner : Option Owner} {definition : Definition}
    (h : settled? owner = some definition) :
    ∃ o, owner = some o ∧ definition = o.annotations.definition ∧
      (o.annotations.isIgnored = true ∨ definition.contains "type" = true) := by
  cases owner with
  | none => cases h
  | some o =>
    simp only [settled?] at h
    split at h
    · rename_i hchosen
      cases h
      exact ⟨o, rfl, rfl, Bool.or_eq_true_iff.1 hchosen⟩
    · cases h

/-- The request has been taken up as a construction: what the frame says of it is so. -/
structure Frames (catalog : Catalog) (p : Progress) (request : Request) (frame : Frame) : Prop where
  subject : catalog.graph.unwrap (catalog.graph.types.size + 1) request.type request.named =
    .ok frame.subject
  unsettled : settled? request.owner = none
  raw : catalog.graph.isRaw frame.subject.node = .ok frame.plan.isRaw
  named : catalog.Named p.context.names frame.subject frame.sourcedName
  /-- Without a guard, only a union of string literals that was asked for by its name is referred to. -/
  reference : frame.isGuarded = false → frame.plan.isReference = true →
    catalog.graph.isStringUnion frame.subject.node = .ok true ∧
      frame.subject.named.isSome = true

/-- A reference was made to the definition that the frame is named by, and the definition is in the
table. -/
structure RefersTo (p : Progress) (frame : Frame) : Prop where
  referred : .referred frame ∈ p.journal
  reffed : p.context.isReffed frame.plan.name = true

/-- The keywords of the owner that stand beside the reference.  Who took up the construction makes the
reference anew, with the descriptive ones only. -/
inductive Beside (reference keywords : Definition) (frame : Frame) : Definition → Prop
  | all (htoken : frame.plan.token = none) : Beside reference keywords frame keywords
  | descriptive {token : Nat} (htoken : frame.plan.token = some token) :
      Beside reference keywords frame (reference.merge keywords).refAnnotations

/-- The request is answered by the definition.  What was referred to on the way is in the journal. -/
inductive Yields (catalog : Catalog) (p : Progress) : Request → Definition → Prop
  /-- The owner's annotations say so. -/
  | settled {request : Request} {definition : Definition}
      (h : settled? request.owner = some definition) : Yields catalog p request definition
  /-- By the schema of the subject. -/
  | inline {request : Request} {frame : Frame} {annotations : Annotations} {schema : Definition}
      {Part : Request → Definition → Prop}
      (hpart : ∀ part answer, Part part answer → Yields catalog p part answer)
      (hframe : catalog.Frames p request frame) (hinline : frame.plan.isReference = false)
      (hannotations : catalog.description frame.subject.describing = .ok annotations)
      (hschema : catalog.Defined Part request.unionKeyword request.owner frame.subject
        frame.plan.isRaw (annotations.definition.merge (ownerKeywords request.owner)) schema) :
      Yields catalog p request (catalog.hook schema)
  /-- By a reference, since the name was put into the table while the schema was built. -/
  | linked {request : Request} {frame : Frame} {annotations : Annotations} {schema : Definition}
      {Part : Request → Definition → Prop}
      (hpart : ∀ part answer, Part part answer → Yields catalog p part answer)
      (hframe : catalog.Frames p request frame) (hinline : frame.plan.isReference = false)
      (hannotations : catalog.description frame.subject.describing = .ok annotations)
      (hschema : catalog.Defined Part request.unionKeyword request.owner frame.subject
        frame.plan.isRaw (annotations.definition.merge (ownerKeywords request.owner)) schema)
      (hrefers : RefersTo p frame) :
      Yields catalog p request
        (catalog.hook ((p.context.refTo frame.plan.name).merge schema.refAnnotations))
  /-- By a reference, as planned. -/
  | referred {request : Request} {frame : Frame} {beside : Definition}
      (hframe : catalog.Frames p request frame) (hreference : frame.plan.isReference = true)
      (hbeside : Beside (p.context.refTo frame.plan.name) (ownerKeywords request.owner) frame beside)
      (hrefers : RefersTo p frame) :
      Yields catalog p request (catalog.hook ((p.context.refTo frame.plan.name).merge beside))

/-- The definition of the name that the frame puts into the table: built without the keywords of whoever
asked for it. -/
structure Completes (catalog : Catalog) (p : Progress) (frame : Frame) (definition : Definition) :
    Prop where
  reference : frame.plan.isReference = true
  derivation : ∃ (request : Request) (annotations : Annotations), catalog.Described request ∧
    catalog.Frames p request frame ∧
    catalog.description frame.subject.describing = .ok annotations ∧
    catalog.Defined (catalog.Yields p) request.unionKeyword request.owner frame.subject
      frame.plan.isRaw
      (if catalog.options.titles then
        annotations.definition.insert "title" (.string frame.plan.name)
      else annotations.definition) definition
  built : ∃ (request : Request) (annotations : Annotations), catalog.Described request ∧
    catalog.Frames p request frame ∧
    catalog.description frame.subject.describing = .ok annotations ∧
    catalog.Built p request frame
      (if catalog.options.titles then
        annotations.definition.insert "title" (.string frame.plan.name)
      else annotations.definition) definition

section Growth

variable {catalog : Catalog} {p q : Progress} {request : Request} {frame : Frame}
  {definition : Definition}

theorem Frames.grows (h : catalog.Frames p request frame) (hpq : Grows p q) :
    catalog.Frames q request frame :=
  ⟨h.subject, h.unsettled, h.raw, h.named.grows hpq, h.reference⟩

theorem Frames.of_above {chain : List Frame}
    (h : catalog.Frames p { request with above := chain } frame) : catalog.Frames p request frame :=
  ⟨h.subject, h.unsettled, h.raw, h.named, h.reference⟩

theorem RefersTo.grows (h : RefersTo p frame) (hpq : Grows p q) : RefersTo q frame :=
  ⟨hpq.mem_journal h.referred, hpq.reffed _ h.reffed⟩

theorem refTo_of_grows (h : Grows p q) (name : String) :
    q.context.refTo name = p.context.refTo name := by
  rw [Context.refTo, Context.refTo, h.root]

/-- An answer stays one. -/
theorem Yields.grows (h : catalog.Yields p request definition) (hpq : Grows p q) :
    catalog.Yields q request definition := by
  induction h with
  | settled h => exact .settled h
  | inline _ hframe hinline hannotations hschema ih =>
    exact .inline ih (hframe.grows hpq) hinline hannotations hschema
  | linked _ hframe hinline hannotations hschema hrefers ih =>
    rw [← refTo_of_grows hpq]
    exact .linked ih (hframe.grows hpq) hinline hannotations hschema (hrefers.grows hpq)
  | referred hframe hreference hbeside hrefers =>
    rw [← refTo_of_grows hpq] at hbeside ⊢
    exact .referred (hframe.grows hpq) hreference hbeside (hrefers.grows hpq)

/-- Where a request is made does not matter for the answer. -/
theorem Yields.of_above {chain : List Frame}
    (h : catalog.Yields p { request with above := chain } definition) :
    catalog.Yields p request definition := by
  cases h with
  | settled h => exact .settled h
  | inline hpart hframe hinline hannotations hschema =>
    exact .inline hpart hframe.of_above hinline hannotations hschema
  | linked hpart hframe hinline hannotations hschema hrefers =>
    exact .linked hpart hframe.of_above hinline hannotations hschema hrefers
  | referred hframe hreference hbeside hrefers =>
    exact .referred hframe.of_above hreference hbeside hrefers

theorem Completes.grows (h : catalog.Completes p frame definition) (hpq : Grows p q) :
    catalog.Completes q frame definition := by
  obtain ⟨request, annotations, hdescribed, hframe, hannotations, hdefined⟩ := h.derivation
  obtain ⟨asked, said, hasked, hopened, hsaid, hbuilt⟩ := h.built
  exact ⟨h.reference, ⟨request, annotations, hdescribed, hframe.grows hpq, hannotations,
      hdefined.mono fun _ _ hpart => hpart.grows hpq⟩,
    asked, said, hasked, hopened.grows hpq, hsaid, hbuilt.grows hpq⟩

end Growth

end Catalog

end TypeSchema
