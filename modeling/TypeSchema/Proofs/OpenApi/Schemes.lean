import TypeSchema.Proofs.OpenApi.Outlines

/-!
# What the graph says of security

A security requirement is read off the schema of an array: its items are objects, whose properties
are security schemes, and the scopes of a scheme are the values that the items of another array are
chosen from.  Each of the levels may be a reference, which is looked up.  This file reads the
requirements off the graph instead (`Catalog.securityOutline`), level by level from the inside out.
**`Catalog.BuiltFor.security`** says that the assembler reads the same off whatever was built for
the type.
-/

set_option autoImplicit false

namespace TypeSchema

open OpenApi

/-! ## Schemas of unions -/

theorem Branches.get?_valuesSchema {values : List Literal} {key : String} (htype : key ≠ "type") :
    (valuesSchema values).get? key =
      if key = "enum" ∧ isBothBooleans values = false then
        some (.array ((Literal.sort values).map Literal.toJson))
      else none := by
  have hlisted : (if isBothBooleans values then Definition.empty else
      Definition.empty.insert "enum" (.array ((Literal.sort values).map Literal.toJson))).get? key =
        if key = "enum" ∧ isBothBooleans values = false then
          some (.array ((Literal.sort values).map Literal.toJson))
        else none := by
    cases isBothBooleans values with
    | true => simp [Definition.empty, Definition.get?]
    | false =>
      rw [if_neg (by decide), Definition.get?_insert]
      simp [Definition.empty, Definition.get?, eq_comm]
  rw [valuesSchema]
  split
  · exact hlisted
  · exact hlisted
  · rw [Definition.get?_insert_of_ne htype.symm, hlisted]

theorem Branches.values_ne_nil_foldl {literals : List Literal} {branches : Branches}
    (h : literals ≠ [] ∨ branches.values ≠ []) :
    (literals.foldl Branches.addValue branches).values ≠ [] := by
  induction literals generalizing branches with
  | nil => exact h.resolve_left fun hne => hne rfl
  | cons literal rest ih =>
    refine ih (.inr ?_)
    rw [addValue]
    split
    · rename_i hamong
      intro hnil
      simp [hnil, Literal.among] at hamong
    · simp

theorem Branches.schemas_foldl_addValue (literals : List Literal) (branches : Branches) :
    (literals.foldl Branches.addValue branches).schemas = branches.schemas := by
  induction literals generalizing branches with
  | nil => rfl
  | cons literal rest ih =>
    refine (ih _).trans ?_
    rw [addValue]
    split
    · rfl
    · rfl

/-- Literals that a union lists leave one branch. -/
theorem Branches.all_foldl_values {nullable : Bool} {literals : List Literal} (h : literals ≠ []) :
    ((literals.map Contribution.value).foldl (enter nullable) {}).all =
      [valuesSchema (literals.foldl addValue {}).values] := by
  have hfold : (literals.map Contribution.value).foldl (enter nullable) {} =
      literals.foldl addValue {} := by
    rw [List.foldl_map]
    rfl
  have hvalues : (literals.foldl addValue {}).values ≠ [] := values_ne_nil_foldl (.inl h)
  rw [hfold, all, schemas_foldl_addValue]
  simp [hvalues]

/-- Objects are the branches of a union as they are. -/
theorem Branches.all_foldl_schemas {nullable : Bool} {schemas : List Definition}
    (h : ∀ schema ∈ schemas, schema.IsObjectLike) :
    ((schemas.map Contribution.schema).foldl (enter nullable) {}).all = schemas := by
  suffices hall : ∀ done : List Definition,
      (schemas.map Contribution.schema).foldl (enter nullable) { schemas := done } =
        { schemas := done ++ schemas } by
    rw [hall []]
    rfl
  induction schemas with
  | nil => intro done; simp
  | cons schema rest ih =>
    intro done
    obtain ⟨hschema, hrest⟩ := List.forall_mem_cons.1 h
    have hstep : enter nullable { schemas := done } (.schema schema) =
        { schemas := done ++ [schema] } := by
      rw [enter]
      split
      · rename_i hundefined
        exact absurd hundefined (hschema.typeName?_ne (by decide))
      · rename_i hnull
        exact absurd hnull (hschema.typeName?_ne (by decide))
      · rfl
    rw [List.map_cons, List.foldl_cons, hstep, ih hrest, List.append_assoc]
    rfl

/-- Several objects are listed under the keyword for branches. -/
theorem Definition.unite_of_objects {start : Definition} {schemas : List Definition}
    {keyword : UnionKeyword} {nullable : Bool} (hmany : 2 ≤ schemas.length)
    (h : ∀ schema ∈ schemas, schema.IsObjectLike) :
    start.unite keyword nullable schemas =
      start.insert keyword.name (.array (schemas.map toJson)) := by
  have hnone : primitiveAndNull? schemas = none := by
    rcases schemas with _ | ⟨first, _ | ⟨second, _ | ⟨third, rest⟩⟩⟩
    · rfl
    · rfl
    · simp [primitiveAndNull?, (h first (by simp)).isNullableNull, (h second (by simp)).isNullableNull]
    · rfl
  rcases schemas with _ | ⟨first, _ | ⟨second, rest⟩⟩
  · simp at hmany
  · simp at hmany
  · rw [unite, hnone, ite_self]
    simp

theorem OpenApi.alternatives_of_union {start : Definition} {schemas : List Definition}
    (keyword : UnionKeyword) (hany : start.get? "anyOf" = none) :
    alternatives (start.insert keyword.name (.array (schemas.map Definition.toJson))) = schemas := by
  have hget : (start.insert keyword.name (.array (schemas.map Definition.toJson))).get? keyword.name =
      some (.array (schemas.map Definition.toJson)) := by
    rw [Definition.get?_insert, if_pos rfl]
  rw [alternatives]
  cases keyword with
  | anyOf =>
    rw [UnionKeyword.name] at hget ⊢
    simp only [hget, Option.bind_some, Json.items?, Option.some_or]
    exact Definition.filterMap_ofJson? schemas
  | oneOf =>
    rw [UnionKeyword.name] at hget ⊢
    rw [Definition.get?_insert_of_ne (by decide), hany, hget]
    simp only [Option.bind_some, Json.items?, Option.bind_none, Option.none_or]
    exact Definition.filterMap_ofJson? schemas

namespace Catalog

/-! ## Choices -/

variable (catalog : Catalog)

/-- The literal that the type is, if it is one. -/
def literalOf? (id : TypeId) : Option Literal :=
  (catalog.graph.lookupType id).toOption.bind fun node => node.kind.literal?

/-- The values that the schema of the type lists, if it lists any. -/
def choices? (node : TypeNode) : Option (List Json) :=
  match node.kind with
  | .union members =>
    let values := ((members.filterMap catalog.literalOf?).foldl Branches.addValue {}).values
    if Branches.isBothBooleans values then none else some ((Literal.sort values).map Literal.toJson)
  | .enum members =>
    let values := Enumeration.values members
    if values.isEmpty then none else some ((Literal.sort values).map Literal.toJson)
  | kind => kind.literal?.map fun value => [value.toJson]

/-- The texts among them. -/
def choiceTexts (node : TypeNode) : List String :=
  ((catalog.choices? node).getD []).filterMap Json.text?

/-- The type is one whose schema lists values, or it is that of all texts. -/
inductive IsChoice (node : TypeNode) : Prop
  | literals {members : List TypeId} (hkind : node.kind = .union members) (hsome : members ≠ [])
      (hmembers : ∀ id ∈ members, (catalog.literalOf? id).isSome = true)
  | enum {members : List EnumMember} (hkind : node.kind = .enum members)
      (hindex : node.numberIndex = none)
  | literal {value : Literal} (hliteral : node.kind.literal? = some value)
  | string (hkind : node.kind = .string)

/-- The type of the items, with wrappers looked through, if the type is an array. -/
def itemsOf? (node : TypeNode) : Option TypeNode :=
  if node.kind.isLeftOver then node.numberIndex.bind catalog.nodeOf? else none

/-- The scopes of the scheme that the property is. -/
def scopesOf (property : Property) : List String :=
  (((catalog.nodeOf? property.type).bind catalog.itemsOf?).map catalog.choiceTexts).getD []

/-- The type is an array that is described as one: it is no date. -/
structure IsArrayOf (node : TypeNode) (element : TypeId) : Prop where
  leftOver : node.kind.isLeftOver = true
  raw : catalog.graph.isRaw node = .ok true
  index : node.numberIndex = some element
  dateless : ∀ id symbol, node.symbol = some id → catalog.graph.lookupSymbol id = .ok symbol →
    symbol.fullName ≠ "Date"

/-- The type describes scopes: it is a tuple, or an array of choices. -/
inductive IsScopes (node : TypeNode) : Prop
  | tuple {elements : List TypeId} {minLength : Nat} {hasRest : Bool}
      (hkind : node.kind = .tuple elements minLength hasRest)
  | array {element : TypeId} {inner : TypeNode} (harray : catalog.IsArrayOf node element)
      (hinner : catalog.nodeOf? element = some inner) (hchoice : catalog.IsChoice inner)

/-- What the object requires: a scheme for each property, if it lists any. -/
def requirementOf? (node : TypeNode) : Option SecurityRequirement :=
  if catalog.listed node = [] then none
  else some (Dict.ofEntries ((catalog.listed node).map fun property =>
    (catalog.nameOf property, catalog.scopesOf property)))

/-- The object is a record of security schemes. -/
structure IsSchemes (node : TypeNode) : Prop where
  record : catalog.IsRecord node
  scopes : ∀ property ∈ catalog.listed node, ∃ inner, catalog.nodeOf? property.type = some inner ∧
    catalog.IsScopes inner

/-- The member of a union is a record of security schemes, and no doc comment has it left out. -/
structure IsSchemesMember (id : TypeId) : Prop where
  schemes : ∃ node, catalog.nodeOf? id = some node ∧ catalog.IsSchemes node ∧ catalog.listed node ≠ []
  unsettled : ∃ node, catalog.graph.lookupType id = .ok node ∧ node.kind.literal? = none ∧
    ∀ symbol, node.aliasSymbol = some symbol → catalog.isIgnored symbol = false

/-- The alternatives that an array of requirements may have as items. -/
inductive IsAlternatives (node : TypeNode) : Prop
  | one (h : catalog.IsSchemes node)
  | several {members : List TypeId} (hkind : node.kind = .union members)
      (hmany : 2 ≤ members.length) (hmembers : ∀ id ∈ members, catalog.IsSchemesMember id)

/-- The requirements of the alternatives. -/
def alternativesOutline (node : TypeNode) : Option (List SecurityRequirement) :=
  match node.kind with
  | .union members => members.mapM fun id => (catalog.nodeOf? id).bind catalog.requirementOf?
  | _ => [node].mapM catalog.requirementOf?

/-- The type describes security requirements: it is an array of alternatives, or an object, which is
refused. -/
inductive IsSecurity (node : TypeNode) : Prop
  | array {element : TypeId} {inner : TypeNode} (harray : catalog.IsArrayOf node element)
      (hinner : catalog.nodeOf? element = some inner) (halternatives : catalog.IsAlternatives inner)
  | record (h : catalog.IsRecord node)

/-- The security requirements that the type describes, if it describes any. -/
def securityOutline (node : TypeNode) : Option (List SecurityRequirement) :=
  (catalog.itemsOf? node).bind catalog.alternativesOutline

end Catalog

namespace Catalog

variable {catalog : Catalog} {p : Progress} {node inner : TypeNode} {id element : TypeId}
  {start schema answer : Definition} {kept : List KeptProperty} {absent : List SymbolId}
  {property : Property}

/-- What a schema is built from has no keyword that the assembler reads. -/
theorem Readable.get?_start (hreadable : catalog.Readable)
    (hstart : start.OnlyKeys fun key => catalog.IsCommented key ∨ key = "title") :
    ∀ key ∈ assemblyKeywords, start.get? key = none := fun _ hkey =>
  Definition.get?_eq_none_of_not_contains (hreadable.not_contains hstart hkey)

/-- Literals contribute their values. -/
theorem contributions_eq_values {Part : Request → Definition → Prop} {members : List TypeId}
    {contributions : List Contribution}
    (h : List.Forall₂ (catalog.Contributes Part) members contributions)
    (hmembers : ∀ id ∈ members, (catalog.literalOf? id).isSome = true) :
    contributions = (members.filterMap catalog.literalOf?).map Contribution.value := by
  induction h with
  | nil => rfl
  | @cons id _ rest _ hfirst _ ih =>
    obtain ⟨hsome, hrest⟩ := List.forall_mem_cons.1 hmembers
    cases hfirst with
    | @value node literal hnode hliteral =>
      have hvalue : catalog.literalOf? id = some literal := by
        rw [literalOf?, hnode]
        exact hliteral
      rw [List.filterMap_cons_some hvalue, List.map_cons, ih hrest]
    | schema hnode hliteral _ _ =>
      simp [literalOf?, hnode, Except.toOption, hliteral] at hsome

theorem Composed.of_literal {Part : Request → Definition → Prop} {keyword : UnionKeyword}
    {owner : Option Owner} {subject : Subject} {isRaw : Bool} {value : Literal}
    (h : catalog.Composed Part keyword owner subject isRaw start schema)
    (hliteral : subject.node.kind.literal? = some value) : schema = start.setLiteral value := by
  cases h with
  | literal hother =>
    obtain rfl := Option.some.inj (hliteral.symm.trans hother)
    rfl
  | keyword hname =>
    generalize subject.node.kind = kind at hname hliteral
    cases hname <;> cases hliteral
  | anything hkind => rcases hkind with hkind | hkind <;> simp [hkind, TypeKind.literal?] at hliteral
  | listed hkind _ _ => cases (TypeKind.literal?_of_isLeftOver hkind).symm.trans hliteral
  | array hkind _ _ => cases (TypeKind.literal?_of_isLeftOver hkind).symm.trans hliteral
  | _ => simp_all [TypeKind.literal?]

theorem Composed.of_enum {Part : Request → Definition → Prop} {keyword : UnionKeyword}
    {owner : Option Owner} {subject : Subject} {isRaw : Bool} {members : List EnumMember}
    (h : catalog.Composed Part keyword owner subject isRaw start schema)
    (hkind : subject.node.kind = .enum members) (hindex : subject.node.numberIndex = none) :
    schema = Enumeration.define members start := by
  cases h with
  | enum henum =>
    obtain rfl := TypeKind.enum.inj (hkind.symm.trans henum)
    rfl
  | keyword hname =>
    rw [hkind] at hname
    cases hname
  | _ => simp_all [TypeKind.literal?]

theorem Composed.of_string {Part : Request → Definition → Prop} {keyword : UnionKeyword}
    {owner : Option Owner} {subject : Subject} {isRaw : Bool}
    (h : catalog.Composed Part keyword owner subject isRaw start schema)
    (hkind : subject.node.kind = .string) : schema = start.setType "string" := by
  cases h with
  | keyword hname =>
    rw [hkind] at hname
    cases hname
    rfl
  | _ => simp_all [TypeKind.literal?, TypeKind.isLeftOver]

section Choices

variable {Part : Request → Definition → Prop} {keyword : UnionKeyword} {owner : Option Owner}
  {subject : Subject} {isRaw : Bool} {members : List TypeId}
  (hstart : ∀ key ∈ assemblyKeywords, start.get? key = none)
  (h : catalog.Composed Part keyword owner subject isRaw start schema)

include hstart h

/-- A union of literals lists its values, unless they are both booleans. -/
theorem Composed.choices_of_literals (hkind : subject.node.kind = .union members) (hsome : members ≠ [])
    (hmembers : ∀ id ∈ members, (catalog.literalOf? id).isSome = true) :
    schema.get? "$ref" = none ∧
      schema.get? "enum" = (catalog.choices? subject.node).map Json.array := by
  obtain ⟨contributions, hcontributions, rfl⟩ := h.of_union hkind
  have hliterals : members.filterMap catalog.literalOf? ≠ [] := by
    obtain ⟨first, hfirst⟩ := List.exists_mem_of_ne_nil members hsome
    obtain ⟨literal, hliteral⟩ := Option.isSome_iff_exists.1 (hmembers first hfirst)
    exact List.ne_nil_of_mem (List.mem_filterMap.2 ⟨first, hfirst, hliteral⟩)
  rw [contributions_eq_values hcontributions hmembers, Branches.all_foldl_values hliterals,
    Definition.unite]
  have hkeys := Definition.HasUniqueKeys.isKept.extends (Branches.extends_valuesSchema
    ((members.filterMap catalog.literalOf?).foldl Branches.addValue {}).values) .empty
  refine ⟨?_, ?_⟩
  · rw [Definition.get?_merge hkeys, Branches.get?_valuesSchema (by decide), hstart _ (by decide)]
    rfl
  · rw [Definition.get?_merge hkeys, Branches.get?_valuesSchema (by decide), hstart _ (by decide),
      choices?, hkind]
    cases hboth : Branches.isBothBooleans _ <;> simp [hboth]

theorem Composed.choices_of_enum {enumMembers : List EnumMember}
    (hkind : subject.node.kind = .enum enumMembers) (hindex : subject.node.numberIndex = none) :
    schema.get? "$ref" = none ∧
      schema.get? "enum" = (catalog.choices? subject.node).map Json.array := by
  rw [h.of_enum hkind hindex]
  refine ⟨?_, ?_⟩
  · rw [Definition.get?_define enumMembers (by decide) (by decide), hstart _ (by decide)]
  · rw [Enumeration.define, choices?, hkind]
    dsimp only
    split
    · rw [Definition.get?_insertKinds _ (by decide), hstart _ (by decide)]
      rfl
    · rw [Definition.get?_insert, if_pos rfl]
      rfl

theorem Composed.choices_of_literal {value : Literal}
    (hliteral : subject.node.kind.literal? = some value) :
    schema.get? "$ref" = none ∧
      schema.get? "enum" = (catalog.choices? subject.node).map Json.array := by
  have hvalue : catalog.choices? subject.node = some [value.toJson] := by
    rw [choices?]
    cases hkind : subject.node.kind <;> simp_all [TypeKind.literal?]
  rw [h.of_literal hliteral, Definition.setLiteral, hvalue]
  refine ⟨?_, ?_⟩
  · rw [Definition.get?_insert_of_ne (by decide), Definition.get?_setType _ (by decide),
      hstart _ (by decide)]
  · rw [Definition.get?_insert, if_pos rfl]
    rfl

theorem Composed.choices_of_string (hkind : subject.node.kind = .string) :
    schema.get? "$ref" = none ∧
      schema.get? "enum" = (catalog.choices? subject.node).map Json.array := by
  have hnone : catalog.choices? subject.node = none := by
    rw [choices?, hkind]
    rfl
  rw [h.of_string hkind, hnone, Definition.get?_setType _ (by decide),
    Definition.get?_setType _ (by decide)]
  exact ⟨hstart _ (by decide), hstart _ (by decide)⟩

end Choices

/-- The values that the schema of a choice lists are those that the graph says. -/
theorem BuiltFor.choices (h : catalog.BuiltFor p id schema) (hreadable : catalog.Readable)
    (hnode : catalog.graph.lookupType id = .ok node) (hchoice : catalog.IsChoice node) :
    schema.get? "$ref" = none ∧ schema.get? "enum" = (catalog.choices? node).map Json.array := by
  obtain ⟨request, frame, start, _, hlookup, _, hkeys, hbuilt⟩ := h
  obtain rfl := Except.ok.inj (hlookup.symm.trans hnode)
  have hstart := hreadable.get?_start hkeys
  have hcomposed := hbuilt.defined.composed_of_not_contains
    (hreadable.not_contains hkeys (by decide))
  cases hchoice with
  | literals hkind hsome hmembers => exact hcomposed.choices_of_literals hstart hkind hsome hmembers
  | enum hkind hindex => exact hcomposed.choices_of_enum hstart hkind hindex
  | literal hliteral => exact hcomposed.choices_of_literal hstart hliteral
  | string hkind => exact hcomposed.choices_of_string hstart hkind

/-! ## Scopes -/

theorem IsArrayOf.itemsOf?_eq (h : catalog.IsArrayOf node element) :
    catalog.itemsOf? node = catalog.nodeOf? element := by
  rw [itemsOf?, if_pos h.leftOver, h.index]
  rfl

/-- What is built for an array lists what was answered for its items. -/
theorem BuiltFor.items (h : catalog.BuiltFor p id schema) (hreadable : catalog.Readable)
    (hnode : catalog.graph.lookupType id = .ok node) (harray : catalog.IsArrayOf node element) :
    ∃ item, catalog.Answered (fun _ => True) p (catalog.member element) item ∧
      schema.get? "$ref" = none ∧ schema.typeName? = some "array" ∧
      schema.get? "items" = some item.toJson := by
  obtain ⟨request, frame, start, _, hlookup, hraw, hkeys, hbuilt⟩ := h
  obtain rfl := Except.ok.inj (hlookup.symm.trans hnode)
  have hstart := hreadable.get?_start hkeys
  have hcomposed := hbuilt.defined.composed_of_not_contains
    (hreadable.not_contains hkeys (by decide))
  rw [← Except.ok.inj (harray.raw.symm.trans hraw)] at hcomposed
  obtain ⟨item, hitem, rfl⟩ := hcomposed.of_array (hreadable.not_contains hkeys (by decide))
    harray.raw harray.leftOver harray.index harray.dateless
  refine ⟨item, hitem, ?_, ?_, ?_⟩
  · rw [Definition.get?_insert_of_ne (by decide), Definition.get?_setType _ (by decide),
      hstart _ (by decide)]
  · rw [Definition.typeName?_insert_of_ne (by decide)]
    exact Definition.typeName?_insert_type _
  · rw [Definition.get?_insert, if_pos rfl]

/-- What a tuple has as items is no schema. -/
theorem BuiltFor.tuple (h : catalog.BuiltFor p id schema) (hreadable : catalog.Readable)
    (hnode : catalog.graph.lookupType id = .ok node) {elements : List TypeId} {minLength : Nat}
    {hasRest : Bool} (hkind : node.kind = .tuple elements minLength hasRest) :
    schema.get? "$ref" = none ∧ (schema.get? "items").bind Definition.ofJson? = none := by
  obtain ⟨request, frame, start, _, hlookup, _, hkeys, hbuilt⟩ := h
  obtain rfl := Except.ok.inj (hlookup.symm.trans hnode)
  have hstart := hreadable.get?_start hkeys
  have hcomposed := hbuilt.defined.composed_of_not_contains
    (hreadable.not_contains hkeys (by decide))
  obtain ⟨items, _, rfl⟩ := hcomposed.of_tuple hkind
  refine ⟨?_, ?_⟩
  · rw [Definition.get?_setTuple _ _ _ (by decide), Definition.get?_setType _ (by decide),
      hstart _ (by decide)]
  · have hlisted : ((if items.isEmpty then start.setType "array" else
        (start.setType "array").insert "items" (.array (items.map Definition.toJson))).get?
          "items").bind Definition.ofJson? = none := by
      split
      · rw [Definition.get?_setType _ (by decide), hstart _ (by decide)]
        rfl
      · rw [Definition.get?_insert, if_pos rfl]
        rfl
    rw [Definition.setTuple]
    split
    · rw [Definition.get?_insert_of_ne (by decide)]
      exact hlisted
    · rw [Definition.get?_insert_of_ne (by decide), Definition.get?_insert_of_ne (by decide)]
      exact hlisted

/-- The values that the schema of a choice lists are found through a reference. -/
theorem Answered.choiceTexts {request : Request}
    (h : catalog.Answered (fun _ => True) p request answer) (hp : catalog.Stands p)
    (hreadable : catalog.Readable) (hunsettled : settled? request.owner = none)
    (hnode : catalog.nodeOf? request.type = some node) (hchoice : catalog.IsChoice node) :
    ((((resolve p.context answer).get? "enum").bind Json.items?).getD []).filterMap Json.text? =
      catalog.choiceTexts node := by
  obtain ⟨subject, schema, hsubject, hbuilt, hlead⟩ := h.found hp hreadable hunsettled
  obtain rfl := Option.some.inj (hnode.symm.trans (nodeOf?_eq hsubject))
  obtain ⟨href, henum⟩ := hbuilt.choices hreadable (TypeGraph.unwrap_subject hsubject).1 hchoice
  rw [hlead.resolve_eq href, henum, Catalog.choiceTexts]
  cases catalog.choices? subject.node with
  | none => rfl
  | some values => rfl

/-- **The scopes of a scheme** are those that the graph says. -/
theorem KeptAs.scopes {k : KeptProperty} (h : catalog.KeptAs p property k) (hp : catalog.Stands p)
    (hreadable : catalog.Readable) (hnode : catalog.nodeOf? property.type = some node)
    (hscopes : catalog.IsScopes node) :
    OpenApi.scopes p.context k.schema.toJson = catalog.scopesOf property := by
  obtain ⟨annotations, answer, hunsettled, hanswered, hschema⟩ := h.answered
  obtain ⟨subject, schema, hsubject, hbuilt, hlead⟩ := hanswered.found hp hreadable hunsettled
  have hsubject : catalog.graph.unwrap (catalog.graph.types.size + 1) property.type
      property.referenced = .ok subject := hsubject
  obtain rfl := Option.some.inj (hnode.symm.trans (nodeOf?_eq hsubject))
  have hlookup := (TypeGraph.unwrap_subject hsubject).1
  -- What the property adds to its schema concerns neither the reference nor the items.
  have hitems : schema.get? "$ref" = none →
      (resolve p.context k.schema).get? "items" = schema.get? "items" := by
    intro href
    have hkept : ∀ key ∈ ["$ref", "items"], k.schema.get? key = answer.get? key := by
      intro key hkey
      rw [hschema]
      refine get?_propertyDefinition _ _ ?_ ?_
      · rintro rfl
        exact absurd hkey (by decide)
      · rintro rfl
        exact absurd hkey (by decide)
    rcases hlead.resolve_eq_of_target (hkept _ (by decide)) href with heq | ⟨heq, hsame⟩
    · rw [heq]
    · rw [heq, hkept _ (by decide), hsame]
  have hread : Definition.ofJson? k.schema.toJson = some k.schema := rfl
  rw [OpenApi.scopes, hread, scopesOf, hnode]
  cases hscopes with
  | @tuple elements minLength hasRest hkind =>
    obtain ⟨href, hnone⟩ := hbuilt.tuple hreadable hlookup hkind
    simp [hitems href, hnone, itemsOf?, hkind, TypeKind.isLeftOver]
  | @array element inner harray hinner hchoice =>
    obtain ⟨item, hitem, href, _, hget⟩ := hbuilt.items hreadable hlookup harray
    have htexts := hitem.choiceTexts hp hreadable rfl hinner hchoice
    have hitemRead : Definition.ofJson? item.toJson = some item := rfl
    simp only [Option.bind_some, hitems href, hget, hitemRead]
    rw [htexts, harray.itemsOf?_eq, hinner]
    rfl

/-! ## Requirements -/

/-- The schemes that a schema lists are those that the graph says. -/
theorem Lays.schemes (h : catalog.Lays p node start kept absent) (hp : catalog.Stands p)
    (hreadable : catalog.Readable)
    (hscopes : ∀ property ∈ catalog.listed node, ∃ inner, catalog.nodeOf? property.type = some inner ∧
      catalog.IsScopes inner) :
    kept.map (fun k => (k.name, OpenApi.scopes p.context k.schema.toJson)) =
      (catalog.listed node).map fun property => (catalog.nameOf property, catalog.scopesOf property) := by
  have hkept := h.kept
  clear h
  generalize catalog.listed node = properties at hkept hscopes ⊢
  induction hkept with
  | nil => rfl
  | cons hfirst _ ih =>
    obtain ⟨⟨inner, hinner, hscope⟩, hrest⟩ := List.forall_mem_cons.1 hscopes
    rw [List.map_cons, List.map_cons, ih hrest, hfirst.name,
      hfirst.scopes hp hreadable hinner hscope]

/-- **What an alternative requires** is what the graph says of the record that it leads to. -/
theorem Lays.requirement? (h : catalog.Lays p node start kept absent) (hp : catalog.Stands p)
    (hreadable : catalog.Readable) (hschemes : catalog.IsSchemes node)
    (hlead : Leads p (catalog.listProperties start kept absent) answer) :
    OpenApi.requirement? p.context answer = catalog.requirementOf? node := by
  rw [OpenApi.requirement?, hlead.resolve_eq (h.get?_eq_none hreadable (by decide) (by decide)),
    h.properties? hreadable, requirementOf?]
  by_cases hlisted : catalog.listed node = []
  · have hkept : kept = [] := by
      have hkept := h.kept
      rw [hlisted] at hkept
      exact List.forall₂_nil_left_iff.1 hkept
    rw [if_pos hkept, if_pos hlisted]
    rfl
  · rw [if_neg (h.kept_ne_nil hlisted), if_neg hlisted, Option.map_some, ← Dict.ofEntries_map,
      Dict.ofEntries_of_nodup (Dict.nodup_keys_ofEntries _), ← h.schemes hp hreadable hschemes.scopes,
      List.map_map]
    rfl

/-- A member that nothing settles is answered by a schema that leads to its record. -/
theorem IsSchemesMember.requirement? (h : catalog.IsSchemesMember id) {contribution : Contribution}
    (hcontributes : catalog.Contributes (catalog.Answered (fun _ => True) p) id contribution)
    (hp : catalog.Stands p) (hreadable : catalog.Readable) :
    ∃ answer, contribution = .schema answer ∧ answer.IsObjectLike ∧
      OpenApi.requirement? p.context answer =
        (catalog.nodeOf? id).bind catalog.requirementOf? := by
  obtain ⟨own, hown, hnone, halias⟩ := h.unsettled
  obtain ⟨node, hnode, hschemes, hlisted⟩ := h.schemes
  cases hcontributes with
  | value hlookup hliteral =>
    obtain rfl := Except.ok.inj (hown.symm.trans hlookup)
    cases hnone.symm.trans hliteral
  | @schema _ owner answer hlookup _ howner hanswered =>
    obtain rfl := Except.ok.inj (hown.symm.trans hlookup)
    have hunsettled : settled? owner = none := by
      cases owner with
      | none => rfl
      | some o =>
        have hdescribes := howner.2 o rfl
        have hignored := (isIgnored_eq hdescribes).symm.trans (halias o.symbol howner.1.symm)
        have htype := hdescribes.onlyKeys.not_contains (hreadable.comments "type" (by decide))
        simp [settled?, hignored, htype]
    obtain ⟨start, kept, absent, hlays, hlead⟩ :=
      hanswered.exists_lays hp hreadable hunsettled hnode hschemes.record
    refine ⟨answer, rfl, hlays.isObjectLike hreadable hlisted hlead, ?_⟩
    rw [hlays.requirement? hp hreadable hschemes hlead, hnode]
    rfl

/-- The branches of a union of records are the schemas that lead to them. -/
theorem exists_branches {members : List TypeId} {contributions : List Contribution}
    (h : List.Forall₂ (catalog.Contributes (catalog.Answered (fun _ => True) p)) members contributions)
    (hp : catalog.Stands p) (hreadable : catalog.Readable)
    (hmembers : ∀ id ∈ members, catalog.IsSchemesMember id) :
    ∃ answers : List Definition, contributions = answers.map Contribution.schema ∧
      (∀ answer ∈ answers, answer.IsObjectLike) ∧ answers.length = members.length ∧
      answers.mapM (OpenApi.requirement? p.context) =
        members.mapM fun id => (catalog.nodeOf? id).bind catalog.requirementOf? := by
  induction h with
  | nil => exact ⟨[], rfl, List.forall_mem_nil _, rfl, rfl⟩
  | cons hfirst _ ih =>
    obtain ⟨hmember, hrest⟩ := List.forall_mem_cons.1 hmembers
    obtain ⟨answers, rfl, hlike, hlength, hrequirements⟩ := ih hrest
    obtain ⟨answer, rfl, hanswer, hrequirement⟩ := hmember.requirement? hfirst hp hreadable
    refine ⟨answer :: answers, rfl, List.forall_mem_cons.2 ⟨hanswer, hlike⟩, ?_, ?_⟩
    · rw [List.length_cons, List.length_cons, hlength]
    · rw [List.mapM_cons, List.mapM_cons, hrequirement, hrequirements]

/-- **What alternatives require** is what the graph says. -/
theorem Answered.alternatives {request : Request}
    (h : catalog.Answered (fun _ => True) p request answer) (hp : catalog.Stands p)
    (hreadable : catalog.Readable) (hunsettled : settled? request.owner = none)
    (hnode : catalog.nodeOf? request.type = some node) (halternatives : catalog.IsAlternatives node) :
    (OpenApi.alternatives (resolve p.context answer)).mapM (OpenApi.requirement? p.context) =
      catalog.alternativesOutline node := by
  cases halternatives with
  | one hschemes =>
    obtain ⟨start, kept, absent, hlays, hlead⟩ :=
      h.exists_lays hp hreadable hunsettled hnode hschemes.record
    have hnone : ∀ {key}, key ∈ assemblyKeywords → key ∉ ["type", "properties", "required"] →
        (catalog.listProperties start kept absent).get? key = none := fun hkey hobject =>
      hlays.get?_eq_none hreadable hkey hobject
    have hobject : catalog.alternativesOutline node = [node].mapM catalog.requirementOf? := by
      obtain ⟨own, anonymous, index, hkind, _⟩ := hschemes.record.object
      rw [alternativesOutline, hkind]
    rw [hlead.resolve_eq (hnone (by decide) (by decide)), OpenApi.alternatives,
      hnone (by decide) (by decide), hnone (by decide) (by decide), hobject]
    simp [hlays.requirement? hp hreadable hschemes .itself]
  | @several members hkind hmany hmembers =>
    obtain ⟨subject, schema, hsubject, hbuilt, hlead⟩ := h.found hp hreadable hunsettled
    obtain rfl := Option.some.inj (hnode.symm.trans (nodeOf?_eq hsubject))
    obtain ⟨asked, frame, start, _, hlookup, _, hkeys, hbuilt⟩ := hbuilt
    have hsame := Except.ok.inj (hlookup.symm.trans (TypeGraph.unwrap_subject hsubject).1)
    have hstart := hreadable.get?_start hkeys
    have hcomposed := hbuilt.defined.composed_of_not_contains
      (hreadable.not_contains hkeys (by decide))
    obtain ⟨contributions, hcontributions, rfl⟩ := hcomposed.of_union (hsame ▸ hkind)
    obtain ⟨answers, rfl, hlike, hlength, hrequirements⟩ :=
      exists_branches hcontributions hp hreadable hmembers
    rw [Branches.all_foldl_schemas hlike,
      Definition.unite_of_objects (hlength ▸ hmany) hlike] at hlead
    have href : (start.insert asked.unionKeyword.name
        (.array (answers.map Definition.toJson))).get? "$ref" = none := by
      rw [Definition.get?_insert_of_ne, hstart _ (by decide)]
      cases asked.unionKeyword <;> decide
    rw [hlead.resolve_eq href, OpenApi.alternatives_of_union _ (hstart _ (by decide)), hrequirements,
      alternativesOutline, hkind]

/-- **The security requirements of a type** are those that the graph says, whatever was built for
it. -/
theorem BuiltFor.security (h : catalog.BuiltFor p id schema) (hp : catalog.Stands p)
    (hreadable : catalog.Readable) (hnode : catalog.graph.lookupType id = .ok node)
    (hsecurity : catalog.IsSecurity node) :
    schema.get? "$ref" = none ∧
      OpenApi.requirements? p.context schema = catalog.securityOutline node := by
  cases hsecurity with
  | @array element inner harray hinner halternatives =>
    obtain ⟨item, hitem, href, htype, hget⟩ := h.items hreadable hnode harray
    refine ⟨href, ?_⟩
    have hread : Definition.ofJson? item.toJson = some item := rfl
    rw [OpenApi.requirements?, if_pos htype, hget, Option.bind_some, hread, Option.bind_some,
      hitem.alternatives hp hreadable rfl hinner halternatives, securityOutline, harray.itemsOf?_eq,
      hinner]
    rfl
  | record hrecord =>
    obtain ⟨start, kept, absent, hlays, rfl⟩ := h.exists_lays hp hreadable hnode hrecord
    refine ⟨hlays.get?_eq_none hreadable (by decide) (by decide), ?_⟩
    have hindex : node.numberIndex = none := by
      obtain ⟨own, anonymous, index, hkind, _⟩ := hrecord.object
      have hraw := hrecord.unbranded
      rw [TypeGraph.isRaw, hkind] at hraw
      cases hnumber : node.numberIndex with
      | none => rfl
      | some element => simp [hnumber, pure, Except.pure] at hraw
    rw [OpenApi.requirements?, typeName?_listProperties (hlays.not_contains hreadable (by decide)),
      securityOutline, itemsOf?, hindex]
    simp

end Catalog

end TypeSchema
