import Mathlib.Data.List.Induction
import TypeSchema.Proofs.Objects.Listings
import TypeSchema.Proofs.OpenApi.Occurrences
import TypeSchema.Proofs.References.Lookup

/-!
# What the graph says of parameters

The names of the parameters of an operation, and which of them are required, are read off schemas,
and these depend on what is referred to and what is built in place.  This file reads both off the
graph (`Catalog.parameterOutline`), without a context and without a table of definitions, and says
when the schemas agree with it: `Catalog.IsRecord` is what it takes of an object, and
**`Catalog.BuiltFor.parameters`** says that then the parameters that are read off whatever was built
for the object are those of the outline, however it was come by.

The marks of unions are what makes this a condition on the graph.  Which property a union marks
depends on where it is built first, so the outline is right only where a union with `undefined`
stays in the property that has it (`IsRecord.absent`).
-/

set_option autoImplicit false

namespace TypeSchema

open OpenApi

/-! ## Keys -/

/-- The keys of entries that are written one after the other are theirs, without repetitions. -/
theorem Dict.keys_ofEntries {α : Type} (entries : List (String × α)) :
    keys (ofEntries entries) = (entries.map Prod.fst).eraseDups := by
  induction entries using List.reverseRecOn with
  | nil => rfl
  | append_singleton entries entry ih =>
    have hlast : ofEntries (entries ++ [entry]) = insert (ofEntries entries) entry.1 entry.2 := by
      simp [ofEntries, extend]
    rw [hlast, keys_insert, ih, List.map_append, List.map_singleton, Document.eraseDups_concat]

/-- What a parameter is called, where it is sent and whether it is required. -/
def OpenApi.Parameter.outline (parameter : Parameter) : String × ParameterLocation × Bool :=
  (parameter.name, parameter.location, parameter.isRequired)

/-! ## Schemas of objects -/

namespace Catalog

variable {catalog : Catalog} {start : Definition} {kept : List KeptProperty}
  {absent : List SymbolId}

theorem typeName?_listProperties (hstart : start.contains "type" = false) :
    (catalog.listProperties start kept absent).typeName? = some "object" := by
  have htyped : (start.insertNew "type" (.string "object")).get? "type" = some (.string "object") := by
    rw [Definition.insertNew, Dict.insertNew, if_neg (by simpa [Definition.contains] using hstart)]
    exact (Dict.get?_insert _ _ _ _).trans (if_pos rfl)
  rw [Definition.typeName?, get?_listProperties kept absent (by decide) (by decide), htyped]
  rfl

/-- An object has the schemas of the properties it keeps, if it keeps any. -/
theorem properties?_listProperties (htype : start.contains "type" = false)
    (hproperties : start.contains "properties" = false) :
    (catalog.listProperties start kept absent).properties? =
      if kept = [] then none
      else some (Dict.ofEntries (kept.map fun p => (p.name, p.schema.toJson))) := by
  have hnone : (start.insertNew "type" (.string "object")).get? "properties" = none := by
    rw [Definition.get?_insertNew_of_ne (by decide)]
    exact Definition.get?_eq_none_of_not_contains hproperties
  have htyped : (start.insertNew "type" (.string "object")).typeName? = some "object" := by
    rw [Definition.insertNew, Dict.insertNew, if_neg (by simpa [Definition.contains] using htype)]
    exact Definition.typeName?_insert_type _
  have hlisted : (start.setProperties kept).properties? =
      if kept = [] then none
      else some (Dict.ofEntries (kept.map fun p => (p.name, p.schema.toJson))) := by
    rw [Definition.setProperties, Definition.properties?, htyped]
    by_cases hkept : kept = []
    · simp [hkept, hnone]
    · simp [hkept, Definition.get?_insert, Json.fields?]
  rw [listProperties, ← hlisted]
  split
  · rfl
  · rw [Definition.properties?, Definition.get?_setRequired _ (by decide), Definition.properties?]

/-- It requires what it keeps that is neither optional nor marked as absent. -/
theorem requires_listProperties (hrequired : start.contains "required" = false) (name : String) :
    (catalog.listProperties start kept absent).requires name = true ↔
      catalog.options.ignoreRequired = false ∧ ∃ p ∈ kept, p.property.isOptional = false ∧
        p.property.symbol ∉ absent ∧ p.name = name := by
  have hnone : (start.setProperties kept).get? "required" = none := by
    rw [Definition.get?_setProperties kept (by decide), Definition.get?_insertNew_of_ne (by decide)]
    exact Definition.get?_eq_none_of_not_contains hrequired
  have hmem : ∀ name, name ∈ (kept.filter fun p => !p.property.isOptional &&
        !absent.contains p.property.symbol).map KeptProperty.name ↔
      ∃ p ∈ kept, p.property.isOptional = false ∧ p.property.symbol ∉ absent ∧ p.name = name := by
    simp [and_assoc]
  rw [listProperties]
  cases hignore : catalog.options.ignoreRequired with
  | true => simp [Definition.requires, hnone]
  | false =>
    rw [if_neg (by simp), ← hmem, and_iff_right rfl]
    generalize (kept.filter fun p => !p.property.isOptional &&
      !absent.contains p.property.symbol).map KeptProperty.name = names
    by_cases hnil : names = []
    · simp [hnil, Definition.setRequired, Definition.requires, hnone]
    · obtain ⟨sorted, _, hsorted, hget⟩ :=
        @Definition.requires_setRequired (start.setProperties kept) names hnil
      refine Iff.trans ?_ (hsorted name)
      rw [Definition.requires, hget]
      by_cases hempty : sorted = []
      · simp [hempty]
      · simp [hempty, Json.strings, Json.items?, Json.text?]

/-! ## The outline of an object -/

variable (catalog)

/-- The type with wrappers looked through. -/
def nodeOf? (id : TypeId) : Option TypeNode :=
  (catalog.graph.unwrap (catalog.graph.types.size + 1) id none).toOption.map Subject.node

/-- Whether the type is `undefined` or `void`, with wrappers looked through. -/
def isUndefined (id : TypeId) : Bool :=
  (catalog.nodeOf? id).any fun node => node.kind.isUndefined

/-- Whether the type is a union with a member that is `undefined`. -/
def leavesOut (id : TypeId) : Bool :=
  match (catalog.nodeOf? id).map TypeNode.kind with
  | some (.union members) => members.any catalog.isUndefined
  | _ => false

/-- Whether the doc comment of the symbol has something left out. -/
def isIgnored (id : SymbolId) : Bool :=
  match catalog.graph.lookupSymbol id with
  | .ok symbol => (catalog.reader.read symbol).toOption.any Annotations.isIgnored
  | .error _ => false

/-- The name of the property. -/
def nameOf (property : Property) : String :=
  match catalog.graph.lookupSymbol property.symbol with
  | .ok symbol => symbol.name
  | .error _ => ""

/-- Whether an object lists the property: it is neither private nor a method, its doc comment does not
have it left out, and its type is neither `never` nor `undefined`. -/
def isListed (property : Property) : Bool :=
  catalog.isVisible property && !property.isMethod && !catalog.isIgnored property.symbol &&
    !catalog.isUndefined property.type

/-- The properties that an object lists. -/
def listed (node : TypeNode) : List Property :=
  node.properties.filter catalog.isListed

/-- Whether the object requires a property of the name: one that it lists is not optional and may
not be `undefined`. -/
def requiresName (node : TypeNode) (name : String) : Bool :=
  !catalog.options.ignoreRequired && (catalog.listed node).any fun property =>
    catalog.nameOf property == name && !property.isOptional && !catalog.leavesOut property.type

/-- The names of what an object lists, and which of them it requires. -/
def outline (node : TypeNode) : List (String × Bool) :=
  ((catalog.listed node).map catalog.nameOf).eraseDups.map fun name =>
    (name, catalog.requiresName node name)

/-! ## Where the outline is right -/

/-- The type is a union that is described where it is used, with a member `undefined` that is so
too. -/
def LeavesOutInPlace (id : TypeId) : Prop :=
  ∃ node members member inner, catalog.nodeOf? id = some node ∧ catalog.Unnamed node ∧
    node.kind = .union members ∧ member ∈ members ∧
    catalog.graph.lookupType member = .ok inner ∧ inner.kind.isUndefined = true ∧
    catalog.Unnamed inner

/-- The object lists its properties, and its marks are those of its own unions: whatever is
`undefined` in it is described in place, and where a union with `undefined` is built for a property
that has to be there, that is the property's own type. -/
structure IsRecord (node : TypeNode) : Prop where
  object : ∃ own anonymous index, node.kind = .object own anonymous index ∧
    (own = [] → anonymous = false)
  unbranded : catalog.graph.isRaw node = .ok false
  concrete : ∀ id symbol, node.symbol = some id → catalog.graph.lookupSymbol id = .ok symbol →
    symbol.isAbstract = false
  undefined : ∀ property ∈ node.properties, ∀ inner, catalog.nodeOf? property.type = some inner →
    inner.kind.isUndefined = true → catalog.Unnamed inner
  absent : ∀ property ∈ node.properties, property.isOptional = false →
    (∃ id, catalog.Owns property.symbol id ∧ catalog.leavesOut id = true) →
    catalog.LeavesOutInPlace property.type

end Catalog

namespace Catalog

variable {catalog : Catalog} {p q : Progress} {property : Property} {node inner : TypeNode} {id : TypeId}
  {annotations : Annotations} {schema answer : Definition}

theorem nodeOf?_eq {named : Option SymbolId} {subject : Subject}
    (h : catalog.graph.unwrap (catalog.graph.types.size + 1) id named = .ok subject) :
    catalog.nodeOf? id = some subject.node := by
  obtain ⟨same, hsame, _, hnode⟩ := TypeGraph.exists_unwrap h none
  rw [nodeOf?, hsame, ← hnode]
  rfl

theorem exists_unwrap_of_nodeOf? (h : catalog.nodeOf? id = some node) (named : Option SymbolId) :
    ∃ subject, catalog.graph.unwrap (catalog.graph.types.size + 1) id named = .ok subject ∧
      subject.node = node := by
  obtain ⟨subject, hsubject, rfl⟩ := Option.map_eq_some_iff.1 h
  obtain ⟨same, hsame, _, hnode⟩ :=
    TypeGraph.exists_unwrap (Decoder.toOption_eq_some.1 hsubject) named
  exact ⟨same, hsame, hnode⟩

theorem isUndefined_of_unwrap {named : Option SymbolId} {subject : Subject}
    (h : catalog.graph.unwrap (catalog.graph.types.size + 1) id named = .ok subject)
    (hkind : subject.node.kind.isUndefined = true) : catalog.isUndefined id = true := by
  rw [isUndefined, nodeOf?_eq h]
  exact hkind

theorem isIgnored_eq {owner : Owner} (h : catalog.Describes owner) :
    catalog.isIgnored owner.symbol = owner.annotations.isIgnored := by
  obtain ⟨symbol, hsymbol, hread⟩ := h
  simp [isIgnored, hsymbol, hread, Except.toOption]

theorem nameOf_eq {symbol : Symbol} (h : catalog.graph.lookupSymbol property.symbol = .ok symbol) :
    catalog.nameOf property = symbol.name := by
  rw [nameOf, h]

theorem LeavesOutInPlace.leavesOut (h : catalog.LeavesOutInPlace id) : catalog.leavesOut id = true := by
  obtain ⟨node, members, member, inner, hnode, _, hkind, hmem, hinner, hundefined, hplace⟩ := h
  have hwrapped : catalog.graph.wrapped? inner = .ok none := by
    rw [TypeGraph.wrapped?, hplace.unaliased]
    rfl
  have hmember : catalog.isUndefined member = true :=
    isUndefined_of_unwrap (TypeGraph.unwrap_of_not_wrapped _ none hinner hwrapped) hundefined
  rw [Catalog.leavesOut, hnode, Option.map_some, hkind]
  exact List.any_eq_true.2 ⟨member, hmem, hmember⟩

/-- A union that is marked for a symbol has a member that is `undefined`. -/
theorem Drops.exists_leavesOut {symbol : SymbolId} (hreadable : catalog.Readable)
    (h : catalog.Drops (catalog.Answered (fun _ => True) p) symbol) :
    ∃ id, catalog.Owns symbol id ∧ catalog.leavesOut id = true := by
  obtain ⟨id, named, subject, members, member, schema, howns, hsubject, hkind, hmem, hcontributes,
    hname⟩ := h
  refine ⟨id, howns, ?_⟩
  rw [Catalog.leavesOut, nodeOf?_eq hsubject, Option.map_some, hkind]
  refine List.any_eq_true.2 ⟨member, hmem, ?_⟩
  cases hcontributes with
  | schema _ _ howner hanswered =>
    rcases hanswered.yields.markedOnlyIf hreadable.hook (hreadable.comments _ (by decide)) howner.2 with
      ⟨_, inner, hinner, hundefined⟩ | hunmarked
    · exact isUndefined_of_unwrap hinner hundefined
    · exact absurd hname hunmarked.typeName?_ne

/-! ## What is kept of a record -/

/-- The property is kept with its name and what was answered for it. -/
structure KeptAs (catalog : Catalog) (p : Progress) (property : Property) (kept : KeptProperty) :
    Prop where
  of_property : kept.property = property
  name : kept.name = catalog.nameOf property
  answered : ∃ annotations answer, settled? (some ⟨property.symbol, annotations⟩) = none ∧
    catalog.Answered (fun _ => True) p (catalog.requestFor property annotations) answer ∧
    kept.schema = catalog.propertyDefinition property kept.name answer

theorem KeptAs.grows {kept : KeptProperty} (h : catalog.KeptAs p property kept) (hpq : Grows p q) :
    catalog.KeptAs q property kept := by
  obtain ⟨annotations, answer, hunsettled, hanswered, hschema⟩ := h.answered
  exact ⟨h.of_property, h.name, annotations, answer, hunsettled, hanswered.grows hpq, hschema⟩

/-- What becomes of a property of a record. -/
theorem IsRecord.keeping (hrecord : catalog.IsRecord node) (hreadable : catalog.Readable)
    (hproperty : property ∈ node.properties) (hvisible : catalog.isVisible property = true)
    {kept : Option KeptProperty}
    (h : catalog.Keeping (catalog.Answered (fun _ => True) p) property kept) :
    catalog.isListed property = false ∧ kept = none ∨
      catalog.isListed property = true ∧ ∃ k, kept = some k ∧ catalog.KeptAs p property k := by
  have htype : ¬catalog.IsCommented "type" := hreadable.comments _ (by decide)
  cases h with
  | method hmethod => exact .inl ⟨by simp [isListed, hmethod], rfl⟩
  | ignored howner hignored => exact .inl ⟨by simp [isListed, ← hignored, ← isIgnored_eq howner], rfl⟩
  | undefined howner hanswered hname =>
    refine .inl ⟨?_, rfl⟩
    rcases hanswered.yields.markedOnlyIf hreadable.hook htype
      (fun o ho => Option.some.inj ho ▸ howner) with ⟨_, inner, hinner, hundefined⟩ | hunmarked
    · have hundefined : catalog.isUndefined property.type = true :=
        isUndefined_of_unwrap hinner hundefined
      simp [isListed, hundefined]
    · exact absurd hname hunmarked.typeName?_ne
  | @kept annotations symbol schema hfield howner hignored hsymbol hanswered hname =>
    have hcontains : annotations.definition.contains "type" = false :=
      howner.onlyKeys.not_contains htype
    have hunsettled : settled? (some ⟨property.symbol, annotations⟩) = none := by
      simp [settled?, hignored, hcontains]
    have hdefined : catalog.isUndefined property.type = false := by
      rw [Bool.eq_false_iff]
      intro hundefined
      obtain ⟨inner, hinner, hkind⟩ := (Option.any_eq_true _ _).1 hundefined
      obtain ⟨subject, hsubject, rfl⟩ := exists_unwrap_of_nodeOf? hinner property.referenced
      obtain ⟨frame, start, rfl, hkeys, hbuilt⟩ := hanswered.unnamed hreadable hunsettled hsubject
        (hrecord.undefined property hproperty _ hinner hkind)
      have hcomposed := hbuilt.defined.composed_of_not_contains (hkeys.not_contains htype)
      exact hname (hcomposed.typeName?_eq hkind)
    refine .inr ⟨?_, _, rfl, rfl, (nameOf_eq hsymbol).symm, annotations, schema, hunsettled, hanswered, rfl⟩
    simp [isListed, hvisible, hfield, (isIgnored_eq howner).trans hignored, hdefined]

/-- What is kept of the properties of a record is what the record lists. -/
theorem IsRecord.forall₂_keptAs (hrecord : catalog.IsRecord node) (hreadable : catalog.Readable)
    {properties : List Property} {answers : List (Option KeptProperty)}
    (hproperties : ∀ property ∈ properties, property ∈ node.properties)
    (h : List.Forall₂ (catalog.Keeping (catalog.Answered (fun _ => True) p))
      (properties.filter catalog.isVisible) answers) :
    List.Forall₂ (catalog.KeptAs p) (properties.filter catalog.isListed) answers.reduceOption := by
  induction properties generalizing answers with
  | nil =>
    cases h
    exact .nil
  | cons property rest ih =>
    obtain ⟨hproperty, hrest⟩ := List.forall_mem_cons.1 hproperties
    cases hvisible : catalog.isVisible property with
    | false =>
      rw [List.filter_cons_of_neg (by simp [hvisible])] at h
      rw [List.filter_cons_of_neg (by simp [isListed, hvisible])]
      exact ih hrest h
    | true =>
      rw [List.filter_cons_of_pos hvisible] at h
      cases h with
      | cons hfirst hothers =>
        rcases hrecord.keeping hreadable hproperty hvisible hfirst with ⟨hnot, rfl⟩ |
          ⟨hlisted, k, rfl, hkept⟩
        · rw [List.filter_cons_of_neg (by simp [hnot]), List.reduceOption_cons_of_none]
          exact ih hrest hothers
        · rw [List.filter_cons_of_pos hlisted, List.reduceOption_cons_of_some]
          exact .cons hkept (ih hrest hothers)

/-- A property that is listed with its own union is marked, since the union was built for it. -/
theorem KeptAs.dropped {kept : KeptProperty} (h : catalog.KeptAs p property kept)
    (hreadable : catalog.Readable) (hunion : catalog.LeavesOutInPlace property.type) :
    .dropped property.symbol ∈ p.journal := by
  have htype : ¬catalog.IsCommented "type" := hreadable.comments _ (by decide)
  obtain ⟨node, members, member, inner, hnode, hplace, hkind, hmem, hinner, hundefined, hinnerPlace⟩ :=
    hunion
  obtain ⟨annotations, answer, hunsettled, hanswered, _⟩ := h.answered
  obtain ⟨subject, hsubject, rfl⟩ := exists_unwrap_of_nodeOf? hnode property.referenced
  obtain ⟨frame, start, rfl, hkeys, hbuilt⟩ :=
    hanswered.unnamed hreadable hunsettled hsubject hplace
  obtain ⟨contribution, hcontributes, hdropped⟩ :=
    (hbuilt.recorded (hkeys.not_contains htype)).dropped members _ hkind rfl member hmem
  cases hcontributes with
  | value hnode hliteral =>
    obtain rfl := Except.ok.inj (hinner.symm.trans hnode)
    cases hnode : inner.kind <;> simp_all [TypeKind.literal?, TypeKind.isUndefined]
  | @schema node owner schema hnode _ howner hpart =>
    obtain rfl := Except.ok.inj (hinner.symm.trans hnode)
    have hnone : owner = none := by
      have hnone := howner.1
      rw [hinnerPlace.unaliased] at hnone
      exact Option.map_eq_none_iff.1 hnone
    subst hnone
    have hwrapped : catalog.graph.wrapped? inner = .ok none := by
      rw [TypeGraph.wrapped?, hinnerPlace.unaliased]
      rfl
    obtain ⟨memberFrame, _, hsame, hmemberKeys, hmember⟩ := hpart.unnamed hreadable rfl
      (TypeGraph.unwrap_of_not_wrapped _ _ hinner hwrapped) hinnerPlace
    have hcomposed := hmember.defined.composed_of_not_contains (hmemberKeys.not_contains htype)
    exact hdropped schema rfl (hcomposed.typeName?_eq (by rw [hsame]; exact hundefined))

/-- The schema lists what the record lists, as it was answered, and knows which properties may be
`undefined`. -/
structure Lays (catalog : Catalog) (p : Progress) (node : TypeNode) (start : Definition)
    (kept : List KeptProperty) (absent : List SymbolId) : Prop where
  comments : start.OnlyKeys fun key => catalog.IsCommented key ∨ key = "title"
  kept : List.Forall₂ (catalog.KeptAs p) (catalog.listed node) kept
  absent : ∀ property ∈ catalog.listed node, property.isOptional = false →
    (property.symbol ∈ absent ↔ catalog.leavesOut property.type = true)

/-- Whatever is built for a record lists its properties. -/
theorem BuiltFor.exists_lays (h : catalog.BuiltFor p id schema) (hp : catalog.Stands p)
    (hreadable : catalog.Readable) (hnode : catalog.graph.lookupType id = .ok node)
    (hrecord : catalog.IsRecord node) :
    ∃ start kept absent, catalog.Lays p node start kept absent ∧
      schema = catalog.listProperties start kept absent := by
  obtain ⟨request, frame, start, hid, hlookup, hraw, hkeys, hbuilt⟩ := h
  obtain rfl := Except.ok.inj (hlookup.symm.trans hnode)
  have htype : start.contains "type" = false := hreadable.not_contains hkeys (by decide)
  obtain ⟨own, anonymous, index, hkind, hempty⟩ := hrecord.object
  have hplain := Except.ok.inj (hraw.symm.trans hrecord.unbranded)
  obtain ⟨listing, hmem, hlisting, rfl, rfl⟩ :=
    (hbuilt.recorded htype).listed hplain own anonymous index hkind hempty hrecord.concrete
  obtain ⟨later, earlier, hsplit⟩ := List.mem_iff_append.1 hmem
  obtain ⟨absent, habsent, hlists⟩ := hp.traced.marked.listed later listing earlier hsplit
  obtain ⟨q, rfl, hqp, other, answers, hother, hanswers, hkept⟩ :=
    hp.traced.listed later listing earlier hsplit
  rw [hlisting, hid] at hother
  obtain rfl := Except.ok.inj (hlookup.symm.trans hother)
  have hkeptAs := hkept ▸ hrecord.forall₂_keptAs hreadable (fun _ h => h) hanswers
  refine ⟨listing.start, listing.kept, absent, ⟨hkeys, hkeptAs.imp fun _ _ h => h.grows hqp, ?_⟩,
    hlists.schema⟩
  intro property hproperty hneeded
  have hown := (List.mem_filter.1 hproperty).1
  rw [habsent]
  constructor
  · intro hmarked
    have hdrops := hp.traced.dropped property.symbol (hqp.mem_journal hmarked)
    exact (hrecord.absent property hown hneeded (hdrops.exists_leavesOut hreadable)).leavesOut
  · intro hleaves
    obtain ⟨kept, _, hkept⟩ := exists_right_of_forall₂ hkeptAs hproperty
    exact hkept.dropped hreadable
      (hrecord.absent property hown hneeded ⟨_, .property hlookup hown, hleaves⟩)

namespace Lays

variable {start : Definition} {kept : List KeptProperty} {absent : List SymbolId} {key : String}

theorem not_contains (h : catalog.Lays p node start kept absent) (hreadable : catalog.Readable)
    (hkey : key ∈ assemblyKeywords) : start.contains key = false :=
  hreadable.not_contains h.comments hkey

/-- The schema of a record has no keyword that the assembler reads but those of objects. -/
theorem get?_eq_none (h : catalog.Lays p node start kept absent) (hreadable : catalog.Readable)
    (hkey : key ∈ assemblyKeywords) (hobject : key ∉ ["type", "properties", "required"]) :
    (catalog.listProperties start kept absent).get? key = none := by
  have hne : ∀ other ∈ ["type", "properties", "required"], key ≠ other :=
    fun other hmem heq => hobject (heq ▸ hmem)
  rw [get?_listProperties _ _ (hne _ (by decide)) (hne _ (by decide)),
    Definition.get?_insertNew_of_ne (hne _ (by decide)).symm]
  exact Definition.get?_eq_none_of_not_contains (h.not_contains hreadable hkey)

theorem names (h : catalog.Lays p node start kept absent) :
    kept.map KeptProperty.name = (catalog.listed node).map catalog.nameOf := by
  have hkept := h.kept
  clear h
  generalize catalog.listed node = properties at hkept ⊢
  induction hkept with
  | nil => rfl
  | cons hfirst _ ih => rw [List.map_cons, List.map_cons, hfirst.name, ih]

theorem properties? (h : catalog.Lays p node start kept absent) (hreadable : catalog.Readable) :
    (catalog.listProperties start kept absent).properties? =
      if kept = [] then none
      else some (Dict.ofEntries (kept.map fun p => (p.name, p.schema.toJson))) :=
  properties?_listProperties (h.not_contains hreadable (by decide)) (h.not_contains hreadable (by decide))

/-- The schema requires what the record requires. -/
theorem requires (h : catalog.Lays p node start kept absent) (hreadable : catalog.Readable)
    (name : String) :
    (catalog.listProperties start kept absent).requires name = catalog.requiresName node name := by
  have hsome : (∃ k ∈ kept, k.property.isOptional = false ∧ k.property.symbol ∉ absent ∧
      k.name = name) ↔ ∃ property ∈ catalog.listed node, catalog.nameOf property = name ∧
        property.isOptional = false ∧ catalog.leavesOut property.type = false := by
    constructor
    · rintro ⟨k, hk, hneeded, hunmarked, hname⟩
      obtain ⟨property, hproperty, hkept⟩ := exists_left_of_forall₂ h.kept hk
      rw [hkept.of_property] at hneeded hunmarked
      rw [h.absent property hproperty hneeded] at hunmarked
      exact ⟨property, hproperty, hkept.name.symm.trans hname, hneeded, by simpa using hunmarked⟩
    · rintro ⟨property, hproperty, hname, hneeded, hleaves⟩
      obtain ⟨k, hk, hkept⟩ := exists_right_of_forall₂ h.kept hproperty
      refine ⟨k, hk, ?_, ?_, hkept.name.trans hname⟩
      · rwa [hkept.of_property]
      · rw [hkept.of_property, h.absent property hproperty hneeded, hleaves]
        decide
  rw [Bool.eq_iff_iff, requires_listProperties (h.not_contains hreadable (by decide)), hsome]
  simp [requiresName, and_assoc]

/-- **The parameters of a record** are those of its outline. -/
theorem branchParameters (h : catalog.Lays p node start kept absent) (hreadable : catalog.Readable)
    (location : ParameterLocation) :
    (OpenApi.branchParameters location (catalog.listProperties start kept absent)).map Parameter.outline =
      (catalog.outline node).map fun entry => (entry.1, location, entry.2) := by
  have hproperties : (catalog.listProperties start kept absent).properties?.getD [] =
      (Dict.ofEntries (kept.map fun k => (k.name, k.schema))).map
        fun entry => (entry.1, entry.2.toJson) := by
    rw [h.properties? hreadable, ← Dict.ofEntries_map, List.map_map]
    split
    · rename_i hnil
      rw [hnil]
      rfl
    · rfl
  have hkeys : (Dict.ofEntries (kept.map fun k => (k.name, k.schema))).map Prod.fst =
      ((catalog.listed node).map catalog.nameOf).eraseDups := by
    refine (Dict.keys_ofEntries _).trans ?_
    rw [List.map_map, ← h.names]
    rfl
  rw [OpenApi.branchParameters, hproperties, outline, ← hkeys]
  simp [List.filterMap_map, Function.comp_def, Definition.ofJson?, Definition.toJson, Json.fields?,
    h.requires hreadable, Parameter.outline]

end Lays

/-! ## Answers for records -/

/-- Whatever is answered for a record leads to a schema that lists its properties. -/
theorem Answered.exists_lays {request : Request}
    (h : catalog.Answered (fun _ => True) p request answer) (hp : catalog.Stands p)
    (hreadable : catalog.Readable) (hunsettled : settled? request.owner = none)
    (hnode : catalog.nodeOf? request.type = some node) (hrecord : catalog.IsRecord node) :
    ∃ start kept absent, catalog.Lays p node start kept absent ∧
      Leads p (catalog.listProperties start kept absent) answer := by
  obtain ⟨subject, schema, hsubject, hbuilt, hlead⟩ := h.found hp hreadable hunsettled
  obtain rfl := Option.some.inj (hnode.symm.trans (nodeOf?_eq hsubject))
  obtain ⟨start, kept, absent, hlays, rfl⟩ :=
    hbuilt.exists_lays hp hreadable (TypeGraph.unwrap_subject hsubject).1 hrecord
  exact ⟨start, kept, absent, hlays, hlead⟩

end Catalog

/-- A schema is the reference to an object, or it says itself what the properties of the object are.
-/
def Definition.IsObjectLike (definition : Definition) : Prop :=
  definition.typeName? = none ∧ definition.contains "$ref" = true ∨
    definition.typeName? = some "object" ∧ definition.contains "properties" = true

/-- A schema has as many keywords as there are different ones in it. -/
theorem Definition.length_le_of_contains {definition : Definition} {keys : List String}
    (hnodup : keys.Nodup) (h : ∀ key ∈ keys, definition.contains key = true) :
    keys.length ≤ definition.length := by
  have hsubset : keys ⊆ Dict.keys definition := fun key hkey =>
    Dict.contains_iff_mem_keys.1 (h key hkey)
  have hle := (List.subperm_of_subset hnodup hsubset).length_le
  simpa [Dict.keys] using hle

namespace Definition.IsObjectLike

variable {definition : Definition}

theorem typeName?_ne (h : definition.IsObjectLike) {name : String} (hname : name ≠ "object") :
    definition.typeName? ≠ some name := by
  rcases h with ⟨hnone, _⟩ | ⟨hobject, _⟩
  · rw [hnone]
    nofun
  · rw [hobject]
    exact fun heq => hname (Option.some.inj heq).symm

theorem isBareType (h : definition.IsObjectLike) : definition.isBareType = false := by
  have hother : ∀ key, definition.contains key = true → key ≠ "type" →
      definition.isBareType = false := by
    intro key hkey hne
    rw [Bool.eq_false_iff, Definition.isBareType, ne_eq, Bool.and_eq_true, beq_iff_eq]
    rintro ⟨hlength, htype⟩
    have hle := definition.length_le_of_contains (by simpa using hne) (List.forall_mem_cons.2
      ⟨hkey, List.forall_mem_singleton.2 htype⟩)
    exact absurd hle (by simp [hlength])
  rcases h with ⟨_, href⟩ | ⟨_, hproperties⟩
  · exact hother _ href (by decide)
  · exact hother _ hproperties (by decide)

theorem isNullableNull (h : definition.IsObjectLike) : definition.isNullableNull = false := by
  rcases h with ⟨hnone, _⟩ | ⟨hobject, hproperties⟩
  · simp [Definition.isNullableNull, hnone]
  · obtain ⟨value, hvalue, _⟩ := Option.bind_eq_some_iff.1 hobject
    cases hnullable : definition.get? "nullable" with
    | none => simp [Definition.isNullableNull, hnullable]
    | some _ =>
      -- Three keywords are one too many for `null` with the keyword `nullable`.
      have hle := @length_le_of_contains definition ["type", "properties", "nullable"] (by decide)
        (by simpa using ⟨Dict.contains_of_get? hvalue, hproperties, Dict.contains_of_get? hnullable⟩)
      have hne : definition.length ≠ 2 := by
        intro hlength
        simp [hlength] at hle
      simp [Definition.isNullableNull, hne]

end Definition.IsObjectLike

/-- Objects are the factors of an intersection as they are. -/
theorem Factors.all_foldl {schemas : List Definition} (h : ∀ schema ∈ schemas, schema.IsObjectLike) :
    (schemas.foldl Factors.enter {}).all = schemas := by
  suffices hall : ∀ done : List Definition,
      schemas.foldl Factors.enter { schemas := done } = { schemas := done ++ schemas } by
    rw [hall []]
    rfl
  induction schemas with
  | nil => intro done; simp
  | cons schema rest ih =>
    intro done
    obtain ⟨hschema, hrest⟩ := List.forall_mem_cons.1 h
    have hstep : Factors.enter { schemas := done } schema = { schemas := done ++ [schema] } := by
      rw [enter, if_neg (hschema.typeName?_ne (by decide)), hschema.isBareType]
      rfl
    rw [List.foldl_cons, hstep, ih hrest, List.append_assoc]
    rfl

theorem Definition.intersect_of_length {start : Definition} {schemas : List Definition}
    (h : 2 ≤ schemas.length) :
    start.intersect schemas = start.insert "allOf" (.array (schemas.map toJson)) := by
  match schemas with
  | _ :: _ :: _ => rfl

/-- Schemas that were written down are read back. -/
theorem Definition.filterMap_ofJson? (schemas : List Definition) :
    (schemas.map toJson).filterMap ofJson? = schemas := by
  rw [List.filterMap_map]
  exact List.filterMap_some

namespace Catalog

variable {catalog : Catalog} {p : Progress} {node : TypeNode} {id : TypeId}
  {start schema answer : Definition} {kept : List KeptProperty} {absent : List SymbolId}

theorem Lays.kept_ne_nil (h : catalog.Lays p node start kept absent)
    (hlisted : catalog.listed node ≠ []) : kept ≠ [] := by
  rintro rfl
  have hnil := List.forall₂_nil_right_iff.1 h.kept
  exact hlisted hnil

theorem Lays.isObjectLike (h : catalog.Lays p node start kept absent) (hreadable : catalog.Readable)
    (hlisted : catalog.listed node ≠ [])
    (hlead : Leads p (catalog.listProperties start kept absent) answer) : answer.IsObjectLike := by
  cases hlead with
  | itself =>
    refine .inr ⟨typeName?_listProperties (h.not_contains hreadable (by decide)), ?_⟩
    have hproperties := h.properties? hreadable
    rw [if_neg (h.kept_ne_nil hlisted)] at hproperties
    exact Dict.contains_of_get? (Definition.get?_of_properties? hproperties)
  | linked htarget htype _ _ =>
    refine .inl ⟨?_, Dict.contains_of_get? htarget⟩
    rw [Definition.typeName?, Definition.get?_eq_none_of_not_contains htype]
    rfl

/-- The answer leads to the schema of a record that lists something. -/
def LeadsToRecord (catalog : Catalog) (p : Progress) (id : TypeId) (answer : Definition) : Prop :=
  ∃ node start kept absent, catalog.nodeOf? id = some node ∧ catalog.listed node ≠ [] ∧
    catalog.Lays p node start kept absent ∧ Leads p (catalog.listProperties start kept absent) answer

theorem LeadsToRecord.isObjectLike (h : catalog.LeadsToRecord p id answer)
    (hreadable : catalog.Readable) : answer.IsObjectLike := by
  obtain ⟨_, _, _, _, _, hlisted, hlays, hlead⟩ := h
  exact hlays.isObjectLike hreadable hlisted hlead

variable (catalog)

/-- The record that a member of a union or an intersection is. -/
def IsRecordMember (id : TypeId) : Prop :=
  ∃ node, catalog.nodeOf? id = some node ∧ catalog.IsRecord node ∧ catalog.listed node ≠ []

/-- The outline of the parameters that the type describes: of its own properties, or of those of the
members of an intersection. -/
def parameterOutline (node : TypeNode) : List (String × Bool) :=
  match node.kind with
  | .intersection members =>
    members.flatMap fun id => ((catalog.nodeOf? id).map catalog.outline).getD []
  | _ => catalog.outline node

/-- The type describes parameters: it is a record, or an intersection of several records that list
something. -/
inductive IsParameters (node : TypeNode) : Prop
  | record (h : catalog.IsRecord node)
  | records {members : List TypeId} (hkind : node.kind = .intersection members)
      (hmany : 2 ≤ members.length) (hmembers : ∀ id ∈ members, catalog.IsRecordMember id)

variable {catalog}

theorem IsRecordMember.leadsToRecord (h : catalog.IsRecordMember id) {request : Request}
    (htype : request.type = id) (hanswered : catalog.Answered (fun _ => True) p request answer)
    (hp : catalog.Stands p) (hreadable : catalog.Readable) (hunsettled : settled? request.owner = none) :
    catalog.LeadsToRecord p id answer := by
  obtain ⟨node, hnode, hrecord, hlisted⟩ := h
  obtain ⟨start, kept, absent, hlays, hlead⟩ :=
    hanswered.exists_lays hp hreadable hunsettled (htype ▸ hnode) hrecord
  exact ⟨node, start, kept, absent, hnode, hlisted, hlays, hlead⟩

theorem LeadsToRecord.branchParameters (h : catalog.LeadsToRecord p id answer)
    (hreadable : catalog.Readable) (location : ParameterLocation) :
    (OpenApi.branchParameters location (resolve p.context answer)).map Parameter.outline =
      (((catalog.nodeOf? id).map catalog.outline).getD []).map
        fun entry => (entry.1, location, entry.2) := by
  obtain ⟨node, start, kept, absent, hnode, _, hlays, hlead⟩ := h
  rw [hlead.resolve_eq (hlays.get?_eq_none hreadable (by decide) (by decide)), hnode]
  exact hlays.branchParameters hreadable location

/-- The branches of an intersection of records are the records. -/
theorem Defined.parameterBranches {request : Request} {subject : Subject} {raw : Bool}
    {members : List TypeId} (hdefined : catalog.Defined (catalog.Answered (fun _ => True) p)
      request.unionKeyword request.owner subject raw start schema)
    (hp : catalog.Stands p) (hreadable : catalog.Readable)
    (hstart : start.OnlyKeys fun key => catalog.IsCommented key ∨ key = "title")
    (hkind : subject.node.kind = .intersection members) (hmany : 2 ≤ members.length)
    (hmembers : ∀ id ∈ members, catalog.IsRecordMember id) :
    schema.get? "$ref" = none ∧ ∃ answers, List.Forall₂ (catalog.LeadsToRecord p) members answers ∧
      parameterBranches p.context schema = answers.map (resolve p.context) := by
  have hcomposed := hdefined.composed_of_not_contains (hreadable.not_contains hstart (by decide))
  obtain ⟨answers, hanswers, rfl⟩ := hcomposed.of_intersection hkind
  have hleads : List.Forall₂ (catalog.LeadsToRecord p) members answers :=
    List.forall₂_iff_zip.2 ⟨hanswers.length_eq, fun {id answer} hmem =>
      (hmembers id (List.of_mem_zip hmem).1).leadsToRecord rfl
        ((List.forall₂_iff_zip.1 hanswers).2 hmem) hp hreadable rfl⟩
  have hlike : ∀ answer ∈ answers, answer.IsObjectLike := fun answer hmem => by
    obtain ⟨id, _, hlead⟩ := exists_left_of_forall₂ hleads hmem
    exact hlead.isObjectLike hreadable
  rw [Factors.all_foldl hlike, Definition.intersect_of_length (hanswers.length_eq ▸ hmany)]
  refine ⟨?_, answers, hleads, ?_⟩
  · rw [Definition.get?_insert_of_ne (by decide)]
    exact Definition.get?_eq_none_of_not_contains (hreadable.not_contains hstart (by decide))
  · rw [OpenApi.parameterBranches, Definition.get?_insert, if_pos rfl]
    simp only [Option.bind_some, Json.items?, Definition.filterMap_ofJson?]

/-- **The parameters of a type** that describes some are those of its outline, whatever was built
for it. -/
theorem BuiltFor.parameters (h : catalog.BuiltFor p id schema) (hp : catalog.Stands p)
    (hreadable : catalog.Readable) (hnode : catalog.graph.lookupType id = .ok node)
    (hparameters : catalog.IsParameters node) (location : ParameterLocation) :
    schema.get? "$ref" = none ∧
      ((parameterBranches p.context schema).flatMap (OpenApi.branchParameters location)).map Parameter.outline =
        (catalog.parameterOutline node).map fun entry => (entry.1, location, entry.2) := by
  cases hparameters with
  | record hrecord =>
    obtain ⟨start, kept, absent, hlays, rfl⟩ := h.exists_lays hp hreadable hnode hrecord
    have hobject : catalog.parameterOutline node = catalog.outline node := by
      obtain ⟨own, anonymous, index, hkind, _⟩ := hrecord.object
      rw [parameterOutline, hkind]
    refine ⟨hlays.get?_eq_none hreadable (by decide) (by decide), ?_⟩
    rw [OpenApi.parameterBranches, hlays.get?_eq_none hreadable (by decide) (by decide), hobject,
      ← hlays.branchParameters hreadable location]
    simp
  | @records members hkind hmany hmembers =>
    obtain ⟨request, frame, start, _, hlookup, _, hkeys, hbuilt⟩ := h
    obtain rfl := Except.ok.inj (hlookup.symm.trans hnode)
    obtain ⟨href, answers, hleads, hbranches⟩ :=
      hbuilt.defined.parameterBranches hp hreadable hkeys hkind hmany hmembers
    refine ⟨href, ?_⟩
    rw [hbranches, parameterOutline, hkind]
    clear hbranches hmany hmembers hkind
    dsimp only
    induction hleads with
    | nil => rfl
    | cons hfirst _ ih =>
      simp only [List.map_cons, List.flatMap_cons, List.map_append] at ih ⊢
      rw [hfirst.branchParameters hreadable location, ih]

end Catalog

end TypeSchema
