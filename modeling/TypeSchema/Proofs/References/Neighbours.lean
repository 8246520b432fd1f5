import TypeSchema.Proofs.References.Bare
import TypeSchema.Proofs.References.Closure

/-!
# What stands beside a reference

Where a construction is ended by the one who took it up, its answer is made a reference again, and only
the descriptive keywords are kept beside it.  But not every reference is made there.  A name that is met
again while it is under construction is answered by a reference with all keywords of the property that
asks for it; and a union or an intersection that comes down to a single reference enters it into the
keywords of its own doc comments.

So what stands beside a reference is what doc comments say, whichever keyword that is: a property may
have `additionalProperties` there (`Catalog.exists_neighbour`).  **`Catalog.references_bare`** says that
nothing else does: no `type`, and none of the keywords that rules enter, but for the title of a property.
-/

set_option autoImplicit false

namespace TypeSchema

open Definition

namespace Catalog

variable {catalog : Catalog} {p : Progress} {request : Request} {frame : Frame}
  {owner : Option Owner} {definition : Definition} {annotations : Annotations}

/-- The keyword may stand beside a reference. -/
def StandsBeside (catalog : Catalog) (key : String) : Prop :=
  key ≠ "type" ∧ (key ∈ descriptive ∨ (key = "title" ∧ catalog.options.titles = true) ∨
    catalog.IsCommented key)

theorem not_standsBeside_type : ¬catalog.StandsBeside "type" := fun h => h.1 rfl

theorem standsBeside_of_mem_descriptive {key : String} (h : key ∈ descriptive) :
    catalog.StandsBeside key := by
  refine ⟨?_, .inl h⟩
  rintro rfl
  revert h
  decide

/-! ## What annotations give -/

/-- Where doc comments refer to nothing, the annotations of symbols do not either. -/
theorem RefersToNothing.description {symbols : List SymbolId} (hgiven : catalog.RefersToNothing)
    (h : catalog.description symbols = .ok annotations) :
    annotations.definition.RefersOnly fun _ => False :=
  description_induction (P := fun a => a.definition.RefersOnly fun _ => False) refersOnly_empty
    (fun _ _ _ _ h hsymbol hextend => hgiven.extend hsymbol h hextend) h

theorem RefersToNothing.describes {owner : Owner} (hgiven : catalog.RefersToNothing)
    (h : catalog.Describes owner) : owner.annotations.definition.RefersOnly fun _ => False := by
  obtain ⟨symbol, hsymbol, hread⟩ := h
  exact hgiven.extend hsymbol refersOnly_empty hread

theorem RefersToNothing.ownerKeywords (hgiven : catalog.RefersToNothing)
    (h : ∀ o, owner = some o → catalog.Describes o) :
    (ownerKeywords owner).RefersOnly fun _ => False := by
  cases owner with
  | none => exact refersOnly_empty
  | some o => exact hgiven.describes (h o rfl)

/-- An owner that settles nothing says nothing of the type. -/
theorem ownerKeywords_not_contains (h : settled? owner = none) :
    (ownerKeywords owner).contains "type" = false := by
  cases owner with
  | none => rfl
  | some o =>
    simp only [settled?] at h
    split at h
    · cases h
    · rename_i hnot
      rw [Bool.not_eq_true, Bool.or_eq_false_iff] at hnot
      exact hnot.2

theorem standsBeside_ownerKeywords (h : ∀ o, owner = some o → catalog.Describes o)
    (hunsettled : settled? owner = none) : (ownerKeywords owner).OnlyKeys catalog.StandsBeside :=
  ((OnlyKeys.of_not_contains (ownerKeywords_not_contains hunsettled)).and
    (onlyKeys_ownerKeywords h)).mono fun _ h => ⟨h.1, .inr (.inr h.2)⟩

/-! ## Answers -/

section Composition

variable {Part : Request → Definition → Prop} {keyword : UnionKeyword} {subject : Subject}
  {isRaw : Bool} {start : Definition}
  (hpart : ∀ answer, catalog.AnswersPart Part answer → answer.Bare catalog.StandsBeside)

include hpart

theorem bare_branches {members : List TypeId} {contributions : List Contribution} {nullable : Bool}
    (h : List.Forall₂ (catalog.Contributes Part) members contributions) :
    ∀ schema ∈ (contributions.foldl (Branches.enter nullable) {}).all,
      schema.Bare catalog.StandsBeside := by
  intro schema hmem
  rcases Branches.mem_all_foldl hmem with ⟨hmember, _⟩ | ⟨null, hnull, _, hname, rfl⟩ | ⟨values, rfl⟩
  · exact hpart _ (answersPart_of_contributes h hmember)
  · exact (hpart _ (answersPart_of_contributes h hnull)).makeNullable not_standsBeside_type hname
  · exact (Plain.isKept.extends (Branches.extends_valuesSchema values) Plain.isKept.empty).bare

theorem bare_factors {members : List TypeId} {schemas : List Definition}
    (h : List.Forall₂ (fun id schema => Part (catalog.member id) schema) members schemas) :
    ∀ schema ∈ (schemas.foldl Factors.enter {}).all, schema.Bare catalog.StandsBeside := by
  intro schema hmem
  rcases Factors.mem_all_foldl hmem with ⟨hmember, _⟩ | rfl
  · exact hpart _ (answersPart_of_forall₂ h schema hmember)
  · exact (Plain.isKept.insert Plain.isKept.empty
      (Factors.isOwnEntry_typesJson (Factors.undefined_not_mem_types schemas))).bare

/-- A property keeps its schema with a title and a default, which may stand beside a reference. -/
theorem bare_keeping {property : Property} {kept : KeptProperty}
    (h : catalog.Keeping Part property (some kept)) : kept.schema.Bare catalog.StandsBeside := by
  obtain ⟨answer, hanswer, _, heq⟩ := h.answersPart
  have hbare := hpart answer hanswer
  rw [heq]
  refine propertyDefinition_keeps (P := fun definition => definition.Bare catalog.StandsBeside) hbare
    (fun htitles => ?_) fun _ _ h hflat => ?_
  · exact hbare.insert ⟨by decide, .inr (.inl ⟨rfl, htitles⟩)⟩ (by decide)
      (Json.isFlat_string _).bare
  · exact h.insert (standsBeside_of_mem_descriptive (by decide)) (by decide) hflat.bare

/-- A rule that enters no schemas of members makes no reference of a schema that is none. -/
theorem Composed.plain (howner : ∀ o, owner = some o → catalog.Describes o)
    (hmembers : subject.node.kind.hasMembers = false)
    (hstart : start.Plain catalog.StandsBeside)
    (h : catalog.Composed Part keyword owner subject isRaw start definition) :
    definition.Plain catalog.StandsBeside := by
  refine h.extends.keeps hstart (fun _ key value h hentry => ?_) fun _ _ _ hother => ?_
  · cases hentry with
    | own hentry => exact h.insert hentry.ne_ref hentry.flat.bare
    | marker _ => exact h.insert (by decide) (Json.isFlat_string _).bare
    | branches hkind _ => simp [hkind, TypeKind.hasMembers] at hmembers
    | factors hkind _ => simp [hkind, TypeKind.hasMembers] at hmembers
    | subtypes _ hschemas =>
      exact h.insert (by decide) (bare_array fun schema hmem =>
        hpart schema (answersPart_of_forall₂ hschemas schema hmem))
    | items hitems =>
      exact h.insert (by decide) (bare_array fun item hmem =>
        hpart item (answersPart_of_forall₂ hitems item hmem))
    | item hitem => exact h.insert (by decide) (hpart _ (answersPart_member hitem))
    | properties hproperties =>
      refine h.insert (by decide) (bare_properties fun kept hmem => ?_)
      obtain ⟨property, hkeeping⟩ := keeping_of_forall₂ hproperties hmem
      exact bare_keeping hpart hkeeping
    | value hvalue => exact h.insert (by decide) (hpart _ ⟨_, hvalue, howner⟩)
  · rw [hother.hasMembers] at hmembers
    cases hmembers

/-- **Rules keep references bare**, where annotations refer to nothing and give no type. -/
theorem Composed.bare (howner : ∀ o, owner = some o → catalog.Describes o)
    (hstart : start.RefersOnly fun _ => False) (hkeys : start.OnlyKeys catalog.StandsBeside)
    (h : catalog.Composed Part keyword owner subject isRaw start definition) :
    definition.Bare catalog.StandsBeside := by
  have hplain : start.Plain catalog.StandsBeside := .of_refersOnly hstart
  cases hkind : subject.node.kind with
  | union members =>
    obtain ⟨contributions, hmembers, rfl⟩ := h.of_union hkind
    exact hplain.unite hkeys not_standsBeside_type (bare_branches hpart hmembers) _ _
  | intersection members =>
    obtain ⟨schemas, hmembers, rfl⟩ := h.of_intersection hkind
    exact hplain.intersect hkeys (bare_factors hpart hmembers)
  | _ => exact (h.plain hpart howner (by rw [hkind]; rfl) hplain).bare

/-- So does what is defined, where annotations may give a type instead of the rule. -/
theorem Defined.bare (howner : ∀ o, owner = some o → catalog.Describes o)
    (hstart : start.RefersOnly fun _ => False)
    (hkeys : start.OnlyKeys fun key => (key = "title" ∧ catalog.options.titles = true) ∨
      catalog.IsCommented key)
    (h : catalog.Defined Part keyword owner subject isRaw start definition) :
    definition.Bare catalog.StandsBeside := by
  cases h with
  | typed htyped => exact (Plain.of_refersOnly hstart).bare
  | composed huntyped hcomposed =>
    have hbeside := ((OnlyKeys.of_not_contains huntyped).and hkeys).mono
      fun _ h => (⟨h.1, .inr h.2⟩ : catalog.StandsBeside _)
    exact hcomposed.bare hpart howner hstart hbeside

end Composition

theorem Defined.bare_merge {Part : Request → Definition → Prop}
    (hpart : ∀ part answer, Part part answer → (∀ o, part.owner = some o → catalog.Describes o) →
      answer.Bare catalog.StandsBeside)
    (hgiven : catalog.RefersToNothing) (howner : ∀ o, request.owner = some o → catalog.Describes o)
    (hannotations : catalog.description frame.subject.describing = .ok annotations)
    (h : catalog.Defined Part request.unionKeyword request.owner frame.subject frame.plan.isRaw
      (annotations.definition.merge (ownerKeywords request.owner)) definition) :
    definition.Bare catalog.StandsBeside :=
  h.bare (fun answer ⟨part, hanswer, hdescribed⟩ => hpart part answer hanswer hdescribed) howner
    ((hgiven.description hannotations).merge (hgiven.ownerKeywords howner))
    (((onlyKeys_description hannotations).merge (onlyKeys_ownerKeywords howner)).mono fun _ => .inr)

/-- The descriptive keywords may stand beside a reference. -/
theorem bare_refAnnotations {path : String} (h : definition.Bare catalog.StandsBeside) :
    ((reference path).merge definition.refAnnotations).Bare catalog.StandsBeside := by
  have hkeys : definition.refAnnotations.OnlyKeys catalog.StandsBeside :=
    OnlyKeys.refAnnotations.mono fun _ => standsBeside_of_mem_descriptive
  exact bare_reference_merge hkeys fun entry hmem => h.values entry (List.mem_filter.1 hmem).1

/-- Beside a reference stand keywords of its owner. -/
theorem Beside.bare {name : String} {beside : Definition}
    (h : Beside (p.context.refTo name) (ownerKeywords request.owner) frame beside)
    (hgiven : catalog.RefersToNothing) (howner : ∀ o, request.owner = some o → catalog.Describes o)
    (hunsettled : settled? request.owner = none) :
    ((p.context.refTo name).merge beside).Bare catalog.StandsBeside := by
  have hkeys := standsBeside_ownerKeywords howner hunsettled
  have hvalues := (Plain.of_refersOnly (P := catalog.StandsBeside)
    (hgiven.ownerKeywords howner)).values
  have hall : ((p.context.refTo name).merge (ownerKeywords request.owner)).Bare
      catalog.StandsBeside := bare_reference_merge hkeys hvalues
  cases h with
  | all htoken => exact hall
  | descriptive htoken =>
    exact bare_refAnnotations hall

/-- **Answers keep references bare**, where neither the hook nor what is given makes any. -/
theorem Yields.bare (h : catalog.Yields p request definition) (hhook : catalog.hook = id)
    (hgiven : catalog.RefersToNothing) (howner : ∀ o, request.owner = some o → catalog.Describes o) :
    definition.Bare catalog.StandsBeside := by
  induction h with
  | @settled request definition hsettled =>
    obtain ⟨o, hsome, rfl, _⟩ := settled?_eq_some hsettled
    exact (Plain.of_refersOnly (hgiven.describes (howner o hsome))).bare
  | inline _ _ _ hannotations hschema ih =>
    rw [hhook]
    exact hschema.bare_merge ih hgiven howner hannotations
  | linked _ _ _ hannotations hschema _ ih =>
    rw [hhook]
    have hbare := hschema.bare_merge ih hgiven howner hannotations
    exact bare_refAnnotations hbare
  | referred hframe _ hbeside _ =>
    rw [hhook]
    exact hbeside.bare hgiven howner hframe.unsettled

theorem Completes.bare (h : catalog.Completes p frame definition) (hhook : catalog.hook = id)
    (hgiven : catalog.RefersToNothing) : definition.Bare catalog.StandsBeside := by
  obtain ⟨request, annotations, hdescribed, _, hannotations, hdefined⟩ := h.derivation
  have howner : ∀ o, request.owner = some o → catalog.Describes o := fun o ho => (hdescribed o ho).1
  have hrefers := hgiven.description hannotations
  have hkeys := (onlyKeys_description hannotations).mono (Q := fun key =>
    (key = "title" ∧ catalog.options.titles = true) ∨ catalog.IsCommented key) fun _ => .inr
  refine hdefined.bare (fun _ ⟨_, hpart, howner⟩ => hpart.bare hhook hgiven howner) howner ?_ ?_
  · split
    · exact hrefers.insert (.of_ne (by decide) (Json.refersOnly_string _))
    · exact hrefers
  · split
    · rename_i htitles
      exact hkeys.insert (.inl ⟨rfl, htitles⟩)
    · exact hkeys

/-! ## Documents -/

/-- A document of definitions is bare if its definitions are. -/
theorem bare_schemasJson {P : String → Prop} {definitions : Dict Definition}
    (h : ∀ entry ∈ definitions, entry.2.Bare P) : (schemasJson definitions).Bare P := by
  refine Json.bare_object.2 ⟨?_, List.forall_mem_singleton.2 (Json.bare_object.2 ⟨?_, ?_⟩)⟩
  · rintro ⟨target, hmem⟩
    cases congrArg Prod.snd (List.mem_singleton.1 hmem)
  · rintro ⟨target, hmem⟩
    obtain ⟨entry, _, heq⟩ := List.mem_map.1 hmem
    cases congrArg Prod.snd heq
  · intro entry hmem
    obtain ⟨source, hsource, rfl⟩ := List.mem_map.1 hmem
    exact h source hsource

theorem bare_of_schemas (hhook : catalog.hook = id) (hgiven : catalog.RefersToNothing)
    {patterns : List NamePattern} {definitions : Dict Definition}
    (hresult : (catalog.schemas patterns).result = .ok definitions) :
    (schemasJson definitions).Bare catalog.StandsBeside :=
  bare_schemasJson (schemas_induction (P := fun definition => definition.Bare catalog.StandsBeside)
    (fun entry hmem => (Plain.of_refersOnly (hgiven.overrides entry hmem)).bare)
    (Plain.of_refersOnly refersOnly_empty).bare (fun _ _ _ h => h.bare hhook hgiven)
    (fun _ _ _ h => h.bare hhook hgiven nofun) hresult)

/-- **Only doc comments speak beside a reference.**  No reference in a document has a `type`, or another
keyword than the descriptive ones, those that doc comments give, and the title of a property.  So where
doc comments give descriptive keywords only, and there are no titles, references have no others. -/
theorem references_bare (catalog : Catalog) (patterns : List NamePattern)
    (hhook : catalog.hook = id) (hgiven : catalog.RefersToNothing) (definitions : Dict Definition)
    (hresult : (catalog.schemas patterns).result = .ok definitions) (fields : Dict Json)
    (hobject : (schemasJson definitions).HasObject fields) (hreference : IsReference fields) :
    (∀ entry ∈ fields, entry.1 = "$ref" ∨ catalog.StandsBeside entry.1) ∧
      (catalog.options.titles = false → (∀ key, catalog.IsCommented key → key ∈ descriptive) →
        ∀ entry ∈ fields, entry.1 = "$ref" ∨ entry.1 ∈ descriptive) := by
  have hall := bare_of_schemas hhook hgiven hresult fields hobject hreference
  refine ⟨hall, fun htitles hcommented entry hmem => (hall entry hmem).imp_right ?_⟩
  rintro ⟨_, hdescriptive | ⟨_, htitled⟩ | hkey⟩
  · exact hdescriptive
  · rw [htitles] at htitled
    cases htitled
  · exact hcommented _ hkey

/-- A catalog of one declaration that refers to itself by a property with a tag. -/
def taggedLink : Catalog where
  graph :=
    { types := #[{ kind := .object [{ symbol := ⟨1⟩, type := ⟨0⟩, isOptional := true }] false none
                   symbol := some ⟨0⟩ }]
      symbols := #[{ name := "Node" }, { name := "next", tags := [⟨"additionalProperties", none⟩] }]
      declarations := [("Node", ⟨0⟩)] }
  declared := [("Node", ⟨0⟩)]

/-- The schema of the property. -/
def taggedLinkFields? (definitions : Dict Definition) : Option (Dict Json) :=
  (((((schemasJson definitions).get? "definitions").bind (·.get? "Node")).bind
    (·.get? "properties")).bind (·.get? "next")).bind Json.fields?

theorem hasObject_of_taggedLinkFields? {definitions : Dict Definition} {fields : Dict Json}
    (h : taggedLinkFields? definitions = some fields) :
    (schemasJson definitions).HasObject fields := by
  obtain ⟨next, h, hfields⟩ := Option.bind_eq_some_iff.1 h
  obtain ⟨properties, h, hnext⟩ := Option.bind_eq_some_iff.1 h
  obtain ⟨node, h, hproperties⟩ := Option.bind_eq_some_iff.1 h
  obtain ⟨all, hall, hnode⟩ := Option.bind_eq_some_iff.1 h
  have hobject : next.HasObject fields := Json.eq_object_of_fields? hfields ▸ .here
  exact (((hobject.of_get? hnext).of_get? hproperties).of_get? hnode).of_get? hall

/-- The property is a reference, with what its doc comment says beside it. -/
theorem exists_taggedLink : ∃ definitions fields,
    (taggedLink.schemas [.exact "Node"]).result = .ok definitions ∧
      (schemasJson definitions).HasObject fields ∧ IsReference fields ∧
      Definition.contains fields "additionalProperties" = true := by
  have hlink : ((taggedLink.schemas [.exact "Node"]).result.toOption.bind
      taggedLinkFields?).any (fun fields =>
        Definition.refTarget? fields == some "#/definitions/Node" &&
          Definition.contains fields "additionalProperties") = true := by decide +kernel
  cases hresult : (taggedLink.schemas [.exact "Node"]).result with
  | error error =>
    rw [hresult] at hlink
    cases hlink
  | ok definitions =>
    rw [hresult] at hlink
    obtain ⟨fields, hfields, hboth⟩ := (Option.any_eq_true _ _).1 hlink
    obtain ⟨htarget, hcontains⟩ := Bool.and_eq_true_iff.1 hboth
    exact ⟨definitions, fields, rfl, hasObject_of_taggedLinkFields? hfields,
      isReference_of_refTarget? (eq_of_beq htarget), hcontains⟩

theorem refersToNothing_taggedLink : taggedLink.RefersToNothing where
  overrides := List.forall_mem_nil _
  tags symbol hsymbol tag htag annotations hadd target := by
    have hsymbols : symbol = { name := "Node" } ∨
        symbol = { name := "next", tags := [⟨"additionalProperties", none⟩] } := by
      simpa [taggedLink] using hsymbol
    rcases hsymbols with rfl | rfl
    · cases htag
    · obtain rfl := List.mem_singleton.1 htag
      obtain rfl := Except.ok.inj hadd
      exact (refersOnly_empty.insert (P := fun _ => False)
        (.of_ne (by decide) (Json.refersOnly_bool true))) target

/-- Beside the reference stands what the doc comment of the property says. -/
theorem references_bare_taggedLink : ∃ definitions fields,
    (taggedLink.schemas [.exact "Node"]).result = .ok definitions ∧
      (schemasJson definitions).HasObject fields ∧ IsReference fields ∧
      ∀ entry ∈ fields, entry.1 = "$ref" ∨ taggedLink.StandsBeside entry.1 := by
  obtain ⟨definitions, fields, hresult, hobject, hreference, _⟩ := exists_taggedLink
  exact ⟨definitions, fields, hresult, hobject, hreference,
    (references_bare taggedLink _ rfl refersToNothing_taggedLink _ hresult _ hobject
      hreference).1⟩

/-- Another keyword than a descriptive one may stand beside a reference, although there are no titles,
nothing is given, and no tag is for references. -/
theorem exists_neighbour :
    taggedLink.graph.validate = .ok () ∧
    ofGraph taggedLink.graph taggedLink.options Modules.none = .ok taggedLink ∧
    taggedLink.options.titles = false ∧ taggedLink.overrides = [] ∧
    taggedLink.hook = id ∧
    (∀ symbol ∈ taggedLink.graph.symbols.toList, ∀ tag ∈ symbol.tags,
      tag.name ≠ "$ref" ∧ tag.name ≠ "ref") ∧
    ∃ definitions fields, (taggedLink.schemas [.exact "Node"]).result = .ok definitions ∧
      (schemasJson definitions).HasObject fields ∧ IsReference fields ∧
      ∃ entry ∈ fields, entry.1 ≠ "$ref" ∧ entry.1 ∉ descriptive := by
  refine ⟨rfl, rfl, rfl, rfl, rfl, by decide, ?_⟩
  obtain ⟨definitions, fields, hresult, hobject, hreference, hcontains⟩ := exists_taggedLink
  obtain ⟨entry, hentry, hkey⟩ := List.mem_map.1 (Dict.contains_iff_mem_keys.1 hcontains)
  refine ⟨definitions, fields, hresult, hobject, hreference, entry, hentry, ?_, ?_⟩
  · rw [hkey]
    decide
  · rw [hkey]
    decide

end Catalog

end TypeSchema
