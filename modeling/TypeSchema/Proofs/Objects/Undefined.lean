import TypeSchema.Proofs.Names.Roots
import TypeSchema.Proofs.Objects.Places
import TypeSchema.Proofs.References.Closure

/-!
# The marker of `undefined`

No JSON value is `undefined`.  The types `undefined` and `void` have a schema all the same,
`\x7b"type": "undefined"\x7d`, a marker for the rules: a property whose schema it is has no schema, and a
member of a union or of an intersection leaves no branch.

The rules recognize the marker by the `type` of the schema that is answered, and an answer may be a
reference.  A type `undefined` that is known by an alias or a symbol of its own is promoted like any
other; then the marker is a definition of the document, and whatever should have been left out refers
to it (`Catalog.exists_marker`).  **`Catalog.isMarker_iff`** says that markers escape in no other way.
-/

set_option autoImplicit false

namespace TypeSchema

open Definition

/-! ## The type of a schema -/

namespace Definition

variable {definition other : Definition} {key : String} {value : Json}

theorem typeName?_insert_of_ne (hkey : key ≠ "type") :
    (definition.insert key value).typeName? = definition.typeName? := by
  rw [typeName?, Definition.get?, Definition.insert, Dict.get?_insert, if_neg hkey]
  rfl

@[simp] theorem typeName?_insert_type (value : Json) :
    (definition.insert "type" value).typeName? = value.text? := by
  rw [typeName?, Definition.get?, Definition.insert, Dict.get?_insert, if_pos rfl]
  rfl

/-- The schema is not marked as `undefined`. -/
def Unmarked (definition : Definition) : Prop :=
  ("type", .string "undefined") ∉ definition

theorem Unmarked.typeName?_ne (h : definition.Unmarked) : definition.typeName? ≠ some "undefined" :=
  fun hname => h (Dict.mem_of_get? (get?_of_typeName? hname))

namespace Unmarked

theorem of_not_contains (h : definition.contains "type" = false) : definition.Unmarked := by
  intro hmem
  have hcontains := Dict.contains_iff_mem_keys.2 (List.mem_map.2 ⟨_, hmem, rfl⟩)
  rw [Definition.contains] at h
  rw [h] at hcontains
  cases hcontains

theorem insert (h : definition.Unmarked) (hentry : key ≠ "type" ∨ value.text? ≠ some "undefined") :
    (definition.insert key value).Unmarked := by
  intro hmem
  rcases Dict.mem_of_mem_insert hmem with heq | hold
  · cases heq
    exact hentry.elim (absurd rfl) (absurd rfl)
  · exact h hold

theorem merge (h : definition.Unmarked) (hother : other.Unmarked) :
    (definition.merge other).Unmarked := fun hmem =>
  (Dict.mem_of_mem_extend hmem).elim h hother

theorem reference (path : String) : (reference path).Unmarked := by
  intro hmem
  exact absurd (congrArg Prod.fst (List.mem_singleton.1 hmem)) (by simp)

theorem isKept : IsKept Unmarked where
  empty := .of_not_contains rfl
  insert {_ key _} h hentry := by
    by_cases hkey : key = "type"
    · exact h.insert (.inr (hentry.unmarked hkey))
    · exact h.insert (.inl hkey)

end Unmarked

/-- What doc comments without tags give, and titles: texts that say nothing of the type. -/
def IsDescriptive (definition : Definition) : Prop :=
  definition.OnlyKeys fun key => key = "description" ∨ key = "title"

namespace IsDescriptive

theorem not_contains (h : definition.IsDescriptive) : definition.contains "type" = false :=
  OnlyKeys.not_contains h (by decide)

theorem unmarked (h : definition.IsDescriptive) : definition.Unmarked :=
  .of_not_contains h.not_contains

theorem follows {rule : SchemaPlace → Definition → Prop} (h : definition.IsDescriptive) :
    definition.Follows rule := by
  refine follows_of_keys fun entry hmem => ?_
  rcases h entry hmem with hkey | hkey
  · rw [hkey]
    decide
  · rw [hkey]
    decide

end IsDescriptive

end Definition

namespace Catalog

variable {catalog : Catalog} {p : Progress} {request : Request} {frame : Frame} {subject : Subject}
  {owner : Option Owner} {keyword : UnionKeyword} {isRaw : Bool} {start definition : Definition}
  {annotations : Annotations} {Part : Request → Definition → Prop}

/-! ## Doc comments without tags -/

/-- No doc comment has tags. -/
def IsUntagged (catalog : Catalog) : Prop :=
  ∀ symbol ∈ catalog.graph.symbols.toList, symbol.tags = []

namespace IsUntagged

theorem refersToNothing (h : catalog.IsUntagged) (hoverrides : catalog.overrides = []) :
    catalog.RefersToNothing where
  overrides := by
    rw [hoverrides]
    exact List.forall_mem_nil _
  tags symbol hsymbol := by
    rw [h symbol hsymbol]
    exact List.forall_mem_nil _

theorem descriptive (h : catalog.IsUntagged) (hkeys : definition.OnlyKeys catalog.IsCommented) :
    definition.IsDescriptive := by
  refine hkeys.mono fun key hkey => ?_
  rcases hkey with hdescription | ⟨symbol, hsymbol, tag, htag, _⟩
  · exact .inl hdescription
  · rw [h symbol hsymbol] at htag
    cases htag

theorem not_isCommented_type (h : catalog.IsUntagged) : ¬catalog.IsCommented "type" := by
  rintro (heq | ⟨symbol, hsymbol, tag, htag, _⟩)
  · simp at heq
  · rw [h symbol hsymbol] at htag
    cases htag

/-- Nothing is settled by a doc comment. -/
theorem unsettled (h : catalog.IsUntagged) (howner : ∀ o, owner = some o → catalog.Describes o) :
    settled? owner = none := by
  cases hsettled : settled? owner with
  | none => rfl
  | some definition =>
    obtain ⟨o, hsome, rfl, hchosen⟩ := settled?_eq_some hsettled
    rcases hchosen with hignored | htyped
    · obtain ⟨symbol, hsymbol, tag, htag, _⟩ := (howner o hsome).ignores hignored
      rw [h symbol hsymbol] at htag
      cases htag
    · rw [(h.descriptive (howner o hsome).onlyKeys).not_contains] at htyped
      cases htyped

end IsUntagged

/-! ## Which answers are marked -/

/-- A composed schema is marked only if the type is `undefined`. -/
theorem Composed.unmarked (hpart : ∀ answer, catalog.AnswersPart Part answer →
      answer.typeName? = some "undefined" ∨ answer.Unmarked)
    (hkind : subject.node.kind.isUndefined = false) (hstart : start.Unmarked)
    (h : catalog.Composed Part keyword owner subject isRaw start definition) :
    definition.Unmarked := by
  refine h.extends.keeps hstart (fun _ key value h hentry => ?_) fun _ _ h hother =>
    h.merge (hother.keeps Unmarked.isKept fun answer hanswer hname =>
      (hpart answer hanswer).resolve_left hname)
  cases hentry with
  | own hentry => exact Unmarked.isKept.insert h hentry
  | marker hmarker =>
    rw [hkind] at hmarker
    cases hmarker
  | branches _ _ =>
    refine h.insert (.inl ?_)
    cases keyword <;> decide
  | _ => exact h.insert (.inl (by decide))

/-- The type `undefined` is described by the marker. -/
theorem Composed.typeName?_eq (hkind : subject.node.kind.isUndefined = true)
    (h : catalog.Composed Part keyword owner subject isRaw start definition) :
    definition.typeName? = some "undefined" := by
  have hother : ∀ {kind : TypeKind}, subject.node.kind = kind → kind.isUndefined = false → False := by
    intro kind heq hfalse
    rw [heq, hfalse] at hkind
    cases hkind
  cases h with
  | keyword hname =>
    generalize subject.node.kind = kind at hkind hname
    cases hname with
    | undefined => exact typeName?_insert_type _
    | void => exact typeName?_insert_type _
    | _ => cases hkind
  | union hkind _ => exact (hother hkind rfl).elim
  | intersection hkind _ => exact (hother hkind rfl).elim
  | tuple hkind _ => exact (hother hkind rfl).elim
  | nullable hkind _ => exact (hother hkind rfl).elim
  | anything hkind => exact hkind.elim (fun h => (hother h rfl).elim) fun h => (hother h rfl).elim
  | anyObject hkind => exact (hother hkind rfl).elim
  | date hkind _ _ _ => exact (hother hkind rfl).elim
  | enum hkind => exact (hother hkind rfl).elim
  | emptyObject _ hkind => exact (hother hkind rfl).elim
  | dictionary _ hkind _ => exact (hother hkind rfl).elim
  | subtypes _ hkind _ _ _ _ _ _ => exact (hother hkind rfl).elim
  | object _ hkind _ => exact (hother hkind rfl).elim
  | literal hliteral =>
    cases hnode : subject.node.kind <;> simp_all [TypeKind.literal?, TypeKind.isUndefined]
  | listed hleft _ _ =>
    cases hnode : subject.node.kind <;> simp_all [TypeKind.isLeftOver, TypeKind.isUndefined]
  | array hleft _ _ =>
    cases hnode : subject.node.kind <;> simp_all [TypeKind.isLeftOver, TypeKind.isUndefined]

theorem Defined.composed_of_not_contains (hstart : start.contains "type" = false)
    (h : catalog.Defined Part keyword owner subject isRaw start definition) :
    catalog.Composed Part keyword owner subject isRaw start definition := by
  cases h with
  | typed htyped =>
    rw [hstart] at htyped
    cases htyped
  | composed _ hcomposed => exact hcomposed

/-- The answer is the schema of a type `undefined`, or it is not marked. -/
def MarkedOnlyIf (catalog : Catalog) (request : Request) (answer : Definition) : Prop :=
  (answer.typeName? = some "undefined" ∧ ∃ subject, catalog.graph.unwrap
    (catalog.graph.types.size + 1) request.type request.named = .ok subject ∧
      subject.node.kind.isUndefined = true) ∨ answer.Unmarked

theorem refAnnotations_unmarked : definition.refAnnotations.Unmarked :=
  .of_not_contains (OnlyKeys.refAnnotations.not_contains (by decide))

/-- Beside a reference nothing is said of a type. -/
theorem Beside.unmarked {reference beside : Definition} (htype : ¬catalog.IsCommented "type")
    (howner : ∀ o, owner = some o → catalog.Describes o)
    (h : Beside reference (ownerKeywords owner) frame beside) : beside.Unmarked := by
  cases h with
  | all _ => exact .of_not_contains ((onlyKeys_ownerKeywords howner).not_contains htype)
  | descriptive _ => exact refAnnotations_unmarked

/-- **What is answered with the marker** is the type `undefined`, answered without a reference. -/
theorem Yields.markedOnlyIf (h : catalog.Yields p request definition) (hhook : catalog.hook = id)
    (htype : ¬catalog.IsCommented "type")
    (howner : ∀ o, request.owner = some o → catalog.Describes o) :
    catalog.MarkedOnlyIf request definition := by
  induction h with
  | settled hsettled =>
    obtain ⟨o, hsome, rfl, _⟩ := settled?_eq_some hsettled
    exact .inr (.of_not_contains ((howner o hsome).onlyKeys.not_contains htype))
  | @inline request frame annotations schema Part _ hframe _ hannotations hschema ih =>
    rw [hhook]
    have hstart := ((onlyKeys_description hannotations).merge
      (onlyKeys_ownerKeywords howner)).not_contains htype
    have hcomposed := hschema.composed_of_not_contains hstart
    cases hkind : frame.subject.node.kind.isUndefined with
    | true => exact .inl ⟨hcomposed.typeName?_eq hkind, frame.subject, hframe.subject, hkind⟩
    | false =>
      exact .inr (hcomposed.unmarked (fun answer ⟨part, hanswer, hpart⟩ =>
        (ih part answer hanswer hpart).imp_left And.left) hkind (.of_not_contains hstart))
  | linked _ _ _ _ _ _ _ =>
    rw [hhook]
    exact .inr ((Unmarked.reference _).merge refAnnotations_unmarked)
  | referred _ _ hbeside _ =>
    rw [hhook]
    exact .inr ((Unmarked.reference _).merge (hbeside.unmarked htype howner))

/-! ## What stands in answers -/

/-- A declaration that extends an abstract class is the type `undefined`. -/
def HasUndefinedSubtype (catalog : Catalog) : Prop :=
  ∃ printed names name id subject, Dict.get? catalog.subtypes printed = some names ∧ name ∈ names ∧
    Dict.get? catalog.declared name = some id ∧
    catalog.graph.unwrap (catalog.graph.types.size + 1) id none = .ok subject ∧
    subject.node.kind.isUndefined = true

/-- The marker stands neither as the schema of a property nor as a branch, but for the choice of those
that extend an abstract class. -/
def Admits (catalog : Catalog) : SchemaPlace → Definition → Prop
  | .property _, schema => schema.typeName? ≠ some "undefined"
  | .branch key, schema =>
    schema.typeName? = some "undefined" → key = "oneOf" ∧ catalog.HasUndefinedSubtype
  | .item, _ => True
  | .value, _ => True

theorem typeName?_propertyDefinition (property : Property) (name : String) :
    (catalog.propertyDefinition property name definition).typeName? = definition.typeName? :=
  propertyDefinition_keeps (P := fun done => done.typeName? = definition.typeName?) rfl
    (fun _ => typeName?_insert_of_ne (by decide))
    fun _ _ hsame _ => (typeName?_insert_of_ne (by decide)).trans hsame

section Places

variable (hanswers : ∀ part answer, Part part answer →
    (∀ o, part.owner = some o → catalog.Describes o) →
      catalog.MarkedOnlyIf part answer ∧ answer.Follows catalog.Admits)

include hanswers

/-- A subtype that is answered with the marker is the type `undefined`. -/
theorem admits_subtypes {printed : String} {names : List String} {schemas : List Definition}
    (hnames : Dict.get? catalog.subtypes printed = some names)
    (h : List.Forall₂ (fun id schema => Part (catalog.member id) schema)
      (names.filterMap (Dict.get? catalog.declared)) schemas) :
    ∀ schema ∈ schemas, catalog.Admits (.branch "oneOf") schema := by
  intro schema hmem hname
  obtain ⟨id, hid, hanswer⟩ := exists_left_of_forall₂ h hmem
  obtain ⟨name, hmem, hdeclared⟩ := List.mem_filterMap.1 hid
  rcases (hanswers _ _ hanswer nofun).1 with ⟨_, subject, hsubject, hkind⟩ | hunmarked
  · exact ⟨rfl, printed, names, name, id, subject, hnames, hmem, hdeclared, hsubject, hkind⟩
  · exact absurd hname hunmarked.typeName?_ne

/-- **Rules admit no marker** where there is no place for it. -/
theorem allows_admits : catalog.Allows catalog.Admits Part owner where
  answer part answer hanswer howner := (hanswers part answer hanswer howner).2
  item _ _ _ := trivial
  value _ _ _ _ := trivial
  property property kept hkeeping := by
    cases hkeeping with
    | @kept annotations symbol schema _ _ _ _ _ hdefined =>
      show (catalog.propertyDefinition property symbol.name schema).typeName? ≠ _
      rwa [typeName?_propertyDefinition]
  branch keyword members contributions h schema hmem hname :=
    absurd hname (branches_keep Unmarked.isKept (fun _ ⟨part, hanswer, howner⟩ hdefined =>
      (hanswers part _ hanswer howner).1.resolve_left fun h => hdefined h.1) h schema hmem).typeName?_ne
  factor members schemas h schema hmem hname :=
    absurd hname (factors_keep Unmarked.isKept (fun _ ⟨part, hanswer, howner⟩ hdefined =>
      (hanswers part _ hanswer howner).1.resolve_left fun h => hdefined h.1) h schema hmem).typeName?_ne
  subtype printed names schemas := admits_subtypes hanswers

end Places

/-- So what is defined admits none. -/
theorem Defined.follows (hanswers : ∀ part answer, Part part answer →
      (∀ o, part.owner = some o → catalog.Describes o) →
        catalog.MarkedOnlyIf part answer ∧ answer.Follows catalog.Admits)
    (howner : ∀ o, owner = some o → catalog.Describes o) (hstart : start.IsDescriptive)
    (h : catalog.Defined Part keyword owner subject isRaw start definition) :
    definition.Follows catalog.Admits :=
  (h.composed_of_not_contains hstart.not_contains).follows (allows_admits hanswers) howner
    hstart.follows

/-- **Answers admit no marker** where there is no place for it. -/
theorem Yields.follows (h : catalog.Yields p request definition) (hhook : catalog.hook = id)
    (huntagged : catalog.IsUntagged)
    (howner : ∀ o, request.owner = some o → catalog.Describes o) :
    definition.Follows catalog.Admits := by
  induction h with
  | settled hsettled =>
    rw [huntagged.unsettled howner] at hsettled
    cases hsettled
  | inline hpart _ _ hannotations hschema ih =>
    rw [hhook]
    have hkeys := (onlyKeys_description hannotations).merge (onlyKeys_ownerKeywords howner)
    exact hschema.follows (fun part answer hanswer hdescribed =>
      ⟨(hpart part answer hanswer).markedOnlyIf hhook huntagged.not_isCommented_type hdescribed,
        ih part answer hanswer hdescribed⟩) howner (huntagged.descriptive hkeys)
  | linked hpart _ _ hannotations hschema _ ih =>
    rw [hhook]
    have hkeys := (onlyKeys_description hannotations).merge (onlyKeys_ownerKeywords howner)
    have hfollows := hschema.follows (fun part answer hanswer hdescribed =>
      ⟨(hpart part answer hanswer).markedOnlyIf hhook huntagged.not_isCommented_type hdescribed,
        ih part answer hanswer hdescribed⟩) howner (huntagged.descriptive hkeys)
    exact follows_reference_merge hfollows.refAnnotations
  | referred _ _ hbeside _ =>
    rw [hhook]
    have hkeywords : (ownerKeywords _).Follows catalog.Admits :=
      (huntagged.descriptive (onlyKeys_ownerKeywords howner)).follows
    refine follows_reference_merge ?_
    cases hbeside with
    | all _ => exact hkeywords
    | descriptive _ => exact (follows_reference_merge hkeywords).refAnnotations

/-! ## Completed definitions -/

/-- A construction that is to be a reference is guarded, unless it is that of a union. -/
theorem Frames.isGuarded_of_isUndefined (h : catalog.Frames p request frame)
    (hreference : frame.plan.isReference = true)
    (hkind : frame.subject.node.kind.isUndefined = true) : frame.isGuarded = true := by
  by_contra hguarded
  have hliterals := (h.reference (by simpa using hguarded) hreference).1
  rw [TypeGraph.isStringUnion] at hliterals
  split at hliterals
  · rename_i members heq
    rw [heq] at hkind
    cases hkind
  · cases hliterals

/-- **A completed definition** is the marker if and only if its type is `undefined`, and it admits no
marker where there is no place for it. -/
theorem Completes.undefined_iff (h : catalog.Completes p frame definition) (hhook : catalog.hook = id)
    (huntagged : catalog.IsUntagged) :
    (definition.typeName? = some "undefined" ↔ frame.subject.node.kind.isUndefined = true) ∧
      (frame.subject.node.kind.isUndefined = true → frame.isGuarded = true) ∧
      definition.Follows catalog.Admits := by
  obtain ⟨request, annotations, hdescribed, hframe, hannotations, hdefined⟩ := h.derivation
  have howner : ∀ o, request.owner = some o → catalog.Describes o := fun o ho => (hdescribed o ho).1
  have hstart : (if catalog.options.titles then
      annotations.definition.insert "title" (.string frame.plan.name)
      else annotations.definition).IsDescriptive := by
    have hkeys := huntagged.descriptive (onlyKeys_description hannotations)
    split
    · exact OnlyKeys.insert hkeys (.inr rfl)
    · exact hkeys
  have hanswers : ∀ part answer, catalog.Yields p part answer →
      (∀ o, part.owner = some o → catalog.Describes o) →
        catalog.MarkedOnlyIf part answer ∧ answer.Follows catalog.Admits := fun _ _ hanswer hpart =>
    ⟨hanswer.markedOnlyIf hhook huntagged.not_isCommented_type hpart,
      hanswer.follows hhook huntagged hpart⟩
  have hcomposed := hdefined.composed_of_not_contains hstart.not_contains
  refine ⟨⟨fun hname => ?_, hcomposed.typeName?_eq⟩, hframe.isGuarded_of_isUndefined h.reference,
    hdefined.follows hanswers howner hstart⟩
  by_contra hkind
  refine absurd hname (hcomposed.unmarked (fun answer ⟨part, hanswer, hpart⟩ =>
    (hanswers part answer hanswer hpart).1.imp_left And.left) ?_ hstart.unmarked).typeName?_ne
  simpa using hkind

/-! ## Documents -/

/-- The schema is the marker, or a reference to a definition that is. -/
def IsMarker (definitions : Dict Definition) (schema : Definition) : Prop :=
  schema.typeName? = some "undefined" ∨ ∃ name definition,
    schema.refTarget? = some ("#/definitions/" ++ name) ∧
    Dict.get? definitions name = some definition ∧ definition.typeName? = some "undefined"

/-- The schema refers to a definition that was completed for a guarded type `undefined`: one with an
alias or a symbol of its own. -/
def RefersToUndefined (journal : List Event) (schema : Definition) : Prop :=
  ∃ frame definition, .completed frame definition ∈ journal ∧
    schema.refTarget? = some ("#/definitions/" ++ frame.plan.name) ∧
    frame.subject.node.kind.isUndefined = true ∧ frame.isGuarded = true

theorem refers_of_refTarget? {schema : Definition} {target : String}
    (h : schema.refTarget? = some target) : schema.toJson.Refers target :=
  .here (Dict.mem_of_get? (get?_of_refTarget? h))

/-- What stands in a definition of the document refers to what the document refers to. -/
theorem refers_schemasJson {definitions : Dict Definition} {entry : String × Definition}
    {target : String} (hmem : entry ∈ definitions) (h : entry.2.toJson.Refers target) :
    (schemasJson definitions).Refers target :=
  .field (List.mem_singleton.2 rfl)
    (.field (List.mem_map.2 ⟨entry, hmem, rfl⟩ : (entry.1, entry.2.toJson) ∈ _) h)

/-- Every definition of a document admits no marker, and what was completed is the marker if and only if
its type is `undefined`; under one name one definition was completed. -/
theorem schemas_follow (hoverrides : catalog.overrides = []) (hhook : catalog.hook = id)
    (huntagged : catalog.IsUntagged) {patterns : List NamePattern} {definitions : Dict Definition}
    (hresult : (catalog.schemas patterns).result = .ok definitions) :
    (∀ entry ∈ definitions, entry.2.Follows catalog.Admits) ∧
    (∀ frame definition, .completed frame definition ∈ (catalog.schemas patterns).journal →
      (definition.typeName? = some "undefined" ↔ frame.subject.node.kind.isUndefined = true) ∧
        (frame.subject.node.kind.isUndefined = true → frame.isGuarded = true) ∧
        ∀ other found, .completed other found ∈ (catalog.schemas patterns).journal →
          other.plan.name = frame.plan.name → found = definition) := by
  cases hpatterns : patterns.isEmpty with
  | true =>
    rw [schemas, if_pos hpatterns] at hresult ⊢
    obtain rfl := Except.ok.inj hresult
    exact ⟨List.forall_mem_nil _, fun _ _ hmem => absurd hmem List.not_mem_nil⟩
  | false =>
    obtain ⟨q, hjournal, hq, ⟨e, he, _⟩ | ⟨roots, hdone, hsettles, hroots⟩⟩ :=
      (accounts catalog).schemas_kept (.fresh _) (fun _ _ => trivial) hpatterns
    · cases he.symm.trans hresult
    have hcompletes : ∀ frame definition, .completed frame definition ∈ q.journal →
        catalog.Completes q frame definition := fun _ _ hmem => (hq.completed _ _ hmem).2
    obtain rfl := Except.ok.inj (hresult.symm.trans hdone)
    rw [hjournal]
    refine ⟨fun entry hmem => ?_, fun frame definition hmem => ?_⟩
    · rcases Dict.mem_of_mem_extend hmem with hroot | hshared
      · obtain ⟨_, _, hroot⟩ := exists_left_of_forall₂ hroots (Dict.mem_of_mem_ofEntries hroot)
        exact hroot.yields.follows hhook huntagged fun _ howner => absurd howner (Option.some_ne_none _).symm
      · have hgiven : (Dict.keys catalog.overrides).Nodup := by
          rw [hoverrides]
          exact List.nodup_nil
        have hnew : (Contract.fresh catalog .definitions).context.isReffed entry.1 = false := by
          show Dict.contains catalog.overrides entry.1 = false
          rw [hoverrides]
          rfl
        obtain ⟨frame, _, hcompleted⟩ := hsettles.made hnew
          (Dict.get?_of_mem (hq.reached.nodup_keys hgiven) hshared)
        exact ((hcompletes _ _ hcompleted).undefined_iff hhook huntagged).2.2
    · obtain ⟨hiff, hguarded, _⟩ := (hcompletes _ _ hmem).undefined_iff hhook huntagged
      exact ⟨hiff, hguarded, fun other found hother hname =>
        (completed_unique hsettles hmem hother hname).2⟩

/-- What a document refers to is one of its definitions, and was completed. -/
theorem exists_completed_of_refers (hoverrides : catalog.overrides = []) (hhook : catalog.hook = id)
    (huntagged : catalog.IsUntagged) {patterns : List NamePattern} {definitions : Dict Definition}
    (hresult : (catalog.schemas patterns).result = .ok definitions) {target : String}
    (hrefers : (schemasJson definitions).Refers ("#/definitions/" ++ target)) :
    ∃ frame definition, .completed frame definition ∈ (catalog.schemas patterns).journal ∧
      frame.plan.name = target ∧ Dict.get? definitions target = some definition := by
  obtain ⟨other, definition, heq, hget, hfinished⟩ :=
    schemas_resolve hhook (huntagged.refersToNothing hoverrides) hresult hrefers
  obtain rfl : target = other := by simpa using heq
  rcases hfinished with hgiven | ⟨frame, hname, hframe, _⟩
  · rw [hoverrides] at hgiven
    cases hgiven
  · exact ⟨frame, definition, hframe, hname, hget⟩

/-- **How markers escape.**  Where no doc comment has tags and nothing is given, the schema of a property
or a branch in a document is the marker, or refers to it, exactly if it refers to a definition of a type
`undefined` that has an alias or a symbol of its own.  The only other markers are branches for those
that extend an abstract class. -/
theorem isMarker_iff (catalog : Catalog) (hoverrides : catalog.overrides = [])
    (hhook : catalog.hook = id) (huntagged : catalog.IsUntagged) (patterns : List NamePattern)
    (definitions : Dict Definition) (hresult : (catalog.schemas patterns).result = .ok definitions)
    {name : String} {root inner part : Definition} {place : SchemaPlace}
    (hroot : (name, root) ∈ definitions) (hwithin : root.Within inner)
    (hpart : inner.Hosts place part) (hplace : place.isMember = true) :
    IsMarker definitions part ↔ RefersToUndefined (catalog.schemas patterns).journal part ∨
      (part.typeName? = some "undefined" ∧ place = .branch "oneOf" ∧
        catalog.HasUndefinedSubtype) := by
  obtain ⟨hfollows, hcompleted⟩ := schemas_follow hoverrides hhook huntagged hresult
  have hresolves : ∀ target, part.refTarget? = some ("#/definitions/" ++ target) →
      ∃ frame definition, .completed frame definition ∈ (catalog.schemas patterns).journal ∧
        frame.plan.name = target ∧ Dict.get? definitions target = some definition :=
    fun _ htarget => exists_completed_of_refers hoverrides hhook huntagged hresult
      (refers_schemasJson hroot (hwithin.refers (hpart.refers (refers_of_refTarget? htarget))))
  constructor
  · rintro (hname | ⟨target, definition, htarget, hget, hname⟩)
    · have hadmits := hfollows _ hroot inner hwithin place part hpart
      cases place with
      | property _ => exact absurd hname hadmits
      | branch key =>
        obtain ⟨rfl, hsubtype⟩ := hadmits hname
        exact .inr ⟨hname, rfl, hsubtype⟩
      | item => cases hplace
      | value => cases hplace
    · obtain ⟨frame, found, hframe, rfl, hfound⟩ := hresolves target htarget
      obtain rfl := Option.some.inj (hget.symm.trans hfound)
      obtain ⟨hiff, hguarded, _⟩ := hcompleted frame _ hframe
      have hkind := hiff.1 hname
      exact .inl ⟨frame, _, hframe, htarget, hkind, hguarded hkind⟩
  · rintro (⟨frame, definition, hframe, htarget, hkind, _⟩ | ⟨hname, _, _⟩)
    · obtain ⟨other, found, hother, hname, hget⟩ := hresolves _ htarget
      obtain ⟨hiff, _, hunique⟩ := hcompleted frame definition hframe
      obtain rfl := hunique other found hother hname
      exact .inr ⟨_, _, htarget, hget, hiff.2 hkind⟩
    · exact .inl hname

/-- A catalog of one declaration with two properties: one is of a type `undefined` with an alias, the
other of a union of texts with that type. -/
def aliasedNothing : Catalog where
  graph :=
    { types := #[{ kind := .undefined, aliasSymbol := some ⟨0⟩ }, { kind := .string },
        { kind := .union [⟨1⟩, ⟨0⟩] },
        { kind := .object [{ symbol := ⟨2⟩, type := ⟨0⟩ }, { symbol := ⟨3⟩, type := ⟨2⟩ }] false none
          symbol := some ⟨1⟩ }]
      symbols := #[{ name := "Nothing" }, { name := "Root" }, { name := "a" }, { name := "b" }]
      declarations := [("Root", ⟨3⟩)] }
  options := { reference := true }
  declared := [("Root", ⟨3⟩)]

/-- What a call comes to that selects the declaration. -/
def aliasedNothingOutcome : Outcome (Dict Definition) :=
  aliasedNothing.schemas [.exact "Root"]

/-- The schema of the property with the name. -/
def propertySchema? (definition : Definition) (name : String) : Option Definition :=
  (definition.properties?.bind (Dict.get? · name)).bind Json.fields?

theorem hosts_of_propertySchema? {name : String} {part : Definition}
    (h : propertySchema? definition name = some part) : definition.Hosts (.property name) part := by
  obtain ⟨value, h, hfields⟩ := Option.bind_eq_some_iff.1 h
  obtain ⟨properties, h, hname⟩ := Option.bind_eq_some_iff.1 h
  have hproperties := get?_of_properties? h
  rw [Json.eq_object_of_fields? hfields] at hname
  exact ⟨_, Dict.mem_of_get? hproperties, .property rfl (Dict.mem_of_get? hname)⟩

theorem hosts_of_branches? {key : String} {branches : List Json} {value : Json}
    {branch : Definition} (hkey : key ∈ branchKeywords)
    (h : (definition.get? key).bind Json.items? = some branches) (hmem : value ∈ branches)
    (hfields : value.fields? = some branch) : definition.Hosts (.branch key) branch := by
  obtain ⟨list, hget, hitems⟩ := Option.bind_eq_some_iff.1 h
  rw [Json.eq_array_of_items? hitems] at hget
  rw [Json.eq_object_of_fields? hfields] at hmem
  exact ⟨_, Dict.mem_of_get? hget, .branch hkey hmem⟩

/-- Whether the schema refers to the definition of the alias, and that is the marker. -/
def isNothing (definitions : Dict Definition) (schema : Definition) : Bool :=
  schema.refTarget? == some ("#/definitions/" ++ "Nothing") &&
    ((Dict.get? definitions "Nothing").bind typeName?) == some "undefined"

theorem isMarker_of_isNothing {definitions : Dict Definition} {schema : Definition}
    (h : isNothing definitions schema = true) : IsMarker definitions schema := by
  obtain ⟨htarget, htype⟩ := Bool.and_eq_true_iff.1 h
  obtain ⟨definition, hget, hname⟩ := Option.bind_eq_some_iff.1 (eq_of_beq htype)
  exact .inr ⟨"Nothing", definition, eq_of_beq htarget, hget, hname⟩

/-- The first property is a marker, and so is a branch of the second. -/
theorem aliasedNothing_markers : ∃ definitions root part union branch,
    aliasedNothingOutcome.result = .ok definitions ∧ ("Root", root) ∈ definitions ∧
      root.Hosts (.property "a") part ∧ IsMarker definitions part ∧
      root.Hosts (.property "b") union ∧ union.Hosts (.branch "anyOf") branch ∧
      IsMarker definitions branch := by
  have hmarkers : (aliasedNothingOutcome.result.toOption.any fun definitions =>
      (Dict.get? definitions "Root").any fun root =>
        ((propertySchema? root "a").any (isNothing definitions)) &&
        (propertySchema? root "b").any fun union =>
          ((union.get? "anyOf").bind Json.items?).any fun branches =>
            branches.any fun branch => branch.fields?.any (isNothing definitions)) = true := by
    decide +kernel
  cases hresult : aliasedNothingOutcome.result with
  | error error =>
    rw [hresult] at hmarkers
    cases hmarkers
  | ok definitions =>
    rw [hresult] at hmarkers
    obtain ⟨_, hsome, hdefinitions⟩ := (Option.any_eq_true _ _).1 hmarkers
    cases hsome
    obtain ⟨root, hroot, hboth⟩ := (Option.any_eq_true _ _).1 hdefinitions
    obtain ⟨hfirst, hsecond⟩ := Bool.and_eq_true_iff.1 hboth
    obtain ⟨part, hpart, hnothing⟩ := (Option.any_eq_true _ _).1 hfirst
    obtain ⟨union, hunion, hbranches⟩ := (Option.any_eq_true _ _).1 hsecond
    obtain ⟨branches, hlist, hany⟩ := (Option.any_eq_true _ _).1 hbranches
    obtain ⟨value, hvalue, hfields⟩ := List.any_eq_true.1 hany
    obtain ⟨branch, hbranch, hnothing'⟩ := (Option.any_eq_true _ _).1 hfields
    exact ⟨definitions, root, part, union, branch, rfl, Dict.mem_of_get? hroot,
      hosts_of_propertySchema? hpart, isMarker_of_isNothing hnothing,
      hosts_of_propertySchema? hunion, hosts_of_branches? (by decide) hlist hvalue hbranch,
      isMarker_of_isNothing hnothing'⟩

theorem isUntagged_aliasedNothing : aliasedNothing.IsUntagged := by
  unfold IsUntagged
  decide

/-- Markers escape into a property and into a branch of a union. -/
theorem exists_marker :
    aliasedNothing.graph.validate = .ok () ∧
    ofGraph aliasedNothing.graph aliasedNothing.options Modules.none = .ok aliasedNothing ∧
    aliasedNothing.overrides = [] ∧ aliasedNothing.hook = id ∧ aliasedNothing.IsUntagged ∧
    ∃ definitions root part union branch,
      aliasedNothingOutcome.result = .ok definitions ∧ ("Root", root) ∈ definitions ∧
        root.Hosts (.property "a") part ∧ IsMarker definitions part ∧
        root.Hosts (.property "b") union ∧ union.Hosts (.branch "anyOf") branch ∧
        IsMarker definitions branch :=
  ⟨rfl, rfl, rfl, rfl, isUntagged_aliasedNothing, aliasedNothing_markers⟩

/-- The property refers to the definition of the alias. -/
theorem isMarker_iff_aliasedNothing : ∃ definitions root part,
    aliasedNothingOutcome.result = .ok definitions ∧ ("Root", root) ∈ definitions ∧
      root.Hosts (.property "a") part ∧
      RefersToUndefined aliasedNothingOutcome.journal part := by
  obtain ⟨definitions, root, part, _, _, hresult, hroot, hpart, hmarker, _⟩ :=
    aliasedNothing_markers
  have hiff := isMarker_iff aliasedNothing rfl rfl isUntagged_aliasedNothing _ definitions hresult
    hroot .here hpart rfl
  refine ⟨definitions, root, part, hresult, hroot, hpart, ?_⟩
  exact (hiff.1 hmarker).resolve_right fun h => nomatch h.2.1

end Catalog

end TypeSchema
