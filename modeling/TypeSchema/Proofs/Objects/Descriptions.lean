import TypeSchema.Proofs.Objects.Listings
import TypeSchema.Proofs.Objects.Null

/-!
# What properties say of themselves

A property may say of itself what its type says as well: a description, a default value, examples.
These keywords are entered before the rule for the type comes to its own, and a reference keeps
them.  So what the doc comment of the property says is said last, and stands.

There is one exception.  A union or an intersection that leaves a single branch is described by this
branch, whose keywords are entered over those of the property: a price that may be `undefined` is
described as any price is (`Catalog.exists_description_lost`).
**`Catalog.keyword_survives`** says that keywords are lost in no other way.
-/

set_option autoImplicit false

namespace TypeSchema

namespace Definition

variable {definition : Definition} {schemas : List Definition} {key : String}

/-! ## Keywords that steps leave as they are -/

theorem get?_refAnnotations (hkey : key ∈ descriptive) :
    definition.refAnnotations.get? key = definition.get? key := by
  induction definition with
  | nil => rfl
  | cons entry rest ih =>
    obtain ⟨other, value⟩ := entry
    by_cases hother : other = key
    · subst hother
      simp [refAnnotations, Definition.get?, Dict.get?, hkey]
    · have hrest : (refAnnotations ((other, value) :: rest)).get? key =
          (refAnnotations rest).get? key := by
        by_cases hkept : other ∈ descriptive
        · simp [refAnnotations, Definition.get?, Dict.get?, hkept, hother]
        · simp [refAnnotations, hkept]
      rw [hrest, ih]
      simp [Definition.get?, Dict.get?, hother]

/-- A schema that is nothing but a type says nothing else. -/
theorem get?_of_isBareType (h : definition.isBareType = true) (hkey : key ≠ "type") :
    definition.get? key = none := by
  obtain ⟨hlength, htype⟩ := Bool.and_eq_true_iff.1 h
  obtain ⟨⟨other, value⟩, rfl⟩ := List.length_eq_one_iff.1 (eq_of_beq hlength)
  have hother : other = "type" := by
    simpa [Definition.contains, Dict.contains, Dict.get?] using htype
  simp [Definition.get?, Dict.get?, hother, hkey.symm]

/-- Nor does `null` that is written with the keyword. -/
theorem get?_of_isNullableNull_of_ne (h : definition.isNullableNull = true) (htype : key ≠ "type")
    (hnullable : key ≠ "nullable") : definition.get? key = none := by
  have hlength := eq_of_beq (Bool.and_eq_true_iff.1 (Bool.and_eq_true_iff.1 h).1).1
  obtain ⟨hget, hget'⟩ := get?_of_isNullableNull h
  obtain ⟨⟨first, value⟩, ⟨second, value'⟩, rfl⟩ := List.length_eq_two.1 hlength
  cases hvalue : Definition.get? [(first, value), (second, value')] key with
  | none => rfl
  | some found =>
    have hmem := Dict.mem_of_get? hvalue
    have htypeMem := Dict.mem_of_get? hget
    have hnullableMem := Dict.mem_of_get? hget'
    simp only [List.mem_cons, Prod.mk.injEq, List.not_mem_nil, or_false] at hmem htypeMem hnullableMem
    grind

/-- What is merged from the only schema is said by it, or was said before. -/
theorem get?_merge_only {only : Definition} (hkeys : only.HasUniqueKeys) (key : String) :
    (definition.merge only).get? key = definition.get? key ∨
      ∃ value, only.get? key = some value ∧ (definition.merge only).get? key = some value := by
  rw [get?_merge hkeys]
  cases hget : only.get? key with
  | none => exact .inl rfl
  | some value => exact .inr ⟨value, rfl, rfl⟩

/-- Branches say nothing of the type as a whole, unless there is only one. -/
theorem get?_unite (hkeys : ∀ schema ∈ schemas, schema.HasUniqueKeys) (hkey : key ∈ descriptive)
    (keyword : UnionKeyword) (nullable : Bool) :
    (definition.unite keyword nullable schemas).get? key = definition.get? key ∨
      ∃ only value, schemas = [only] ∧ only.get? key = some value ∧
        (definition.unite keyword nullable schemas).get? key = some value := by
  have hne : ∀ other ∉ descriptive, key ≠ other := fun other hother heq => hother (heq ▸ hkey)
  rcases unite_cases definition keyword nullable schemas with
    ⟨only, rfl, heq⟩ | ⟨primitive, null, _, hboth, heq⟩ | heq
  · rw [heq]
    exact (get?_merge_only (hkeys _ (List.mem_singleton.2 rfl)) key).imp_right
      fun ⟨value, hget, hmerged⟩ => ⟨only, value, rfl, hget, hmerged⟩
  · obtain ⟨_, hbare, hnullable⟩ := of_primitiveAndNull? hboth
    obtain ⟨hprimitive, hnull⟩ := mem_of_primitiveAndNull? hboth
    refine .inl ?_
    rw [heq, get?_merge (hkeys _ hnull), get?_merge (hkeys _ hprimitive),
      get?_of_isNullableNull_of_ne hnullable (hne _ (by decide)) (hne _ (by decide)),
      get?_of_isBareType hbare (hne _ (by decide))]
    rfl
  · rw [heq]
    exact .inl (get?_insert_of_ne (hne _ (by cases keyword <;> decide)).symm)

/-- Nor do factors, unless there is only one. -/
theorem get?_intersect (hkeys : ∀ schema ∈ schemas, schema.HasUniqueKeys) (hkey : key ∈ descriptive) :
    (definition.intersect schemas).get? key = definition.get? key ∨
      ∃ only value, schemas = [only] ∧ only.get? key = some value ∧
        (definition.intersect schemas).get? key = some value := by
  rcases intersect_cases definition schemas with ⟨only, rfl, heq⟩ | heq
  · rw [heq]
    exact (get?_merge_only (hkeys _ (List.mem_singleton.2 rfl)) key).imp_right
      fun ⟨value, hget, hmerged⟩ => ⟨only, value, rfl, hget, hmerged⟩
  · rw [heq]
    refine .inl (get?_insert_of_ne ?_)
    rintro rfl
    exact absurd hkey (by decide)

end Definition

namespace Catalog

open Definition

variable {catalog : Catalog} {q : Progress} {request : Request} {frame : Frame} {subject : Subject}
  {journal : List Event} {listing : Listing} {kept : KeptProperty} {annotations : Annotations}
  {key : String} {value : Json} {definition start : Definition}

theorem get?_propertyDefinition_of_descriptive (property : Property) (name : String)
    (hkey : key ∈ descriptive) (hdefault : key = "default" → property.initializer = none) :
    (catalog.propertyDefinition property name definition).get? key = definition.get? key := by
  have htitle : "title" ≠ key := by
    rintro rfl
    exact absurd hkey (by decide)
  by_cases hinitializer : property.initializer = none
  · unfold propertyDefinition
    dsimp only
    rw [hinitializer]
    dsimp only
    split
    · exact get?_insert_of_ne htitle
    · rfl
  · exact get?_propertyDefinition property name htitle.symm (mt hdefault hinitializer)

/-! ## Unions and intersections with one branch -/

/-- The type is a union or an intersection, whose members leave one branch. -/
inductive LeavesOnly (catalog : Catalog) (Part : Request → Definition → Prop) (subject : Subject)
    (only : Definition) : Prop
  | union {members : List TypeId} {contributions : List Contribution}
      (hkind : subject.node.kind = .union members)
      (hmembers : List.Forall₂ (catalog.Contributes Part) members contributions)
      (hall : (contributions.foldl (Branches.enter catalog.options.usesNullableKeyword) {}).all =
        [only]) : LeavesOnly catalog Part subject only
  | intersection {members : List TypeId} {schemas : List Definition}
      (hkind : subject.node.kind = .intersection members)
      (hmembers : List.Forall₂ (fun id schema => Part (catalog.member id) schema) members schemas)
      (hall : (schemas.foldl Factors.enter {}).all = [only]) : LeavesOnly catalog Part subject only

/-- The request is answered by the schema of a union or an intersection, whose only branch has the
value for the keyword. -/
def SaysOnlyBranch (catalog : Catalog) (q : Progress) (request : Request) (key : String)
    (value : Json) : Prop :=
  ∃ frame only, catalog.Frames q request frame ∧ frame.plan.isReference = false ∧
    catalog.LeavesOnly (catalog.Yields q) frame.subject only ∧ only.get? key = some value

section Composition

variable {Part : Request → Definition → Prop} {keyword : UnionKeyword} {owner : Option Owner}
  {isRaw : Bool}

/-- Rules leave what is said of the type as a whole, unless there is only one branch. -/
theorem Composed.get?_of_descriptive
    (hpart : ∀ answer, catalog.AnswersPart Part answer → answer.HasUniqueKeys) (hkey : key ∈ descriptive)
    (h : catalog.Composed Part keyword owner subject isRaw start definition) :
    definition.get? key = start.get? key ∨
      ∃ only value, catalog.LeavesOnly Part subject only ∧ only.get? key = some value ∧
        definition.get? key = some value := by
  have hanswers : ∀ answer, catalog.AnswersPart Part answer → answer.typeName? ≠ some "undefined" →
      answer.HasUniqueKeys := fun answer hanswer _ => hpart answer hanswer
  have hother : key ∉ ruleKeywords :=
    (show ∀ other ∈ descriptive, other ∉ ruleKeywords by decide) key hkey
  cases hkind : subject.node.kind with
  | union members =>
    obtain ⟨contributions, hmembers, rfl⟩ := h.of_union hkind
    refine (get?_unite (branches_keep HasUniqueKeys.isKept hanswers hmembers) hkey keyword _).imp_right ?_
    exact fun ⟨only, value, hall, hvalue, hget⟩ =>
      ⟨only, value, .union hkind hmembers hall, hvalue, hget⟩
  | intersection members =>
    obtain ⟨schemas, hmembers, rfl⟩ := h.of_intersection hkind
    refine (get?_intersect (factors_keep HasUniqueKeys.isKept hanswers hmembers) hkey).imp_right ?_
    exact fun ⟨only, value, hall, hvalue, hget⟩ =>
      ⟨only, value, .intersection hkind hmembers hall, hvalue, hget⟩
  | _ => exact .inl (h.get?_of_not_mem (by rw [hkind]; rfl) hother)

/-- So does what is defined, where annotations may give a type instead of the rule. -/
theorem Defined.get?_of_descriptive
    (hpart : ∀ answer, catalog.AnswersPart Part answer → answer.HasUniqueKeys) (hkey : key ∈ descriptive)
    (h : catalog.Defined Part keyword owner subject isRaw start definition) :
    definition.get? key = start.get? key ∨
      ∃ only value, catalog.LeavesOnly Part subject only ∧ only.get? key = some value ∧
        definition.get? key = some value := by
  cases h with
  | typed _ => exact .inl rfl
  | composed _ hcomposed => exact hcomposed.get?_of_descriptive hpart hkey

end Composition

/-! ## Properties -/

section Answers

variable (hhook : catalog.hook = id) (howner : ∀ o, request.owner = some o → catalog.Describes o)
  (hkey : key ∈ descriptive) (htold : (ownerKeywords request.owner).get? key = some value)

include hhook howner hkey htold

/-- What the owner says of itself is said by the schema, unless the only branch says something else.
-/
theorem get?_of_defined {schema : Definition} (hframe : catalog.Frames q request frame)
    (hinline : frame.plan.isReference = false)
    (hannotations : catalog.description frame.subject.describing = .ok annotations)
    (hschema : catalog.Defined (catalog.Yields q) request.unionKeyword request.owner frame.subject
      frame.plan.isRaw (annotations.definition.merge (ownerKeywords request.owner)) schema) :
    schema.HasUniqueKeys ∧ ∃ shown, schema.get? key = some shown ∧
      (shown = value ∨ catalog.SaysOnlyBranch q request key shown) := by
  have hkeys := hasUniqueKeys_ownerKeywords howner
  have hpart : ∀ answer, catalog.AnswersPart (catalog.Yields q) answer → answer.HasUniqueKeys :=
    fun _ ⟨_, hanswer, hdescribed⟩ => hanswer.hasUniqueKeys_of_hook (fun _ h => hhook ▸ h) hdescribed
  refine ⟨hschema.hasUniqueKeys hpart howner
    ((hasUniqueKeys_description hannotations).merge hkeys), ?_⟩
  rcases hschema.get?_of_descriptive hpart hkey with hsame | ⟨only, shown, honly, hshown, hget⟩
  · refine ⟨value, ?_, .inl rfl⟩
    rw [hsame, get?_merge hkeys, htold, Option.some_or]
  · exact ⟨shown, hget, .inr ⟨frame, only, hframe, hinline, honly, hshown⟩⟩

/-- The same of what is made.  A reference takes the keywords along. -/
theorem Makes.get?_of_descriptive {made : Definition} (h : catalog.Makes q request made) :
    ∃ shown, made.get? key = some shown ∧
      (shown = value ∨ catalog.SaysOnlyBranch q request key shown) := by
  have hkeys := hasUniqueKeys_ownerKeywords howner
  cases h with
  | schema hframe hinline hannotations hschema =>
    exact (get?_of_defined hhook howner hkey htold hframe hinline hannotations hschema).2
  | link hframe hinline hannotations hschema _ =>
    obtain ⟨hunique, shown, hget, hshown⟩ :=
      get?_of_defined hhook howner hkey htold hframe hinline hannotations hschema
    refine ⟨shown, ?_, hshown⟩
    rw [get?_merge hunique.refAnnotations, get?_refAnnotations hkey, hget, Option.some_or]
  | reference _ _ hbeside _ =>
    refine ⟨value, ?_, .inl rfl⟩
    cases hbeside with
    | all _ => rw [get?_merge hkeys, htold, Option.some_or]
    | descriptive _ =>
      have hlink : ∀ name, (q.context.refTo name).HasUniqueKeys := fun _ => .reference _
      rw [get?_merge ((hlink _).merge hkeys).refAnnotations,
        get?_refAnnotations hkey, get?_merge hkeys, htold, Option.some_or, Option.some_or]

end Answers

/-- **What a property says of itself is lost to an only branch at most.**  Where the doc comment of a
listed property sets `description`, `examples`, or, without an initializer, `default`, and leaves
the type alone, the schema of the property has this value, or that of the only branch which the
union or the intersection that is its type leaves. -/
theorem keyword_survives (catalog : Catalog) (hhook : catalog.hook = id)
    (hjournal : catalog.Journals journal) (hlisted : .listed listing ∈ journal)
    (hkept : kept ∈ listing.kept) (hown : catalog.Describes ⟨kept.property.symbol, annotations⟩)
    (htype : annotations.definition.contains "type" = false) (hkey : key ∈ descriptive)
    (hdefault : key = "default" → kept.property.initializer = none)
    (htold : annotations.definition.get? key = some value) :
    ∃ shown, kept.schema.get? key = some shown ∧
      (shown = value ∨ ∃ q : Progress, q.journal = journal ∧
        catalog.SaysOnlyBranch q (catalog.requestFor kept.property annotations) key shown) := by
  obtain ⟨q, made, hq, hmade, hschema⟩ := exists_made hjournal hlisted hkept hown htype
  have howner : ∀ o, (catalog.requestFor kept.property annotations).owner = some o →
      catalog.Describes o := fun _ heq => Option.some.inj heq ▸ hown
  obtain ⟨shown, hget, hshown⟩ := hmade.get?_of_descriptive hhook howner hkey htold
  refine ⟨shown, ?_, hshown.imp_right fun h => ⟨q, hq, h⟩⟩
  rw [hschema, hhook, get?_propertyDefinition_of_descriptive _ _ hkey hdefault]
  exact hget

/-- A catalog of two declarations that are described.  The price of an offer is described as well,
and may be `undefined`. -/
def describedOffer : Catalog where
  graph :=
    { types := #[{ kind := .string },
        { kind := .object [{ symbol := ⟨1⟩, type := ⟨0⟩ }] false none, symbol := some ⟨0⟩ },
        { kind := .undefined }, { kind := .union [⟨1⟩, ⟨2⟩] },
        { kind := .object [{ symbol := ⟨3⟩, type := ⟨3⟩ }] false none, symbol := some ⟨2⟩ }]
      symbols := #[{ name := "Price", documentation := [⟨.text, "An amount of money."⟩] },
        { name := "amount" }, { name := "Offer" },
        { name := "price", documentation := [⟨.text, "What the offer costs."⟩] }]
      declarations := [("Price", ⟨1⟩), ("Offer", ⟨4⟩)] }
  declared := [("Price", ⟨1⟩), ("Offer", ⟨4⟩)]

/-- What the doc comment of the price of an offer says. -/
def offerPrice : Annotations :=
  { definition := [("description", .string "What the offer costs.")] }

theorem describes_offerPrice : describedOffer.Describes ⟨⟨3⟩, offerPrice⟩ := by
  refine ⟨describedOffer.graph.symbols[3], rfl, ?_⟩
  have hdescription : AnnotationReader.description? describedOffer.graph.symbols[3] =
      some "What the offer costs." := by decide +kernel
  rw [AnnotationReader.read, AnnotationReader.extend, AnnotationReader.addSymbol, hdescription]
  rfl

/-- The price of an offer is described as any price is. -/
theorem describedOffer_price : ∃ listing kept,
    .listed listing ∈ (describedOffer.schemas [.exact "Offer"]).journal ∧ kept ∈ listing.kept ∧
      describedOffer.Describes ⟨kept.property.symbol, offerPrice⟩ ∧
      kept.property.initializer = none ∧
      kept.schema.get? "description" = some (.string "An amount of money.") := by
  have hevent : ((describedOffer.schemas [.exact "Offer"]).journal.any fun
      | .listed listing => listing.kept.any fun kept =>
          decide (kept.property.symbol = ⟨3⟩) && kept.property.initializer.isNone &&
            (kept.schema.get? "description").any fun value =>
              value.text? == some "An amount of money."
      | _ => false) = true := by decide +kernel
  obtain ⟨event, hmem, hevent⟩ := List.any_eq_true.1 hevent
  cases event with
  | listed listing =>
    obtain ⟨kept, hkept, hprice⟩ := List.any_eq_true.1 hevent
    obtain ⟨hproperty, hdescription⟩ := Bool.and_eq_true_iff.1 hprice
    obtain ⟨hsymbol, hinitializer⟩ := Bool.and_eq_true_iff.1 hproperty
    obtain ⟨value, hvalue, htext⟩ := (Option.any_eq_true _ _).1 hdescription
    refine ⟨listing, kept, hmem, hkept, ?_, Option.isNone_iff_eq_none.1 hinitializer, ?_⟩
    · rw [of_decide_eq_true hsymbol]
      exact describes_offerPrice
    · cases value with
      | string text => rw [hvalue, Option.some.inj (eq_of_beq htext)]
      | _ => cases htext
  | _ => cases hevent

/-- **Descriptions are lost.**  The price of an offer may be `undefined`, so its type leaves a single
branch, and what is said of all prices takes the place of what is said of this one. -/
theorem exists_description_lost :
    describedOffer.graph.validate = .ok () ∧
    ofGraph describedOffer.graph describedOffer.options Modules.none = .ok describedOffer ∧
    describedOffer.overrides = [] ∧ describedOffer.hook = id ∧
    (describedOffer.schemas [.exact "Offer"]).result.toOption.isSome ∧
    offerPrice.isIgnored = false ∧ offerPrice.definition.contains "type" = false ∧
    offerPrice.definition.get? "description" = some (.string "What the offer costs.") ∧
    ∃ listing kept, .listed listing ∈ (describedOffer.schemas [.exact "Offer"]).journal ∧
      kept ∈ listing.kept ∧ describedOffer.Describes ⟨kept.property.symbol, offerPrice⟩ ∧
      kept.schema.get? "description" ≠ offerPrice.definition.get? "description" := by
  refine ⟨rfl, rfl, rfl, rfl, by decide +kernel, rfl, rfl, rfl, ?_⟩
  obtain ⟨listing, kept, hlisted, hkept, hown, _, hshown⟩ := describedOffer_price
  refine ⟨listing, kept, hlisted, hkept, hown, ?_⟩
  rw [hshown]
  exact fun heq => absurd (Json.string.inj (Option.some.inj heq)) (by decide)

/-- The only branch of the price says what all prices are. -/
theorem keyword_survives_describedOffer : ∃ listing kept shown,
    .listed listing ∈ (describedOffer.schemas [.exact "Offer"]).journal ∧ kept ∈ listing.kept ∧
      kept.schema.get? "description" = some shown ∧
      (shown = .string "What the offer costs." ∨ ∃ q : Progress,
        q.journal = (describedOffer.schemas [.exact "Offer"]).journal ∧
        describedOffer.SaysOnlyBranch q (describedOffer.requestFor kept.property offerPrice)
          "description" shown) := by
  obtain ⟨listing, kept, hlisted, hkept, hown, hinitializer, _⟩ := describedOffer_price
  have hkey : "description" ∈ descriptive := by decide
  obtain ⟨shown, hget, hshown⟩ := keyword_survives describedOffer rfl (.schemas _) hlisted hkept hown
    rfl hkey (fun _ => hinitializer) rfl
  exact ⟨listing, kept, shown, hlisted, hkept, hget, hshown⟩

end Catalog

end TypeSchema
