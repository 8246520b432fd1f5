import TypeSchema.Proofs.Names.Roots
import TypeSchema.Proofs.Objects.Keys
import TypeSchema.Proofs.Objects.Undefined

/-!
# What the hook sees

The hook is applied where a request has been answered by a rule: once, to what goes back to whoever asked
(`Catalog.Hooked`).  Two kinds of schemas are not made there.  What the annotations of an owner say of
its type is handed back as it is.  And a definition that references point to goes into the table before
its first request is answered; what goes back, and through the hook, is a reference to it.

**`Catalog.hook_sees`** says that these are the only ones: every other definition of a document, and every
other schema in it, is what the hook made of an answer, with the title and the default value that a
property adds.  Literals that a union folds into an enumeration, and names of types that an intersection
folds, are no schemas of their own any more.
-/

set_option autoImplicit false

namespace TypeSchema

namespace Catalog

variable {catalog : Catalog} {p q : Progress} {request : Request} {frame : Frame}
  {definition : Definition}

/-! ## Answers and the hook -/

/-- What is made for the request, before the hook is applied: the schema of its subject, or a reference.
The parts of the schema are answers themselves. -/
inductive Makes (catalog : Catalog) (p : Progress) (request : Request) : Definition → Prop
  | schema {frame : Frame} {annotations : Annotations} {schema : Definition}
      (hframe : catalog.Frames p request frame) (hinline : frame.plan.isReference = false)
      (hannotations : catalog.description frame.subject.describing = .ok annotations)
      (hschema : catalog.Defined (catalog.Yields p) request.unionKeyword request.owner frame.subject
        frame.plan.isRaw (annotations.definition.merge (ownerKeywords request.owner)) schema) :
      Makes catalog p request schema
  | link {frame : Frame} {annotations : Annotations} {schema : Definition}
      (hframe : catalog.Frames p request frame) (hinline : frame.plan.isReference = false)
      (hannotations : catalog.description frame.subject.describing = .ok annotations)
      (hschema : catalog.Defined (catalog.Yields p) request.unionKeyword request.owner frame.subject
        frame.plan.isRaw (annotations.definition.merge (ownerKeywords request.owner)) schema)
      (hrefers : RefersTo p frame) :
      Makes catalog p request ((p.context.refTo frame.plan.name).merge schema.refAnnotations)
  | reference {frame : Frame} {beside : Definition} (hframe : catalog.Frames p request frame)
      (hreference : frame.plan.isReference = true)
      (hbeside : Beside (p.context.refTo frame.plan.name) (ownerKeywords request.owner) frame beside)
      (hrefers : RefersTo p frame) :
      Makes catalog p request ((p.context.refTo frame.plan.name).merge beside)

/-- The answer is what the hook makes of what was made for the request. -/
def Hooked (catalog : Catalog) (p : Progress) (request : Request) (answer : Definition) : Prop :=
  ∃ made, catalog.Makes p request made ∧ answer = catalog.hook made

theorem Makes.unsettled (h : catalog.Makes p request definition) : settled? request.owner = none := by
  cases h with
  | schema hframe _ _ _ => exact hframe.unsettled
  | link hframe _ _ _ _ => exact hframe.unsettled
  | reference hframe _ _ _ => exact hframe.unsettled

/-- A request is answered by what the annotations of its owner say, or through the hook. -/
theorem yields_iff :
    catalog.Yields p request definition ↔
      settled? request.owner = some definition ∨ catalog.Hooked p request definition := by
  constructor
  · intro h
    cases h with
    | settled hsettled => exact .inl hsettled
    | inline hpart hframe hinline hannotations hschema =>
      exact .inr ⟨_, .schema hframe hinline hannotations (hschema.mono hpart), rfl⟩
    | linked hpart hframe hinline hannotations hschema hrefers =>
      exact .inr ⟨_, .link hframe hinline hannotations (hschema.mono hpart) hrefers, rfl⟩
    | referred hframe hreference hbeside hrefers =>
      exact .inr ⟨_, .reference hframe hreference hbeside hrefers, rfl⟩
  · rintro (hsettled | ⟨made, hmade, rfl⟩)
    · exact .settled hsettled
    · cases hmade with
      | schema hframe hinline hannotations hschema =>
        exact .inline (fun _ _ h => h) hframe hinline hannotations hschema
      | link hframe hinline hannotations hschema hrefers =>
        exact .linked (fun _ _ h => h) hframe hinline hannotations hschema hrefers
      | reference hframe hreference hbeside hrefers =>
        exact .referred hframe hreference hbeside hrefers

theorem Yields.hooked (h : catalog.Yields p request definition)
    (hunsettled : settled? request.owner = none) : catalog.Hooked p request definition := by
  rcases yields_iff.1 h with hsettled | hhooked
  · cases hunsettled.symm.trans hsettled
  · exact hhooked

/-! ## Places -/

/-- The schema in the place is an answer that went through the hook, with what the rule adds to it. -/
inductive PlacesHooked (catalog : Catalog) (q : Progress) : SchemaPlace → Definition → Prop
  | property {request : Request} {answer : Definition} (h : catalog.Hooked q request answer)
      (property : Property) (name : String) :
      PlacesHooked catalog q (.property name) (catalog.propertyDefinition property name answer)
  | branch {request : Request} {answer : Definition} (h : catalog.Hooked q request answer)
      (key : String) : PlacesHooked catalog q (.branch key) answer
  /-- A branch that is `null`, written with the keyword. -/
  | null {request : Request} {answer : Definition} (h : catalog.Hooked q request answer)
      (keyword : UnionKeyword) :
      PlacesHooked catalog q (.branch keyword.name) answer.makeNullable
  | item {request : Request} {answer : Definition} (h : catalog.Hooked q request answer) :
      PlacesHooked catalog q .item answer
  | value {request : Request} {answer : Definition} (h : catalog.Hooked q request answer) :
      PlacesHooked catalog q .value answer

/-- The schema in the place is what the annotations of a property, or of the alias of a member of a
union, say of its type. -/
inductive PlacesSettled (catalog : Catalog) : SchemaPlace → Definition → Prop
  | property {owner : Owner} {answer : Definition} (howner : catalog.Describes owner)
      (hsettled : settled? (some owner) = some answer) (property : Property) (name : String) :
      PlacesSettled catalog (.property name) (catalog.propertyDefinition property name answer)
  | branch {owner : Owner} {answer : Definition} (howner : catalog.Describes owner)
      (hsettled : settled? (some owner) = some answer) (keyword : UnionKeyword) :
      PlacesSettled catalog (.branch keyword.name) answer
  | null {owner : Owner} {answer : Definition} (howner : catalog.Describes owner)
      (hsettled : settled? (some owner) = some answer) (keyword : UnionKeyword) :
      PlacesSettled catalog (.branch keyword.name) answer.makeNullable

/-- The schema in the place is what a union or an intersection folds members into. -/
inductive PlacesFolded : SchemaPlace → Definition → Prop
  | values (values : List Literal) (keyword : UnionKeyword) :
      PlacesFolded (.branch keyword.name) (Branches.valuesSchema values)
  | types (names : Json) : PlacesFolded (.branch "allOf") (Definition.empty.insert "type" names)

/-- A doc comment has the schema in the place. -/
def PlacesCommented (catalog : Catalog) (place : SchemaPlace) (part : Definition) : Prop :=
  ∃ symbols annotations inner, catalog.description symbols = .ok annotations ∧
    annotations.definition.Within inner ∧ inner.Hosts place part

/-- Where a schema in a place comes from. -/
def Places (catalog : Catalog) (q : Progress) (place : SchemaPlace) (part : Definition) : Prop :=
  catalog.PlacesHooked q place part ∨ catalog.PlacesSettled place part ∨ PlacesFolded place part ∨
    catalog.PlacesCommented place part

/-- The hook enters no schema and takes none out. -/
def HookKeepsPlaces (catalog : Catalog) : Prop :=
  ∀ (rule : SchemaPlace → Definition → Prop) (definition : Definition),
    definition.Follows rule → (catalog.hook definition).Follows rule

/-- Whatever stands in the annotations of symbols is in a doc comment. -/
theorem follows_description {symbols : List SymbolId} {annotations : Annotations}
    (h : catalog.description symbols = .ok annotations) :
    annotations.definition.Follows (catalog.Places q) :=
  fun inner hwithin _ _ hpart => .inr (.inr (.inr ⟨symbols, annotations, inner, h, hwithin, hpart⟩))

/-- A doc comment has nothing in a place if it has no keyword for schemas. -/
theorem not_placesCommented (h : ∀ key, catalog.IsCommented key → key ∉ schemaKeywords)
    {place : SchemaPlace} {part : Definition} : ¬catalog.PlacesCommented place part := by
  rintro ⟨_, _, inner, hannotations, hwithin, hpart⟩
  have hfollows : Definition.Follows (fun _ _ => False) _ := Definition.follows_of_keys fun entry hmem =>
    h entry.1 (onlyKeys_description hannotations entry hmem)
  exact hfollows inner hwithin place part hpart

theorem Describes.description {owner : Owner} (h : catalog.Describes owner) :
    catalog.description [owner.symbol] = .ok owner.annotations := by
  obtain ⟨symbol, hsymbol, hread⟩ := h
  have hextend : catalog.extendBy {} owner.symbol = .ok owner.annotations :=
    extendBy_eq_ok.2 ⟨symbol, hsymbol, hread⟩
  rw [Catalog.description, List.foldlM_cons, hextend]
  rfl

theorem follows_ownerKeywords {owner : Option Owner}
    (h : ∀ o, owner = some o → catalog.Describes o) :
    (ownerKeywords owner).Follows (catalog.Places q) := by
  cases owner with
  | none => exact Definition.follows_of_keys (List.forall_mem_nil _)
  | some o => exact follows_description (h o rfl).description

section Rules

variable {Part : Request → Definition → Prop} {owner : Option Owner}

/-- What a union lists comes from answers, or is folded. -/
theorem places_branch (hpart : ∀ part answer, Part part answer → catalog.Yields q part answer)
    (keyword : UnionKeyword) {members : List TypeId} {contributions : List Contribution}
    {nullable : Bool} (h : List.Forall₂ (catalog.Contributes Part) members contributions)
    {schema : Definition} (hmem : schema ∈ (contributions.foldl (Branches.enter nullable) {}).all) :
    catalog.Places q (.branch keyword.name) schema := by
  have hmember : ∀ answer, .schema answer ∈ contributions →
      (∃ request, catalog.Hooked q request answer) ∨
        ∃ owner, catalog.Describes owner ∧ settled? (some owner) = some answer := by
    intro answer hanswer
    obtain ⟨id, _, hcontributes⟩ := exists_left_of_forall₂ h hanswer
    cases hcontributes with
    | @schema _ owner _ _ _ howner hyields =>
      rcases yields_iff.1 (hpart _ _ hyields) with hsettled | hhooked
      · obtain ⟨o, rfl, _⟩ := settled?_eq_some hsettled
        exact .inr ⟨o, howner.2 o rfl, hsettled⟩
      · exact .inl ⟨_, hhooked⟩
  rcases Branches.mem_all_foldl hmem with ⟨hmem, _⟩ | ⟨null, hnull, _, _, rfl⟩ | ⟨values, rfl⟩
  · rcases hmember schema hmem with ⟨_, hhooked⟩ | ⟨_, howner, hsettled⟩
    · exact .inl (.branch hhooked _)
    · exact .inr (.inl (.branch howner hsettled keyword))
  · rcases hmember null hnull with ⟨_, hhooked⟩ | ⟨_, howner, hsettled⟩
    · exact .inl (.null hhooked keyword)
    · exact .inr (.inl (.null howner hsettled keyword))
  · exact .inr (.inr (.inl (.values values keyword)))

theorem hooked_of_forall₂ (hpart : ∀ part answer, Part part answer → catalog.Yields q part answer)
    {types : List TypeId} {schemas : List Definition}
    (h : List.Forall₂ (fun id schema => Part (catalog.member id) schema) types schemas) :
    ∀ schema ∈ schemas, ∃ request, catalog.Hooked q request schema := by
  intro schema hmem
  obtain ⟨id, _, hanswer⟩ := exists_left_of_forall₂ h hmem
  exact ⟨_, (hpart _ _ hanswer).hooked rfl⟩

/-- **Rules put answers** into places, and answers went through the hook. -/
theorem allows_places (hpart : ∀ part answer, Part part answer → catalog.Yields q part answer)
    (hfollows : ∀ part answer, Part part answer →
      (∀ o, part.owner = some o → catalog.Describes o) → answer.Follows (catalog.Places q))
    (hunsettled : settled? owner = none) : catalog.Allows (catalog.Places q) Part owner where
  answer := hfollows
  item _ _ hanswer := .inl (.item ((hpart _ _ hanswer).hooked rfl))
  value _ _ hanswer howner := .inl (.value ((hpart _ _ hanswer).hooked (howner ▸ hunsettled)))
  property property _ hkeeping := by
    cases hkeeping with
    | @kept _ symbol _ _ howner _ _ hanswer _ =>
      rcases yields_iff.1 (hpart _ _ hanswer) with hsettled | hhooked
      · exact .inr (.inl (.property howner hsettled property symbol.name))
      · exact .inl (.property hhooked property symbol.name)
  branch keyword _ _ h _ hmem := places_branch hpart keyword h hmem
  factor _ _ h schema hmem := by
    rcases Factors.mem_all_foldl hmem with ⟨hmember, _⟩ | rfl
    · obtain ⟨_, hhooked⟩ := hooked_of_forall₂ hpart h schema hmember
      exact .inl (.branch hhooked "allOf")
    · exact .inr (.inr (.inl (.types _)))
  subtype _ _ _ _ h schema hmem := by
    obtain ⟨_, hhooked⟩ := hooked_of_forall₂ hpart h schema hmem
    exact .inl (.branch hhooked "oneOf")

end Rules

/-- What stands in a schema that a rule defines has its place from there. -/
theorem Defined.places {Part : Request → Definition → Prop} {keyword : UnionKeyword}
    {owner : Option Owner} {subject : Subject} {isRaw : Bool} {start : Definition}
    (h : catalog.Defined Part keyword owner subject isRaw start definition)
    (hpart : ∀ part answer, Part part answer → catalog.Yields q part answer)
    (hfollows : ∀ part answer, Part part answer →
      (∀ o, part.owner = some o → catalog.Describes o) → answer.Follows (catalog.Places q))
    (hunsettled : settled? owner = none) (howner : ∀ o, owner = some o → catalog.Describes o)
    (hstart : start.Follows (catalog.Places q)) : definition.Follows (catalog.Places q) := by
  cases h with
  | typed _ => exact hstart
  | composed _ h => exact h.follows (allows_places hpart hfollows hunsettled) howner hstart

/-- **What stands in an answer** comes from there as well. -/
theorem Yields.places (h : catalog.Yields q request definition) (hhook : catalog.HookKeepsPlaces)
    (howner : ∀ o, request.owner = some o → catalog.Describes o) :
    definition.Follows (catalog.Places q) := by
  induction h with
  | settled hsettled =>
    obtain ⟨o, hsome, rfl, _⟩ := settled?_eq_some hsettled
    exact follows_description (howner o hsome).description
  | inline hpart hframe _ hannotations hschema ih =>
    exact hhook _ _ (hschema.places hpart ih hframe.unsettled howner
      ((follows_description hannotations).merge (follows_ownerKeywords howner)))
  | linked hpart hframe _ hannotations hschema _ ih =>
    exact hhook _ _ (follows_reference_merge (hschema.places hpart ih hframe.unsettled howner
      ((follows_description hannotations).merge (follows_ownerKeywords howner))).refAnnotations)
  | referred _ _ hbeside _ =>
    refine hhook _ _ (follows_reference_merge ?_)
    cases hbeside with
    | all _ => exact follows_ownerKeywords howner
    | descriptive _ => exact (follows_reference_merge (follows_ownerKeywords howner)).refAnnotations

theorem Completes.places (h : catalog.Completes q frame definition)
    (hhook : catalog.HookKeepsPlaces) : definition.Follows (catalog.Places q) := by
  obtain ⟨request, annotations, hdescribed, hframe, hannotations, hdefined⟩ := h.derivation
  refine hdefined.places (fun _ _ h => h) (fun _ _ hanswer => hanswer.places hhook) hframe.unsettled
    (fun o ho => (hdescribed o ho).1) ?_
  split
  · exact (follows_description hannotations).insert_other (by decide)
  · exact follows_description hannotations

/-! ## Documents -/

/-- Where a definition of a document comes from: it is given, it was completed for references to point
to, or it is what a selected declaration was answered with. -/
inductive ComesFrom (catalog : Catalog) (q : Progress) (patterns : List NamePattern) :
    String → Definition → Prop
  | given {name : String} {definition : Definition} (h : (name, definition) ∈ catalog.overrides) :
      ComesFrom catalog q patterns name definition
  | shared {frame : Frame} {definition : Definition}
      (hcompleted : .completed frame definition ∈ q.journal)
      (hcompletes : catalog.Completes q frame definition) :
      ComesFrom catalog q patterns frame.plan.name definition
  | answered {name : String} {type : TypeId} {definition : Definition}
      (hselected : (name, type) ∈ catalog.select patterns) (huntaken : Untaken q.journal name)
      (hhooked : catalog.Hooked q (catalog.member type) definition) :
      ComesFrom catalog q patterns name definition

section

variable {patterns : List NamePattern} {definitions : Dict Definition} {name : String}

/-- Every definition of a document comes from there, and what was completed was built for its frame. -/
theorem comesFrom_of_schemas (hgiven : (Dict.keys catalog.overrides).Nodup)
    (hresult : (catalog.schemas patterns).result = .ok definitions) :
    ∃ q : Progress, q.journal = (catalog.schemas patterns).journal ∧
      (∀ frame definition, .completed frame definition ∈ q.journal →
        catalog.Completes q frame definition) ∧
      ∀ name definition, (name, definition) ∈ definitions →
        catalog.ComesFrom q patterns name definition := by
  cases hpatterns : patterns.isEmpty with
  | true =>
    rw [schemas, if_pos hpatterns] at hresult ⊢
    obtain rfl := Except.ok.inj hresult
    exact ⟨Contract.fresh catalog .definitions, rfl, fun _ _ hmem => absurd hmem List.not_mem_nil,
      fun _ _ hmem => absurd hmem List.not_mem_nil⟩
  | false =>
    obtain ⟨q, hjournal, hq, ⟨e, he, _⟩ | ⟨roots, hdone, hsettles, hroots⟩⟩ :=
      (accounts catalog).schemas_kept (.fresh _) (fun _ _ => trivial) hpatterns
    · cases he.symm.trans hresult
    obtain rfl := Except.ok.inj (hresult.symm.trans hdone)
    refine ⟨q, hjournal.symm, fun _ _ hmem => (hq.completed _ _ hmem).2,
      fun name definition hmem => ?_⟩
    have hshared := hq.reached.nodup_keys hgiven
    have hget := Dict.get?_of_mem (Dict.nodup_keys_extend (Dict.nodup_keys_ofEntries roots)) hmem
    by_cases hreffed : q.context.isReffed name = true
    · obtain ⟨found, hfound, htable⟩ := Dict.get?_extend_of_contains
        (d := Dict.ofEntries roots) hreffed
      obtain rfl := Option.some.inj (hget.symm.trans hfound)
      cases hsettles.entry name with
      | untouched hsame _ =>
        exact .given (Dict.mem_of_get? (hsame.symm.trans (Dict.get?_of_mem hshared htable)))
      | @made frame done hname _ hdone hwritings =>
        obtain rfl := Option.some.inj ((Dict.get?_of_mem hshared htable).symm.trans hdone)
        have hcompleted : .completed frame definition ∈ q.journal :=
          mem_of_mem_writings (hwritings ▸ List.mem_cons_self)
        exact hname ▸ .shared hcompleted (hq.completed frame definition hcompleted).2
    · rw [Dict.get?_extend_of_not_contains hreffed] at hget
      obtain ⟨⟨declared, type⟩, hselected, hroot⟩ :=
        exists_left_of_forall₂ hroots (Dict.mem_of_mem_ofEntries (Dict.mem_of_get? hget))
      obtain rfl : name = declared := hroot.name
      refine .answered hselected (fun frame done hcompleted hname => ?_) (hroot.yields.hooked rfl)
      have hwritten : .completed frame done ∈ writings q.journal name :=
        mem_writings hcompleted (congrArg some hname)
      rw [hq.reached.writings_eq_nil (Bool.not_eq_true _ ▸ hreffed)] at hwritten
      cases hwritten

end

end Catalog

/-! ## Marks -/

namespace Definition

variable {definition : Definition}

/-- Marks the schema. -/
def see (definition : Definition) : Definition :=
  definition.insert "x-seen" (.bool true)

/-- The schema has the mark. -/
def IsSeen (definition : Definition) : Prop :=
  definition.get? "x-seen" = some (.bool true)

theorem isSeen_see : definition.see.IsSeen :=
  (get?_insert _ _ _ _).trans (if_pos rfl)

theorem IsSeen.of_same {other : Definition} (h : definition.IsSeen)
    (hsame : other.get? "x-seen" = definition.get? "x-seen") : other.IsSeen :=
  hsame.trans h

theorem not_isSeen_of_onlyKeys {P : String → Prop} (h : definition.OnlyKeys P) (hkey : ¬P "x-seen") :
    ¬definition.IsSeen := by
  intro hseen
  cases (get?_eq_none_of_not_contains (h.not_contains hkey)).symm.trans hseen

theorem get?_makeNullable : definition.makeNullable.get? "x-seen" = definition.get? "x-seen" :=
  (get?_insert_of_ne (by decide)).trans (get?_insert_of_ne (by decide))

end Definition

namespace Catalog

variable {catalog : Catalog} {q : Progress} {frame : Frame} {place : SchemaPlace}
  {definition part : Definition}

theorem hookKeepsPlaces_see (hhook : catalog.hook = Definition.see) : catalog.HookKeepsPlaces := by
  intro rule definition h
  rw [hhook]
  exact h.insert_other (by decide)

theorem Hooked.isSeen {request : Request} (h : catalog.Hooked q request definition)
    (hhook : catalog.hook = Definition.see) : definition.IsSeen := by
  obtain ⟨made, _, rfl⟩ := h
  rw [hhook]
  exact Definition.isSeen_see

/-- What comes from an answer that went through the hook has the mark. -/
theorem PlacesHooked.isSeen (h : catalog.PlacesHooked q place part)
    (hhook : catalog.hook = Definition.see) : part.IsSeen := by
  cases h with
  | property h property name =>
    exact (h.isSeen hhook).of_same (get?_propertyDefinition property name (by decide) (by decide))
  | branch h _ => exact h.isSeen hhook
  | null h _ => exact (h.isSeen hhook).of_same Definition.get?_makeNullable
  | item h => exact h.isSeen hhook
  | value h => exact h.isSeen hhook

theorem not_isSeen_of_settled {owner : Owner} (howner : catalog.Describes owner)
    (hsettled : settled? (some owner) = some definition) (hmark : ¬catalog.IsCommented "x-seen") :
    ¬definition.IsSeen := by
  obtain ⟨_, hsome, rfl, _⟩ := settled?_eq_some hsettled
  cases hsome
  exact Definition.not_isSeen_of_onlyKeys howner.onlyKeys hmark

/-- What annotations say of a type has no mark, unless they give it. -/
theorem PlacesSettled.not_isSeen (h : catalog.PlacesSettled place part)
    (hmark : ¬catalog.IsCommented "x-seen") : ¬part.IsSeen := by
  cases h with
  | property howner hsettled property name =>
    exact fun hseen => not_isSeen_of_settled howner hsettled hmark
      (hseen.of_same (get?_propertyDefinition property name (by decide) (by decide)).symm)
  | branch howner hsettled _ => exact not_isSeen_of_settled howner hsettled hmark
  | null howner hsettled _ =>
    exact fun hseen => not_isSeen_of_settled howner hsettled hmark
      (hseen.of_same Definition.get?_makeNullable.symm)

/-- **A completed definition has no mark**, unless the schema of a member was entered into it. -/
theorem Completes.not_isSeen (h : catalog.Completes q frame definition)
    (hmembers : frame.subject.node.kind.hasMembers = false)
    (hmark : ¬catalog.IsCommented "x-seen") : ¬definition.IsSeen := by
  obtain ⟨_, annotations, _, _, hannotations, hdefined⟩ := h.derivation
  have hdescribed := Definition.not_isSeen_of_onlyKeys (onlyKeys_description hannotations) hmark
  have hstart : ¬(if catalog.options.titles then
      annotations.definition.insert "title" (.string frame.plan.name)
      else annotations.definition).IsSeen := by
    split
    · exact fun hseen => hdescribed (hseen.of_same (Definition.get?_insert_of_ne (by decide)).symm)
    · exact hdescribed
  cases hdefined with
  | typed _ => exact hstart
  | composed _ hcomposed =>
    exact fun hseen => hstart (hseen.of_same (hcomposed.get?_of_not_mem hmembers (by decide)).symm)

/-- Which schemas of a definition have the mark: what a declaration was answered with has it; what was
completed for references has not, unless the schema of a member was entered into it; and that of a
property has it unless the annotations of the property say what it is. -/
structure ShowsMarks (catalog : Catalog) (q : Progress) (name : String) (definition : Definition) :
    Prop where
  answered : Untaken q.journal name → definition.IsSeen
  shared : ∀ frame, .completed frame definition ∈ q.journal →
    frame.subject.node.kind.hasMembers = false → ¬definition.IsSeen
  property : ∀ inner property part, definition.Within inner → inner.Hosts (.property property) part →
    catalog.PlacesCommented (.property property) part ∨
      (part.IsSeen ↔ ¬catalog.PlacesSettled (.property property) part)

theorem Places.isSeen_iff {property : String} (h : catalog.Places q (.property property) part)
    (hhook : catalog.hook = Definition.see) (hmark : ¬catalog.IsCommented "x-seen") :
    catalog.PlacesCommented (.property property) part ∨
      (part.IsSeen ↔ ¬catalog.PlacesSettled (.property property) part) := by
  rcases h with hhooked | hsettled | hfolded | hcommented
  · have hseen := hhooked.isSeen hhook
    exact .inr ⟨fun _ hsettled => hsettled.not_isSeen hmark hseen, fun _ => hseen⟩
  · exact .inr ⟨fun hseen => absurd hseen (hsettled.not_isSeen hmark), fun h => absurd hsettled h⟩
  · cases hfolded
  · exact .inl hcommented

/-- **What the hook sees.**  A request is answered through the hook, which is applied once, unless the
annotations of its owner settle it.  So every definition of a document that is not given is an answer
that went through the hook, or was completed for references to point to; and the other schemas in it are
such answers, unless annotations say what they are.  A hook that marks what it sees shows which. -/
theorem hook_sees (catalog : Catalog) (hgiven : (Dict.keys catalog.overrides).Nodup)
    (patterns : List NamePattern) (definitions : Dict Definition)
    (hresult : (catalog.schemas patterns).result = .ok definitions) :
    (∀ depth request (p q : Progress) answer, p.context.names.Sound → catalog.Described request →
      (catalog.buildWithin depth request).exec p = (.ok answer, q) →
        (∀ said, settled? request.owner = some said → answer = said) ∧
          (settled? request.owner = none → catalog.Hooked q request answer)) ∧
    ∃ q : Progress, q.journal = (catalog.schemas patterns).journal ∧
      ∀ name definition, (name, definition) ∈ definitions →
        catalog.ComesFrom q patterns name definition ∧
        ((name, definition) ∉ catalog.overrides →
          (catalog.HookKeepsPlaces → definition.Follows (catalog.Places q)) ∧
          (catalog.hook = Definition.see → ¬catalog.IsCommented "x-seen" →
            catalog.ShowsMarks q name definition)) := by
  refine ⟨fun depth request p q answer hp hdescribed hanswer => ?_, ?_⟩
  · have hyields := yields_of_answer hp hdescribed hanswer
    refine ⟨fun said hsaid => ?_, hyields.hooked⟩
    rcases yields_iff.1 hyields with hsettled | ⟨_, hmade, _⟩
    · exact Option.some.inj (hsettled.symm.trans hsaid)
    · cases hmade.unsettled.symm.trans hsaid
  · obtain ⟨q, hjournal, hcompletes, hcomes⟩ := comesFrom_of_schemas hgiven hresult
    refine ⟨q, hjournal, fun name definition hmem => ⟨hcomes name definition hmem, fun hbuilt => ?_⟩⟩
    have hfollows : catalog.HookKeepsPlaces → definition.Follows (catalog.Places q) := by
      intro hhook
      cases hcomes name definition hmem with
      | given hoverride => exact absurd hoverride hbuilt
      | shared _ hcompletes => exact hcompletes.places hhook
      | answered _ _ hhooked => exact (yields_iff.2 (.inr hhooked)).places hhook nofun
    refine ⟨hfollows, fun hhook hmark => ⟨fun huntaken => ?_, fun frame hmem hmembers => ?_, ?_⟩⟩
    · cases hcomes name definition hmem with
      | given hoverride => exact absurd hoverride hbuilt
      | shared hcompleted _ => exact absurd rfl (huntaken _ _ hcompleted)
      | answered _ _ hhooked => exact hhooked.isSeen hhook
    · exact (hcompletes frame definition hmem).not_isSeen hmembers hmark
    · exact fun inner property part hwithin hpart =>
        (hfollows (hookKeepsPlaces_see hhook) inner hwithin _ _ hpart).isSeen_iff hhook hmark

/-- A catalog of one declaration, with a hook that marks what it sees.  Of its properties one has a type,
one has a doc comment that says what it is, and one has an object in it that refers to itself. -/
def marking : Catalog where
  graph :=
    { types := #[{ kind := .string },
        { kind := .object [{ symbol := ⟨5⟩, type := ⟨1⟩, isOptional := true }] false none
          symbol := some ⟨1⟩ },
        { kind := .object [{ symbol := ⟨2⟩, type := ⟨0⟩ }, { symbol := ⟨3⟩, type := ⟨0⟩ },
            { symbol := ⟨4⟩, type := ⟨1⟩ }] false none
          symbol := some ⟨0⟩ }]
      symbols := #[{ name := "Root" }, { name := "Leaf" }, { name := "text" },
        { name := "told", tags := [{ name := "type", text := some "string" }] },
        { name := "leaf" }, { name := "next" }]
      declarations := [("Root", ⟨2⟩)] }
  declared := [("Root", ⟨2⟩)]
  hook := Definition.see

/-- What a call comes to that selects the declaration. -/
def markingOutcome : Outcome (Dict Definition) :=
  marking.schemas [.exact "Root"]

/-- Whether the schema has the mark. -/
def hasMark (definition : Definition) : Bool :=
  definition.contains "x-seen"

theorem not_isSeen_of_hasMark {definition : Definition} (h : hasMark definition = false) :
    ¬definition.IsSeen := by
  intro hseen
  rw [hasMark, Definition.contains, Dict.contains_of_get? hseen] at h
  cases h

/-- Neither the schema of the property whose doc comment says what it is nor the definition that is
referred to has the mark. -/
theorem marking_unseen : ∃ definitions root told leaf,
    markingOutcome.result = .ok definitions ∧ ("Root", root) ∈ definitions ∧
      root.Hosts (.property "told") told ∧ ¬told.IsSeen ∧
      ("Leaf", leaf) ∈ definitions ∧ ¬leaf.IsSeen := by
  have hmarks : (markingOutcome.result.toOption.any fun definitions =>
      ((Dict.get? definitions "Root").any fun root =>
        (propertySchema? root "told").any fun told => !hasMark told) &&
      (Dict.get? definitions "Leaf").any fun leaf => !hasMark leaf) = true := by
    decide +kernel
  cases hresult : markingOutcome.result with
  | error error =>
    rw [hresult] at hmarks
    cases hmarks
  | ok definitions =>
    rw [hresult] at hmarks
    obtain ⟨_, hsome, hboth⟩ := (Option.any_eq_true _ _).1 hmarks
    cases hsome
    obtain ⟨hfirst, hsecond⟩ := Bool.and_eq_true_iff.1 hboth
    obtain ⟨root, hroot, hparts⟩ := (Option.any_eq_true _ _).1 hfirst
    obtain ⟨told, htold, hunmarked⟩ := (Option.any_eq_true _ _).1 hparts
    obtain ⟨leaf, hleaf, hunmarked'⟩ := (Option.any_eq_true _ _).1 hsecond
    exact ⟨definitions, root, told, leaf, rfl, Dict.mem_of_get? hroot, hosts_of_propertySchema? htold,
      not_isSeen_of_hasMark (Bool.not_eq_true' _ ▸ hunmarked), Dict.mem_of_get? hleaf,
      not_isSeen_of_hasMark (Bool.not_eq_true' _ ▸ hunmarked')⟩

/-- The hook does not see every definition of a document, nor the schema of every property. -/
theorem exists_unseen :
    marking.graph.validate = .ok () ∧
    ofGraph marking.graph marking.options Modules.none = .ok { marking with hook := id } ∧
    marking.hook = Definition.see ∧
    ∃ definitions root told leaf, markingOutcome.result = .ok definitions ∧
      ("Root", root) ∈ definitions ∧ root.Hosts (.property "told") told ∧ ¬told.IsSeen ∧
      ("Leaf", leaf) ∈ definitions ∧ ¬leaf.IsSeen :=
  ⟨rfl, rfl, rfl, marking_unseen⟩

/-- The keywords of its doc comments. -/
theorem eq_type_of_isCommented_marking {key : String} (h : marking.IsCommented key) :
    key = "description" ∨ key = "type" := by
  have hentered : ∀ symbol ∈ marking.graph.symbols.toList, ∀ tag ∈ symbol.tags,
      marking.reader.entered? tag = some "type" := by
    decide +kernel
  rcases h with hdescription | ⟨symbol, hsymbol, tag, htag, hkey⟩
  · exact .inl hdescription
  · exact .inr (Option.some.inj (hkey.symm.trans (hentered symbol hsymbol tag htag)))

/-- The schema without a mark is there because the doc comment says so. -/
theorem hook_sees_marking : ∃ definitions root told,
    markingOutcome.result = .ok definitions ∧ ("Root", root) ∈ definitions ∧
      root.Hosts (.property "told") told ∧ marking.PlacesSettled (.property "told") told := by
  obtain ⟨definitions, root, told, _, hresult, hroot, htold, hunseen, _⟩ := marking_unseen
  have hmark : ¬marking.IsCommented "x-seen" := fun h => by
    rcases eq_type_of_isCommented_marking h with h | h <;> exact absurd h (by decide)
  have hcomment : ¬marking.PlacesCommented (.property "told") told :=
    not_placesCommented fun key hkey => by
      rcases eq_type_of_isCommented_marking hkey with rfl | rfl <;> decide
  obtain ⟨_, q, _, hdefinitions⟩ := hook_sees marking List.nodup_nil _ definitions hresult
  have hmarks := ((hdefinitions "Root" root hroot).2 List.not_mem_nil).2 rfl hmark
  refine ⟨definitions, root, told, hresult, hroot, htold, ?_⟩
  have hiff := (hmarks.property root "told" told .here htold).resolve_left hcomment
  exact Classical.byContradiction fun hsettled => hunseen (hiff.2 hsettled)

end Catalog

end TypeSchema
