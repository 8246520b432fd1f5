import TypeSchema.Proofs.Objects.Keys
import TypeSchema.Proofs.Objects.Undefined

/-!
# How `null` is written

There are two ways to write `null` in a schema: as a type of its own, or with the keyword `nullable`
beside the type `object`.  The options choose one for a whole document.

The rule for `null` obeys the choice, and so does the one for unions, which rewrites a member of type
`null`.  Everything after that only moves schemas: into a branch, into the place of a union that has a
single one, or onto a primitive.  What a schema says of `null` are its entries `type` and `nullable`, so
a step that enters another keyword changes nothing (`Definition.SaysSameOfNull`), and a schema that is
entered into one that says neither has the last word (`Definition.saysSameOfNull_merge`).
**`Catalog.writesNull_of_schemas`** says that the other way of writing `null` is nowhere in a document.
-/

set_option autoImplicit false

namespace TypeSchema

open Definition

/-- The value under `type` names `null`, by itself or among others. -/
def Json.NamesNull (value : Json) : Prop :=
  value = .string "null" ∨ ∃ names, value = .array names ∧ .string "null" ∈ names

namespace Definition

variable {definition other : Definition} {key name : String} {value : Json} {byKeyword : Bool}

/-- The schema has `null` written the one way and not the other: with the keyword `nullable`, which then
is `true` and stands beside the type `object`, or without it. -/
def WritesNull (byKeyword : Bool) (definition : Definition) : Prop :=
  match byKeyword with
  | true => (∀ value, definition.get? "type" = some value → ¬value.NamesNull) ∧
      ∀ value, definition.get? "nullable" = some value →
        value = .bool true ∧ definition.get? "type" = some (.string "object")
  | false => definition.get? "nullable" = none

/-- The schemas say the same of `null`. -/
structure SaysSameOfNull (definition other : Definition) : Prop where
  type : definition.get? "type" = other.get? "type"
  nullable : definition.get? "nullable" = other.get? "nullable"

/-- The schema says nothing of `null`. -/
structure SaysNothingOfNull (definition : Definition) : Prop where
  type : definition.get? "type" = none
  nullable : definition.get? "nullable" = none

theorem WritesNull.of_same (h : other.WritesNull byKeyword)
    (hsame : definition.SaysSameOfNull other) : definition.WritesNull byKeyword := by
  cases byKeyword with
  | true =>
    rw [WritesNull, hsame.type, hsame.nullable]
    exact h
  | false =>
    rw [WritesNull, hsame.nullable]
    exact h

theorem SaysNothingOfNull.writesNull (h : definition.SaysNothingOfNull) :
    definition.WritesNull byKeyword := by
  cases byKeyword with
  | true => exact ⟨by simp [h.type], by simp [h.nullable]⟩
  | false => exact h.nullable

theorem saysNothingOfNull_of_keys
    (h : definition.OnlyKeys fun key => key ≠ "type" ∧ key ≠ "nullable") :
    definition.SaysNothingOfNull where
  type := get?_eq_none_of_not_contains (h.not_contains (by simp))
  nullable := get?_eq_none_of_not_contains (h.not_contains (by simp))

theorem IsDescriptive.saysNothingOfNull (h : definition.IsDescriptive) :
    definition.SaysNothingOfNull :=
  saysNothingOfNull_of_keys (h.mono fun key hkey => by rcases hkey with rfl | rfl <;> decide)

theorem saysNothingOfNull_refAnnotations : definition.refAnnotations.SaysNothingOfNull :=
  saysNothingOfNull_of_keys (OnlyKeys.refAnnotations.mono fun key hkey => by
    simp only [descriptive, List.mem_cons, List.not_mem_nil, or_false] at hkey
    rcases hkey with rfl | rfl | rfl <;> decide)

/-! ## The steps of the rules -/

/-- Another keyword is entered. -/
theorem saysSameOfNull_insert (htype : key ≠ "type") (hnullable : key ≠ "nullable") :
    (definition.insert key value).SaysSameOfNull definition :=
  ⟨get?_insert_of_ne htype, get?_insert_of_ne hnullable⟩

theorem SaysSameOfNull.trans {last : Definition} (h : definition.SaysSameOfNull other)
    (hother : other.SaysSameOfNull last) : definition.SaysSameOfNull last :=
  ⟨h.type.trans hother.type, h.nullable.trans hother.nullable⟩

theorem saysSameOfNull_merge (h : definition.SaysNothingOfNull) (hother : other.HasUniqueKeys) :
    (definition.merge other).SaysSameOfNull other where
  type := by rw [get?_merge hother, h.type, Option.or_none]
  nullable := by rw [get?_merge hother, h.nullable, Option.or_none]

/-- A type that is not `null` is entered. -/
theorem SaysNothingOfNull.insert_type (h : definition.SaysNothingOfNull) {value : Json}
    (hvalue : byKeyword = true → ¬value.NamesNull) :
    (definition.insert "type" value).WritesNull byKeyword := by
  have hnone : (definition.insert "type" value).get? "nullable" = none := by
    rw [get?_insert_of_ne (by decide), h.nullable]
  cases byKeyword with
  | true =>
    refine ⟨fun found hfound => ?_, fun found hfound => ?_⟩
    · rw [get?_insert, if_pos rfl, Option.some.injEq] at hfound
      exact hfound ▸ hvalue rfl
    · rw [hnone] at hfound
      cases hfound
  | false => exact hnone

theorem namesNull_string : (Json.string name).NamesNull ↔ name = "null" := by
  simp [Json.NamesNull]

theorem SaysNothingOfNull.setType (h : definition.SaysNothingOfNull)
    (hname : byKeyword = true → name ≠ "null") :
    (definition.setType name).WritesNull byKeyword :=
  h.insert_type fun hkeyword => mt namesNull_string.1 (hname hkeyword)

/-- What is written with the keyword has not the name `null`. -/
theorem WritesNull.typeName?_ne (h : definition.WritesNull true) :
    definition.typeName? ≠ some "null" :=
  fun hname => h.1 _ (get?_of_typeName? hname) (namesNull_string.2 rfl)

/-- `null` written with the keyword. -/
theorem writesNull_of_nullable (htype : definition.get? "type" = some (.string "object"))
    (hnullable : definition.get? "nullable" = some (.bool true)) : definition.WritesNull true := by
  refine ⟨fun value hvalue => ?_, fun value hvalue => ?_⟩
  · cases htype.symm.trans hvalue
    exact mt namesNull_string.1 (by decide)
  · exact ⟨Option.some.inj (hvalue.symm.trans hnullable), htype⟩

theorem writesNull_insert_nullable :
    ((definition.setType "object").insert "nullable" (.bool true)).WritesNull true :=
  writesNull_of_nullable (by simp [get?_insert, Definition.setType]) (by simp [get?_insert])

theorem writesNull_makeNullable : definition.makeNullable.WritesNull true :=
  writesNull_insert_nullable

/-- Entries that say what `null` written with the keyword says. -/
theorem get?_of_isNullableNull (h : isNullableNull definition = true) :
    definition.get? "type" = some (.string "object") ∧
      definition.get? "nullable" = some (.bool true) := by
  obtain ⟨hnamed, hnullable⟩ := Bool.and_eq_true_iff.1 h
  refine ⟨get?_of_typeName? (eq_of_beq (Bool.and_eq_true_iff.1 hnamed).2), ?_⟩
  split at hnullable
  · assumption
  · cases hnullable

/-- Uniting keeps the way in which the branches write `null`. -/
theorem SaysNothingOfNull.unite {schemas : List Definition} (h : definition.SaysNothingOfNull)
    (hkeys : ∀ schema ∈ schemas, schema.HasUniqueKeys)
    (hschemas : ∀ schema ∈ schemas, schema.WritesNull byKeyword) (keyword : UnionKeyword) :
    (definition.unite keyword byKeyword schemas).WritesNull byKeyword := by
  rcases unite_cases definition keyword byKeyword schemas with
    ⟨only, rfl, heq⟩ | ⟨primitive, null, rfl, hboth, heq⟩ | heq
  · rw [heq]
    have hsame := saysSameOfNull_merge h (hkeys _ (List.mem_singleton.2 rfl))
    exact (hschemas _ (List.mem_singleton.2 rfl)).of_same hsame
  · obtain ⟨_, hnull⟩ := mem_of_primitiveAndNull? hboth
    obtain ⟨htype, hnullable⟩ := get?_of_isNullableNull (of_primitiveAndNull? hboth).2.2
    rw [heq]
    refine writesNull_of_nullable ?_ ?_
    · rw [get?_merge (hkeys _ hnull), htype, Option.some_or]
    · rw [get?_merge (hkeys _ hnull), hnullable, Option.some_or]
  · rw [heq]
    refine h.writesNull.of_same (saysSameOfNull_insert ?_ ?_)
    · cases keyword <;> decide
    · cases keyword <;> decide

theorem SaysNothingOfNull.intersect {schemas : List Definition} (h : definition.SaysNothingOfNull)
    (hkeys : ∀ schema ∈ schemas, schema.HasUniqueKeys)
    (hschemas : ∀ schema ∈ schemas, schema.WritesNull byKeyword) :
    (definition.intersect schemas).WritesNull byKeyword := by
  rcases intersect_cases definition schemas with ⟨only, rfl, heq⟩ | heq
  · rw [heq]
    have hsame := saysSameOfNull_merge h (hkeys _ (List.mem_singleton.2 rfl))
    exact (hschemas _ (List.mem_singleton.2 rfl)).of_same hsame
  · rw [heq]
    exact h.writesNull.of_same (saysSameOfNull_insert (by decide) (by decide))

end Definition

/-! ## Constants -/

theorem LiteralKind.name_ne_null {kind : LiteralKind} (h : kind ≠ .null) : kind.name ≠ "null" := by
  cases kind with
  | null => exact absurd rfl h
  | _ => decide

/-- Literal types are not `null`. -/
theorem TypeKind.literal?_ne_null {kind : TypeKind} {value : Literal}
    (h : kind.literal? = some value) : value.kind ≠ .null := by
  intro hnull
  cases kind with
  | enumLiteral text =>
    simp only [TypeKind.literal?] at h
    split at h <;> cases h <;> cases hnull
  | stringLiteral _ | numberLiteral _ | booleanLiteral _ =>
    cases h
    cases hnull
  | _ => cases h

/-- The constant of the member is not `null`, and its initializer is not either. -/
def EnumMember.IsNotNull (member : EnumMember) : Prop :=
  member.value ≠ some .null ∧
    ∀ source, member.initializer = some source → EnumMember.fromInitializer? source ≠ some .null

theorem EnumMember.IsNotNull.value?_ne {member : EnumMember} (h : member.IsNotNull) :
    member.value? ≠ some .null := by
  cases hvalue : member.value with
  | some constant =>
    have heq : member.value? = member.value := by rw [EnumMember.value?, hvalue]
    exact heq ▸ h.1
  | none =>
    cases hsource : member.initializer with
    | none => simp [EnumMember.value?, hvalue, hsource]
    | some source =>
      simp only [EnumMember.value?, hvalue, hsource]
      exact h.2 source hsource

namespace Enumeration

theorem mem_kinds {values : List Literal} {kind : LiteralKind} (h : kind ∈ kinds values) :
    ∃ value ∈ values, value.kind = kind := by
  refine List.foldlRecOn values _ (motive := fun found : List LiteralKind =>
    ∀ kind ∈ found, ∃ value ∈ values, value.kind = kind) (List.forall_mem_nil _)
    (fun found hfound value hmem kind hkind => ?_) kind h
  split at hkind
  · exact hfound kind hkind
  · rcases List.mem_append.1 hkind with hold | hnew
    · exact hfound kind hold
    · exact ⟨value, hmem, (List.mem_singleton.1 hnew).symm⟩

theorem null_not_mem_kinds {members : List EnumMember} (h : ∀ member ∈ members, member.IsNotNull) :
    .null ∉ kinds (values members) := by
  intro hkind
  obtain ⟨value, hvalue, hnull⟩ := mem_kinds hkind
  obtain ⟨member, hmember, hsome⟩ := List.mem_filterMap.1 hvalue
  cases value with
  | null => exact (h member hmember).value?_ne hsome
  | _ => cases hnull

/-- An enum has the types of its constants. -/
theorem writesNull_define {members : List EnumMember} {definition : Definition} {byKeyword : Bool}
    (h : definition.SaysNothingOfNull) (hmembers : ∀ member ∈ members, member.IsNotNull) :
    (define members definition).WritesNull byKeyword := by
  have hnull := null_not_mem_kinds hmembers
  have hkinds : (insertKinds definition (kinds (values members))).WritesNull byKeyword := by
    generalize kinds (values members) = found at hnull
    unfold insertKinds
    split
    · exact h.writesNull
    · rename_i kind
      exact h.setType fun _ => LiteralKind.name_ne_null fun heq => hnull (heq ▸ List.mem_singleton_self _)
    · refine h.insert_type fun _ hnames => ?_
      rcases hnames with heq | ⟨names, heq, hmem⟩
      · cases heq
      · cases heq
        obtain ⟨name, hname, heq⟩ := List.mem_map.1 hmem
        obtain ⟨kind, hkind, rfl⟩ := List.mem_map.1 hname
        exact LiteralKind.name_ne_null (fun hnone => hnull (hnone ▸ hkind)) (Json.string.inj heq)
  unfold define
  dsimp only
  split
  · exact hkinds
  · exact hkinds.of_same (saysSameOfNull_insert (by decide) (by decide))

end Enumeration

theorem Branches.writesNull_valuesSchema (values : List Literal) (byKeyword : Bool) :
    (valuesSchema values).WritesNull byKeyword := by
  have hempty : Definition.empty.SaysNothingOfNull := ⟨rfl, rfl⟩
  have hlisted : (if isBothBooleans values then Definition.empty else
      Definition.empty.insert "enum"
        (.array ((Literal.sort values).map Literal.toJson))).SaysNothingOfNull := by
    split
    · exact hempty
    · exact ⟨rfl, rfl⟩
  unfold valuesSchema
  dsimp only
  split
  · exact hlisted.writesNull
  · exact hlisted.writesNull
  · rename_i kind hkind _
    exact hlisted.setType fun _ => LiteralKind.name_ne_null hkind

theorem Factors.not_namesNull_typesJson {types : List String} (h : "null" ∉ types) :
    ¬(typesJson types).NamesNull := by
  unfold typesJson
  split
  · exact fun hnames => h (List.mem_singleton.2 (namesNull_string.1 hnames).symm)
  · rintro (heq | ⟨names, heq, hmem⟩)
    · cases heq
    · cases heq
      obtain ⟨name, hname, heq⟩ := List.mem_map.1 hmem
      exact h (Json.string.inj heq ▸ hname)

/-! ## Answers -/

namespace Catalog

variable {catalog : Catalog} {p : Progress} {request : Request} {frame : Frame} {subject : Subject}
  {owner : Option Owner} {keyword : UnionKeyword} {isRaw : Bool} {start definition : Definition}
  {annotations : Annotations} {Part : Request → Definition → Prop}

/-- No member of an enum is `null`. -/
def EnumsAreNotNull (catalog : Catalog) : Prop :=
  ∀ node ∈ catalog.graph.types.toList, ∀ members, node.kind = .enum members →
    ∀ member ∈ members, member.IsNotNull

/-- The schema writes `null` as the options say, and repeats no key. -/
def WritesNull (catalog : Catalog) (definition : Definition) : Prop :=
  definition.WritesNull catalog.options.usesNullableKeyword ∧ definition.HasUniqueKeys

section Composition

variable (hanswers : ∀ answer, catalog.AnswersPart Part answer → catalog.WritesNull answer)

include hanswers

theorem writesNull_branches {members : List TypeId} {contributions : List Contribution}
    (h : List.Forall₂ (catalog.Contributes Part) members contributions) :
    ∀ schema ∈ (contributions.foldl (Branches.enter catalog.options.usesNullableKeyword) {}).all,
      schema.WritesNull catalog.options.usesNullableKeyword := by
  intro schema hmem
  rcases Branches.mem_all_foldl hmem with ⟨hmember, _⟩ | ⟨null, _, hkeyword, _, rfl⟩ | ⟨values, rfl⟩
  · exact (hanswers _ (answersPart_of_contributes h hmember)).1
  · rw [hkeyword]
    exact writesNull_makeNullable
  · exact Branches.writesNull_valuesSchema _ _

theorem writesNull_factors {members : List TypeId} {schemas : List Definition}
    (h : List.Forall₂ (fun id schema => Part (catalog.member id) schema) members schemas) :
    ∀ schema ∈ (schemas.foldl Factors.enter {}).all,
      schema.WritesNull catalog.options.usesNullableKeyword := by
  intro schema hmem
  rcases Factors.mem_all_foldl hmem with ⟨hmember, _⟩ | rfl
  · exact (hanswers _ (answersPart_of_forall₂ h schema hmember)).1
  · -- Type names that are folded are those of members.
    refine SaysNothingOfNull.insert_type ⟨rfl, rfl⟩ fun hkeyword =>
      Factors.not_namesNull_typesJson fun hnull => ?_
    obtain ⟨⟨member, hmember, hname⟩, _⟩ := (Factors.mem_types_foldl hnull).resolve_left List.not_mem_nil
    have hwrites := (hanswers _ (answersPart_of_forall₂ h member hmember)).1
    rw [hkeyword] at hwrites
    exact hwrites.typeName?_ne hname

theorem writesNull_keeping {property : Property} {kept : KeptProperty}
    (h : catalog.Keeping Part property (some kept)) :
    kept.schema.WritesNull catalog.options.usesNullableKeyword := by
  obtain ⟨answer, hanswer, _, heq⟩ := h.answersPart
  rw [heq]
  exact (hanswers answer hanswer).1.of_same
    ⟨get?_propertyDefinition _ _ (by decide) (by decide),
      get?_propertyDefinition _ _ (by decide) (by decide)⟩

/-- **Rules write `null`** as the options say. -/
theorem Composed.writesNull (hsubject : subject.node ∈ catalog.graph.types.toList)
    (henums : catalog.EnumsAreNotNull) (hstart : start.SaysNothingOfNull)
    (h : catalog.Composed Part keyword owner subject isRaw start definition) :
    definition.WritesNull catalog.options.usesNullableKeyword := by
  have hkeys : ∀ answer, catalog.AnswersPart Part answer → answer.typeName? ≠ some "undefined" →
      answer.HasUniqueKeys := fun answer hanswer _ => (hanswers answer hanswer).2
  have htyped : ∀ {name : String}, name ≠ "null" →
      (start.setType name).WritesNull catalog.options.usesNullableKeyword :=
    fun hname => hstart.setType fun _ => hname
  have hobject := htyped (by decide : "object" ≠ "null")
  cases h with
  | union _ hmembers =>
    exact hstart.unite (branches_keep HasUniqueKeys.isKept hkeys hmembers)
      (writesNull_branches hanswers hmembers) _
  | intersection _ hmembers =>
    exact hstart.intersect (factors_keep HasUniqueKeys.isKept hkeys hmembers)
      (writesNull_factors hanswers hmembers)
  | tuple _ _ =>
    exact (htyped (by decide)).of_same
      ⟨get?_setTuple _ _ _ (by decide), get?_setTuple _ _ _ (by decide)⟩
  | keyword hname =>
    generalize subject.node.kind = kind at hname
    cases hname with
    | null hkeyword => exact hstart.setType (by simp [hkeyword])
    | _ => exact htyped (by decide)
  | nullable _ hkeyword =>
    rw [hkeyword]
    exact writesNull_insert_nullable
  | anything _ => exact hstart.writesNull
  | anyObject _ =>
    exact hobject.of_same ((saysSameOfNull_insert (by decide) (by decide)).trans
      (saysSameOfNull_insert (by decide) (by decide)))
  | date _ _ _ _ =>
    exact (htyped (by decide)).of_same
      ⟨get?_insertNew_of_ne (by decide), get?_insertNew_of_ne (by decide)⟩
  | literal hliteral =>
    exact (htyped (LiteralKind.name_ne_null (TypeKind.literal?_ne_null hliteral))).of_same
      (saysSameOfNull_insert (by decide) (by decide))
  | listed _ _ _ => exact htyped (by decide)
  | array _ _ _ =>
    exact (htyped (by decide)).of_same (saysSameOfNull_insert (by decide) (by decide))
  | enum hkind => exact Enumeration.writesNull_define hstart (henums _ hsubject _ hkind)
  | emptyObject _ _ =>
    exact hobject.of_same (saysSameOfNull_insert (by decide) (by decide))
  | dictionary _ _ _ =>
    exact hobject.of_same ((saysSameOfNull_insert (by decide) (by decide)).trans
      (saysSameOfNull_insert (by decide) (by decide)))
  | subtypes _ _ _ _ _ _ _ _ =>
    exact hstart.writesNull.of_same (saysSameOfNull_insert (by decide) (by decide))
  | object _ _ _ =>
    have hlisted : (start.insertNew "type" (.string "object")).WritesNull
        catalog.options.usesNullableKeyword := by
      rw [Definition.insertNew, Dict.insertNew]
      split
      · exact hstart.writesNull
      · exact hobject
    exact hlisted.of_same ⟨get?_listProperties _ _ (by decide) (by decide),
      get?_listProperties _ _ (by decide) (by decide)⟩

end Composition

/-- Everywhere in a schema `null` is written as the options say. -/
def NullRule (catalog : Catalog) : SchemaPlace → Definition → Prop :=
  fun _ schema => schema.WritesNull catalog.options.usesNullableKeyword

/-- What is said of an answer: it writes `null` as the options say, and so does whatever stands in it. -/
def WritesNullThroughout (catalog : Catalog) (definition : Definition) : Prop :=
  catalog.WritesNull definition ∧ definition.Follows catalog.NullRule

theorem allows_nullRule (howner : ∀ o, owner = some o → catalog.Describes o)
    (hanswers : ∀ part answer, Part part answer →
      (∀ o, part.owner = some o → catalog.Describes o) → catalog.WritesNullThroughout answer) :
    catalog.Allows catalog.NullRule Part owner := by
  have hwrites : ∀ answer, catalog.AnswersPart Part answer → catalog.WritesNull answer :=
    fun answer ⟨part, hanswer, hdescribed⟩ => (hanswers part answer hanswer hdescribed).1
  exact {
    answer := fun part answer hanswer howner => (hanswers part answer hanswer howner).2
    item := fun _ _ hanswer => (hwrites _ (answersPart_member hanswer)).1
    value := fun part answer hanswer heq => (hwrites answer ⟨part, hanswer, heq ▸ howner⟩).1
    property := fun _ _ hkeeping => writesNull_keeping hwrites hkeeping
    branch := fun _ _ _ hmembers => writesNull_branches hwrites hmembers
    factor := fun _ _ hmembers => writesNull_factors hwrites hmembers
    subtype := fun _ _ _ _ hschemas schema hmem =>
      (hwrites schema (answersPart_of_forall₂ hschemas schema hmem)).1 }

/-- What is defined writes `null` as the options say, everywhere. -/
theorem Defined.writesNull (henums : catalog.EnumsAreNotNull)
    (hsubject : subject.node ∈ catalog.graph.types.toList)
    (hanswers : ∀ part answer, Part part answer →
      (∀ o, part.owner = some o → catalog.Describes o) → catalog.WritesNullThroughout answer)
    (howner : ∀ o, owner = some o → catalog.Describes o) (hstart : start.IsDescriptive)
    (hkeys : start.HasUniqueKeys)
    (h : catalog.Defined Part keyword owner subject isRaw start definition) :
    catalog.WritesNullThroughout definition := by
  have hwrites : ∀ answer, catalog.AnswersPart Part answer → catalog.WritesNull answer :=
    fun answer ⟨part, hanswer, hdescribed⟩ => (hanswers part answer hanswer hdescribed).1
  have hunique := h.hasUniqueKeys (fun answer hanswer => (hwrites answer hanswer).2) howner hkeys
  have hcomposed := h.composed_of_not_contains hstart.not_contains
  exact ⟨⟨hcomposed.writesNull hwrites hsubject henums hstart.saysNothingOfNull, hunique⟩,
    hcomposed.follows (allows_nullRule howner hanswers) howner hstart.follows⟩

/-- A reference says of `null` what stands beside it says. -/
theorem writesNullThroughout_reference {path : String} {beside : Definition}
    (hbeside : beside.SaysNothingOfNull) (hkeys : beside.HasUniqueKeys)
    (hfollows : beside.Follows catalog.NullRule) :
    catalog.WritesNullThroughout ((reference path).merge beside) := by
  have hreference : (reference path).SaysNothingOfNull := ⟨rfl, rfl⟩
  exact ⟨⟨hbeside.writesNull.of_same (saysSameOfNull_merge hreference hkeys),
    (HasUniqueKeys.reference path).merge hkeys⟩, follows_reference_merge hfollows⟩

/-- **Answers write `null`** as the options say. -/
theorem Yields.writesNull (h : catalog.Yields p request definition) (hhook : catalog.hook = id)
    (huntagged : catalog.IsUntagged) (henums : catalog.EnumsAreNotNull)
    (howner : ∀ o, request.owner = some o → catalog.Describes o) :
    catalog.WritesNullThroughout definition := by
  have defined : ∀ {Part : Request → Definition → Prop} {request : Request} {frame : Frame}
      {annotations : Annotations} {schema : Definition},
      (∀ part answer, Part part answer → (∀ o, part.owner = some o → catalog.Describes o) →
        catalog.WritesNullThroughout answer) →
      (∀ o, request.owner = some o → catalog.Describes o) → catalog.Frames p request frame →
      catalog.description frame.subject.describing = .ok annotations →
      catalog.Defined Part request.unionKeyword request.owner frame.subject frame.plan.isRaw
        (annotations.definition.merge (ownerKeywords request.owner)) schema →
      catalog.WritesNullThroughout schema := by
    intro Part request frame annotations schema hanswers howner hframe hannotations hschema
    have hsubject := TypeGraph.mem_types (TypeGraph.unwrap_subject hframe.subject).1
    have hstart := huntagged.descriptive
      ((onlyKeys_description hannotations).merge (onlyKeys_ownerKeywords howner))
    exact hschema.writesNull henums hsubject hanswers howner hstart
      ((hasUniqueKeys_description hannotations).merge (hasUniqueKeys_ownerKeywords howner))
  induction h with
  | settled hsettled =>
    rw [huntagged.unsettled howner] at hsettled
    cases hsettled
  | inline _ hframe _ hannotations hschema ih =>
    rw [hhook]
    exact defined ih howner hframe hannotations hschema
  | linked _ hframe _ hannotations hschema _ ih =>
    rw [hhook]
    obtain ⟨⟨_, hkeys⟩, hfollows⟩ := defined ih howner hframe hannotations hschema
    exact writesNullThroughout_reference saysNothingOfNull_refAnnotations hkeys.refAnnotations
      hfollows.refAnnotations
  | referred _ _ hbeside _ =>
    rw [hhook]
    have hkeywords := huntagged.descriptive (onlyKeys_ownerKeywords howner)
    have hkeys := hasUniqueKeys_ownerKeywords howner
    cases hbeside with
    | all _ =>
      exact writesNullThroughout_reference hkeywords.saysNothingOfNull hkeys hkeywords.follows
    | descriptive _ =>
      exact writesNullThroughout_reference saysNothingOfNull_refAnnotations
        ((HasUniqueKeys.reference _).merge hkeys).refAnnotations
        (follows_reference_merge hkeywords.follows).refAnnotations

/-- So do completed definitions. -/
theorem Completes.writesNull (h : catalog.Completes p frame definition) (hhook : catalog.hook = id)
    (huntagged : catalog.IsUntagged) (henums : catalog.EnumsAreNotNull) :
    catalog.WritesNullThroughout definition := by
  obtain ⟨request, annotations, hdescribed, hframe, hannotations, hdefined⟩ := h.derivation
  have hsubject := TypeGraph.mem_types (TypeGraph.unwrap_subject hframe.subject).1
  have hdescriptive := huntagged.descriptive (onlyKeys_description hannotations)
  have hkeys := hasUniqueKeys_description hannotations
  refine hdefined.writesNull henums hsubject
    (fun _ _ hpart howner => hpart.writesNull hhook huntagged henums howner)
    (fun o ho => (hdescribed o ho).1) ?_ ?_
  · split
    · exact OnlyKeys.insert hdescriptive (.inr rfl)
    · exact hdescriptive
  · split
    · exact hkeys.insert_string _
    · exact hkeys

/-! ## Documents -/

/-- **Null is written one way only.**  Where no doc comment has tags, nothing is given and no enum has a
member `null`, every schema of a document, wherever it stands, writes `null` in the way the options
choose: with `nullable: true` beside the type `object` and never as a type, or without the keyword
`nullable`. -/
theorem writesNull_of_schemas (catalog : Catalog) (hoverrides : catalog.overrides = [])
    (hhook : catalog.hook = id) (huntagged : catalog.IsUntagged) (henums : catalog.EnumsAreNotNull)
    (patterns : List NamePattern) (definitions : Dict Definition)
    (hresult : (catalog.schemas patterns).result = .ok definitions) {name : String}
    {root inner : Definition} (hroot : (name, root) ∈ definitions) (hwithin : root.Within inner) :
    inner.WritesNull catalog.options.usesNullableKeyword := by
  have hgiven : ∀ entry ∈ catalog.overrides, catalog.WritesNullThroughout entry.2 := by
    rw [hoverrides]
    exact List.forall_mem_nil _
  have hempty : catalog.WritesNullThroughout Definition.empty :=
    ⟨⟨SaysNothingOfNull.writesNull ⟨rfl, rfl⟩, .empty⟩, follows_of_keys (List.forall_mem_nil _)⟩
  obtain ⟨hown, hfollows⟩ := schemas_induction (P := catalog.WritesNullThroughout) hgiven hempty
    (fun _ _ _ h => h.writesNull hhook huntagged henums)
    (fun _ _ _ h => h.writesNull hhook huntagged henums nofun) hresult (name, root) hroot
  exact Follows.of_within hfollows hown.1 hwithin

/-- A catalog of one declaration with two properties: one may be `null` instead of a text, the other is a
pair of a number and `null`. -/
def nullables : Catalog where
  graph :=
    { types := #[{ kind := .null }, { kind := .string }, { kind := .number },
        { kind := .union [⟨1⟩, ⟨0⟩] }, { kind := .tuple [⟨2⟩, ⟨0⟩] 2 false },
        { kind := .object [{ symbol := ⟨1⟩, type := ⟨3⟩ }, { symbol := ⟨2⟩, type := ⟨4⟩ }] false none
          symbol := some ⟨0⟩ }]
      symbols := #[{ name := "Root" }, { name := "a" }, { name := "b" }]
      declarations := [("Root", ⟨5⟩)] }
  declared := [("Root", ⟨5⟩)]

/-- What a call comes to that selects the declaration. -/
def nullablesOutcome : Outcome (Dict Definition) :=
  nullables.schemas [.exact "Root"]

/-- The schema of the first property has the keyword `nullable`, and so it is the type `object`. -/
theorem writesNull_nullables : ∃ definitions root inner,
    ofGraph nullables.graph nullables.options Modules.none = .ok nullables ∧
      nullablesOutcome.result = .ok definitions ∧ ("Root", root) ∈ definitions ∧
      propertySchema? root "a" = some inner ∧ inner.get? "nullable" = some (.bool true) ∧
      inner.get? "type" = some (.string "object") := by
  have hnullable : (nullablesOutcome.result.toOption.any fun definitions =>
      (Dict.get? definitions "Root").any fun root =>
        (propertySchema? root "a").any fun inner =>
          (inner.get? "nullable").isSome) = true := by
    decide +kernel
  have huntagged : nullables.IsUntagged := by
    unfold IsUntagged
    decide
  have henums : nullables.EnumsAreNotNull := by
    intro node hnode members hkind
    have hnone : ∀ node ∈ nullables.graph.types.toList, node.isEnum = false := by decide
    have := hnone node hnode
    simp [TypeNode.isEnum, hkind] at this
  cases hresult : nullablesOutcome.result with
  | error error =>
    rw [hresult] at hnullable
    cases hnullable
  | ok definitions =>
    rw [hresult] at hnullable
    obtain ⟨_, hsome, hroots⟩ := (Option.any_eq_true _ _).1 hnullable
    cases hsome
    obtain ⟨root, hroot, hparts⟩ := (Option.any_eq_true _ _).1 hroots
    obtain ⟨inner, hinner, hkeyword⟩ := (Option.any_eq_true _ _).1 hparts
    obtain ⟨value, hvalue⟩ := Option.isSome_iff_exists.1 hkeyword
    have hwrites := writesNull_of_schemas nullables rfl rfl huntagged henums _ definitions hresult
      (Dict.mem_of_get? hroot) (.under (hosts_of_propertySchema? hinner) .here)
    obtain ⟨rfl, htype⟩ := hwrites.2 value hvalue
    exact ⟨definitions, root, inner, rfl, rfl, Dict.mem_of_get? hroot, hinner, hvalue, htype⟩

end Catalog

end TypeSchema
