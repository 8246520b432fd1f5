import TypeSchema.Proofs.Building.Assembly
import TypeSchema.Proofs.Building.Calls
import TypeSchema.Proofs.Building.Keywords

/-!
# Schemas repeat no key

A rule enters keywords one after the other, and entering a keyword that is there replaces it.  So no
object in a schema repeats a key (`Catalog.Composed.hasUniqueKeys`), whatever doc comments say: the
value of a tag is one that was read.  What is given from outside, overrides and the hook, has to be
such as well (`Catalog.KeysGiven`).
-/

set_option autoImplicit false

namespace TypeSchema

namespace Definition

/-- No object in the schema repeats a key. -/
def HasUniqueKeys (definition : Definition) : Prop :=
  definition.toJson.HasUniqueKeys

variable {definition other : Definition} {key : String} {value : Json}

/-- Schemas listed in an array repeat no key if none of them does. -/
theorem hasUniqueKeys_array {schemas : List Definition} (h : ∀ schema ∈ schemas, schema.HasUniqueKeys) :
    (Json.array (schemas.map toJson)).HasUniqueKeys := by
  refine Json.hasUniqueKeys_array.2 fun value hvalue => ?_
  obtain ⟨schema, hschema, rfl⟩ := List.mem_map.1 hvalue
  exact h schema hschema

namespace HasUniqueKeys

theorem nodup (h : definition.HasUniqueKeys) : (Dict.keys definition).Nodup :=
  (Json.hasUniqueKeys_object.1 h).1

/-- What a schema has under a key repeats no key either. -/
theorem get? (h : definition.HasUniqueKeys) (hget : definition.get? key = some value) :
    value.HasUniqueKeys :=
  Json.HasUniqueKeys.of_get? h (show definition.toJson.get? key = some value from hget)

theorem empty : Definition.empty.HasUniqueKeys :=
  Json.hasUniqueKeys_object.2 ⟨List.nodup_nil, List.forall_mem_nil _⟩

theorem reference (path : String) : (reference path).HasUniqueKeys :=
  Json.hasUniqueKeys_object.2 ⟨List.nodup_singleton _,
    List.forall_mem_singleton.2 (Json.hasUniqueKeys_string path)⟩

theorem insert (h : definition.HasUniqueKeys) (hvalue : value.HasUniqueKeys) :
    (definition.insert key value).HasUniqueKeys :=
  Json.HasUniqueKeys.insert h hvalue

theorem merge (h : definition.HasUniqueKeys) (hother : other.HasUniqueKeys) :
    (definition.merge other).HasUniqueKeys :=
  Json.HasUniqueKeys.extend h (Json.hasUniqueKeys_object.1 hother).2

theorem refAnnotations (h : definition.HasUniqueKeys) : definition.refAnnotations.HasUniqueKeys :=
  h.sublist List.filter_sublist

/-- A text under a keyword. -/
theorem insert_string (h : definition.HasUniqueKeys) (text : String) :
    (definition.insert key (.string text)).HasUniqueKeys :=
  h.insert (Json.hasUniqueKeys_string text)

theorem isKept : IsKept HasUniqueKeys where
  empty := .empty
  insert h hentry := h.insert hentry.flat.hasUniqueKeys

end HasUniqueKeys

/-! ## What steps leave as it is -/

theorem get?_insert (definition : Definition) (key other : String) (value : Json) :
    (definition.insert key value).get? other =
      if key = other then some value else definition.get? other :=
  Dict.get?_insert definition key other value

theorem get?_insert_of_ne {other : String} (h : key ≠ other) :
    (definition.insert key value).get? other = definition.get? other := by
  rw [get?_insert, if_neg h]

theorem get?_insertNew_of_ne {other : String} (h : key ≠ other) :
    (definition.insertNew key value).get? other = definition.get? other := by
  rw [Definition.insertNew, Dict.insertNew]
  split
  · rfl
  · exact get?_insert_of_ne h

/-- What is entered under keys that are not repeated has the last word. -/
theorem get?_merge (hother : other.HasUniqueKeys) (key : String) :
    (definition.merge other).get? key = (other.get? key).or (definition.get? key) := by
  have heq : Dict.ofEntries other = other :=
    Dict.extend_of_disjoint hother.nodup fun _ _ => by simp [Dict.contains]
  rw [Definition.merge, Definition.get?, Dict.get?_extend, heq]
  rfl

theorem get?_setType (name : String) (h : key ≠ "type") :
    (definition.setType name).get? key = definition.get? key :=
  get?_insert_of_ne h.symm

theorem get?_setTuple (items : List Definition) (minLength : Nat) (hasRest : Bool)
    (h : key ∉ ["items", "minItems", "maxItems"]) :
    (definition.setTuple items minLength hasRest).get? key =
      (definition.setType "array").get? key := by
  simp only [List.mem_cons, List.not_mem_nil, or_false, not_or] at h
  obtain ⟨hitems, hmin, hmax⟩ := h
  have hleast : ((if items.isEmpty then definition.setType "array" else
      (definition.setType "array").insert "items" (.array (items.map toJson))).insert "minItems"
        (Json.ofNat minLength)).get? key = (definition.setType "array").get? key := by
    rw [get?_insert_of_ne (Ne.symm hmin)]
    split
    · rfl
    · exact get?_insert_of_ne (Ne.symm hitems)
  unfold Definition.setTuple
  dsimp only
  split
  · exact hleast
  · rw [get?_insert_of_ne (Ne.symm hmax), hleast]

theorem get?_setProperties (kept : List KeptProperty) (h : key ≠ "properties") :
    (definition.setProperties kept).get? key =
      (definition.insertNew "type" (.string "object")).get? key := by
  unfold Definition.setProperties
  dsimp only
  split
  · exact get?_insert_of_ne h.symm
  · rfl

theorem get?_setRequired (names : List String) (h : key ≠ "required") :
    (definition.setRequired names).get? key = definition.get? key := by
  rw [Definition.setRequired]
  split
  · rfl
  · exact get?_insert_of_ne h.symm

theorem get?_insertKinds (kinds : List LiteralKind) (h : key ≠ "type") :
    (Enumeration.insertKinds definition kinds).get? key = definition.get? key := by
  unfold Enumeration.insertKinds
  split
  · rfl
  · exact get?_insert_of_ne h.symm
  · exact get?_insert_of_ne h.symm

theorem get?_define (members : List EnumMember) (htype : key ≠ "type") (henum : key ≠ "enum") :
    (Enumeration.define members definition).get? key = definition.get? key := by
  unfold Enumeration.define
  dsimp only
  split
  · exact get?_insertKinds _ htype
  · rw [get?_insert_of_ne henum.symm, get?_insertKinds _ htype]

end Definition

theorem Catalog.get?_propertyDefinition {catalog : Catalog} {definition : Definition} {key : String}
    (property : Property) (name : String) (htitle : key ≠ "title") (hdefault : key ≠ "default") :
    (catalog.propertyDefinition property name definition).get? key = definition.get? key :=
  propertyDefinition_keeps (P := fun done => done.get? key = definition.get? key) rfl
    (fun _ => Definition.get?_insert_of_ne htitle.symm)
    fun _ _ hsame _ => (Definition.get?_insert_of_ne hdefault.symm).trans hsame

theorem Catalog.get?_listProperties {catalog : Catalog} {definition : Definition} {key : String}
    (kept : List KeptProperty) (absent : List SymbolId) (hproperties : key ≠ "properties")
    (hrequired : key ≠ "required") :
    (catalog.listProperties definition kept absent).get? key =
      (definition.insertNew "type" (.string "object")).get? key := by
  unfold listProperties
  dsimp only
  split
  · exact Definition.get?_setProperties kept hproperties
  · rw [Definition.get?_setRequired _ hrequired, Definition.get?_setProperties kept hproperties]

theorem Catalog.RuleEntry.mem_ruleKeywords {catalog : Catalog} {Part : Request → Definition → Prop}
    {keyword : UnionKeyword} {owner : Option Owner} {subject : Subject} {key : String} {value : Json}
    (h : catalog.RuleEntry Part keyword owner subject key value)
    (hmembers : subject.node.kind.hasMembers = false) : key ∈ ruleKeywords := by
  cases h with
  | own h => exact h.mem
  | branches hkind _ => simp [hkind, TypeKind.hasMembers] at hmembers
  | factors hkind _ => simp [hkind, TypeKind.hasMembers] at hmembers
  | _ => decide

/-- A rule that enters no schemas of members leaves other keywords as they are. -/
theorem Catalog.Composed.get?_of_not_mem {catalog : Catalog} {Part : Request → Definition → Prop}
    {keyword : UnionKeyword} {owner : Option Owner} {subject : Subject} {isRaw : Bool}
    {start definition : Definition} {key : String}
    (h : catalog.Composed Part keyword owner subject isRaw start definition)
    (hmembers : subject.node.kind.hasMembers = false) (hkey : key ∉ ruleKeywords) :
    definition.get? key = start.get? key := by
  refine h.extends.keeps (P := fun extended => extended.get? key = start.get? key) rfl
    (fun _ _ _ hsame hentry => ?_) fun _ _ _ hother => ?_
  · refine (Definition.get?_insert_of_ne ?_).trans hsame
    rintro rfl
    exact hkey (hentry.mem_ruleKeywords hmembers)
  · rw [hother.hasMembers] at hmembers
    cases hmembers

/-! ## Doc comments -/

namespace AnnotationReader

variable {reader : AnnotationReader} {symbol : Symbol} {annotations done : Annotations}

/-- A module is a document that is read. -/
theorem hasUniqueKeys_of_resolve {modules : Modules} {file : Option String} {require : Require}
    {value : Json} (h : modules.resolve file require = .ok value) : value.HasUniqueKeys := by
  rw [Modules.resolve] at h
  cases hread : modules.read (modules.locate file require.specifier) with
  | error fault => simp [Modules.load, hread, Except.bind, Except.mapError] at h
  | ok text =>
    cases hdocument : decodeText Decoder.any text with
    | error fault => simp [Modules.load, hread, hdocument, Except.bind, Except.mapError] at h
    | ok document =>
      have hkeys := hasUniqueKeys_of_decodeText hdocument
      simp only [Modules.load, hread, hdocument, Except.mapError, Except.bind, Modules.select] at h
      cases hname : require.exported with
      | none =>
        simp only [hname, Except.ok.injEq] at h
        subst h
        cases hdefault : document.get? "default" with
        | none => exact hkeys
        | some inner => exact hkeys.of_get? hdefault
      | some name =>
        cases hget : document.get? name with
        | none => simp [hname, hget] at h
        | some inner =>
          simp only [hname, hget, Except.ok.injEq] at h
          exact h ▸ hkeys.of_get? hget

/-- The value of a tag is one that was read, a text, or `true`. -/
theorem hasUniqueKeys_of_tagValue {key text : String} {value : Json}
    (h : reader.tagValue symbol key text = .ok value) : value.HasUniqueKeys := by
  rw [tagValue] at h
  split at h
  · cases h
    exact Json.hasUniqueKeys_bool true
  · rw [textValue] at h
    split at h
    · rename_i require _
      obtain ⟨resolved, hresolved, h⟩ := bind_eq_ok_iff.1 h
      split at h
      · cases h
      · cases h
        exact hasUniqueKeys_of_resolve hresolved
    · cases hparse : Json.parse? text with
      | none =>
        rw [hparse] at h
        cases h
        exact Json.hasUniqueKeys_string text
      | some parsed =>
        rw [hparse] at h
        cases h
        exact Json.hasUniqueKeys_of_parse? hparse

theorem Says.hasUniqueKeys {key : String} {value : Json} (h : reader.Says symbol annotations key value)
    (hannotations : annotations.definition.HasUniqueKeys) : value.HasUniqueKeys := by
  cases h with
  | value h _ => exact hasUniqueKeys_of_tagValue h
  | nested h _ hinner =>
    refine Json.HasUniqueKeys.insert ?_ (hasUniqueKeys_of_tagValue h)
    rcases hinner with hget | rfl
    · exact hannotations.get? hget
    · exact Definition.HasUniqueKeys.empty

theorem hasUniqueKeys_extend (h : annotations.definition.HasUniqueKeys)
    (hextend : reader.extend annotations symbol = .ok done) : done.definition.HasUniqueKeys :=
  extend_induction (P := fun a => a.definition.HasUniqueKeys) h (fun _ _ h => h.insert_string _)
    (fun _ _ _ _ _ h _ hsaid => h.insert (hsaid.hasUniqueKeys h)) (fun _ _ _ h _ => h) hextend

end AnnotationReader

/-! ## Answers -/

namespace Catalog

open Definition

variable {catalog : Catalog} {p : Progress} {request : Request} {frame : Frame} {subject : Subject}
  {owner : Option Owner} {keyword : UnionKeyword} {isRaw : Bool} {start definition : Definition}
  {annotations : Annotations} {Part : Request → Definition → Prop}

theorem hasUniqueKeys_description {symbols : List SymbolId}
    (h : catalog.description symbols = .ok annotations) : annotations.definition.HasUniqueKeys :=
  description_induction (P := fun a => a.definition.HasUniqueKeys) .empty
    (fun _ _ _ _ h _ hextend => AnnotationReader.hasUniqueKeys_extend h hextend) h

theorem Describes.hasUniqueKeys {owner : Owner} (h : catalog.Describes owner) :
    owner.annotations.definition.HasUniqueKeys := by
  obtain ⟨symbol, _, hread⟩ := h
  exact AnnotationReader.hasUniqueKeys_extend .empty hread

theorem hasUniqueKeys_ownerKeywords (h : ∀ o, owner = some o → catalog.Describes o) :
    (ownerKeywords owner).HasUniqueKeys := by
  cases owner with
  | none => exact .empty
  | some o => exact (h o rfl).hasUniqueKeys

section Composition

variable (hpart : ∀ answer, catalog.AnswersPart Part answer → answer.HasUniqueKeys)

include hpart

theorem Keeping.hasUniqueKeys {property : Property} {kept : KeptProperty}
    (h : catalog.Keeping Part property (some kept)) : kept.schema.HasUniqueKeys := by
  obtain ⟨answer, hanswer, _, heq⟩ := h.answersPart
  rw [heq]
  exact propertyDefinition_keeps (hpart answer hanswer)
    (fun _ => (hpart answer hanswer).insert_string _) fun _ _ h hflat => h.insert hflat.hasUniqueKeys

/-- **Rules repeat no key.** -/
theorem Composed.hasUniqueKeys (howner : ∀ o, owner = some o → catalog.Describes o)
    (hstart : start.HasUniqueKeys)
    (h : catalog.Composed Part keyword owner subject isRaw start definition) :
    definition.HasUniqueKeys := by
  have hmember : ∀ schema, catalog.RuleMember Part subject schema → schema.HasUniqueKeys :=
    fun schema h => h.keeps HasUniqueKeys.isKept fun answer hanswer _ => hpart answer hanswer
  refine h.extends.keeps hstart (fun _ key value h hentry => h.insert ?_)
    fun _ _ h hother => h.merge (hmember _ hother)
  cases hentry with
  | own hentry => exact hentry.flat.hasUniqueKeys
  | marker _ => exact Json.hasUniqueKeys_string _
  | branches hkind h =>
    exact hasUniqueKeys_array fun schema hmem => hmember schema (.branch hkind h hmem)
  | factors hkind h =>
    exact hasUniqueKeys_array fun schema hmem => hmember schema (.factor hkind h hmem)
  | subtypes _ h =>
    exact hasUniqueKeys_array fun schema hmem => hpart schema (answersPart_of_forall₂ h schema hmem)
  | items h =>
    exact hasUniqueKeys_array fun item hmem => hpart item (answersPart_of_forall₂ h item hmem)
  | item h => exact hpart _ (answersPart_member h)
  | properties h =>
    refine Json.hasUniqueKeys_ofEntries fun entry hentry => ?_
    obtain ⟨kept, hmem, rfl⟩ := List.mem_map.1 hentry
    obtain ⟨property, hkeeping⟩ := keeping_of_forall₂ h hmem
    exact hkeeping.hasUniqueKeys hpart
  | value h => exact hpart _ ⟨_, h, howner⟩

theorem Defined.hasUniqueKeys (howner : ∀ o, owner = some o → catalog.Describes o)
    (hstart : start.HasUniqueKeys)
    (h : catalog.Defined Part keyword owner subject isRaw start definition) :
    definition.HasUniqueKeys := by
  cases h with
  | typed _ => exact hstart
  | composed _ hcomposed => exact hcomposed.hasUniqueKeys hpart howner hstart

end Composition

/-- What is given from outside repeats no key: the overrides do not, and the hook does not make a schema
that does. -/
structure KeysGiven (catalog : Catalog) : Prop where
  overrides : ∀ entry ∈ catalog.overrides, entry.2.HasUniqueKeys
  nodup : (Dict.keys catalog.overrides).Nodup
  hook : ∀ definition : Definition, definition.HasUniqueKeys → (catalog.hook definition).HasUniqueKeys

/-- Answers repeat no key if the hook does not make a schema that does. -/
theorem Yields.hasUniqueKeys_of_hook (h : catalog.Yields p request definition)
    (hhook : ∀ definition : Definition, definition.HasUniqueKeys →
      (catalog.hook definition).HasUniqueKeys)
    (howner : ∀ o, request.owner = some o → catalog.Describes o) : definition.HasUniqueKeys := by
  induction h with
  | settled hsettled =>
    obtain ⟨o, hsome, rfl, _⟩ := settled?_eq_some hsettled
    exact (howner o hsome).hasUniqueKeys
  | inline _ _ _ hannotations hschema ih =>
    have hstart := (hasUniqueKeys_description hannotations).merge (hasUniqueKeys_ownerKeywords howner)
    exact hhook _ (hschema.hasUniqueKeys (fun _ ⟨_, hpart, hdescribed⟩ => ih _ _ hpart hdescribed)
      howner hstart)
  | linked _ _ _ hannotations hschema _ ih =>
    have hstart := (hasUniqueKeys_description hannotations).merge (hasUniqueKeys_ownerKeywords howner)
    have hkeys := hschema.hasUniqueKeys (fun _ ⟨_, hpart, hdescribed⟩ => ih _ _ hpart hdescribed)
      howner hstart
    exact hhook _ ((HasUniqueKeys.reference _).merge hkeys.refAnnotations)
  | referred _ _ hbeside _ =>
    have hkeywords := hasUniqueKeys_ownerKeywords howner
    refine hhook _ ((HasUniqueKeys.reference _).merge ?_)
    cases hbeside with
    | all _ => exact hkeywords
    | descriptive _ => exact ((HasUniqueKeys.reference _).merge hkeywords).refAnnotations

/-- **Answers repeat no key.** -/
theorem Yields.hasUniqueKeys (h : catalog.Yields p request definition) (hgiven : catalog.KeysGiven)
    (howner : ∀ o, request.owner = some o → catalog.Describes o) : definition.HasUniqueKeys :=
  h.hasUniqueKeys_of_hook hgiven.hook howner

theorem Completes.hasUniqueKeys (h : catalog.Completes p frame definition)
    (hgiven : catalog.KeysGiven) : definition.HasUniqueKeys := by
  obtain ⟨request, annotations, hdescribed, _, hannotations, hdefined⟩ := h.derivation
  have hkeys := hasUniqueKeys_description hannotations
  refine hdefined.hasUniqueKeys (fun _ ⟨_, hpart, howner⟩ => hpart.hasUniqueKeys hgiven howner)
    (fun o ho => (hdescribed o ho).1) ?_
  split
  · exact hkeys.insert_string _
  · exact hkeys

/-- **Definitions of a document repeat no key.** -/
theorem hasUniqueKeys_of_schemas (hgiven : catalog.KeysGiven) {patterns : List NamePattern}
    {definitions : Dict Definition} (hresult : (catalog.schemas patterns).result = .ok definitions) :
    ∀ entry ∈ definitions, entry.2.HasUniqueKeys :=
  schemas_induction (P := HasUniqueKeys) hgiven.overrides .empty
    (fun _ _ _ h => h.hasUniqueKeys hgiven) (fun _ _ _ h => h.hasUniqueKeys hgiven nofun) hresult

end Catalog

end TypeSchema
