import TypeSchema.Proofs.Json.Keys
import TypeSchema.Proofs.References.Occurrence
import TypeSchema.Schema.Intersection
import TypeSchema.Schema.Object
import TypeSchema.Schema.Plain
import TypeSchema.Schema.Union

/-!
# What steps enter

The rules for types put schemas together in steps, and a step does no more than to enter keywords and to
merge schemas: what it leaves extends what was there (`Definition.Extends`), one lemma for each step.  What
a step enters of its own is a name, a number, a truth value or a list of these, in which no object stands
(`Definition.IsOwnEntry`); whatever else it enters are schemas that it is given.

So what entries keep is kept by all steps, and is shown of the entries only: what schemas refer to, that
they repeat no key, and what stands in them.
-/

set_option autoImplicit false

namespace TypeSchema

/-! ## Values without objects -/

namespace Json

/-- No object stands in the value. -/
def IsFlat (value : Json) : Prop :=
  ∀ fields, ¬value.HasObject fields

variable {value : Json}

theorem isFlat_null : Json.null.IsFlat := fun _ h => nomatch h

theorem isFlat_bool (b : Bool) : (Json.bool b).IsFlat := fun _ h => nomatch h

theorem isFlat_number (n : Number) : (Json.number n).IsFlat := fun _ h => nomatch h

theorem isFlat_ofNat (n : Nat) : (Json.ofNat n).IsFlat := fun _ h => nomatch h

theorem isFlat_string (text : String) : (Json.string text).IsFlat := fun _ h => nomatch h

theorem isFlat_array {items : List Json} :
    (Json.array items).IsFlat ↔ ∀ value ∈ items, value.IsFlat :=
  forall_hasObject_array

theorem isFlat_strings (texts : List String) : (Json.strings texts).IsFlat := by
  refine isFlat_array.2 fun value hvalue => ?_
  obtain ⟨text, _, rfl⟩ := List.mem_map.1 hvalue
  exact isFlat_string text

theorem Refers.hasObject {target : String} (h : value.Refers target) :
    ∃ fields, value.HasObject fields := by
  induction h with
  | here _ => exact ⟨_, .here⟩
  | field _ _ _ => exact ⟨_, .here⟩
  | item hmem _ ih =>
    obtain ⟨fields, hobject⟩ := ih
    exact ⟨fields, .item hmem hobject⟩

namespace IsFlat

variable (h : value.IsFlat)

include h

theorem hasUniqueKeys : value.HasUniqueKeys :=
  fun fields hobject => absurd hobject (h fields)

theorem refersOnly {P : String → Prop} : value.RefersOnly P := fun _ hrefers =>
  let ⟨fields, hobject⟩ := hrefers.hasObject
  absurd hobject (h fields)

end IsFlat

end Json

/-! ## Literals and initializers -/

namespace Literal

theorem isFlat_toJson (literal : Literal) : literal.toJson.IsFlat := by
  cases literal with
  | null => exact Json.isFlat_null
  | bool b => exact Json.isFlat_bool b
  | number x => exact Json.isFlat_number _
  | string text => exact Json.isFlat_string text

theorem isFlat_array (values : List Literal) : (Json.array (values.map toJson)).IsFlat := by
  refine Json.isFlat_array.2 fun value hvalue => ?_
  obtain ⟨literal, _, rfl⟩ := List.mem_map.1 hvalue
  exact isFlat_toJson literal

/-- What a reader answers, if it answers, satisfies `Q`. -/
private def Reads {α : Type} (result : Except ReadFault α) (Q : α → Prop) : Prop :=
  ∀ a, result = .ok a → Q a

private theorem Reads.bind {α β : Type} {result : Except ReadFault α}
    {next : α → Except ReadFault β} {Q : α → Prop} {R : β → Prop} (h : Reads result Q)
    (hnext : ∀ a, Q a → Reads (next a) R) : Reads (result >>= next) R := by
  intro b hb
  cases result with
  | error fault => cases hb
  | ok a => exact hnext a (h a rfl) b hb

private theorem reads_ok {α : Type} {a : α} {Q : α → Prop} (h : Q a) : Reads (.ok a) Q :=
  fun _ hb => Except.ok.inj hb ▸ h

private theorem reads_error {α : Type} {fault : ReadFault} {Q : α → Prop} :
    Reads (.error fault) Q :=
  fun _ hb => nomatch hb

private theorem reads_ite {α : Type} {c : Prop} [Decidable c] {first second : Except ReadFault α}
    {Q : α → Prop} (hfirst : Reads first Q) (hsecond : Reads second Q) :
    Reads (if c then first else second) Q := by
  split
  · exact hfirst
  · exact hsecond

private theorem reads_any {α : Type} (result : Except ReadFault α) : Reads result fun _ => True :=
  fun _ _ => trivial

/-- A predicate on values that holds of scalars, and of an array if it holds of the items. -/
structure Inductive (Q : Json → Prop) : Prop where
  null : Q .null
  bool : ∀ b, Q (.bool b)
  number : ∀ n, Q (.number n)
  string : ∀ text, Q (.string text)
  array : ∀ items, (∀ value ∈ items, Q value) → Q (.array items)

section Expressions

variable {Q : Json → Prop} {fuel : Nat}

private theorem reads_expression (hexpression : ∀ c, Reads (expression fuel c) fun r => Q r.value)
    (hoperand : ∀ c, Reads (operand fuel c) fun r => Q r.value) (c : Cursor) :
    Reads (expression (fuel + 1) c) fun r => Q r.value := by
  rw [expression]
  dsimp only
  split
  · exact (reads_any _).bind fun _ _ => hexpression _
  · refine (hoperand _).bind fun inner hinner => ?_
    exact (reads_any _).bind fun _ _ => reads_ok hinner

/-- One case for each way an operand may begin. -/
private theorem reads_operand (hQ : Inductive Q)
    (hexpression : ∀ c, Reads (expression fuel c) fun r => Q r.value)
    (hitems : ∀ c, Reads (items fuel c) fun r => ∀ value ∈ r.1, Q value) (c : Cursor) :
    Reads (operand (fuel + 1) c) fun r => Q r.value := by
  rw [operand]
  split
  · exact reads_error
  · refine reads_ite ((reads_any _).bind fun _ _ => reads_ok (hQ.number _)) ?_
    refine reads_ite ((reads_any _).bind fun _ _ => reads_ok (hQ.number _)) ?_
    refine reads_ite ((reads_any _).bind fun _ _ => reads_ok (hQ.string _)) ?_
    refine reads_ite ((reads_any _).bind fun _ _ => reads_ok (hQ.string _)) ?_
    refine reads_ite ((hitems _).bind fun values hvalues => reads_ok (hQ.array _ hvalues)) ?_
    refine reads_ite ((hexpression _).bind fun inner hinner =>
      (reads_any _).bind fun _ _ => reads_ok hinner) ?_
    refine reads_ite reads_error ?_
    refine reads_ite ((reads_any _).bind fun _ _ => reads_ok (hQ.number _)) ?_
    refine reads_ite ?_ reads_error
    refine reads_ite (reads_ok (hQ.bool _)) ?_
    refine reads_ite (reads_ok (hQ.bool _)) ?_
    exact reads_ite (reads_ok hQ.null) reads_error

private theorem reads_items (hexpression : ∀ c, Reads (expression fuel c) fun r => Q r.value)
    (hitems : ∀ c, Reads (items fuel c) fun r => ∀ value ∈ r.1, Q value) (c : Cursor) :
    Reads (items (fuel + 1) c) fun r => ∀ value ∈ r.1, Q value := by
  rw [items]
  dsimp only
  split
  · exact reads_ok (by simp)
  · exact reads_error
  · exact reads_error
  · refine (hexpression _).bind fun first hfirst => ?_
    split
    · exact reads_ok (by simpa using hfirst)
    · refine (hitems _).bind fun rest hrest => reads_ok ?_
      exact fun value hvalue => (List.mem_cons.1 hvalue).elim (· ▸ hfirst) (hrest value)
    · exact reads_error

/-- The three readers of expressions call each other with less fuel, so the induction is on the fuel
and says of all three at once that they read no object. -/
private theorem reads_induction (hQ : Inductive Q) (fuel : Nat) :
    (∀ c, Reads (expression fuel c) fun r => Q r.value) ∧
    (∀ c, Reads (operand fuel c) fun r => Q r.value) ∧
    (∀ c, Reads (items fuel c) fun r => ∀ value ∈ r.1, Q value) := by
  induction fuel with
  | zero =>
    refine ⟨fun c => ?_, fun c => ?_, fun c => ?_⟩
    · rw [expression]; exact reads_error
    · rw [operand]; exact reads_error
    · rw [items]; exact reads_error
  | succ fuel ih =>
    obtain ⟨hexpression, hoperand, hitems⟩ := ih
    exact ⟨reads_expression hexpression hoperand, reads_operand hQ hexpression hitems,
      reads_items hexpression hitems⟩

end Expressions

/-- Initializers have no objects: those are refused. -/
theorem readInitializer_induction {Q : Json → Prop} (hQ : Inductive Q) {source : String}
    {read : Initializer} (h : readInitializer source = .ok read) : Q read.value := by
  suffices hread : Reads (readInitializer source) fun read => Q read.value from hread read h
  rw [readInitializer]
  dsimp only
  refine ((reads_induction hQ _).1 _).bind fun reading hreading => ?_
  split
  · exact reads_ok hreading
  · exact reads_error

theorem isFlat_readInitializer {source : String} {read : Initializer}
    (h : readInitializer source = .ok read) : read.value.IsFlat :=
  readInitializer_induction ⟨Json.isFlat_null, Json.isFlat_bool, Json.isFlat_number,
    Json.isFlat_string, fun _ => Json.isFlat_array.2⟩ h

end Literal

/-! ## Unions of a primitive type and of `null` -/

namespace Definition

variable {definition : Definition} {schemas : List Definition} {primitive null : Definition}

/-- What is split into a primitive type and `null` are these two, in either order. -/
theorem of_primitiveAndNull? (h : primitiveAndNull? schemas = some (primitive, null)) :
    (schemas = [null, primitive] ∨ schemas = [primitive, null]) ∧ primitive.isBareType = true ∧
      null.isNullableNull = true := by
  simp only [primitiveAndNull?] at h
  split at h
  · split at h
    · rename_i hboth
      cases h
      exact ⟨.inl rfl, (Bool.and_eq_true_iff.1 hboth).2, (Bool.and_eq_true_iff.1 hboth).1⟩
    · split at h
      · rename_i hboth
        cases h
        exact ⟨.inr rfl, (Bool.and_eq_true_iff.1 hboth).2, (Bool.and_eq_true_iff.1 hboth).1⟩
      · cases h
  · cases h

theorem mem_of_primitiveAndNull? (h : primitiveAndNull? schemas = some (primitive, null)) :
    primitive ∈ schemas ∧ null ∈ schemas := by
  rcases (of_primitiveAndNull? h).1 with rfl | rfl
  · simp
  · simp

/-- The three forms of a union: its only schema, a primitive type that may be `null`, and the list of its
branches. -/
theorem unite_cases (definition : Definition) (keyword : UnionKeyword) (nullable : Bool)
    (schemas : List Definition) :
    (∃ only, schemas = [only] ∧ definition.unite keyword nullable schemas = definition.merge only) ∨
    (∃ primitive null, nullable = true ∧ primitiveAndNull? schemas = some (primitive, null) ∧
      definition.unite keyword nullable schemas = (definition.merge primitive).merge null) ∨
    definition.unite keyword nullable schemas =
      definition.insert keyword.name (.array (schemas.map toJson)) := by
  simp only [unite]
  split
  · exact .inl ⟨_, rfl, rfl⟩
  · refine .inr ?_
    split
    · rename_i hsplit
      split at hsplit
      · rename_i hnullable
        exact .inl ⟨_, _, hnullable, hsplit, rfl⟩
      · cases hsplit
    · exact .inr rfl

theorem intersect_cases (definition : Definition) (schemas : List Definition) :
    (∃ only, schemas = [only] ∧ definition.intersect schemas = definition.merge only) ∨
    definition.intersect schemas = definition.insert "allOf" (.array (schemas.map toJson)) := by
  simp only [intersect]
  split
  · exact .inl ⟨_, rfl, rfl⟩
  · exact .inr rfl

end Definition

theorem Branches.mem_all {branches : Branches} {schema : Definition} (h : schema ∈ branches.all) :
    schema ∈ branches.schemas ∨ schema = valuesSchema branches.values := by
  rw [Branches.all] at h
  split at h
  · exact .inl h
  · exact (List.mem_append.1 h).imp_right List.mem_singleton.1

theorem Factors.mem_all {factors : Factors} {schema : Definition} (h : schema ∈ factors.all) :
    schema ∈ factors.schemas ∨
      schema = Definition.empty.insert "type" (typesJson factors.types) := by
  rw [Factors.all] at h
  split at h
  · exact .inl h
  · exact (List.mem_append.1 h).imp_right List.mem_singleton.1

/-! ## Extending -/

/-- The keywords that rules enter, but for the branches of unions and intersections. -/
def ruleKeywords : List String :=
  ["type", "nullable", "properties", "additionalProperties", "format", "enum", "items", "minItems",
    "maxItems", "oneOf", "required"]

namespace Definition

/-- What a step enters of its own: a value in which no object stands, under a keyword for rules.  The marker
of `undefined` is none of it. -/
structure IsOwnEntry (key : String) (value : Json) : Prop where
  mem : key ∈ ruleKeywords
  flat : value.IsFlat
  unmarked : key = "type" → value.text? ≠ some "undefined"

/-- The second schema results from the first one by entries that may be made, and by merging schemas that
may be merged. -/
inductive Extends (May : String → Json → Prop) (Merged : Definition → Prop) (start : Definition) :
    Definition → Prop
  | start : Extends May Merged start start
  | insert {definition : Definition} {key : String} {value : Json}
      (h : Extends May Merged start definition) (hentry : May key value) :
      Extends May Merged start (definition.insert key value)
  | merge {definition other : Definition} (h : Extends May Merged start definition)
      (hother : Merged other) : Extends May Merged start (definition.merge other)

theorem IsOwnEntry.ne_ref {key : String} {value : Json} (h : IsOwnEntry key value) : key ≠ "$ref" := by
  rintro rfl
  exact absurd h.mem (by decide)

theorem isOwnEntry_of_ne {key : String} {value : Json} (hkey : key ∈ ruleKeywords) (hne : key ≠ "type")
    (hvalue : value.IsFlat) : IsOwnEntry key value :=
  ⟨hkey, hvalue, fun heq => absurd heq hne⟩

theorem isOwnEntry_type {name : String} (h : name ≠ "undefined") : IsOwnEntry "type" (.string name) :=
  ⟨by decide, Json.isFlat_string name, fun _ heq => h (Option.some.inj heq)⟩

namespace Extends

variable {May : String → Json → Prop} {Merged : Definition → Prop} {start definition : Definition}
  {key : String} {value : Json}

/-- What holds of the first schema, and is kept by the entries and by merging, holds of the second. -/
theorem keeps {P : Definition → Prop} (h : Extends May Merged start definition) (hstart : P start)
    (hinsert : ∀ definition key value, P definition → May key value → P (definition.insert key value))
    (hmerge : ∀ definition other, P definition → Merged other → P (definition.merge other)) :
    P definition := by
  induction h with
  | start => exact hstart
  | insert _ hentry ih => exact hinsert _ _ _ ih hentry
  | merge _ hother ih => exact hmerge _ _ ih hother

variable (h : Extends May Merged start definition)

include h

theorem insertNew (hentry : May key value) :
    Extends May Merged start (definition.insertNew key value) := by
  rw [Definition.insertNew, Dict.insertNew]
  split
  · exact h
  · exact h.insert hentry

theorem unite {schemas : List Definition} {keyword : UnionKeyword}
    (hmerged : ∀ schema ∈ schemas, Merged schema)
    (hlisted : May keyword.name (.array (schemas.map toJson))) (nullable : Bool) :
    Extends May Merged start (definition.unite keyword nullable schemas) := by
  rcases unite_cases definition keyword nullable schemas with
    ⟨only, rfl, heq⟩ | ⟨primitive, null, _, hboth, heq⟩ | heq
  · exact heq ▸ h.merge (hmerged _ (List.mem_singleton.2 rfl))
  · obtain ⟨hprimitive, hnull⟩ := mem_of_primitiveAndNull? hboth
    exact heq ▸ (h.merge (hmerged _ hprimitive)).merge (hmerged _ hnull)
  · exact heq ▸ h.insert hlisted

theorem intersect {schemas : List Definition} (hmerged : ∀ schema ∈ schemas, Merged schema)
    (hlisted : May "allOf" (.array (schemas.map toJson))) :
    Extends May Merged start (definition.intersect schemas) := by
  rcases intersect_cases definition schemas with ⟨only, rfl, heq⟩ | heq
  · exact heq ▸ h.merge (hmerged _ (List.mem_singleton.2 rfl))
  · exact heq ▸ h.insert hlisted

section Own

variable (hown : ∀ key value, IsOwnEntry key value → May key value)

include hown

theorem setType {name : String} (hname : name ≠ "undefined") :
    Extends May Merged start (definition.setType name) :=
  h.insert (hown _ _ (isOwnEntry_type hname))

/-- An entry of the step's own under a keyword other than `type`. -/
theorem insertOwn (hkey : key ∈ ruleKeywords) (hne : key ≠ "type") (hvalue : value.IsFlat) :
    Extends May Merged start (definition.insert key value) :=
  h.insert (hown _ _ (isOwnEntry_of_ne hkey hne hvalue))

theorem setLiteral (literal : Literal) :
    Extends May Merged start (definition.setLiteral literal) := by
  refine (h.setType hown ?_).insertOwn hown (by decide) (by decide) (Literal.isFlat_array [literal])
  cases literal.kind <;> decide

theorem setTuple {items : List Definition} (hitems : May "items" (.array (items.map toJson)))
    (minLength : Nat) (hasRest : Bool) :
    Extends May Merged start (definition.setTuple items minLength hasRest) := by
  have hlisted : Extends May Merged start (if items.isEmpty then definition.setType "array" else
      (definition.setType "array").insert "items" (.array (items.map toJson))) := by
    split
    · exact h.setType hown (by decide)
    · exact (h.setType hown (by decide)).insert hitems
  have hleast := hlisted.insertOwn hown (by decide : "minItems" ∈ ruleKeywords) (by decide)
    (Json.isFlat_ofNat minLength)
  unfold Definition.setTuple
  dsimp only
  split
  · exact hleast
  · exact hleast.insertOwn hown (by decide) (by decide) (Json.isFlat_ofNat items.length)

theorem makeNullable : Extends May Merged start definition.makeNullable :=
  (h.setType hown (by decide)).insertOwn hown (by decide) (by decide) (Json.isFlat_bool true)

theorem setProperties {kept : List KeptProperty} (hkept : May "properties"
      (.object (Dict.ofEntries (kept.map fun p => (p.name, p.schema.toJson))))) :
    Extends May Merged start (definition.setProperties kept) := by
  have htyped := h.insertNew (hown _ _ (isOwnEntry_type (by decide : "object" ≠ "undefined")))
  unfold Definition.setProperties
  dsimp only
  split
  · exact htyped.insert hkept
  · exact htyped

theorem setRequired (names : List String) :
    Extends May Merged start (definition.setRequired names) := by
  rw [Definition.setRequired]
  split
  · exact h
  · exact h.insertOwn hown (by decide) (by decide) (Json.isFlat_strings _)

theorem define (members : List EnumMember) :
    Extends May Merged start (Enumeration.define members definition) := by
  have hkinds : ∀ kinds, Extends May Merged start (Enumeration.insertKinds definition kinds) := by
    intro kinds
    unfold Enumeration.insertKinds
    split
    · exact h
    · rename_i kind
      refine h.setType hown ?_
      cases kind <;> decide
    · exact h.insert (hown _ _ ⟨by decide, Json.isFlat_strings _, fun _ => nofun⟩)
  unfold Enumeration.define
  dsimp only
  split
  · exact hkinds _
  · exact (hkinds _).insertOwn hown (by decide) (by decide) (Literal.isFlat_array _)

end Own

end Extends

/-- The predicate holds of the schema without keywords, and is kept by what steps enter of their own. -/
structure IsKept (P : Definition → Prop) : Prop where
  empty : P .empty
  insert : ∀ {definition : Definition} {key : String} {value : Json}, P definition →
    IsOwnEntry key value → P (definition.insert key value)

theorem IsKept.extends {P : Definition → Prop} {start definition : Definition} (hkept : IsKept P)
    (h : Extends IsOwnEntry (fun _ => False) start definition) (hstart : P start) : P definition :=
  h.keeps hstart (fun _ _ _ hP hentry => hkept.insert hP hentry) (fun _ _ _ hnone => hnone.elim)

end Definition

open Definition

theorem Branches.extends_valuesSchema (values : List Literal) :
    Extends IsOwnEntry (fun _ => False) Definition.empty (valuesSchema values) := by
  have hlisted : Extends IsOwnEntry (fun _ => False) Definition.empty (if isBothBooleans values
      then Definition.empty else Definition.empty.insert "enum"
        (.array ((Literal.sort values).map Literal.toJson))) := by
    split
    · exact .start
    · exact Extends.start.insert (isOwnEntry_of_ne (by decide) (by decide) (Literal.isFlat_array _))
  unfold valuesSchema
  dsimp only
  split
  · exact hlisted
  · exact hlisted
  · rename_i kind _ _
    refine hlisted.insert (isOwnEntry_type ?_)
    cases kind <;> decide

theorem Factors.isOwnEntry_typesJson {types : List String} (h : "undefined" ∉ types) :
    IsOwnEntry "type" (typesJson types) := by
  refine ⟨by decide, ?_, fun _ => ?_⟩
  · unfold typesJson
    split
    · exact Json.isFlat_string _
    · exact Json.isFlat_strings _
  · unfold typesJson
    split
    · exact fun heq => h (List.mem_singleton.2 (Option.some.inj heq).symm)
    · exact nofun

end TypeSchema
