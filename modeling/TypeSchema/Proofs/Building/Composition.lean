import TypeSchema.Proofs.Building.Assembly
import TypeSchema.Proofs.Building.Rules

/-!
# What composed schemas say

A schema that is composed of others refers to what these refer to (`Catalog.Composed.refersOnly`), and says
something unless one of them says nothing where it is the only one (`Catalog.HollowSubject`).  So whatever a
contract allows references to point to, a composed schema keeps to it (`Contract.shaped_of_composed`).
-/

set_option autoImplicit false

namespace TypeSchema.Contract

variable {catalog : Catalog} {C : Contract catalog} {p : Progress} {subject : Subject}
  {definition : Definition} {Part : Request → Definition → Prop}

theorem good_empty : C.Good Definition.empty p := Definition.refersOnly_empty

/-- The keywords that an owner gives refer to what they may refer to. -/
theorem good_owner {owner : Owner} (h : catalog.Describes owner) :
    C.Good owner.annotations.definition p := by
  obtain ⟨symbol, hsymbol, hread⟩ := h
  exact C.extend hsymbol Definition.refersOnly_empty hread

theorem good_ownerKeywords {owner : Option Owner} (h : ∀ o, owner = some o → catalog.Describes o) :
    C.Good (Catalog.ownerKeywords owner) p := by
  simp only [Catalog.ownerKeywords]
  split
  · exact good_owner (h _ rfl)
  · exact good_empty

/-! ## Schemas that say nothing -/

theorem unite_eq_nil {keyword : UnionKeyword} {nullable : Bool} {schemas : List Definition}
    (h : definition.unite keyword nullable schemas = []) : ∃ schema ∈ schemas, schema = [] := by
  rcases Definition.unite_cases definition keyword nullable schemas with
    ⟨only, rfl, heq⟩ | ⟨primitive, null, _, hboth, heq⟩ | heq
  · exact ⟨only, List.mem_singleton.2 rfl, (Dict.extend_eq_nil (heq.symm.trans h)).2⟩
  · exact ⟨null, (Definition.mem_of_primitiveAndNull? hboth).2,
      (Dict.extend_eq_nil (heq.symm.trans h)).2⟩
  · exact absurd (heq.symm.trans h) Dict.insert_ne_nil

theorem intersect_eq_nil {schemas : List Definition} (h : definition.intersect schemas = []) :
    ∃ schema ∈ schemas, schema = [] := by
  rcases Definition.intersect_cases definition schemas with ⟨only, rfl, heq⟩ | heq
  · exact ⟨only, List.mem_singleton.2 rfl, (Dict.extend_eq_nil (heq.symm.trans h)).2⟩
  · exact absurd (heq.symm.trans h) Dict.insert_ne_nil

/-- Values always have an `enum` or a `type`: both truth values have their kind in common. -/
theorem valuesSchema_ne_nil (values : List Literal) : Branches.valuesSchema values ≠ [] := by
  unfold Branches.valuesSchema
  by_cases hboth : Branches.isBothBooleans values = true
  · obtain ⟨hlength, hkinds⟩ := Bool.and_eq_true_iff.1 hboth
    have hcommon : Branches.commonKind? values = some .bool := by
      cases values with
      | nil => cases hlength
      | cons first rest =>
        obtain ⟨hfirst, hrest⟩ : first.kind = .bool ∧ ∀ v ∈ rest, v.kind = .bool := by
          simpa using hkinds
        have hall : rest.all (fun v => v.kind == first.kind) = true :=
          List.all_eq_true.2 fun v hv => by simp [hfirst, hrest v hv]
        rw [Branches.commonKind?, if_pos hall, hfirst]
    rw [hcommon]
    exact Dict.insert_ne_nil
  · dsimp only
    rw [if_neg hboth]
    split
    · exact Dict.insert_ne_nil
    · exact Dict.insert_ne_nil
    · exact Dict.insert_ne_nil

/-- An enum that says nothing has no values. -/
theorem values_of_define_eq_nil {members : List EnumMember}
    (h : Enumeration.define members definition = []) : Enumeration.values members = [] := by
  unfold Enumeration.define at h
  dsimp only at h
  split at h
  · rename_i hvalues
    simpa using hvalues
  · exact absurd h Dict.insert_ne_nil

theorem setTuple_ne_nil {items : List Definition} {minLength : Nat} {hasRest : Bool} :
    definition.setTuple items minLength hasRest ≠ [] := by
  unfold Definition.setTuple
  dsimp only
  split
  · exact Dict.insert_ne_nil
  · exact Dict.insert_ne_nil

theorem setProperties_ne_nil {kept : List KeptProperty} : definition.setProperties kept ≠ [] := by
  unfold Definition.setProperties
  dsimp only
  split
  · exact Dict.insert_ne_nil
  · exact Dict.insertNew_ne_nil

theorem listProperties_ne_nil {kept : List KeptProperty} {absent : List SymbolId} :
    catalog.listProperties definition kept absent ≠ [] := by
  unfold Catalog.listProperties
  dsimp only
  split
  · exact setProperties_ne_nil
  · rw [Definition.setRequired]
    split
    · exact setProperties_ne_nil
    · exact Dict.insert_ne_nil

/-! ## All structures -/

section Composition

variable (hpart : ∀ part schema, Part part schema → C.Served part schema p)

include hpart

theorem hollow_of_unite {members : List TypeId} {contributions : List Contribution}
    {keyword : UnionKeyword} {nullable : Bool} (hkind : subject.node.kind = .union members)
    (hmembers : List.Forall₂ (catalog.Contributes Part) members contributions)
    (hempty : definition.unite keyword nullable
      (contributions.foldl (Branches.enter nullable) {}).all = []) : catalog.HollowSubject subject := by
  obtain ⟨schema, hschema, rfl⟩ := unite_eq_nil hempty
  rcases Branches.mem_all_foldl hschema with ⟨hmem, _⟩ | ⟨null, _, _, _, hnull⟩ | ⟨values, hvalues⟩
  · obtain ⟨id, hid, hcontributes⟩ := exists_left_of_forall₂ hmembers hmem
    cases hcontributes with
    | schema hnode _ howner hanswer =>
      exact .union hkind hid hnode howner ((hpart _ _ hanswer).2 rfl)
  · exact absurd hnull.symm Dict.insert_ne_nil
  · exact absurd hvalues.symm (valuesSchema_ne_nil values)

theorem hollow_of_intersect {members : List TypeId} {schemas : List Definition}
    (hkind : subject.node.kind = .intersection members)
    (hmembers : List.Forall₂ (fun id schema => Part (catalog.member id) schema) members schemas)
    (hempty : definition.intersect (schemas.foldl Factors.enter {}).all = []) :
    catalog.HollowSubject subject := by
  obtain ⟨schema, hschema, rfl⟩ := intersect_eq_nil hempty
  rcases Factors.mem_all_foldl hschema with ⟨hmem, _⟩ | htypes
  · obtain ⟨id, hid, hanswer⟩ := exists_left_of_forall₂ hmembers hmem
    exact .intersection hkind hid ((hpart _ _ hanswer).2 rfl)
  · exact absurd htypes.symm Dict.insert_ne_nil

/-- **A composed schema is shaped as its subject allows.** -/
theorem shaped_of_composed {keyword : UnionKeyword} {owner : Option Owner} {isRaw : Bool}
    {schema : Definition} (hstart : C.Good definition p)
    (h : catalog.Composed Part keyword owner subject isRaw definition schema) :
    C.Shaped subject schema p := by
  refine ⟨h.refersOnly (fun _ _ hanswer => (hpart _ _ hanswer).1) hstart, fun hempty => ?_⟩
  cases h with
  | union hkind hmembers => exact hollow_of_unite hpart hkind hmembers hempty
  | intersection hkind hmembers => exact hollow_of_intersect hpart hkind hmembers hempty
  | enum hkind => exact .enum hkind (values_of_define_eq_nil hempty)
  | anything hkind =>
    rcases hkind with hany | hunknown
    · exact .any hany
    · exact .unknown hunknown
  | tuple _ _ => exact absurd hempty setTuple_ne_nil
  | object _ _ _ => exact absurd hempty listProperties_ne_nil
  | date _ _ _ _ => exact absurd hempty Dict.insertNew_ne_nil
  | _ => exact absurd hempty Dict.insert_ne_nil

end Composition

end TypeSchema.Contract
