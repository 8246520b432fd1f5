import TypeSchema.Proofs.Building.Runs
import TypeSchema.Proofs.Initializers.Completeness
import TypeSchema.Proofs.Literals
import TypeSchema.Proofs.Number.Finite
import TypeSchema.Proofs.Objects.Keys

/-!
# Enums lose and invent nothing

An enum is described by the values of its members.  Which value a member has is a matter of its constant
and of what its initializer reads as (`EnumMember.Gives`).  All of them are listed under `enum`, each as
often as members have it, in an order that is total; `type` has their kinds, and a warning tells of each
member that an initializer was read for in vain.  **`Enumeration.define_spec`** states this as a whole.

The order of the members shows in `type` alone.  Literals at one place are written alike as long as they
are finite, and those that initializers give always are (`Literal.Spells.isFinite`).
-/

set_option autoImplicit false

namespace TypeSchema

/-! ## Initializers give finite numbers -/

namespace Literal

theorem isFinite_of_basedDouble? {base : Nat} {digits : List Char} {x : Float}
    (h : basedDouble? base digits = some x) : Double.isFinite x = true := by
  obtain ⟨n, _, hn⟩ := Option.bind_eq_some_iff.1 h
  have hsize : UInt64.size / 2 = 2 ^ 63 := rfl
  rw [hsize] at hn
  split at hn
  · next hlt =>
    obtain rfl := Option.some.inj hn
    exact Double.isFinite_ofDecimal_of_lt false (by omega)
  · cases hn

theorem isFinite_of_numeralDouble? {cs : List Char} {x : Float} (h : numeralDouble? cs = some x) :
    Double.isFinite x = true := by
  rw [numeralDouble?] at h
  split at h
  · exact isFinite_of_basedDouble? h
  · exact isFinite_of_basedDouble? h
  · exact isFinite_of_basedDouble? h
  · exact (Option.filter_eq_some_iff.1 h).2

/-- What an initializer spells is no infinity and no NaN. -/
theorem Spells.isFinite {part : Part} {text : List Char} {value : Json} {asserted : Bool}
    (h : Spells part text value asserted) : ∀ n, value = .number n → Double.isFinite n.toDouble = true := by
  induction h with
  | number hnumber =>
    rintro _ ⟨⟩
    exact Number.isFinite_toDouble_ofDouble (isFinite_of_numeralDouble? hnumber.value)
  | minus _ hnumber =>
    rintro _ ⟨⟩
    have hfinite := Number.isFinite_toDouble_ofDouble (isFinite_of_numeralDouble? hnumber.value)
    exact Number.isFinite_toDouble_ofDouble (Double.isFinite_neg hfinite)
  | plus _ hnumber =>
    rintro _ ⟨⟩
    exact Number.isFinite_toDouble_ofDouble (isFinite_of_numeralDouble? hnumber.value)
  | constant hname =>
    rintro n rfl
    simp [constants] at hname
  | quoted => rintro _ ⟨⟩
  | template => rintro _ ⟨⟩
  | none => rintro _ ⟨⟩
  | last => rintro _ ⟨⟩
  | next => rintro _ ⟨⟩
  | array _ ih => exact ih
  | group _ ih => exact ih
  | bare _ _ ih => exact ih
  | led _ _ _ ih => exact ih
  | plain _ _ ih => exact ih
  | trailed _ _ _ _ _ _ _ ih => exact ih

theorem isFinite_of_readInitializer {source : String} {n : Number} {flag : Bool}
    (h : readInitializer source = .ok ⟨.number n, flag⟩) : Double.isFinite n.toDouble = true := by
  obtain ⟨_, hspells, _⟩ := readInitializer_eq_ok_iff.1 h
  exact hspells.isFinite n rfl

/-- Any two literals stand in the order, it is transitive, and finite literals at one place are the same,
or both are zeros. -/
structure IsTotal (cmp : Literal → Literal → Ordering) : Prop where
  total : ∀ a b, (cmp a b).isLE = true ∨ (cmp b a).isLE = true
  trans : ∀ a b c, (cmp a b).isLE = true → (cmp b c).isLE = true → (cmp a c).isLE = true
  antisymm : ∀ a b, a.isFinite = true → b.isFinite = true → (cmp a b).isLE = true →
    (cmp b a).isLE = true → a = b ∨ a.IsZero ∧ b.IsZero

theorem isTotal_order : IsTotal order where
  total := isLE_total
  trans _ _ _ := Std.TransCmp.isLE_trans
  antisymm _ _ ha hb hle hge := eq_or_isZero_of_order ha hb (Std.OrientedCmp.isLE_antisymm hle hge)

end Literal

/-! ## Members -/

namespace EnumMember

variable {member : EnumMember} {value : Literal}

/-- What gives a member a value: its constant, and where there is none an initializer that reads as a
scalar, or as a string or truth value under a type assertion. -/
inductive Gives (member : EnumMember) : Literal → Prop
  | constant {value : Literal} (hvalue : member.value = some value) : Gives member value
  | scalar {source : String} {json : Json} {value : Literal} (hnone : member.value = none)
      (hsource : member.initializer = some source)
      (hread : Literal.readInitializer source = .ok ⟨json, false⟩)
      (hscalar : Literal.ofJson? json = some value) : Gives member value
  | assertedString {source text : String} (hnone : member.value = none)
      (hsource : member.initializer = some source)
      (hread : Literal.readInitializer source = .ok ⟨.string text, true⟩) : Gives member (.string text)
  | assertedBool {source : String} {flag : Bool} (hnone : member.value = none)
      (hsource : member.initializer = some source)
      (hread : Literal.readInitializer source = .ok ⟨.bool flag, true⟩) : Gives member (.bool flag)

theorem value?_eq_some_iff : member.value? = some value ↔ member.Gives value := by
  constructor
  · intro h
    unfold value? at h
    split at h
    · next hconstant =>
      cases h
      exact .constant hconstant
    · next hnone hsource =>
      unfold fromInitializer? at h
      split at h
      · next hread =>
        cases h
        exact .assertedString hnone hsource hread
      · next hread =>
        cases h
        exact .assertedBool hnone hsource hread
      · cases h
      · next hread => exact .scalar hnone hsource hread h
      · cases h
    · cases h
  · rintro (hconstant | ⟨hnone, hsource, hread, hscalar⟩ | ⟨hnone, hsource, hread⟩ |
      ⟨hnone, hsource, hread⟩)
    · simp [value?, hconstant]
    · simp [value?, hnone, hsource, fromInitializer?, hread, hscalar]
    · simp [value?, hnone, hsource, fromInitializer?, hread]
    · simp [value?, hnone, hsource, fromInitializer?, hread]

/-- The value of a member is finite unless its constant is not. -/
theorem isFinite_of_gives (hfinite : ∀ constant, member.value = some constant → constant.isFinite = true)
    (h : member.Gives value) : value.isFinite = true := by
  cases h with
  | constant hvalue => exact hfinite _ hvalue
  | @scalar source json _ _ _ hread hscalar =>
    cases json with
    | number n =>
      cases hscalar
      exact Literal.isFinite_of_readInitializer hread
    | null => cases hscalar; rfl
    | bool flag => cases hscalar; rfl
    | string text => cases hscalar; rfl
    | array items => cases hscalar
    | object fields => cases hscalar
  | assertedString => rfl
  | assertedBool => rfl

/-- An initializer was read and gave no value. -/
theorem isSkipped_iff : member.isSkipped = true ↔
    member.value = none ∧ member.initializer ≠ none ∧ ∀ value, ¬member.Gives value := by
  have hvalue : member.value?.isNone = true ↔ ∀ value, ¬member.Gives value := by
    simp only [Option.isNone_iff_eq_none, Option.eq_none_iff_forall_ne_some, ne_eq, value?_eq_some_iff]
  rw [isSkipped, Bool.and_eq_true, Bool.and_eq_true, hvalue, Option.isNone_iff_eq_none,
    Option.isSome_iff_ne_none, and_assoc]

/-- The warning about a member that is left out. -/
def leftOut (enumName : String) (member : EnumMember) : LogEntry :=
  .memberLeftOut (enumName ++ "." ++ member.name) (member.initializer.getD "")

end EnumMember

namespace Enumeration

variable {members members' : List EnumMember} {definition : Definition}

/-! ## Kinds -/

/-- What was seen, each once, in the order in which it was first seen. -/
structure FirstSeen (seen distinct : List LiteralKind) : Prop where
  mem_iff : ∀ kind, kind ∈ distinct ↔ kind ∈ seen
  ordered : distinct.Pairwise fun a b => seen.idxOf a < seen.idxOf b

theorem FirstSeen.nil : FirstSeen [] [] := ⟨fun _ => .rfl, .nil⟩

/-- One more is seen. -/
theorem FirstSeen.see {seen distinct : List LiteralKind} (h : FirstSeen seen distinct)
    (kind : LiteralKind) :
    FirstSeen (seen ++ [kind]) (if distinct.contains kind then distinct else distinct ++ [kind]) := by
  have hkept : distinct.Pairwise fun a b => (seen ++ [kind]).idxOf a < (seen ++ [kind]).idxOf b :=
    h.ordered.imp_of_mem fun ha hb hlt => by
      rwa [List.idxOf_append_of_mem ((h.mem_iff _).1 ha), List.idxOf_append_of_mem ((h.mem_iff _).1 hb)]
  split
  · next hold =>
    have hmem : kind ∈ seen := (h.mem_iff kind).1 (List.contains_iff_mem.1 hold)
    refine ⟨fun other => ?_, hkept⟩
    rw [h.mem_iff, List.mem_append, List.mem_singleton]
    exact ⟨.inl, fun hother => hother.elim id fun heq => heq ▸ hmem⟩
  · next hnew =>
    have hnew : kind ∉ seen := fun hmem => hnew (List.contains_iff_mem.2 ((h.mem_iff kind).2 hmem))
    refine ⟨fun other => ?_, List.pairwise_append.2 ⟨hkept, List.pairwise_singleton _ _, ?_⟩⟩
    · rw [List.mem_append, List.mem_append, h.mem_iff]
    · intro other hother last hlast
      obtain rfl := List.mem_singleton.1 hlast
      have hbefore : other ∈ seen := (h.mem_iff other).1 hother
      rw [List.idxOf_append_of_mem hbefore, List.idxOf_append_of_notMem hnew]
      exact Nat.lt_of_lt_of_le (List.idxOf_lt_length_of_mem hbefore) (Nat.le_add_right _ _)

theorem firstSeen_kinds (found : List Literal) : FirstSeen (found.map Literal.kind) (kinds found) := by
  have hfold : ∀ (rest : List Literal) (seen distinct : List LiteralKind), FirstSeen seen distinct →
      FirstSeen (seen ++ rest.map Literal.kind) (rest.foldl (fun distinct value =>
        if distinct.contains value.kind then distinct else distinct ++ [value.kind]) distinct) := by
    intro rest
    induction rest with
    | nil => exact fun _ _ h => by simpa using h
    | cons value rest ih => exact fun _ _ h => by simpa using ih _ _ (h.see value.kind)
  exact hfold found [] [] .nil

/-! ## Schemas -/

theorem define_of_values_eq_nil (h : values members = []) : define members definition = definition := by
  rw [define, h]
  rfl

/-- What the schema of an enum has: all values in order, and their kinds. -/
structure Lists (values : List Literal) (schema : Definition) : Prop where
  enum : ∃ listed : List Literal, listed.Perm values ∧
    listed.Pairwise (fun a b => (Literal.order a b).isLE = true) ∧
    schema.get? "enum" = some (.array (listed.map Literal.toJson))
  type : ∃ kinds : List LiteralKind, FirstSeen (values.map Literal.kind) kinds ∧
    ((∃ kind, kinds = [kind] ∧ schema.get? "type" = some (.string kind.name)) ∨
      2 ≤ kinds.length ∧ schema.get? "type" = some (Json.strings (kinds.map LiteralKind.name)))

theorem define_of_values_ne_nil (h : values members ≠ []) :
    define members definition = (insertKinds definition (kinds (values members))).insert "enum"
      (.array ((Literal.sort (values members)).map Literal.toJson)) :=
  if_neg (by simpa using h)

theorem lists_define (h : values members ≠ []) : Lists (values members) (define members definition) := by
  have hseen := firstSeen_kinds (values members)
  rw [define_of_values_ne_nil h]
  refine ⟨⟨Literal.sort (values members), List.mergeSort_perm _ _, Literal.pairwise_sort _, ?_⟩,
    ⟨kinds (values members), hseen, ?_⟩⟩
  · rw [Definition.get?_insert, if_pos rfl]
  · rw [Definition.get?_insert_of_ne (by decide)]
    rcases hkinds : kinds (values members) with _ | ⟨kind, _ | ⟨second, rest⟩⟩
    · obtain ⟨value, hvalue⟩ := List.exists_mem_of_ne_nil _ h
      rw [hkinds] at hseen
      cases (hseen.mem_iff value.kind).2 (List.mem_map_of_mem hvalue)
    · exact .inl ⟨kind, rfl, by rw [insertKinds, Definition.get?_insert, if_pos rfl]⟩
    · refine .inr ⟨by simp, ?_⟩
      rw [insertKinds, Definition.get?_insert, if_pos rfl]
      · rintro ⟨⟩
      · rintro _ ⟨⟩

theorem mem_values {value : Literal} :
    value ∈ values members ↔ ∃ member ∈ members, member.Gives value := by
  simp only [values, List.mem_filterMap, EnumMember.value?_eq_some_iff]

/-- The order of the members does not show under `enum`. -/
theorem get?_enum_of_perm
    (hfinite : ∀ member ∈ members, ∀ constant, member.value = some constant → constant.isFinite = true)
    (h : members'.Perm members) :
    (define members' definition).get? "enum" = (define members definition).get? "enum" := by
  have hvalues : (values members').Perm (values members) := h.filterMap _
  by_cases hnil : values members = []
  · rw [define_of_values_eq_nil hnil, define_of_values_eq_nil (List.perm_nil.1 (hnil ▸ hvalues))]
  · have hnil' : values members' ≠ [] := fun heq => hnil (List.nil_perm.1 (heq ▸ hvalues))
    have hvalue : ∀ value ∈ values members, value.isFinite = true := fun value hvalue => by
      obtain ⟨member, hmember, hgives⟩ := mem_values.1 hvalue
      exact EnumMember.isFinite_of_gives (hfinite member hmember) hgives
    rw [define_of_values_ne_nil hnil, define_of_values_ne_nil hnil', Definition.get?_insert,
      Definition.get?_insert, if_pos rfl, if_pos rfl, Literal.map_toJson_sort_of_perm hvalues.symm hvalue]

/-! ## Warnings -/

theorem warnings_eq (name : String) (members : List EnumMember) :
    warnings name members = (members.filter EnumMember.isSkipped).map (EnumMember.leftOut name) := by
  rw [← List.filterMap_eq_map, List.filterMap_filter]
  rfl

theorem exec_forM_note (entries : List LogEntry) (p : Progress) :
    (entries.forM BuildM.note).exec p = (.ok (), { p with log := p.log ++ entries }) := by
  induction entries generalizing p with
  | nil => rw [List.append_nil]; rfl
  | cons entry rest ih =>
    have hfirst : (BuildM.note entry).exec p = (.ok (), p.note entry) := rfl
    change (BuildM.note entry >>= fun _ => rest.forM BuildM.note).exec p = _
    rw [BuildM.exec_bind, hfirst]
    dsimp only
    rw [ih, Progress.note, List.append_assoc]
    rfl

/-- The rule for enums tells of the members that are left out and of nothing else. -/
theorem exec_structureSchema (catalog : Catalog) (build : Builder) (request : Request) {subject : Subject}
    {name : String} (hkind : subject.node.kind = .enum members)
    (hname : catalog.graph.typeText subject.id = .ok name) (definition : Definition) (p : Progress) :
    (catalog.structureSchema build request subject false definition).exec p =
      (.ok (define members definition), { p with log := p.log ++ warnings name members }) := by
  have hprinted : (catalog.printed subject.id).exec p = (.ok name, p) := by
    rw [Catalog.printed, hname]
    rfl
  rw [Catalog.structureSchema, hkind]
  dsimp only
  rw [if_neg Bool.false_ne_true, BuildM.exec_bind, hprinted]
  dsimp only
  rw [BuildM.exec_bind, exec_forM_note]
  rfl

/-! ## The whole rule -/

/-- **Enums lose and invent nothing.** -/
theorem define_spec (members : List EnumMember)
    (hfinite : ∀ member ∈ members, ∀ constant, member.value = some constant → constant.isFinite = true)
    (definition : Definition) :
    Literal.IsTotal Literal.order ∧
    (∀ (member : EnumMember) (value : Literal), member.value? = some value ↔ member.Gives value) ∧
    (members.filterMap EnumMember.value? ≠ [] →
      Lists (members.filterMap EnumMember.value?) (define members definition)) ∧
    (members.filterMap EnumMember.value? = [] → define members definition = definition) ∧
    (∀ key, key ≠ "type" → key ≠ "enum" →
      (define members definition).get? key = definition.get? key) ∧
    (∀ members' : List EnumMember, members'.Perm members →
      (define members' definition).get? "enum" = (define members definition).get? "enum") ∧
    (∀ member : EnumMember, member.isSkipped = true ↔
      member.value = none ∧ member.initializer ≠ none ∧ ∀ value, ¬member.Gives value) ∧
    (∀ (name : String) (member : EnumMember), (member.leftOut name).level = .warning) ∧
    ∀ (catalog : Catalog) (build : Builder) (request : Request) (subject : Subject) (name : String)
      (p : Progress), subject.node.kind = .enum members →
      catalog.graph.typeText subject.id = .ok name →
      (catalog.structureSchema build request subject false definition).exec p =
        (.ok (define members definition),
          { p with log := p.log ++ (members.filter EnumMember.isSkipped).map (EnumMember.leftOut name) }) := by
  refine ⟨Literal.isTotal_order, fun _ _ => EnumMember.value?_eq_some_iff, lists_define,
    define_of_values_eq_nil, fun _ htype henum => Definition.get?_define members htype henum,
    fun _ => get?_enum_of_perm hfinite, fun _ => EnumMember.isSkipped_iff,
    fun _ _ => rfl, ?_⟩
  intro catalog build request subject name p hkind hname
  rw [← warnings_eq]
  exact exec_structureSchema catalog build request hkind hname definition p

/-- Members with and without constants. -/
def mixed : List EnumMember :=
  [⟨"Ten", some (.number 10.0), none⟩, ⟨"Two", some (.number 2.0), none⟩,
    ⟨"Label", none, some "'label' as any"⟩, ⟨"Flag", none, some "true as any"⟩,
    ⟨"Nothing", none, some "null"⟩, ⟨"Computed", none, some "compute()"⟩]

/-- A catalog of an enum with these members. -/
def mixedCatalog : Catalog where
  graph :=
    { types := #[{ kind := .enum mixed, symbol := some ⟨0⟩ }]
      symbols := #[{ name := "Mixed" }] }

/-- All values of the mixed members are listed, also of the reversed members, and a run tells of the one
member that has to be computed. -/
theorem define_spec_mixed :
    mixed.filterMap EnumMember.value? =
      [.number 10.0, .number 2.0, .string "label", .bool true, .null] ∧
    Lists (mixed.filterMap EnumMember.value?) (define mixed Definition.empty) ∧
    (define mixed.reverse Definition.empty).get? "enum" = (define mixed Definition.empty).get? "enum" ∧
    ((mixedCatalog.structureSchema (fun _ => pure Definition.empty) (mixedCatalog.member ⟨0⟩)
        ⟨⟨0⟩, { kind := .enum mixed, symbol := some ⟨0⟩ }, none⟩ false Definition.empty).exec
      ⟨Context.start .definitions [], [], []⟩).2.log =
      [.memberLeftOut "Mixed.Computed" "compute()"] := by
  have hfinite : ∀ member ∈ mixed, ∀ constant, member.value = some constant →
      constant.isFinite = true := by
    have hall : (mixed.all fun member => member.value.all Literal.isFinite) = true := by decide +kernel
    intro member hmember constant hconstant
    simpa [hconstant] using List.all_eq_true.1 hall member hmember
  have hvalues : mixed.filterMap EnumMember.value? =
      [.number 10.0, .number 2.0, .string "label", .bool true, .null] := by decide +kernel
  have hskipped : mixed.filter EnumMember.isSkipped = [⟨"Computed", none, some "compute()"⟩] := by
    decide +kernel
  obtain ⟨_, _, hlists, _, _, hperm, _, _, hrun⟩ := define_spec mixed hfinite Definition.empty
  refine ⟨hvalues, hlists (by rw [hvalues]; exact List.cons_ne_nil _ _), hperm _ mixed.reverse_perm, ?_⟩
  rw [hrun mixedCatalog _ _ _ "Mixed" _ rfl (by decide +kernel), hskipped]
  rfl

end Enumeration

end TypeSchema
