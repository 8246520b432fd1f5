import Mathlib.Data.List.Induction
import TypeSchema.Proofs.Literals
import TypeSchema.Proofs.Objects.Branches
import TypeSchema.Proofs.OpenApi.Schemes

/-!
# Unions of literals

A union of literals is an enumeration: its schema lists the values in order, each once, and names
their kind if they are of one.  Only the two truth values are simply a type.
**`Catalog.enumerates_of_literals`** says so, and that the schema depends on the values alone: the
order of the members, their repetition and any number of `undefined` or `void` between them make no
difference.

That holds for members that are `undefined` and have no name.  One with a symbol of its own becomes
a reference like any other named type, and a reference is a branch
(`Catalog.exists_branch_of_named_undefined`).
-/

set_option autoImplicit false

namespace TypeSchema

open BuildM

/-! ## The values of the members -/

namespace Branches

variable {branches : Branches} {value other : Literal} {values literals : List Literal}

theorem mem_values_addValue (h : other ∈ (branches.addValue value).values) :
    other ∈ branches.values ∨ other = value := by
  rw [addValue] at h
  split at h
  · exact .inl h
  · simpa using h

/-- The value is there afterwards. -/
theorem exists_mem_addValue (branches : Branches) (value : Literal) :
    ∃ same ∈ (branches.addValue value).values, value.order same = .eq := by
  rw [addValue]
  split
  · rename_i hamong
    obtain ⟨same, hsame, heq⟩ := List.any_eq_true.1 hamong
    exact ⟨same, hsame, Std.OrientedCmp.eq_symm (eq_of_beq heq)⟩
  · exact ⟨value, by simp, Std.ReflCmp.compare_self⟩

theorem mem_addValue_of_mem (h : other ∈ branches.values) :
    other ∈ (branches.addValue value).values := by
  rw [addValue]
  split
  · exact h
  · exact List.mem_append_left _ h

theorem pairwise_addValue (h : branches.values.Pairwise fun a b => a.order b ≠ .eq) :
    (branches.addValue value).values.Pairwise fun a b => a.order b ≠ .eq := by
  rw [addValue]
  split
  · exact h
  · rename_i hnew
    refine List.pairwise_append.2 ⟨h, List.pairwise_singleton _ _, fun a ha b hb heq => hnew ?_⟩
    rw [List.mem_singleton.1 hb] at heq
    exact List.any_eq_true.2 ⟨a, ha, beq_iff_eq.2 heq⟩

/-- Literals that are entered one after the other leave each value once. -/
theorem values_foldl_addValue (literals : List Literal) :
    (literals.foldl addValue {}).schemas = [] ∧
      (literals.foldl addValue {}).values.Pairwise (fun a b => a.order b ≠ .eq) ∧
      (∀ value ∈ (literals.foldl addValue {}).values, value ∈ literals) ∧
      Literal.Covers (literals.foldl addValue {}).values literals := by
  induction literals using List.reverseRecOn with
  | nil => exact ⟨rfl, .nil, List.forall_mem_nil _, List.forall_mem_nil _⟩
  | append_singleton rest value ih =>
    obtain ⟨hschemas, hdistinct, hvalues, hcovers⟩ := ih
    rw [List.foldl_concat]
    refine ⟨?_, pairwise_addValue hdistinct, fun other hother => ?_, fun other hother => ?_⟩
    · rw [addValue]
      split <;> exact hschemas
    · rcases mem_values_addValue hother with hold | rfl
      · exact List.mem_append_left _ (hvalues other hold)
      · simp
    · rcases List.mem_append.1 hother with hold | hnew
      · obtain ⟨same, hsame, heq⟩ := hcovers other hold
        exact ⟨same, mem_addValue_of_mem hsame, heq⟩
      · rw [List.mem_singleton.1 hnew]
        exact exists_mem_addValue _ value

/-- All values are of the kind, and there are some. -/
theorem commonKind?_eq_some {kind : LiteralKind} :
    commonKind? values = some kind ↔ values ≠ [] ∧ ∀ value ∈ values, value.kind = kind := by
  cases values with
  | nil => simp [commonKind?]
  | cons first rest =>
    simp only [commonKind?, List.all_eq_true, beq_iff_eq]
    split
    · rename_i hall
      simp only [Option.some.injEq, ne_eq, reduceCtorEq, not_false_eq_true, true_and,
        List.forall_mem_cons]
      exact ⟨fun h => ⟨h, fun value hvalue => (hall value hvalue).trans h⟩, And.left⟩
    · rename_i hall
      simp only [reduceCtorEq, ne_eq, not_false_eq_true, true_and, List.forall_mem_cons, false_iff]
      exact fun h => hall fun value hvalue => (h.2 value hvalue).trans h.1.symm

end Branches

/-! ## The schema of the values -/

/-- The schema enumerates the literals: it lists them, and names their kind if they have one in
common.  The two truth values are a type and nothing else. -/
structure Definition.Enumerates (schema : Definition) (listed : List Literal) : Prop where
  booleans : listed = [.bool false, .bool true] → schema = [("type", .string "boolean")]
  values : listed ≠ [.bool false, .bool true] →
    schema.get? "enum" = some (.array (listed.map Literal.toJson))
  kind : listed ≠ [.bool false, .bool true] → ∀ kind, (∀ literal ∈ listed, literal.kind = kind) →
    schema.get? "type" = some (.string kind.name)
  kinds : listed ≠ [.bool false, .bool true] → (∀ kind, ∃ literal ∈ listed, literal.kind ≠ kind) →
    schema.get? "type" = none
  others : ∀ key, key ≠ "enum" → key ≠ "type" → schema.get? key = none

namespace Branches

variable {values values' : List Literal}

/-- The two truth values, in whichever order, are put in order. -/
theorem isBothBooleans_iff (h : values.Pairwise fun a b => a.order b ≠ .eq) :
    isBothBooleans values = true ↔ Literal.sort values = [.bool false, .bool true] := by
  have hperm : (Literal.sort values).Perm values := List.mergeSort_perm values _
  have hascends := Literal.ascends_sort h
  have hlength := hperm.length_eq
  have hall : values.all (fun v => v.kind == .bool) =
      (Literal.sort values).all fun v => v.kind == .bool := by
    rw [Bool.eq_iff_iff, List.all_eq_true, List.all_eq_true]
    exact forall_congr' fun v => by rw [hperm.mem_iff]
  rw [isBothBooleans, hall, ← hlength]
  generalize Literal.sort values = listed at hascends ⊢
  rcases listed with _ | ⟨a, _ | ⟨b, _ | ⟨c, rest⟩⟩⟩
  · simp
  · simp
  · have hab : a.order b = .lt := List.rel_of_pairwise_cons hascends List.mem_cons_self
    constructor
    · intro hbool
      simp only [List.length_cons, List.length_nil, Nat.zero_add, Nat.reduceAdd, beq_self_eq_true,
        List.all_cons, List.all_nil, Bool.and_true, Bool.true_and, Bool.and_eq_true,
        beq_iff_eq] at hbool
      cases a with
      | bool x => cases b with
        | bool y => cases x <;> cases y <;> first | rfl | cases hab
        | _ => cases hbool.2
      | _ => cases hbool.1
    · intro heq
      cases heq
      rfl
  · simp

/-- The kind that all values have, if there is one, is that of the literals in order. -/
theorem commonKind?_eq_some_sort {kind : LiteralKind} (hsome : values ≠ []) :
    commonKind? values = some kind ↔ ∀ literal ∈ Literal.sort values, literal.kind = kind := by
  have hperm : (Literal.sort values).Perm values := List.mergeSort_perm values _
  rw [commonKind?_eq_some, and_iff_right hsome]
  exact forall_congr' fun literal => by rw [hperm.mem_iff]

/-- What is written of values that are not the two truth values. -/
theorem valuesSchema_of_not_both (hboth : isBothBooleans values = false)
    (hnull : ∀ value ∈ values, value.kind ≠ .null) :
    valuesSchema values =
      let listed := Definition.empty.insert "enum" (.array ((Literal.sort values).map Literal.toJson))
      match commonKind? values with
      | none => listed
      | some kind => listed.insert "type" (.string kind.name) := by
  rw [valuesSchema, hboth]
  cases hkind : commonKind? values with
  | none => rfl
  | some kind =>
    obtain ⟨hsome, hall⟩ := commonKind?_eq_some.1 hkind
    obtain ⟨value, hvalue⟩ := List.exists_mem_of_ne_nil _ hsome
    cases kind with
    | null => exact absurd (hall value hvalue) (hnull value hvalue)
    | _ => rfl

theorem valuesSchema_of_both (hboth : isBothBooleans values = true) :
    valuesSchema values = [("type", .string "boolean")] := by
  have hkind : commonKind? values = some .bool := by
    rw [isBothBooleans, Bool.and_eq_true, List.all_eq_true] at hboth
    refine commonKind?_eq_some.2 ⟨?_, fun value hvalue => eq_of_beq (hboth.2 value hvalue)⟩
    rintro rfl
    cases hboth.1
  rw [valuesSchema, hboth, hkind]
  rfl

theorem enumerates_valuesSchema (h : values.Pairwise fun a b => a.order b ≠ .eq) (hsome : values ≠ [])
    (hnull : ∀ value ∈ values, value.kind ≠ .null) :
    (valuesSchema values).Enumerates (Literal.sort values) := by
  have hiff := isBothBooleans_iff h
  cases hboth : isBothBooleans values with
  | true =>
    rw [valuesSchema_of_both hboth]
    have hsorted := hiff.1 hboth
    refine ⟨fun _ => rfl, fun hne => absurd hsorted hne, fun hne => absurd hsorted hne,
      fun hne => absurd hsorted hne, fun key _ hkey => ?_⟩
    simp [Definition.get?, Dict.get?, Ne.symm hkey]
  | false =>
    have hne : Literal.sort values ≠ [.bool false, .bool true] := fun heq => by
      rw [hiff.2 heq] at hboth
      cases hboth
    rw [valuesSchema_of_not_both hboth hnull]
    cases hkind : commonKind? values with
    | none =>
      refine ⟨fun heq => absurd heq hne, fun _ => ?_, fun _ kind hall => ?_, fun _ _ => ?_,
        fun key henum _ => ?_⟩
      · rw [Definition.get?_insert, if_pos rfl]
      · rw [(commonKind?_eq_some_sort hsome).2 hall] at hkind
        cases hkind
      · rw [Definition.get?_insert_of_ne (by decide)]
        rfl
      · rw [Definition.get?_insert_of_ne (Ne.symm henum)]
        rfl
    | some common =>
      have hcommon := (commonKind?_eq_some_sort hsome).1 hkind
      refine ⟨fun heq => absurd heq hne, fun _ => ?_, fun _ kind hall => ?_, fun _ hnot => ?_,
        fun key henum htype => ?_⟩
      · rw [Definition.get?_insert_of_ne (by decide), Definition.get?_insert, if_pos rfl]
      · rw [(commonKind?_eq_some_sort hsome).2 hall] at hkind
        cases hkind
        rw [Definition.get?_insert, if_pos rfl]
      · obtain ⟨literal, hmem, hother⟩ := hnot common
        exact absurd (hcommon literal hmem) hother
      · rw [Definition.get?_insert_of_ne (Ne.symm htype), Definition.get?_insert_of_ne (Ne.symm henum)]
        rfl

theorem kind_eq_of_covers (hcovers : Literal.Covers values' values) {kind : LiteralKind}
    (hall : ∀ value ∈ values', value.kind = kind) : ∀ value ∈ values, value.kind = kind := by
  intro value hvalue
  obtain ⟨same, hsame, horder⟩ := hcovers value hvalue
  exact (Literal.kind_eq_of_order horder).trans (hall same hsame)

theorem ne_nil_of_covers (hcovers : Literal.Covers values' values) (hsome : values ≠ []) :
    values' ≠ [] := by
  rintro rfl
  obtain ⟨value, hvalue⟩ := List.exists_mem_of_ne_nil _ hsome
  obtain ⟨_, hmem, _⟩ := hcovers value hvalue
  cases hmem

/-- **The schema depends on the values alone**, not on which literal of two that stand at one place
is there, nor on the order. -/
theorem valuesSchema_congr (h : values.Pairwise fun a b => a.order b ≠ .eq)
    (h' : values'.Pairwise fun a b => a.order b ≠ .eq)
    (hfinite : ∀ value ∈ values, value.isFinite = true) (hfinite' : ∀ value ∈ values', value.isFinite = true)
    (hcovers : Literal.Covers values' values) (hcovers' : Literal.Covers values values') :
    valuesSchema values = valuesSchema values' := by
  have hperm : (Literal.sort values).Perm values := List.mergeSort_perm values _
  have hperm' : (Literal.sort values').Perm values' := List.mergeSort_perm values' _
  have hsame := Literal.forall₂_of_ascends (Literal.ascends_sort h) (Literal.ascends_sort h')
    (fun a ha => (hcovers a (hperm.mem_iff.1 ha)).imp fun b hb => ⟨hperm'.mem_iff.2 hb.1, hb.2⟩)
    (fun a ha => (hcovers' a (hperm'.mem_iff.1 ha)).imp fun b hb => ⟨hperm.mem_iff.2 hb.1, hb.2⟩)
  have hjson : (Literal.sort values).map Literal.toJson = (Literal.sort values').map Literal.toJson :=
    Literal.map_toJson_eq (fun a ha => hfinite a (hperm.mem_iff.1 ha))
      (fun a ha => hfinite' a (hperm'.mem_iff.1 ha)) hsame
  have hlength : values.length = values'.length := by
    rw [← hperm.length_eq, hsame.length_eq, hperm'.length_eq]
  have hboth : isBothBooleans values = isBothBooleans values' := by
    rw [isBothBooleans, isBothBooleans, hlength, Bool.eq_iff_iff]
    simp only [Bool.and_eq_true, List.all_eq_true, beq_iff_eq]
    exact and_congr_right fun _ => ⟨kind_eq_of_covers hcovers', kind_eq_of_covers hcovers⟩
  have hkind : commonKind? values = commonKind? values' := by
    refine Option.ext fun kind => ?_
    rw [commonKind?_eq_some, commonKind?_eq_some]
    exact and_congr ⟨ne_nil_of_covers hcovers, ne_nil_of_covers hcovers'⟩
      ⟨kind_eq_of_covers hcovers', kind_eq_of_covers hcovers⟩
  rw [valuesSchema, valuesSchema, hjson, hboth, hkind]

end Branches

namespace Catalog

variable {catalog : Catalog} {p : Progress} {member : TypeId} {node : TypeNode} {value : Literal}
  {members members' : List TypeId}

/-! ## Members that leave no branch -/

/-- The type is `undefined` or `void`, and has no name. -/
structure IsVoid (catalog : Catalog) (member : TypeId) (node : TypeNode) : Prop where
  found : catalog.graph.lookupType member = .ok node
  kind : node.kind = .undefined ∨ node.kind = .void
  unaliased : node.aliasSymbol = none
  unnamed : node.symbol = none

namespace IsVoid

theorem exists_typeText (h : catalog.IsVoid member node) :
    ∃ text, catalog.graph.typeText member = .ok text := by
  have hsymbol : (if node.isAnonymousObject then none else node.symbol) = none := by
    rw [h.unnamed, ite_self]
  rw [TypeGraph.typeText, TypeGraph.printedLevels, TypeGraph.print, h.found]
  simp only [TypeGraph.nodeText, h.unaliased, hsymbol, bind, Except.bind]
  rcases h.kind with hkind | hkind <;> rw [TypeGraph.structureText, hkind] <;> exact ⟨_, rfl⟩

theorem isRaw (h : catalog.IsVoid member node) : catalog.graph.isRaw node = .ok true := by
  rcases h.kind with hkind | hkind <;> rw [TypeGraph.isRaw, hkind, h.unnamed] <;> rfl

theorem post_ownName (h : catalog.IsVoid member node) :
    (catalog.ownName member).Post p (fun _ _ => True) fun _ _ => False := by
  obtain ⟨text, htext⟩ := h.exists_typeText
  rw [ownName]
  refine post_bind.2 (post_context.2 ?_)
  split
  · exact trivial
  · rw [printed, htext]
    exact trivial

theorem post_subjectName (h : catalog.IsVoid member node) :
    (catalog.subjectName ⟨member, node, none⟩ false).Post p (fun _ _ => True) fun _ _ => False := by
  have hdeclaring : catalog.graph.declaringSymbol node = .ok none := by
    rw [TypeGraph.declaringSymbol, TypeNode.namingSymbol, h.unaliased, h.unnamed]
    rfl
  rw [subjectName, hdeclaring]
  refine post_bind.2 ((post_pure none).2 ?_)
  simp only [Option.bind_none, ite_self, overrideName?]
  refine post_bind.2 ((post_pure none).2 ?_)
  exact h.post_ownName.bind fun _ _ _ => trivial

/-- It is described where it stands. -/
theorem post_plan (h : catalog.IsVoid member node) (asReference : Bool) :
    (catalog.plan ⟨member, node, none⟩ asReference).Post p
      (fun plan _ => plan.isRaw = true ∧ plan.isReference = false ∧ plan.token = none)
      fun _ _ => False := by
  have hunion : catalog.graph.isStringUnion node = .ok false := by
    rcases h.kind with hkind | hkind <;> rw [TypeGraph.isStringUnion, hkind] <;> rfl
  rw [plan, h.isRaw, hunion]
  refine post_bind.2 ((post_pure true).2 (post_bind.2 ((post_pure false).2 ?_)))
  simp only [Bool.and_false, Bool.false_and, Bool.not_false, Bool.true_and, Bool.true_or, Bool.not_true]
  refine h.post_subjectName.bind fun name q _ => ?_
  rw [takeUp]
  simp [Subject.isGuarded, h.unaliased]

theorem structureSchema_eq (h : catalog.IsVoid member node) (build : Builder) (request : Request)
    (definition : Definition) :
    catalog.structureSchema build request ⟨member, node, none⟩ true definition =
      pure (definition.setType "undefined") := by
  rcases h.kind with hkind | hkind <;> rw [structureSchema, plainSchema] <;> simp only [hkind] <;> rfl

/-- Whoever asks for it is answered with its type. -/
theorem post_buildWithin (h : catalog.IsVoid member node) (hhook : catalog.hook = id) (depth : Nat)
    {request : Request} (htype : request.type = member) (hnamed : request.named = none)
    (howner : request.owner = none) :
    (catalog.buildWithin (depth + 1) request).Post p
      (fun answer _ => answer.typeName? = some "undefined") fun _ _ => False := by
  have hwrapped : catalog.graph.wrapped? node = .ok none := by
    rw [TypeGraph.wrapped?, h.unaliased]
    rfl
  have hsubject : catalog.graph.unwrap (catalog.graph.types.size + 1) request.type request.named =
      .ok ⟨member, node, none⟩ := by
    rw [htype, hnamed]
    exact TypeGraph.unwrap_of_not_wrapped _ none h.found hwrapped
  have hdescribing : Subject.describing ⟨member, node, none⟩ = [] := by
    simp [Subject.describing, h.unnamed, h.unaliased]
  rw [buildWithin, respond, hsubject, howner]
  refine post_bind.2 ((post_pure _).2 ((h.post_plan request.asReference).bind ?_))
  rintro plan q ⟨hraw, hinline, htoken⟩
  rw [carryOut, annotate, hdescribing, howner]
  refine post_bind.2 (post_bind.2 (post_bind.2 ((post_pure _).2 ((post_pure _).2 ?_))))
  simp only [hinline]
  have hschema : (catalog.define (catalog.buildWithin depth) request ⟨⟨member, node, none⟩, plan⟩
      Definition.empty).Post q (fun schema _ => schema.typeName? = some "undefined")
      fun _ _ => False := by
    rw [define]
    refine post_bind.2 (post_act.2 ?_)
    dsimp only
    rw [hraw, h.structureSchema_eq]
    exact (post_pure _).2 rfl
  refine post_bind.2 (hschema.imp fun schema r hname => ?_)
  rw [finish, htoken, hhook]
  exact hname

end IsVoid

/-! ## Members that are literals -/

/-- The member is a literal that can be written, or leaves nothing. -/
inductive IsConstant (catalog : Catalog) (member : TypeId) : Prop
  | literal {value : Literal} (hvalue : catalog.literalOf? member = some value)
      (hfinite : value.isFinite = true) : IsConstant catalog member
  | void {node : TypeNode} (hvoid : catalog.IsVoid member node) : IsConstant catalog member

theorem exists_of_literalOf? (h : catalog.literalOf? member = some value) :
    ∃ node, catalog.graph.lookupType member = .ok node ∧ node.kind.literal? = some value := by
  obtain ⟨node, hnode, hvalue⟩ := Option.bind_eq_some_iff.1 h
  exact ⟨node, Decoder.toOption_eq_some.1 hnode, hvalue⟩

theorem IsVoid.literalOf?_eq_none (h : catalog.IsVoid member node) :
    catalog.literalOf? member = none := by
  rw [literalOf?, h.found]
  rcases h.kind with hkind | hkind <;> simp [Except.toOption, hkind, TypeKind.literal?]

/-- The builder of the parts of a type. -/
abbrev partBuilder (catalog : Catalog) (depth : Nat) (chain : List Frame) : Builder := fun part =>
  catalog.buildWithin depth { part with above := chain }

theorem post_addBranch_of_constant (hhook : catalog.hook = id) (h : catalog.IsConstant member)
    (depth : Nat) (chain : List Frame) (owner : Option Owner) (branches : Branches) :
    (catalog.addBranch (catalog.partBuilder (depth + 1) chain) owner branches member).Post p
      (fun left _ => left = (catalog.literalOf? member).toList.foldl Branches.addValue branches)
      fun _ _ => False := by
  rw [addBranch]
  cases h with
  | @literal value hvalue _ =>
    obtain ⟨node, hnode, hliteral⟩ := exists_of_literalOf? hvalue
    rw [Catalog.type, hnode]
    refine post_bind.2 ((post_pure node).2 ?_)
    rw [hliteral, hvalue]
    exact (post_pure _).2 rfl
  | @void node hvoid =>
    have hliteral : node.kind.literal? = none := by
      rcases hvoid.kind with hkind | hkind <;> rw [hkind] <;> rfl
    rw [Catalog.type, hvoid.found]
    refine post_bind.2 ((post_pure node).2 ?_)
    rw [hliteral, hvoid.literalOf?_eq_none, memberOwner, hvoid.unaliased]
    refine post_bind.2 ((post_pure none).2 ?_)
    refine (hvoid.post_buildWithin hhook depth rfl rfl rfl).bind fun schema q hname => ?_
    rw [hname]
    cases owner with
    | none => exact (post_pure _).2 rfl
    | some o => exact post_bind.2 (post_act.2 ((post_pure _).2 rfl))

theorem post_branches_of_constants (hhook : catalog.hook = id)
    (h : ∀ member ∈ members, catalog.IsConstant member) (depth : Nat) (chain : List Frame)
    (owner : Option Owner) (branches : Branches) :
    (members.foldlM (catalog.addBranch (catalog.partBuilder (depth + 1) chain) owner) branches).Post p
      (fun left _ => left = (members.filterMap catalog.literalOf?).foldl Branches.addValue branches)
      fun _ _ => False := by
  induction members generalizing branches p with
  | nil => exact (post_pure _).2 rfl
  | cons member rest ih =>
    obtain ⟨hmember, hrest⟩ := List.forall_mem_cons.1 h
    rw [List.foldlM_cons]
    refine (post_addBranch_of_constant hhook hmember depth chain owner branches).bind ?_
    rintro _ q rfl
    refine (ih hrest _).imp fun left r hleft => hleft.trans ?_
    cases hvalue : catalog.literalOf? member with
    | none => rw [List.filterMap_cons_none hvalue]; rfl
    | some value => rw [List.filterMap_cons_some hvalue]; rfl

/-- The literals among the members. -/
abbrev literalsOf (catalog : Catalog) (members : List TypeId) : List Literal :=
  members.filterMap catalog.literalOf?

/-- The values that they leave. -/
def valuesOf (catalog : Catalog) (members : List TypeId) : List Literal :=
  ((catalog.literalsOf members).foldl Branches.addValue {}).values

theorem pairwise_valuesOf (catalog : Catalog) (members : List TypeId) :
    (catalog.valuesOf members).Pairwise fun a b => a.order b ≠ .eq :=
  (Branches.values_foldl_addValue _).2.1

theorem mem_literalsOf_of_mem_valuesOf (h : value ∈ catalog.valuesOf members) :
    value ∈ catalog.literalsOf members :=
  (Branches.values_foldl_addValue _).2.2.1 value h

theorem covers_valuesOf (catalog : Catalog) (members : List TypeId) :
    Literal.Covers (catalog.valuesOf members) (catalog.literalsOf members) :=
  (Branches.values_foldl_addValue _).2.2.2

theorem isFinite_of_mem_valuesOf (h : ∀ member ∈ members, catalog.IsConstant member)
    (hvalue : value ∈ catalog.valuesOf members) : value.isFinite = true := by
  obtain ⟨member, hmember, hliteral⟩ := List.mem_filterMap.1 (mem_literalsOf_of_mem_valuesOf hvalue)
  cases h member hmember with
  | literal hother hfinite =>
    obtain rfl := Option.some.inj (hother.symm.trans hliteral)
    exact hfinite
  | void hvoid => cases hvoid.literalOf?_eq_none.symm.trans hliteral

/-- No literal type is `null`. -/
theorem kind_ne_null_of_mem_valuesOf (hvalue : value ∈ catalog.valuesOf members) :
    value.kind ≠ .null := by
  obtain ⟨member, _, hliteral⟩ := List.mem_filterMap.1 (mem_literalsOf_of_mem_valuesOf hvalue)
  obtain ⟨node, _, hvalue⟩ := exists_of_literalOf? hliteral
  rintro hnull
  cases value with
  | null =>
    simp only [TypeKind.literal?] at hvalue
    split at hvalue <;> first | cases hvalue | (split at hvalue <;> cases hvalue)
  | _ => cases hnull

theorem post_unionSchema_of_constants (hhook : catalog.hook = id)
    (h : ∀ member ∈ members, catalog.IsConstant member) (hsome : catalog.valuesOf members ≠ [])
    (depth : Nat) (chain : List Frame) (owner : Option Owner) (keyword : UnionKeyword)
    (definition : Definition) :
    (catalog.unionSchema (catalog.partBuilder (depth + 1) chain) owner keyword members definition).Post p
      (fun result _ => result = definition.merge (Branches.valuesSchema (catalog.valuesOf members)))
      fun _ _ => False := by
  rw [unionSchema]
  refine (post_branches_of_constants hhook h depth chain owner {}).bind ?_
  rintro _ q rfl
  refine (post_pure _).2 ?_
  have hall : ((catalog.literalsOf members).foldl Branches.addValue {}).all =
      [Branches.valuesSchema (catalog.valuesOf members)] := by
    rw [Branches.all, (Branches.values_foldl_addValue _).1, if_neg (by simpa [valuesOf] using hsome)]
    rfl
  rw [hall]
  rfl

/-- **Unions of literals denote their sets of values.**  Where the members of a union are literals, at
least one, and types that are `undefined` or `void` and have no name, there is one schema for the
values: it enumerates them in order, each once.  This is what the union adds to its definition,
wherever it is built, and so does every union of the same values. -/
theorem enumerates_of_literals (hhook : catalog.hook = id)
    (hmembers : ∀ member ∈ members, catalog.IsConstant member)
    (hsome : catalog.literalsOf members ≠ []) :
    ∃ schema listed, Literal.Ascends listed ∧ (∀ value ∈ listed, value ∈ catalog.literalsOf members) ∧
      Literal.Covers listed (catalog.literalsOf members) ∧ schema.Enumerates listed ∧
      ∀ members', (∀ member ∈ members', catalog.IsConstant member) →
        Literal.Covers (catalog.literalsOf members) (catalog.literalsOf members') →
        Literal.Covers (catalog.literalsOf members') (catalog.literalsOf members) →
        ∀ depth chain owner keyword definition p, ∃ q,
          (catalog.unionSchema (catalog.partBuilder (depth + 1) chain) owner keyword members'
            definition).exec p = (.ok (definition.merge schema), q) := by
  have hperm : (Literal.sort (catalog.valuesOf members)).Perm (catalog.valuesOf members) :=
    List.mergeSort_perm _ _
  have hvalues : catalog.valuesOf members ≠ [] :=
    Branches.ne_nil_of_covers (catalog.covers_valuesOf members) hsome
  refine ⟨Branches.valuesSchema (catalog.valuesOf members), Literal.sort (catalog.valuesOf members),
    Literal.ascends_sort (catalog.pairwise_valuesOf members),
    fun value hvalue => mem_literalsOf_of_mem_valuesOf (hperm.mem_iff.1 hvalue),
    (Literal.Covers.of_subset fun value => hperm.mem_iff.2).trans (catalog.covers_valuesOf members),
    Branches.enumerates_valuesSchema (catalog.pairwise_valuesOf members) hvalues
      fun _ => kind_ne_null_of_mem_valuesOf, ?_⟩
  intro members' hmembers' hcovers hcovers' depth chain owner keyword definition p
  -- The values left by the one list and by the other are the same.
  have hleft : ∀ {as bs : List TypeId}, Literal.Covers (catalog.literalsOf as) (catalog.literalsOf bs) →
      Literal.Covers (catalog.valuesOf as) (catalog.valuesOf bs) := fun {as bs} h =>
    ((catalog.covers_valuesOf as).trans h).trans
      (Literal.Covers.of_subset fun _ => mem_literalsOf_of_mem_valuesOf)
  have hsame : Branches.valuesSchema (catalog.valuesOf members) =
      Branches.valuesSchema (catalog.valuesOf members') :=
    Branches.valuesSchema_congr (catalog.pairwise_valuesOf members)
      (catalog.pairwise_valuesOf members') (fun _ => isFinite_of_mem_valuesOf hmembers)
      (fun _ => isFinite_of_mem_valuesOf hmembers') (hleft hcovers') (hleft hcovers)
  have hpost := post_unionSchema_of_constants (p := p) hhook hmembers'
    (Branches.ne_nil_of_covers (hleft hcovers') hvalues) depth chain owner keyword definition
  rw [Post] at hpost
  generalize (catalog.unionSchema _ owner keyword members' definition).exec p = done at hpost ⊢
  obtain ⟨e | result, q⟩ := done
  · cases hpost
  · exact ⟨q, by rw [hsame, hpost]⟩

/-- A catalog of literals of two kinds, and of `undefined`. -/
def mixedLiterals : Catalog where
  graph :=
    { types := #[{ kind := .stringLiteral "b" }, { kind := .enumLiteral "10" }, { kind := .undefined },
        { kind := .stringLiteral "a" }, { kind := .numberLiteral 2 }] }

theorem isConstant_mixedLiterals :
    ∀ member ∈ [⟨0⟩, ⟨1⟩, ⟨2⟩, ⟨3⟩, ⟨4⟩], mixedLiterals.IsConstant member := by
  have hten : (TypeKind.enumLiteral "10").literal? = some (.number 10) := by decide +kernel
  simp only [List.forall_mem_cons]
  exact ⟨.literal rfl rfl, .literal hten (by decide +kernel), .void ⟨rfl, .inl rfl, rfl, rfl⟩,
    .literal rfl rfl, .literal rfl (by decide +kernel), List.forall_mem_nil _⟩

/-- Their values in order. -/
def mixedValues : List Literal := [.number 2, .number 10, .string "a", .string "b"]

/-- Numbers come before texts, in whichever order they stand in the union. -/
theorem enumerates_of_literals_mixed : ∃ schema q q',
    (mixedLiterals.unionSchema (mixedLiterals.partBuilder 1 []) none .anyOf [⟨0⟩, ⟨1⟩, ⟨2⟩, ⟨3⟩, ⟨4⟩]
      Definition.empty).exec (Contract.fresh mixedLiterals .definitions) =
        (.ok (Definition.empty.merge schema), q) ∧
    (mixedLiterals.unionSchema (mixedLiterals.partBuilder 1 []) none .oneOf [⟨4⟩, ⟨3⟩, ⟨3⟩, ⟨1⟩, ⟨0⟩]
      Definition.empty).exec (Contract.fresh mixedLiterals .definitions) =
        (.ok (Definition.empty.merge schema), q') ∧
    schema.get? "enum" = some (.array (mixedValues.map Literal.toJson)) ∧
    schema.get? "type" = none := by
  have hpermuted : ∀ member ∈ [⟨4⟩, ⟨3⟩, ⟨3⟩, ⟨1⟩, ⟨0⟩], mixedLiterals.IsConstant member :=
    fun member hmember => isConstant_mixedLiterals member
      ((show ∀ member ∈ [⟨4⟩, ⟨3⟩, ⟨3⟩, ⟨1⟩, ⟨0⟩], member ∈ [⟨0⟩, ⟨1⟩, ⟨2⟩, ⟨3⟩, (⟨4⟩ : TypeId)] by
        decide) member hmember)
  obtain ⟨schema, listed, hascends, hlisted, hcovers, henumerates, hruns⟩ :=
    enumerates_of_literals rfl isConstant_mixedLiterals (by decide +kernel)
  obtain ⟨q, hrun⟩ := hruns _ isConstant_mixedLiterals (.of_subset fun _ => id) (.of_subset fun _ => id)
    0 [] none .anyOf Definition.empty (Contract.fresh mixedLiterals .definitions)
  obtain ⟨q', hrun'⟩ := hruns _ hpermuted (.of_subset (by decide +kernel)) (.of_subset (by decide +kernel))
    0 [] none .oneOf Definition.empty (Contract.fresh mixedLiterals .definitions)
  have hordered : Literal.Ascends mixedValues :=
    (by decide +kernel : mixedValues.Pairwise fun a b => Literal.order a b = .lt)
  have hforward : Literal.Covers mixedValues listed :=
    (Literal.Covers.of_subset (by decide +kernel)).trans (.of_subset hlisted)
  have hbackward : Literal.Covers listed mixedValues := hcovers.trans (.of_subset (by decide +kernel))
  have hsame := Literal.forall₂_of_ascends hascends hordered hforward hbackward
  have hne : listed ≠ [.bool false, .bool true] := by
    rintro rfl
    cases hsame.length_eq
  have hfinite : ∀ value ∈ listed, value.isFinite = true := fun value hvalue =>
    (by decide +kernel : ∀ value ∈ mixedLiterals.literalsOf [⟨0⟩, ⟨1⟩, ⟨2⟩, ⟨3⟩, ⟨4⟩],
      value.isFinite = true) value (hlisted value hvalue)
  refine ⟨schema, q, q', hrun, hrun', ?_, ?_⟩
  · rw [henumerates.values hne, Literal.map_toJson_eq hfinite (by decide +kernel) hsame]
  · refine henumerates.kinds hne fun kind => ?_
    obtain ⟨number, hnumber, htwo⟩ := hbackward (.number 2) (by decide)
    obtain ⟨text, htext, ha⟩ := hbackward (.string "a") (by decide)
    have hnumberKind := Literal.kind_eq_of_order htwo
    have htextKind := Literal.kind_eq_of_order ha
    by_cases hkind : kind = .number
    · exact ⟨text, htext, by rw [← htextKind, hkind]; decide⟩
    · exact ⟨number, hnumber, by rw [← hnumberKind]; exact fun heq => hkind heq.symm⟩

/-- A catalog of an object with a choice between a text and an `undefined` that has a symbol, where
types become references. -/
def namedUndefined : Catalog where
  graph :=
    { types := #[{ kind := .stringLiteral "a" }, { kind := .undefined, symbol := some ⟨0⟩ },
        { kind := .union [⟨0⟩, ⟨1⟩] },
        { kind := .object [{ symbol := ⟨2⟩, type := ⟨2⟩ }] false none, symbol := some ⟨1⟩ }]
      symbols := #[{ name := "Nothing" }, { name := "Root" }, { name := "choice" }]
      declarations := [("Root", ⟨3⟩)] }
  options := { reference := true }
  declared := [("Root", ⟨3⟩)]

/-- **A named `undefined` is a branch.**  The union has one value, but its schema does not list it: it
has a branch that refers to what is `undefined`. -/
theorem exists_branch_of_named_undefined :
    namedUndefined.graph.validate = .ok () ∧
    ofGraph namedUndefined.graph namedUndefined.options Modules.none = .ok namedUndefined ∧
    namedUndefined.hook = id ∧ (namedUndefined.schemas [.exact "Root"]).result.toOption.isSome ∧
    namedUndefined.literalsOf [⟨0⟩, ⟨1⟩] = [.string "a"] ∧
    (∃ node, namedUndefined.graph.lookupType ⟨1⟩ = .ok node ∧ node.kind = .undefined ∧
      node.aliasSymbol = none) ∧
    (∃ result q, (namedUndefined.unionSchema (namedUndefined.partBuilder 2 []) none .anyOf
        [⟨0⟩, ⟨1⟩] Definition.empty).exec (Contract.fresh namedUndefined .definitions) =
          (.ok result, q) ∧ result.get? "enum" = none ∧ (result.get? "anyOf").isSome = true) ∧
    ∃ listing kept, .listed listing ∈ (namedUndefined.schemas [.exact "Root"]).journal ∧
      kept ∈ listing.kept ∧ kept.property.type = ⟨2⟩ ∧ kept.schema.get? "enum" = none ∧
      (kept.schema.get? "anyOf").isSome = true := by
  have hrun : ((namedUndefined.unionSchema (namedUndefined.partBuilder 2 []) none .anyOf [⟨0⟩, ⟨1⟩]
      Definition.empty).exec (Contract.fresh namedUndefined .definitions)).1.toOption.any
      (fun result => (result.get? "enum").isNone && (result.get? "anyOf").isSome) = true := by
    decide +kernel
  have hevent : ((namedUndefined.schemas [.exact "Root"]).journal.any fun
      | .listed listing => listing.kept.any fun kept => kept.property.type == ⟨2⟩ &&
          (kept.schema.get? "enum").isNone && (kept.schema.get? "anyOf").isSome
      | _ => false) = true := by decide +kernel
  refine ⟨rfl, rfl, rfl, by decide +kernel, by decide +kernel, ⟨_, rfl, rfl, rfl⟩, ?_, ?_⟩
  · obtain ⟨result, hresult, hvalue⟩ := (Option.any_eq_true _ _).1 hrun
    obtain ⟨henum, hany⟩ := Bool.and_eq_true_iff.1 hvalue
    exact ⟨result, _, exec_of_toOption hresult, Option.isNone_iff_eq_none.1 henum, hany⟩
  · obtain ⟨event, hmem, hevent⟩ := List.any_eq_true.1 hevent
    cases event with
    | listed listing =>
      obtain ⟨kept, hkept, hchoice⟩ := List.any_eq_true.1 hevent
      obtain ⟨hchoice, hany⟩ := Bool.and_eq_true_iff.1 hchoice
      obtain ⟨htype, henum⟩ := Bool.and_eq_true_iff.1 hchoice
      exact ⟨listing, kept, hmem, hkept, eq_of_beq htype, Option.isNone_iff_eq_none.1 henum, hany⟩
    | _ => cases hevent

end Catalog

end TypeSchema
