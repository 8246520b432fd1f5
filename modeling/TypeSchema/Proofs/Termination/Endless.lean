import TypeSchema.Proofs.Building.Keywords
import TypeSchema.Proofs.Termination.Depth

/-!
# Constructions that do not end

Only the names under construction end the way around a cycle.  Types that are looked through or that
never become references have none, so where some of these need each other the way around goes on and
on: an interface that is an array of itself will do, although its graph has no dangling position.

`Catalog.Needs` is the relation between a type without a guard, or a wrapper, and a part whose schema is
asked for in any case.  Every answer is derived from answers for the parts, in finitely many steps; so a
type from which the way leads into a cycle of `Needs` has no answer (`Yields.not_endless`), whatever the
bound on the depth.

**`Catalog.document_or_endless`** puts this beside what is known of graphs where every cycle has a
guard, for documents of definitions: in these a call ends with a document or with an error of the
program, and in the others a declaration whose type leads into a cycle without a guard has no document.
-/

set_option autoImplicit false

namespace TypeSchema

open Relation

/-! ## Kinds -/

theorem mem_of_mapM_eq_ok {ε α β : Type} {f : α → Except ε β} {l : List α} {bs : List β} {a : α}
    {b : β} (h : l.mapM f = .ok bs) (ha : a ∈ l) (hb : f a = .ok b) : b ∈ bs := by
  obtain ⟨found, hmem, hfound⟩ := exists_right_of_forall₂ (mapM_eq_ok_iff.1 h) ha
  obtain rfl := Except.ok.inj (hfound.symm.trans hb)
  exact hmem

namespace TypeGraph

variable {graph : TypeGraph} {node : TypeNode}

theorem exists_union_of_isStringUnion (h : graph.isStringUnion node = .ok true) :
    ∃ members, node.kind = .union members := by
  rw [isStringUnion] at h
  split at h
  · rename_i members hkind
    exact ⟨members, hkind⟩
  · cases h

/-- The members of a union of string literals are literals. -/
theorem literal?_isSome_of_isStringUnion {members : List TypeId} {id : TypeId} {member : TypeNode}
    (h : graph.isStringUnion node = .ok true) (hkind : node.kind = .union members)
    (hmem : id ∈ members) (hmember : graph.lookupType id = .ok member) :
    member.kind.literal?.isSome = true := by
  rw [isStringUnion, hkind] at h
  dsimp only at h
  obtain ⟨nodes, hnodes, h⟩ := bind_eq_ok_iff.1 h
  have hliteral := List.all_eq_true.1 (Except.ok.inj h) member
    (mem_of_mapM_eq_ok hnodes hmem hmember)
  split at hliteral
  · rename_i value hvalue
    simp [hvalue, TypeKind.literal?]
  · cases hliteral

end TypeGraph

namespace Catalog

variable {catalog : Catalog} {id part inner : TypeId} {p : Progress} {request : Request}
  {frame : Frame} {definition : Definition}

/-! ## Parts that are needed -/

/-- The rule for the structure of the type asks for the schema of the part in any case. -/
inductive BuiltFrom (catalog : Catalog) (node : TypeNode) : TypeId → Prop
  | member {members : List TypeId} {part : TypeId} {member : TypeNode}
      (hkind : node.kind = .union members) (hmem : part ∈ members)
      (hmember : catalog.graph.lookupType part = .ok member)
      (hliteral : member.kind.literal? = none) : BuiltFrom catalog node part
  | factor {members : List TypeId} {part : TypeId} (hkind : node.kind = .intersection members)
      (hmem : part ∈ members) : BuiltFrom catalog node part
  | element {elements : List TypeId} {minLength : Nat} {hasRest : Bool} {part : TypeId}
      (hkind : node.kind = .tuple elements minLength hasRest) (hmem : part ∈ elements) :
      BuiltFrom catalog node part
  | item {part : TypeId} (hkind : node.kind.isLeftOver = true)
      (hindex : node.numberIndex = some part)
      (hdate : ∀ id symbol, node.symbol = some id → catalog.graph.lookupSymbol id = .ok symbol →
        symbol.fullName ≠ "Date") : BuiltFrom catalog node part

/-- The schema of the type cannot be had without that of the part, and nothing is in the way: the type
is a wrapper around it, or it has no guard and is built from it. -/
inductive Needs (catalog : Catalog) (id : TypeId) : TypeId → Prop
  | inner {inner : TypeId} (h : catalog.graph.Wraps id inner) : Needs catalog id inner
  | part {node : TypeNode} {part : TypeId} (hnode : catalog.graph.lookupType id = .ok node)
      (hwrapped : catalog.graph.wrapped? node = .ok none) (hfree : ¬catalog.IsGuarded id)
      (hpart : catalog.BuiltFrom node part) : Needs catalog id part

/-- The way from the type leads into a cycle. -/
def Endless (catalog : Catalog) (id : TypeId) : Prop :=
  ∃ turn, ReflTransGen catalog.Needs id turn ∧ TransGen catalog.Needs turn turn

theorem Needs.eq_inner (h : catalog.Needs id part) (hwraps : catalog.graph.Wraps id inner) :
    part = inner := by
  obtain ⟨node, hnode, hinner⟩ := hwraps
  cases h with
  | inner hpart =>
    obtain ⟨_, hnode', hpart⟩ := hpart
    obtain rfl := Except.ok.inj (hnode.symm.trans hnode')
    exact Option.some.inj (Except.ok.inj (hpart.symm.trans hinner))
  | part hnode' hwrapped _ _ =>
    obtain rfl := Except.ok.inj (hnode.symm.trans hnode')
    cases hwrapped.symm.trans hinner

namespace Endless

/-- The way goes on. -/
theorem exists_needs (h : catalog.Endless id) :
    ∃ part, catalog.Needs id part ∧ catalog.Endless part := by
  obtain ⟨turn, hway, hcycle⟩ := h
  rcases hway.cases_head with rfl | ⟨part, hneeds, hrest⟩
  · obtain ⟨part, hneeds, hrest⟩ := TransGen.head'_iff.1 hcycle
    exact ⟨part, hneeds, _, hrest, hcycle⟩
  · exact ⟨part, hneeds, turn, hrest, hcycle⟩

/-- Looking through wrappers does not leave it. -/
theorem of_wraps (hwraps : ReflTransGen catalog.graph.Wraps id inner) (h : catalog.Endless id) :
    catalog.Endless inner := by
  induction hwraps with
  | refl => exact h
  | tail _ hwrap ih =>
    obtain ⟨part, hneeds, hpart⟩ := ih.exists_needs
    exact hneeds.eq_inner hwrap ▸ hpart

/-- A construction of the type is free, and needs one of its parts. -/
theorem exists_builtFrom (h : catalog.Endless request.type)
    (hframe : catalog.Frames p request frame) :
    ∃ part, catalog.BuiltFrom frame.subject.node part ∧ catalog.Endless part ∧
      frame.plan.isRaw = true ∧ frame.isGuarded = false := by
  obtain ⟨hnode, hwrapped, hwraps⟩ := TypeGraph.unwrap_subject hframe.subject
  obtain ⟨part, hneeds, hpart⟩ := (h.of_wraps hwraps).exists_needs
  cases hneeds with
  | inner hinner =>
    obtain ⟨_, hnode', hinner⟩ := hinner
    obtain rfl := Except.ok.inj (hnode.symm.trans hnode')
    cases hwrapped.symm.trans hinner
  | part hnode' _ hfree hfrom =>
    obtain rfl := Except.ok.inj (hnode.symm.trans hnode')
    have hraw : frame.plan.isRaw = true := by
      refine Bool.of_not_eq_false fun hraw => hfree ⟨_, hnode, .inl ?_⟩
      rw [hframe.raw, hraw]
    have halias : frame.subject.node.aliasSymbol.isSome = false := by
      refine Bool.of_not_eq_true fun halias => hfree ⟨_, hnode, .inr halias⟩
    exact ⟨part, hfrom, hpart, hraw, by simp [Frame.isGuarded, Subject.isGuarded, hraw, halias]⟩

end Endless

/-! ## Answers for the parts -/

section Parts

variable {Part : Request → Definition → Prop} {keyword : UnionKeyword} {owner : Option Owner}
  {subject : Subject} {start : Definition}

/-- Whatever is composed for a subject is composed of an answer for every part that it is built
from. -/
theorem Composed.exists_part (h : catalog.Composed Part keyword owner subject true start definition)
    (hitems : start.contains "items" = false) (hraw : catalog.graph.isRaw subject.node = .ok true)
    (hfrom : catalog.BuiltFrom subject.node part) :
    ∃ request answer, Part request answer ∧ request.type = part ∧
      ∀ o, request.owner = some o → catalog.Describes o := by
  cases hfrom with
  | member hkind hmem hmember hliteral =>
    obtain ⟨contributions, hmembers, _⟩ := h.of_union hkind
    obtain ⟨contribution, _, hcontributes⟩ := exists_right_of_forall₂ hmembers hmem
    cases hcontributes with
    | value hnode hvalue =>
      obtain rfl := Except.ok.inj (hmember.symm.trans hnode)
      cases hliteral.symm.trans hvalue
    | schema _ _ howner hpart => exact ⟨_, _, hpart, rfl, howner.2⟩
  | factor hkind hmem =>
    obtain ⟨schemas, hmembers, _⟩ := h.of_intersection hkind
    obtain ⟨schema, _, hpart⟩ := exists_right_of_forall₂ hmembers hmem
    exact ⟨_, _, hpart, rfl, nofun⟩
  | element hkind hmem =>
    obtain ⟨items, helements, _⟩ := h.of_tuple hkind
    obtain ⟨item, _, hpart⟩ := exists_right_of_forall₂ helements hmem
    exact ⟨_, _, hpart, rfl, nofun⟩
  | item hkind hindex hdate =>
    obtain ⟨item, hpart, _⟩ := h.of_array hitems hraw hkind hindex hdate
    exact ⟨_, _, hpart, rfl, nofun⟩

end Parts

/-- What is built from something that is no literal is no union of string literals. -/
theorem BuiltFrom.not_isStringUnion {node : TypeNode} (h : catalog.BuiltFrom node part) :
    catalog.graph.isStringUnion node ≠ .ok true := by
  intro hstrings
  obtain ⟨members, hunion⟩ := TypeGraph.exists_union_of_isStringUnion hstrings
  cases h with
  | member hkind hmem hmember hliteral =>
    have hsome := TypeGraph.literal?_isSome_of_isStringUnion hstrings hkind hmem hmember
    rw [hliteral] at hsome
    cases hsome
  | factor hkind _ => cases hkind.symm.trans hunion
  | element hkind _ => cases hkind.symm.trans hunion
  | item hkind _ _ =>
    rw [hunion] at hkind
    cases hkind

/-! ## No answer -/

/-- No doc comment of the graph says what a type or its items are, and none has something left out. -/
structure Untold (catalog : Catalog) : Prop where
  type : ¬catalog.IsCommented "type"
  items : ¬catalog.IsCommented "items"
  ignores : ¬catalog.Ignores

/-- Then no owner settles a request. -/
theorem Untold.settled?_eq_none (h : catalog.Untold) {owner : Option Owner}
    (howner : ∀ o, owner = some o → catalog.Describes o) : settled? owner = none := by
  cases owner with
  | none => rfl
  | some o =>
    have hdescribes := howner o rfl
    have htype := hdescribes.onlyKeys.not_contains h.type
    have hignored : o.annotations.isIgnored = false :=
      Bool.of_not_eq_true fun hignored => h.ignores (hdescribes.ignores hignored)
    simp [settled?, htype, hignored]

/-- A schema is no answer for a type from which the way leads into a cycle, if there is none for the
types that it needs. -/
theorem Defined.not_endless {Part : Request → Definition → Prop} {annotations : Annotations}
    (h : catalog.Defined Part request.unionKeyword request.owner frame.subject frame.plan.isRaw
      (annotations.definition.merge (ownerKeywords request.owner)) definition)
    (huntold : catalog.Untold) (howner : ∀ o, request.owner = some o → catalog.Describes o)
    (hframe : catalog.Frames p request frame)
    (hannotations : catalog.description frame.subject.describing = .ok annotations)
    (hpart : ∀ part answer, Part part answer →
      (∀ o, part.owner = some o → catalog.Describes o) → ¬catalog.Endless part.type) :
    ¬catalog.Endless request.type := by
  intro hendless
  obtain ⟨part, hfrom, hon, hraw, _⟩ := hendless.exists_builtFrom hframe
  have hkeywords := (onlyKeys_description hannotations).merge (onlyKeys_ownerKeywords howner)
  cases h with
  | typed htyped =>
    rw [hkeywords.not_contains huntold.type] at htyped
    cases htyped
  | composed _ hcomposed =>
    rw [hraw] at hcomposed
    obtain ⟨request, answer, hanswer, rfl, hdescribed⟩ := hcomposed.exists_part
      (hkeywords.not_contains huntold.items) (hframe.raw.trans (congrArg _ hraw)) hfrom
    exact hpart request answer hanswer hdescribed hon

/-- **There is no answer** for a type from which the way leads into a cycle. -/
theorem Yields.not_endless (h : catalog.Yields p request definition) (huntold : catalog.Untold)
    (howner : ∀ o, request.owner = some o → catalog.Describes o) :
    ¬catalog.Endless request.type := by
  induction h with
  | settled hsettled =>
    rw [huntold.settled?_eq_none howner] at hsettled
    cases hsettled
  | inline _ hframe _ hannotations hschema ih =>
    exact hschema.not_endless huntold howner hframe hannotations ih
  | linked _ hframe _ hannotations hschema _ ih =>
    exact hschema.not_endless huntold howner hframe hannotations ih
  | referred hframe hreference _ _ =>
    -- Only a union of string literals is referred to without a guard.
    intro hendless
    obtain ⟨part, hfrom, _, _, hfree⟩ := hendless.exists_builtFrom hframe
    exact hfrom.not_isStringUnion (hframe.reference hfree hreference).1

theorem Endless.exec_ne_ok (hendless : catalog.Endless request.type) (huntold : catalog.Untold)
    {depth : Nat} {q : Progress} (hp : p.context.names.Sound)
    (hdescribed : catalog.Described request) :
    (catalog.buildWithin depth request).exec p ≠ (.ok definition, q) := by
  intro hanswer
  exact (yields_of_answer hp hdescribed hanswer).not_endless huntold
    (fun o howner => (hdescribed o howner).1) hendless

theorem Endless.schemas_ne_ok (hendless : catalog.Endless id) (huntold : catalog.Untold)
    {patterns : List NamePattern} {name : String} (hpatterns : patterns.isEmpty = false)
    (hselected : (name, id) ∈ catalog.select patterns) (definitions : Dict Definition) :
    (catalog.schemas patterns).result ≠ .ok definitions := by
  intro hresult
  obtain ⟨q, _, _, ⟨e, he, _⟩ | ⟨roots, _, _, hroots⟩⟩ :=
    (Contract.free catalog).schemas_kept trivial (fun _ _ => trivial) hpatterns
  · cases he.symm.trans hresult
  · obtain ⟨root, _, hroot⟩ := exists_right_of_forall₂ hroots hselected
    exact hroot.yields.not_endless huntold nofun hendless

/-- **A document, or no end.**  Where every cycle of the graph has a guard, a call ends with a document
or with an error of the program.  Where doc comments do not say otherwise, a type from which the way
leads into a cycle without a guard has no answer, however deep the recursion may go, and a call that
selects a declaration of it has no document. -/
theorem document_or_endless (catalog : Catalog) :
    (catalog.Grounded → ∀ patterns id, (catalog.schemas patterns).result ≠ .error (.endlessType id)) ∧
    (catalog.Untold → ∀ id, catalog.Endless id →
      (∀ depth request p definition q, p.context.names.Sound → catalog.Described request →
        request.type = id → (catalog.buildWithin depth request).exec p ≠ (.ok definition, q)) ∧
      ∀ patterns name definitions, patterns.isEmpty = false →
        (name, id) ∈ catalog.select patterns →
        (catalog.schemas patterns).result ≠ .ok definitions) := by
  refine ⟨schemas_ne_endless, fun huntold id hendless => ⟨?_, ?_⟩⟩
  · rintro depth request p definition q hp hdescribed rfl
    exact hendless.exec_ne_ok huntold hp hdescribed
  · intro patterns name definitions hpatterns hselected
    exact hendless.schemas_ne_ok huntold hpatterns hselected definitions

/-- A catalog of one declaration, which is an array of itself. -/
def nestedArray : Catalog where
  graph :=
    { types := #[{ kind := .object [] false none, symbol := some ⟨0⟩, numberIndex := some ⟨0⟩ }]
      symbols := #[{ name := "Nested" }]
      declarations := [("Nested", ⟨0⟩)] }
  declared := [("Nested", ⟨0⟩)]

theorem untold_nestedArray : nestedArray.Untold := by
  have htags : ∀ symbol ∈ nestedArray.graph.symbols.toList, symbol.tags = [] := by decide
  have hcommented : ∀ key, nestedArray.IsCommented key → key = "description" := by
    rintro key (hkey | ⟨symbol, hsymbol, tag, htag, _⟩)
    · exact hkey
    · rw [htags symbol hsymbol] at htag
      cases htag
  refine ⟨fun h => absurd (hcommented _ h) (by decide), fun h => absurd (hcommented _ h) (by decide),
    ?_⟩
  rintro ⟨symbol, hsymbol, tag, htag, _⟩
  rw [htags symbol hsymbol] at htag
  cases htag

theorem endless_nestedArray : nestedArray.Endless ⟨0⟩ := by
  have hneeds : nestedArray.Needs ⟨0⟩ ⟨0⟩ := by
    refine .part rfl rfl ?_ (.item rfl rfl ?_)
    · rintro ⟨node, hnode, hguard⟩
      cases hnode
      rcases hguard with hraw | halias
      · cases hraw
      · cases halias
    · intro id symbol hid hsymbol
      cases hid
      cases hsymbol
      decide
  exact ⟨_, .refl, .single hneeds⟩

/-- The declaration that refers to itself has a guard, and the array of itself has none. -/
theorem document_or_endless_nestedArray :
    (∀ patterns id, (selfReference.schemas patterns).result ≠ .error (.endlessType id)) ∧
    (∀ depth definition q, (nestedArray.buildWithin depth (nestedArray.member ⟨0⟩)).exec
      (Contract.fresh nestedArray .definitions) ≠ (.ok definition, q)) ∧
    ∀ definitions, (nestedArray.schemas [.exact "Nested"]).result ≠ .ok definitions := by
  obtain ⟨hrequests, hdocuments⟩ :=
    (document_or_endless nestedArray).2 untold_nestedArray ⟨0⟩ endless_nestedArray
  refine ⟨(document_or_endless selfReference).1 grounded_selfReference, ?_, ?_⟩
  · intro depth definition q
    exact hrequests depth _ _ definition q NameRegistry.sound_empty nofun rfl
  · intro definitions
    exact hdocuments _ "Nested" definitions rfl (by decide)

open BuildM

/-- The only type of the catalog, inside no wrapper. -/
def nestedSubject : Subject :=
  ⟨⟨0⟩, { kind := .object [] false none, symbol := some ⟨0⟩, numberIndex := some ⟨0⟩ }, none⟩

/-- The array is described where it is used, and nothing guards it. -/
theorem post_plan_nestedArray (p : Progress) {E : Error → Progress → Prop} :
    (nestedArray.plan nestedSubject false).Post p
      (fun plan _ => ∃ name, plan = ⟨name, .registry, true, false, none⟩) E := by
  have hname : (nestedArray.ownName ⟨0⟩).Post p (fun _ _ => True) E := by
    rw [ownName, post_bind, post_context]
    split
    · trivial
    · exact post_bind.2 trivial
  show BuildM.Post ((do return ⟨← nestedArray.ownName ⟨0⟩, .registry⟩) >>= fun name =>
    nestedArray.takeUp nestedSubject name true false) p _ _
  exact post_bind.2 (post_bind.2 (hname.imp fun name q _ => ⟨name, rfl⟩))

/-- At any depth its schema asks for itself once more. -/
theorem post_buildWithin_nestedArray (depth : Nat) (above : List Frame) (p : Progress) :
    (nestedArray.buildWithin depth { nestedArray.member ⟨0⟩ with above }).Post p
      (fun _ _ => False) fun error _ => error = .endlessType ⟨0⟩ := by
  induction depth generalizing above p with
  | zero => rfl
  | succ depth ih =>
    show BuildM.Post (nestedArray.plan nestedSubject false >>= _) p _ _
    refine (post_plan_nestedArray p).bind ?_
    rintro _ q ⟨name, rfl⟩
    let frame : Frame := ⟨nestedSubject, ⟨name, .registry, true, false, none⟩⟩
    have hitem := ih (frame :: above) (q.act (.applied (frame :: above)))
    have hdefine : (nestedArray.define (nestedArray.buildWithin depth)
        { nestedArray.member ⟨0⟩ with above } frame []).Post q (fun _ _ => False)
          fun error _ => error = .endlessType ⟨0⟩ :=
      post_bind.2 (hitem.bind fun _ _ h => h.elim)
    exact post_bind.2 (hdefine.bind fun _ _ h => h.elim)

/-- An accepted graph whose only cycle leads through a type without a guard, and whose constructions do
not end: however deep the recursion may go, it runs out. -/
theorem exists_unguarded_cycle :
    nestedArray.graph.validate = .ok () ∧
    ofGraph nestedArray.graph nestedArray.options Modules.none = .ok nestedArray ∧
    (∀ id, TransGen nestedArray.LeadsTo id id → ¬nestedArray.IsGuarded id) ∧
    (∃ id, (nestedArray.schemas [.exact "Nested"]).result = .error (.endlessType id)) ∧
    ∀ depth p, ∃ q, (nestedArray.buildWithin depth (nestedArray.member ⟨0⟩)).exec p =
      (.error (.endlessType ⟨0⟩), q) := by
  refine ⟨rfl, rfl, ?_, ?_, fun depth p => ?_⟩
  · rintro id hcycle ⟨node, hnode, hguard⟩
    have hids : ∀ id ∈ nestedArray.graph.ids, id = ⟨0⟩ := by decide
    obtain rfl := hids id (TypeGraph.mem_ids hnode)
    cases hnode
    rcases hguard with hraw | halias
    · cases hraw
    · cases halias
  · have hendless : (match (nestedArray.schemas [.exact "Nested"]).result with
        | .error (.endlessType _) => true
        | _ => false) = true := by decide +kernel
    split at hendless
    · rename_i id hresult
      exact ⟨id, hresult⟩
    · cases hendless
  · have hpost := post_buildWithin_nestedArray depth [] p
    rw [BuildM.Post] at hpost
    split at hpost
    · exact hpost.elim
    · rename_i error q hexec
      exact ⟨q, hpost ▸ hexec⟩

end Catalog

end TypeSchema
