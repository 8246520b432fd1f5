import TypeSchema.Proofs.Building.Calls
import TypeSchema.Proofs.Context.Alike

/-!
# For whom a definition is built

Every property of a named type refers to one definition, so what is stored under the name must not
depend on the property that happens to be built first: `Catalog.stored_alike` says so of every two
owners that leave the schema to the type and have no say in what is stored.

Whoever an object with an index signature is built for has such a say, as the values of the
signature are built for the same owner: the keywords of the property stand in the definition of a
named dictionary, in `additionalProperties` (`Catalog.exists_stored_apart`).  So does the owner of a
union, if it is marked as one that may be missing and the mark is read where the property is listed.
The owner of an array who gives its items has none: the items are not asked for, and nothing is
stored (`Catalog.outlines`).
-/

set_option autoImplicit false

namespace TypeSchema

namespace Catalog

variable {catalog : Catalog} {marked : SymbolId → Prop} {guard guard' : Dict Nat}
  {request request' : Request} {subject : Subject} {p q : Progress}

/-! ## Arrays whose items are given -/

/-- An array whose items are given asks for nothing. -/
theorem IsArray.structureSchema_eq {build : Builder} {isRaw : Bool} {definition : Definition}
    (h : catalog.IsArray subject.node) (hraw : catalog.graph.isRaw subject.node = .ok isRaw)
    (hitems : definition.contains "items" = true) :
    catalog.structureSchema build request subject isRaw definition =
      pure (definition.setType "array") := by
  have hentered : (definition.setType "array").contains "items" = true := by
    rw [Definition.contains, Definition.setType, Definition.insert, Dict.contains_insert]
    exact Bool.or_eq_true_iff.2 (.inr hitems)
  cases h with
  | object hkind hindex hdate =>
    rw [TypeGraph.isRaw.eq_def, hkind] at hraw
    simp only [hindex, Option.isSome_some, if_true] at hraw
    cases hraw
    have hisDate : catalog.isDate subject.node.symbol = pure false := by
      cases hsymbol : subject.node.symbol with
      | none => rfl
      | some id =>
        obtain ⟨symbol, hlookup, hname⟩ := hdate id hsymbol
        rw [isDate, Catalog.symbol, hlookup]
        show (pure (symbol.fullName == "Date") : BuildM Bool) = _
        rw [beq_eq_false_iff_ne.2 hname]
    simp [structureSchema, hkind, plainSchema, hisDate, literalOrArray.eq_def, TypeKind.literal?,
      hindex, hentered]
  | never hkind hindex =>
    simp [structureSchema, hkind, plainSchema, literalOrArray.eq_def, TypeKind.literal?, hindex,
      hentered]
  | typeParameter hkind hindex =>
    simp [structureSchema, hkind, plainSchema, literalOrArray.eq_def, TypeKind.literal?, hindex,
      hentered]

/-- What stores nothing, beside itself. -/
def storesNothing (table : Dict Definition) : NamingAccord :=
  .along (fun p => p.context.reffed = table) (fun h _ => h) (fun h _ _ => h) fun h _ => h

/-- Ending a construction stores nothing. -/
theorem post_finish_reffed {frame : Frame} {answer : Definition} :
    (finish frame answer).Post p (fun _ q => q.context.reffed = p.context.reffed)
      fun _ _ => True := by
  rw [finish]
  cases frame.plan.token with
  | none => rfl
  | some token =>
    obtain ⟨guard, hleave⟩ := p.context.leave_eq frame.plan.name token
    refine BuildM.post_bind.2 (BuildM.post_answer.2 ?_)
    rw [hleave]
    refine BuildM.post_bind.2 (BuildM.post_context.2 ?_)
    split
    · rfl
    · rfl

section Outlined

variable (hwhole : catalog.Whole) (hnode : catalog.graph.lookupType subject.id = .ok subject.node)
  (hnamed : ∀ id, subject.named = some id → catalog.graph.HasSymbol id)

include hwhole hnode hnamed

/-- Planning stores nothing. -/
theorem post_plan_reffed (asReference : Bool) :
    (catalog.plan subject asReference).Post p (fun _ q => q.context.reffed = p.context.reffed)
      fun _ _ => True := by
  have hname : ∀ aliasReference : Bool, (catalog.subjectName subject aliasReference).Post p
      (fun _ q => q.context.reffed = p.context.reffed) fun _ _ => True := fun aliasReference =>
    (Accord.agree_subjectName hwhole hnode (storesNothing p.context.reffed) hnamed aliasReference
      p p ⟨rfl, rfl⟩).post.mono (fun _ _ h => h.1.2) fun _ _ _ => trivial
  rw [plan]
  refine BuildM.post_bind.2 (.find (fun isRaw _ => ?_) fun _ => trivial)
  refine BuildM.post_bind.2 (.find (fun isStringUnion _ => ?_) fun _ => trivial)
  refine (hname _).bind fun name q hq => ?_
  rw [takeUp]
  split
  · exact hq
  · refine BuildM.post_bind.2 (BuildM.post_context.2 ?_)
    split
    · exact hq
    · refine BuildM.post_bind.2 (BuildM.post_answer.2 ?_)
      have hpromoted := (agree_isPromoted (A := (storesNothing p.context.reffed).toAccord) hnamed name.text
        (q.withContext (q.context.enter name.text).2) (q.withContext (q.context.enter name.text).2)
        ⟨rfl, hq⟩).post
      exact (hpromoted.mono (fun _ _ h => h.1.2) fun _ _ _ => trivial).bind fun _ _ h => h

/-- An array whose items its owner gives is described without anything being stored. -/
theorem post_carryOut_reffed {build : Builder} {plan : Plan} (harray : catalog.IsArray subject.node)
    (hraw : catalog.graph.isRaw subject.node = .ok plan.isRaw) (hinline : plan.isReference = false)
    (hitems : (ownerKeywords request.owner).contains "items" = true) :
    (catalog.carryOut build request ⟨subject, plan⟩).Post p
      (fun _ q => q.context.reffed = p.context.reffed) fun _ _ => True := by
  have hannotate := (Accord.agree_annotate (A := (storesNothing p.context.reffed).toAccord) hwhole hnode hnamed
    p p ⟨rfl, rfl⟩).post
  rw [carryOut]
  refine (hannotate.mono (fun _ _ h => h.1.2) fun _ _ _ => trivial).bind fun described q hq => ?_
  dsimp only
  rw [hinline]
  have hgiven : (described.merge (ownerKeywords request.owner)).contains "items" = true := by
    rw [Definition.contains, Definition.merge, Dict.contains_extend]
    exact Bool.or_eq_true_iff.2 (.inr hitems)
  have hdefine : (catalog.define build request ⟨subject, plan⟩
      (described.merge (ownerKeywords request.owner))).Post q
        (fun _ r => r.context.reffed = q.context.reffed) fun _ _ => True := by
    rw [define]
    split
    · rfl
    · dsimp only
      rw [harray.structureSchema_eq hraw hgiven]
      rfl
  exact hdefine.bind fun schema r hr => post_finish_reffed.imp fun _ _ h => h.trans (hr.trans hq)

end Outlined

/-- The owner of the request gives the items, and if the request is answered, nothing was stored. -/
def Outlines (catalog : Catalog) (depth : Nat) (request : Request) (p : Progress) : Prop :=
  (ownerKeywords request.owner).contains "items" = true ∧
    ∀ schema q, (catalog.buildWithin depth request).exec p = (.ok schema, q) →
      q.context.reffed = p.context.reffed

theorem outlines (hwhole : catalog.Whole)
    (hsubject : catalog.graph.unwrap (catalog.graph.types.size + 1) request.type request.named =
      .ok subject) (hnamed : ∀ id, subject.named = some id → catalog.graph.HasSymbol id)
    (hsettled : settled? request.owner = none) {plan : Plan} {r : Progress}
    (hplan : (catalog.plan subject request.asReference).exec p = (.ok plan, r))
    (harray : catalog.IsArray subject.node)
    (hraw : catalog.graph.isRaw subject.node = .ok plan.isRaw) (hinline : plan.isReference = false)
    (hitems : (ownerKeywords request.owner).contains "items" = true) (depth : Nat) :
    catalog.Outlines (depth + 1) request p := by
  have hnode := (TypeGraph.unwrap_subject hsubject).1
  have hplanned : (catalog.plan subject request.asReference).Post p
      (fun a q => a = plan ∧ q.context.reffed = p.context.reffed) fun _ _ => True := by
    have hkeeps := post_plan_reffed (p := p) hwhole hnode hnamed request.asReference
    rw [BuildM.Post, hplan] at hkeeps ⊢
    exact ⟨rfl, hkeeps⟩
  have hall : (catalog.buildWithin (depth + 1) request).Post p
      (fun _ q => q.context.reffed = p.context.reffed) fun _ _ => True := by
    rw [buildWithin_succ hsubject hsettled]
    refine hplanned.bind ?_
    rintro _ q ⟨rfl, hq⟩
    exact (post_carryOut_reffed hwhole hnode hnamed harray hraw hinline hitems).bind
      fun _ _ hr => hr.trans hq
  refine ⟨hitems, fun schema q hanswer => ?_⟩
  rw [BuildM.Post, hanswer] at hall
  exact hall

/-- Where the one owner gives the items of an array and the other does not, the one who does stores
nothing, unless both answers are references. -/
theorem pair_array (hwhole : catalog.Whole) (depth : Nat)
    (hpaired : catalog.Paired marked request request')
    (hsubject : catalog.graph.unwrap (catalog.graph.types.size + 1) request.type request.named =
      .ok subject) (hsettled : settled? request.owner = none)
    (hsettled' : settled? request'.owner = none)
    (hpq : (Accord.alike marked guard guard').rel p q)
    (hitems : ¬catalog.ItemsAgree subject request request') :
    (catalog.answerPlanned depth request subject).Post₂ (catalog.answerPlanned depth request' subject)
      p q (fun _ _ r s => (Accord.alike marked guard guard').rel r s) catalog.Raises ∨
    catalog.IsArray subject.node ∧
      (catalog.Outlines (depth + 1) request p ∨ catalog.Outlines (depth + 1) request' q) := by
  have hnamed := hpaired.subject_hasSymbol hsubject
  have hplan := pair_plan hwhole hpaired hsubject hpq
  by_cases hinline : ∃ plan r, (catalog.plan subject request.asReference).exec p = (.ok plan, r) ∧
      plan.isReference = false
  · obtain ⟨plan, r, hrun, hinline⟩ := hinline
    obtain ⟨harray, hdiffer⟩ := Classical.not_imp.1 hitems
    rw [BuildM.Post₂, hrun] at hplan
    generalize hrun' : (catalog.plan subject request'.asReference).exec q = done' at hplan
    obtain ⟨_ | plan', s⟩ := done'
    · exact hplan.elim
    · have hplan : catalog.PlannedAlike marked guard guard' subject plan plan' r s := hplan
      refine .inr ⟨harray, ?_⟩
      cases hgiven : (ownerKeywords request.owner).contains "items" with
      | true =>
        exact .inl (outlines hwhole hsubject hnamed hsettled hrun harray hplan.raw hinline hgiven _)
      | false =>
        have hgiven' : (ownerKeywords request'.owner).contains "items" = true := by
          simpa [hgiven] using hdiffer
        have hsubject' := hpaired.unwrap.trans hsubject
        have hraw' : catalog.graph.isRaw subject.node = .ok plan'.isRaw := by
          rw [hplan.same]
          exact hplan.raw
        have hinline' : plan'.isReference = false := by
          rw [hplan.same]
          exact hinline
        exact .inr (outlines hwhole hsubject' hnamed hsettled' hrun' harray hraw' hinline' hgiven' _)
  · have hreference : (catalog.plan subject request.asReference).Post₂
        (catalog.plan subject request'.asReference) p q
        (fun plan plan' r s => catalog.PlannedAlike marked guard guard' subject plan plan' r s ∧
          (plan.isReference = false → catalog.ItemsAgree subject request request'))
        catalog.Raises := by
      rw [BuildM.Post₂] at hplan ⊢
      generalize hrun : (catalog.plan subject request.asReference).exec p = done at hplan ⊢
      generalize (catalog.plan subject request'.asReference).exec q = done' at hplan ⊢
      obtain ⟨_ | plan, r⟩ := done <;> obtain ⟨_ | plan', s⟩ := done'
      · exact hplan
      · exact hplan
      · exact hplan
      · exact ⟨hplan, fun h => absurd ⟨plan, r, hrun, h⟩ hinline⟩
    refine .inl ((pair_answerPlanned hwhole (answersAlike hwhole depth) hpaired hsubject
      (Accord.keys_of_alike hpq) hreference).imp fun _ _ _ _ h => h.1)

/-- **What is stored does not depend on the owner.**  A type of a valid graph is asked for twice in
the same way, for two owners or for none, in contexts that agree.  Then both requests are answered
and the contexts agree again, so that every definition that was stored on the way is the same; or
both fail with the same error; or the type is an array, and the one whose owner gives its items
stores nothing. -/
theorem stored_alike {graph : TypeGraph} (hvalid : graph.validate = .ok ())
    (hcatalog : catalog.IsOf graph) (depth : Nat) (owner' : Option Owner) (above' : List Frame)
    (htype : graph.HasType request.type)
    (hnamed : ∀ id, request.named = some id → graph.HasSymbol id)
    (hcontexts : p.context.Alike (catalog.MarkMatters request.type) q.context)
    (howners : catalog.Apart (catalog.MarkMatters request.type) request owner') :
    (∃ schema schema' p' q', (catalog.buildWithin depth request).exec p = (.ok schema, p') ∧
      (catalog.buildWithin depth { request with owner := owner', above := above' }).exec q =
        (.ok schema', q') ∧
      p'.context.Alike (catalog.MarkMatters request.type) q'.context) ∨
    (∃ error p' q', (catalog.buildWithin depth request).exec p = (.error error, p') ∧
      (catalog.buildWithin depth { request with owner := owner', above := above' }).exec q =
        (.error error, q')) ∨
    ∃ subject, graph.unwrap (graph.types.size + 1) request.type request.named = .ok subject ∧
      catalog.IsArray subject.node ∧ (catalog.Outlines depth request p ∨
        catalog.Outlines depth { request with owner := owner', above := above' } q) := by
  obtain ⟨hwhole, rfl⟩ := hcatalog.whole hvalid
  have hpaired : catalog.Paired (catalog.MarkMatters request.type) request
      { request with owner := owner', above := above' } :=
    ⟨rfl, rfl, rfl, rfl, htype, hnamed, fun _ h => h, .inr howners⟩
  have hrel :
      (Accord.alike (catalog.MarkMatters request.type) p.context.guard q.context.guard).rel p q :=
    ⟨hcontexts, rfl, rfl⟩
  by_cases hitems : ∀ subject, catalog.graph.unwrap (catalog.graph.types.size + 1) request.type
      request.named = .ok subject →
        catalog.ItemsAgree subject request { request with owner := owner', above := above' }
  · rcases (answersAlike hwhole depth _ _ _ _ hpaired hitems p q hrel).outcomes with
      ⟨schema, schema', p', q', hrun, hrun', halike⟩ | hfail
    · exact .inl ⟨schema, schema', p', q', hrun, hrun', halike.1.1⟩
    · exact .inr (.inl hfail)
  · push Not at hitems
    obtain ⟨subject, hsubject, hitems⟩ := hitems
    cases depth with
    | zero => exact .inr (.inl ⟨_, p, q, rfl, rfl⟩)
    | succ depth =>
      rcases pair_array hwhole depth hpaired hsubject howners.unsettled howners.unsettled'
        hrel hitems with hboth | ⟨harray, houtlines⟩
      · rw [buildWithin_succ hsubject howners.unsettled,
          buildWithin_succ (hpaired.unwrap.trans hsubject) howners.unsettled']
        rcases hboth.outcomes with ⟨schema, schema', p', q', hrun, hrun', halike⟩ | hfail
        · exact .inl ⟨schema, schema', p', q', hrun, hrun', halike.1⟩
        · exact .inr (.inl hfail)
      · exact .inr (.inr ⟨subject, hsubject, harray, houtlines⟩)

/-- A catalog of an object with two documented properties: one of a named object type, one of a
named dictionary. -/
def documentedProperties : Catalog where
  graph :=
    { types := #[{ kind := .string },
        { kind := .object [{ symbol := ⟨1⟩, type := ⟨0⟩ }] false none, symbol := some ⟨0⟩ },
        { kind := .object [] true (some ⟨0⟩), aliasSymbol := some ⟨2⟩ },
        { kind := .object [{ symbol := ⟨4⟩, type := ⟨1⟩ }, { symbol := ⟨5⟩, type := ⟨2⟩ }] false none
          symbol := some ⟨3⟩ }]
      symbols := #[{ name := "Tag" }, { name := "label" }, { name := "Names" }, { name := "Root" },
        { name := "tag", documentation := [⟨.text, "The tag."⟩] },
        { name := "names", documentation := [⟨.text, "The names."⟩] }]
      declarations := [("Root", ⟨3⟩)] }
  options := { reference := true }
  declared := [("Root", ⟨3⟩)]

/-- The property of the named object type. -/
def tagOwner : Owner :=
  ⟨⟨4⟩, { definition := [("description", .string "The tag.")] }⟩

/-- The property of the named dictionary. -/
def namesOwner : Owner :=
  ⟨⟨5⟩, { definition := [("description", .string "The names.")] }⟩

/-- The request for the type of a property, or of none. -/
def documentedRequest (id : TypeId) (owner : Option Owner) : Request :=
  { documentedProperties.member id with owner }

/-- What comes of the request in a fresh context. -/
def documentedRun (id : TypeId) (owner : Option Owner) : Except Error Definition × Progress :=
  (documentedProperties.build (documentedRequest id owner)).exec
    (Contract.fresh documentedProperties .definitions)

theorem isOf_documentedProperties : documentedProperties.IsOf documentedProperties.graph :=
  ⟨documentedProperties.options, Modules.none, documentedProperties, rfl, rfl⟩

/-- The named object is stored as it is, with the documented property as without. -/
theorem stored_alike_documented :
    (documentedRun ⟨1⟩ (some tagOwner)).2.context.reffed =
        (documentedRun ⟨1⟩ none).2.context.reffed ∧
      (documentedRun ⟨1⟩ none).2.context.isReffed "Tag" = true := by
  have hvalid : documentedProperties.graph.validate = .ok () := rfl
  have hobject : ∀ subject, documentedProperties.graph.unwrap
      (documentedProperties.graph.types.size + 1) ⟨1⟩ none = .ok subject →
        subject.node = documentedProperties.graph.types[1] := by
    rintro subject h
    cases h
    rfl
  have howners : documentedProperties.Apart
      (documentedProperties.MarkMatters (documentedRequest ⟨1⟩ (some tagOwner)).type)
      (documentedRequest ⟨1⟩ (some tagOwner)) none := by
    refine ⟨rfl, rfl, fun subject value h _ hkind => ?_, fun subject members h hkind => ?_⟩
    · rw [hobject subject h] at hkind
      cases hkind
    · rw [hobject subject h] at hkind
      cases hkind
  have hcontexts : (Contract.fresh documentedProperties .definitions).context.Alike
      (documentedProperties.MarkMatters (documentedRequest ⟨1⟩ (some tagOwner)).type)
      (Contract.fresh documentedProperties .definitions).context :=
    ⟨rfl, rfl, rfl, rfl, fun _ _ => Iff.rfl⟩
  rcases stored_alike hvalid isOf_documentedProperties documentedProperties.depthBound none []
      (show documentedProperties.graph.HasType ⟨1⟩ by rw [TypeGraph.HasType]; decide)
      (by rintro id ⟨⟩) hcontexts howners with
    ⟨schema, schema', p, q, hrun, hrun', halike⟩ | ⟨error, p, q, hrun, -⟩ | ⟨subject, h, harray, -⟩
  · refine ⟨?_, by decide +kernel⟩
    have hfirst : documentedRun ⟨1⟩ (some tagOwner) = (.ok schema, p) := hrun
    have hsecond : documentedRun ⟨1⟩ none = (.ok schema', q) := hrun'
    rw [hfirst, hsecond, halike.reffed]
  · have hanswered : (documentedRun ⟨1⟩ (some tagOwner)).1.toOption.isSome := by
      decide +kernel
    have hfirst : documentedRun ⟨1⟩ (some tagOwner) = (.error error, p) := hrun
    rw [hfirst] at hanswered
    cases hanswered
  · have hindex : subject.node.numberIndex = none := by
      rw [hobject subject h]
      rfl
    cases harray <;> simp_all

/-- The values of the named dictionary are stored with the documentation of whichever property the
dictionary is built for. -/
theorem exists_stored_apart :
    documentedProperties.graph.validate = .ok () ∧
    documentedProperties.IsOf documentedProperties.graph ∧ documentedProperties.hook = id ∧
    documentedProperties.Describes namesOwner ∧
    settled? (some namesOwner) = none ∧
    (documentedRun ⟨2⟩ none).2.context.reffed = [("Names", [("type", .string "object"),
      ("properties", .object []), ("additionalProperties", .object [("type", .string "string")])])] ∧
    (documentedRun ⟨2⟩ (some namesOwner)).2.context.reffed =
      [("Names", [("type", .string "object"), ("properties", .object []),
        ("additionalProperties", .object [("description", .string "The names."),
          ("type", .string "string")])])] := by
  refine ⟨rfl, isOf_documentedProperties, rfl, ⟨_, rfl, ?_⟩, rfl, ?_, ?_⟩ <;> with_unfolding_all rfl

end Catalog

end TypeSchema
