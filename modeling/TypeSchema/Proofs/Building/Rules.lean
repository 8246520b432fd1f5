import TypeSchema.Proofs.Annotations
import TypeSchema.Proofs.Building.Contract

/-!
# The rules keep every contract

One lemma for each rule: if the builder answers what the rule can ask for, the rule keeps the contract
and answers with what is composed of these answers (`Catalog.Composed`).  Nothing here depends on which
contract it is, nor on what is known of the answers as long as it stays true.
-/

set_option autoImplicit false

namespace TypeSchema.Contract

variable {catalog : Catalog} {C : Contract catalog} {p : Progress} {build : Builder}
  {request : Request} {subject : Subject} {definition : Definition} {α : Type}
  {good : α → Progress → Prop}

/-! ## Looking things up -/

theorem Answers.symbol {id : SymbolId} {f : Symbol → BuildM α}
    (hf : ∀ symbol, catalog.graph.lookupSymbol id = .ok symbol → C.Answers p (f symbol) good) :
    C.Answers p (catalog.symbol id >>= f) good :=
  .find hf

theorem Answers.type {id : TypeId} {f : TypeNode → BuildM α}
    (hf : ∀ node, catalog.graph.lookupType id = .ok node → C.Answers p (f node) good) :
    C.Answers p (catalog.type id >>= f) good :=
  .find hf

theorem Answers.printed {id : TypeId} {f : String → BuildM α}
    (hf : ∀ text, catalog.graph.typeText id = .ok text → C.Answers p (f text) good) :
    C.Answers p (catalog.printed id >>= f) good :=
  .find hf

theorem answers_note (entry : LogEntry) : C.Answers p (BuildM.note entry) fun _ _ => True :=
  fun hp => BuildM.post_note.2
    ⟨hp.step (.noted entry) (.of_same rfl rfl) ⟨rfl, fun _ => rfl⟩, .note entry, trivial⟩

/-- Doc comments fail by modules that cannot be had, which every contract allows for. -/
theorem fault_extend {annotations : Annotations} {symbol : Symbol} {error : Error}
    (h : catalog.reader.extend annotations symbol = .error error) : C.fault error := by
  obtain ⟨_, _, _, _, _, rfl⟩ := AnnotationReader.extend_error h
  exact C.fault_other fun _ => nofun

theorem Answers.annotations {id : SymbolId} {f : Annotations → BuildM α}
    (hf : ∀ annotations, catalog.Describes ⟨id, annotations⟩ → C.Answers p (f annotations) good) :
    C.Answers p (catalog.annotations id >>= f) good := by
  rw [Catalog.annotations, bind_assoc]
  refine .symbol fun symbol hsymbol => ?_
  exact .take (fun annotations hread => hf annotations ⟨symbol, hsymbol, hread⟩)
    fun _ => fault_extend

/-- The label of an enum literal stands for a constant. -/
theorem enumLiteral_literal?_ne_none {label : String} :
    (TypeKind.enumLiteral label).literal? ≠ none := by
  unfold TypeKind.literal?
  dsimp only
  split
  · exact Option.some_ne_none _
  · exact Option.some_ne_none _

section Rules

variable {Part : Progress → Request → Definition → Prop}
  (hlater : ∀ part schema q r, Settles q r → Part q part schema → Part r part schema)

include hlater

/-- Types whose schemas are asked for one after the other. -/
theorem answers_schemas {types : List TypeId}
    (hbuild : C.Serves Part p build (catalog.Asks request subject))
    (hparts : ∀ id ∈ types, catalog.Asks request subject (catalog.member id)) :
    C.Answers p (types.mapM fun id => build (catalog.member id)) fun schemas q =>
      List.Forall₂ (fun id schema => Part q (catalog.member id) schema) types schemas :=
  .each types (fun _ _ _ _ => hlater _ _ _ _) fun id hid q hpq =>
    hbuild (catalog.member id) (hparts id hid) q hpq

/-! ## Unions -/

omit hlater in
theorem answers_memberOwner (node : TypeNode) :
    C.Answers p (catalog.memberOwner node) fun owner _ => catalog.OwnsMember node owner := by
  rw [Catalog.memberOwner]
  split
  · rename_i hsome
    exact .annotations fun annotations h => .pure ⟨hsome.symm, fun o ho => Option.some.inj ho ▸ h⟩
  · rename_i hnone
    exact .pure ⟨hnone.symm, fun o ho => nomatch ho⟩

theorem answers_addBranch {members : List TypeId} {id : TypeId} {branches : Branches}
    (hanswered : ∀ q part schema, Part q part schema → catalog.Answered C.inv q part schema)
    (hbuild : C.Serves Part p build (catalog.Asks request subject))
    (hsubject : catalog.graph.unwrap (catalog.graph.types.size + 1) request.type request.named =
      .ok subject) (hdescribed : catalog.Described request)
    (hkind : subject.node.kind = .union members) (hmem : id ∈ members) :
    C.Answers p (catalog.addBranch build request.owner branches id) fun left q =>
      ∃ contribution, (catalog.Contributes (Part q) id contribution ∧
          ∀ o schema, request.owner = some o → contribution = .schema schema →
            schema.typeName? = some "undefined" → .dropped o.symbol ∈ q.journal) ∧
        left = branches.enter catalog.options.usesNullableKeyword contribution := by
  rw [Catalog.addBranch]
  refine .type fun node hnode => ?_
  split
  · rename_i literal hliteral
    exact .pure ⟨.value literal, ⟨.value hnode hliteral, fun _ _ _ heq => by cases heq⟩, rfl⟩
  · rename_i hliteral
    refine (answers_memberOwner node).bind fun memberOwner q hpq howner => ?_
    refine (hbuild _ (.member hkind hmem hnode howner) q hpq).bind fun schema r hqr hschema => ?_
    have hcontributes : ∀ s, Settles r s → catalog.Contributes (Part s) id (.schema schema) :=
      fun s hrs => .schema hnode hliteral howner (hlater _ _ _ _ hrs hschema)
    split
    · rename_i hundefined
      cases howned : request.owner with
      | none =>
        exact .pure ⟨_, ⟨hcontributes r (.refl r), fun _ _ hsome => by cases hsome⟩,
          by simp [Branches.enter, hundefined]⟩
      | some owner =>
        have hdrop : Settles r (r.act (.dropped owner.symbol)) :=
          .act _ (r.context.markAbsent_eq owner.symbol) rfl
        have howns := (hdescribed owner howned).2
        have hdrops : catalog.Drops (catalog.Answered C.inv r) owner.symbol :=
          ⟨_, _, _, _, id, schema, howns, hsubject, hkind, hmem,
            (hcontributes r (.refl r)).mono (hanswered r), hundefined⟩
        refine .step BuildM.post_act.2
          (.dropped ⟨_, _, _, _, howns, hsubject, hkind, id, hmem, node, hnode, hliteral⟩)
          (.dropped_act hdrops) hdrop ?_
        refine .pure ⟨_, ⟨hcontributes _ hdrop, fun o _ hsome _ _ => ?_⟩,
          by simp [Branches.enter, hundefined]⟩
        cases hsome
        exact List.mem_cons_self
    · rename_i hnull
      refine .pure ⟨_, ⟨hcontributes r (.refl r), fun _ _ _ heq hundefined => ?_⟩,
        by simp [Branches.enter, hnull]⟩
      cases heq
      simp [hnull] at hundefined
    · rename_i hundefined hnull
      refine .pure ⟨_, ⟨hcontributes r (.refl r), fun _ _ _ heq hname => ?_⟩, ?_⟩
      · cases heq
        exact absurd hname hundefined
      · rw [Branches.enter]
        split
        · rename_i heq
          exact absurd heq hundefined
        · rename_i heq
          exact absurd heq hnull
        · rfl

theorem answers_unionSchema {members : List TypeId} {keyword : UnionKeyword} {isRaw : Bool}
    (hanswered : ∀ q part schema, Part q part schema → catalog.Answered C.inv q part schema)
    (hbuild : C.Serves Part p build (catalog.Asks request subject))
    (hsubject : catalog.graph.unwrap (catalog.graph.types.size + 1) request.type request.named =
      .ok subject) (hdescribed : catalog.Described request)
    (hkind : subject.node.kind = .union members) :
    C.Answers p (catalog.unionSchema build request.owner keyword members definition) fun schema q =>
      catalog.Composed (Part q) keyword request.owner subject isRaw definition schema ∧
        catalog.Recorded (Part q) q request.owner subject isRaw definition schema := by
  rw [Catalog.unionSchema]
  have hall : C.Answers p (members.foldlM (catalog.addBranch build request.owner) {})
      fun branches q => ∃ contributions,
        List.Forall₂ (fun id contribution => catalog.Contributes (Part q) id contribution ∧
          ∀ o schema, request.owner = some o → contribution = .schema schema →
            schema.typeName? = some "undefined" → .dropped o.symbol ∈ q.journal)
          members contributions ∧
          branches = contributions.foldl
            (Branches.enter catalog.options.usesNullableKeyword) {} := by
    refine .gather (R := fun q id contribution => catalog.Contributes (Part q) id contribution ∧
      ∀ o schema, request.owner = some o → contribution = .schema schema →
        schema.typeName? = some "undefined" → .dropped o.symbol ∈ q.journal) members _ ?_ ?_
    · rintro id contribution q r hqr ⟨hcontributes, hdropped⟩
      exact ⟨hcontributes.mono fun _ _ => hlater _ _ q r hqr, fun o schema howner heq hname =>
        hqr.mem_journal (hdropped o schema howner heq hname)⟩
    · intro id hid branches q hpq
      exact answers_addBranch hlater hanswered (hbuild.later hpq) hsubject hdescribed hkind hid
  refine hall.bind ?_
  rintro _ q _ ⟨contributions, hcontributions, rfl⟩
  refine .pure ⟨.union hkind (hcontributions.imp fun _ _ h => h.1), ⟨?_, ?_⟩⟩
  · intro _ _ _ _ hother
    rw [hkind] at hother
    cases hother
  · intro others o hothers howner member hmem
    rw [hkind] at hothers
    cases hothers
    obtain ⟨contribution, _, hcontributes, hdropped⟩ := exists_right_of_forall₂ hcontributions hmem
    exact ⟨contribution, hcontributes, fun schema => hdropped o schema howner⟩

/-! ## Intersections -/

theorem answers_addFactor {members : List TypeId} {id : TypeId} {factors : Factors}
    (hbuild : C.Serves Part p build (catalog.Asks request subject))
    (hkind : subject.node.kind = .intersection members) (hmem : id ∈ members) :
    C.Answers p (catalog.addFactor build factors id) fun left q =>
      ∃ schema, Part q (catalog.member id) schema ∧ left = factors.enter schema := by
  rw [Catalog.addFactor]
  refine (hbuild _ (.factor hkind hmem) p (.refl p)).bind fun schema q hpq hschema => ?_
  have hnoted : ∀ entry, Part (q.note entry) (catalog.member id) schema :=
    fun entry => hlater _ _ _ _ (.note entry) hschema
  split
  · rename_i hundefined
    exact .printed fun text _ => .note (.pure ⟨schema, hnoted _, by simp [Factors.enter, hundefined]⟩)
  · rename_i hdefined
    split
    · rename_i hbare
      split
      · rename_i name hname
        exact .pure ⟨schema, hschema, by rw [Factors.enter, if_neg hdefined, if_pos hbare, hname]⟩
      · rename_i hname
        refine .printed fun text _ => .note (.pure ⟨schema, hnoted _, ?_⟩)
        rw [Factors.enter, if_neg hdefined, if_pos hbare, hname]
    · rename_i hbare
      exact .pure ⟨schema, hschema, by rw [Factors.enter, if_neg hdefined, if_neg hbare]⟩

theorem answers_intersectionSchema {members : List TypeId} {keyword : UnionKeyword} {isRaw : Bool}
    (hbuild : C.Serves Part p build (catalog.Asks request subject))
    (hkind : subject.node.kind = .intersection members) :
    C.Answers p (catalog.intersectionSchema build members definition) fun schema q =>
      catalog.Composed (Part q) keyword request.owner subject isRaw definition schema := by
  rw [Catalog.intersectionSchema]
  have hall : C.Answers p (members.foldlM (catalog.addFactor build) {}) fun factors q =>
      ∃ schemas, List.Forall₂ (fun id schema => Part q (catalog.member id) schema) members schemas ∧
        factors = schemas.foldl Factors.enter {} :=
    .gather (R := fun q id schema => Part q (catalog.member id) schema) members _
      (fun _ _ q r => hlater _ _ q r) fun id hid factors q hpq =>
      answers_addFactor hlater (hbuild.later hpq) hkind hid
  refine hall.bind ?_
  rintro _ q _ ⟨schemas, hschemas, rfl⟩
  exact .pure (.intersection hkind hschemas)

/-! ## Plain types -/

omit hlater

theorem answers_namesInteger (id : Option SymbolId) :
    C.Answers p (catalog.namesInteger id) fun _ _ => True := by
  simp only [Catalog.namesInteger]
  split
  · exact .symbol fun symbol _ => .pure trivial
  · exact .pure trivial

theorem answers_isDate (id : Option SymbolId) :
    C.Answers p (catalog.isDate id) fun isDate _ => isDate = true →
      ∃ symbolId symbol, id = some symbolId ∧ catalog.graph.lookupSymbol symbolId = .ok symbol ∧
        symbol.fullName = "Date" := by
  simp only [Catalog.isDate]
  split
  · rename_i symbolId
    exact .symbol fun symbol hsymbol => .pure fun hdate =>
      ⟨symbolId, symbol, rfl, hsymbol, by simpa using hdate⟩
  · exact .pure fun hdate => nomatch hdate

theorem answers_isInteger (node : TypeNode) (named : Option SymbolId) (definition : Definition) :
    C.Answers p (catalog.isInteger node named definition) fun _ _ => True := by
  rw [Catalog.isInteger]
  exact (Answers.anyM _ fun id _ _ _ => answers_namesInteger id).map fun _ _ _ => trivial

theorem answers_literalOrArray {keyword : UnionKeyword} {owner : Option Owner} {isRaw : Bool}
    (hkind : subject.node.kind.literal? = none → subject.node.kind.isLeftOver = true)
    (hbuild : C.Serves Part p build (catalog.Asks request subject)) :
    C.Answers p (catalog.literalOrArray build subject.id subject.node definition) fun schema q =>
      catalog.Composed (Part q) keyword owner subject isRaw definition schema := by
  rw [Catalog.literalOrArray]
  split
  · rename_i value _ hliteral
    exact .pure (.literal hliteral)
  · rename_i element hnone hindex
    dsimp only
    split
    · rename_i hitems
      exact .pure (.listed (hkind hnone) hindex hitems)
    · exact (hbuild _ (.item hindex) p (.refl p)).bind fun schema q hpq hschema =>
        .pure (.array (hkind hnone) hindex hschema)
  · exact .printed fun text _ => .throw fun _ => nofun

include hlater

theorem answers_plainSchema (named : Option SymbolId) {keyword : UnionKeyword}
    {owner : Option Owner} {isRaw : Bool} (hunion : ∀ members, subject.node.kind ≠ .union members)
    (hintersection : ∀ members, subject.node.kind ≠ .intersection members)
    (hbuild : C.Serves Part p build (catalog.Asks request subject)) :
    C.Answers p (catalog.plainSchema build subject.id subject.node named definition) fun schema q =>
      catalog.Composed (Part q) keyword owner subject isRaw definition schema := by
  rw [Catalog.plainSchema]
  split
  · rename_i elements minLength hasRest hkind
    exact (answers_schemas hlater hbuild fun element helement => .element hkind helement).bind
      fun items q hpq hitems => .pure (.tuple hkind hitems)
  · rename_i hkind
    exact .pure (.keyword (hkind ▸ .string))
  · rename_i hkind
    refine (answers_isInteger _ _ _).bind fun isInteger q hpq _ => .pure ?_
    split
    · exact .keyword (hkind ▸ .integer)
    · exact .keyword (hkind ▸ .number)
  · rename_i hkind
    exact .pure (.keyword (hkind ▸ .boolean))
  · rename_i hkind
    refine .pure ?_
    split
    · rename_i hkeyword
      exact .nullable hkind hkeyword
    · rename_i hkeyword
      exact .keyword (hkind ▸ .null (by simpa using hkeyword))
  · rename_i hkind
    exact .pure (.keyword (hkind ▸ .undefined))
  · rename_i hkind
    exact .pure (.keyword (hkind ▸ .void))
  · rename_i hkind
    exact .pure (.anything (.inl hkind))
  · rename_i hkind
    exact .pure (.anything (.inr hkind))
  · rename_i hkind
    exact .pure (.anyObject hkind)
  · rename_i hkind
    refine (answers_isDate _).bind fun isDate q hpq hdate => ?_
    split
    · rename_i htrue
      obtain ⟨id, symbol, hsymbol, hlookup, hname⟩ := hdate htrue
      exact .pure (.date hkind hsymbol hlookup hname)
    · exact answers_literalOrArray (fun _ => by rw [hkind, TypeKind.isLeftOver]) (hbuild.later hpq)
  · refine answers_literalOrArray (fun hliteral => ?_) hbuild
    cases hkind : subject.node.kind with
    | enumLiteral label => exact absurd (hkind ▸ hliteral) enumLiteral_literal?_ne_none
    | _ => simp_all [TypeKind.isLeftOver, TypeKind.literal?]

/-! ## Objects -/

omit hlater

theorem answers_visibleProperties (node : TypeNode) :
    C.Answers p (catalog.visibleProperties node) fun properties _ =>
      properties = node.properties.filter catalog.isVisible := by
  rw [Catalog.visibleProperties]
  refine .filterM _ _ fun property _ q _ => ?_
  split
  · rename_i hprivate
    exact .pure (by simp [Catalog.isVisible, hprivate])
  · rename_i hprivate
    exact .type fun type htype => .pure (by simp [Catalog.isVisible, hprivate, htype])

include hlater

theorem answers_propertySchema {property : Property} {annotations : Annotations}
    (hbuild : C.Serves Part p build (catalog.Asks request subject))
    (hmem : property ∈ subject.node.properties)
    (howner : catalog.Describes ⟨property.symbol, annotations⟩) :
    C.Answers p (catalog.propertySchema build property annotations) fun answer q =>
      ∃ symbol schema, catalog.graph.lookupSymbol property.symbol = .ok symbol ∧
        Part q { catalog.member property.type property.referenced with
          owner := some ⟨property.symbol, annotations⟩ } schema ∧
        answer = if schema.typeName? = some "undefined" then none
          else some (catalog.propertyDefinition property symbol.name schema) := by
  rw [Catalog.propertySchema]
  refine .symbol fun symbol hsymbol => ?_
  refine (hbuild _ (.property hmem howner) p (.refl p)).bind fun schema q _ hschema => ?_
  split
  · rename_i hundefined
    exact .pure ⟨symbol, schema, hsymbol, hschema, by rw [if_pos hundefined]⟩
  · rename_i hdefined
    dsimp only
    split
    · rename_i hplain
      refine .pure ⟨symbol, schema, hsymbol, hschema, ?_⟩
      rw [if_neg hdefined, Catalog.propertyDefinition, hplain]
    · rename_i source hinitializer
      refine (Answers.forM _ fun entry _ r _ => answers_note entry).bind fun _ r hqr _ => .pure ?_
      refine ⟨symbol, schema, hsymbol, hlater _ _ _ _ hqr hschema, ?_⟩
      rw [if_neg hdefined, Catalog.propertyDefinition, hinitializer]

theorem answers_keptProperty {property : Property}
    (hbuild : C.Serves Part p build (catalog.Asks request subject))
    (hmem : property ∈ subject.node.properties) :
    C.Answers p (catalog.keptProperty build property) fun answer q =>
      catalog.Keeping (Part q) property answer := by
  rw [Catalog.keptProperty]
  split
  · rename_i hmethod
    exact .pure (.method hmethod)
  · rename_i hmethod
    refine .annotations fun annotations howner => ?_
    split
    · rename_i hignored
      exact .pure (.ignored howner hignored)
    · rename_i hignored
      refine (answers_propertySchema hlater hbuild hmem howner).bind ?_
      rintro _ q _ ⟨symbol, schema, hsymbol, hpart, rfl⟩
      split
      · rename_i hnone
        refine .pure (.undefined howner hpart ?_)
        by_contra hdefined
        rw [if_neg hdefined] at hnone
        cases hnone
      · rename_i done hdone
        have hdefined : schema.typeName? ≠ some "undefined" := by
          intro hundefined
          rw [if_pos hundefined] at hdone
          cases hdone
        rw [if_neg hdefined] at hdone
        cases hdone
        refine .symbol fun again hagain => .pure ?_
        obtain rfl := Except.ok.inj (hsymbol.symm.trans hagain)
        exact .kept (by simpa using hmethod) howner (by simpa using hignored) hsymbol hpart hdefined

omit hlater in
/-- A property that is kept is one of the object's own that schemas know of. -/
theorem keeps_of_keeping {Part : Request → Definition → Prop} {property : Property}
    {kept : KeptProperty} (hnode : catalog.graph.lookupType subject.id = .ok subject.node)
    (hmem : property ∈ subject.node.properties.filter catalog.isVisible)
    (h : catalog.Keeping Part property (some kept)) : catalog.Keeps subject.id kept := by
  obtain ⟨hmem, hvisible⟩ := List.mem_filter.1 hmem
  obtain ⟨hprivate, htype⟩ := Bool.and_eq_true_iff.1 hvisible
  cases h with
  | @kept annotations symbol schema hfield howner hignored hsymbol hpart hdefined =>
    refine ⟨⟨_, hnode, hmem⟩, by simpa using hprivate, hfield, ?_, symbol, hsymbol, rfl⟩
    split at htype
    · rename_i type hlookup
      exact ⟨type, hlookup, by simpa using htype⟩
    · cases htype

omit hlater in
/-- The subtypes that are described in place of an object are those of an abstract class. -/
theorem answers_subtypesOf (id : TypeId) (node : TypeNode) :
    C.Answers p (catalog.subtypesOf id node) fun names _ => names ≠ [] →
      ∃ symbol base printed, node.symbol = some symbol ∧
        catalog.graph.lookupSymbol symbol = .ok base ∧ base.isAbstract = true ∧
        catalog.graph.typeText id = .ok printed ∧
        Dict.get? catalog.subtypes printed = some names := by
  rw [Catalog.subtypesOf]
  split
  · exact .pure fun h => absurd rfl h
  · rename_i symbol hsymbol
    refine .symbol fun base hbase => ?_
    split
    · rename_i habstract
      refine .printed fun printed hprinted => .pure fun hsome => ?_
      cases hknown : Dict.get? catalog.subtypes printed with
      | none => simp [hknown] at hsome
      | some known => exact ⟨symbol, base, printed, hsymbol, hbase, habstract, hprinted, hknown⟩
    · exact .pure fun h => absurd rfl h

theorem answers_objectSchema {keyword : UnionKeyword} {owner : Option Owner}
    (hanswered : ∀ q part schema, Part q part schema → catalog.Answered C.inv q part schema)
    (hbuild : C.Serves Part p build (catalog.Asks request subject))
    (hnode : catalog.graph.lookupType subject.id = .ok subject.node)
    {own : List Property} {anonymous : Bool} {index : Option TypeId}
    (hkind : subject.node.kind = .object own anonymous index)
    (hstart : definition.contains "type" = false) :
    C.Answers p (catalog.objectSchema build subject.id subject.node definition) fun schema q =>
      catalog.Composed (Part q) keyword owner subject false definition schema ∧
        catalog.Recorded (Part q) q owner subject false definition schema := by
  rw [Catalog.objectSchema]
  have hunion : ∀ members, subject.node.kind ≠ .union members := fun members h => by
    rw [hkind] at h
    cases h
  refine (answers_visibleProperties _).bind ?_
  rintro _ q hpq rfl
  refine (answers_subtypesOf _ _).bind fun names r hqr hnames => ?_
  have hpr := hpq.trans hqr
  split
  · rename_i hsome
    obtain ⟨symbol, base, printed, hsymbol, hbase, habstract, hprinted, hknown⟩ := hnames hsome
    refine (answers_schemas hlater (hbuild.later hpr) fun subtype hsubtype => ?_).bind
      fun schemas s hrs hschemas => .pure ?_
    · obtain ⟨name, hname, hdeclared⟩ := List.mem_filterMap.1 hsubtype
      exact .subtype hsymbol hbase habstract hprinted hknown hname hdeclared
    · refine ⟨.subtypes rfl hkind hsymbol hbase habstract hprinted hknown hschemas, ⟨?_, ?_⟩⟩
      · intro _ _ _ _ _ _ hconcrete
        rw [hconcrete symbol base hsymbol hbase] at habstract
        cases habstract
      · exact fun members _ h => absurd h (hunion members)
  · have hmono : ∀ property kept s t, Settles s t → catalog.Keeping (Part s) property kept →
        catalog.Keeping (Part t) property kept :=
      fun _ _ s t hst h => h.mono fun _ _ => hlater _ _ s t hst
    refine (Answers.each _ hmono fun property hproperty s hrs =>
      answers_keptProperty hlater (hbuild.later (hpr.trans hrs))
        (List.mem_filter.1 hproperty).1).bind fun answers s hrs hanswers => .context ?_
    have hkept : ∀ kept ∈ answers.reduceOption, catalog.Keeps subject.id kept := by
      intro kept hmem
      obtain ⟨property, hproperty, hkeeping⟩ :=
        exists_left_of_forall₂ hanswers (List.reduceOption_mem_iff.1 hmem)
      exact keeps_of_keeping hnode hproperty hkeeping
    have hgathers : catalog.Gathers (catalog.Answered C.inv s) ⟨subject.id, definition,
        answers.reduceOption,
        catalog.listProperties definition answers.reduceOption s.context.absent⟩ :=
      ⟨subject.node, answers, hnode, hanswers.imp fun _ _ h => h.mono (hanswered s), rfl⟩
    have hlists : catalog.Lists s.context.absent ⟨subject.id, definition, answers.reduceOption,
        catalog.listProperties definition answers.reduceOption s.context.absent⟩ :=
      ⟨hkept, hstart, rfl⟩
    have hlisted : Settles s (s.act (.listed ⟨subject.id, definition, answers.reduceOption,
        catalog.listProperties definition answers.reduceOption s.context.absent⟩)) :=
      .act _ ⟨_, rfl⟩ rfl
    refine .step BuildM.post_act.2 (.listed hlists) (.listed_act hgathers) hlisted
      (.pure ⟨.object rfl hkind ?_, ⟨?_, ?_⟩⟩)
    · exact hanswers.imp fun _ _ => hmono _ _ _ _ hlisted
    · exact fun _ _ _ _ _ _ _ => ⟨_, List.mem_cons_self, rfl, rfl, rfl⟩
    · exact fun members _ h => absurd h (hunion members)

/-! ## All structures -/

omit hlater in
theorem answers_emptyObjectSchema {index : Option TypeId}
    (hbuild : C.Serves Part p build (catalog.Asks request subject))
    (hkind : subject.node.kind = .object [] true index) :
    C.Answers p (catalog.emptyObjectSchema build request subject.named index definition)
      fun schema q => catalog.Composed (Part q) request.unionKeyword request.owner subject false
        definition schema := by
  unfold Catalog.emptyObjectSchema
  dsimp only
  split
  · exact .pure (.emptyObject rfl hkind)
  · exact (hbuild _ (.value hkind) p (.refl p)).bind fun schema q hpq hschema =>
      .pure (.dictionary rfl hkind hschema)

/-- **Every rule keeps every contract**, and answers with what is composed of the answers it was given, as
the journal tells. -/
theorem answers_structureSchema
    (hanswered : ∀ q part schema, Part q part schema → catalog.Answered C.inv q part schema)
    (isRaw : Bool)
    (hbuild : C.Serves Part p build (catalog.Asks request subject))
    (hsubject : catalog.graph.unwrap (catalog.graph.types.size + 1) request.type request.named =
      .ok subject) (hdescribed : catalog.Described request)
    (hstart : definition.contains "type" = false) :
    C.Answers p (catalog.structureSchema build request subject isRaw definition) fun schema q =>
      catalog.Composed (Part q) request.unionKeyword request.owner subject isRaw definition schema ∧
        catalog.Recorded (Part q) q request.owner subject isRaw definition schema := by
  have hnode := (TypeGraph.unwrap_subject hsubject).1
  unfold Catalog.structureSchema
  dsimp only
  split
  · rename_i members hkind
    exact answers_unionSchema hlater hanswered hbuild hsubject hdescribed hkind
  · rename_i members hkind
    refine (answers_intersectionSchema hlater hbuild hkind).imp fun _ _ h => ⟨h, .of_kind ?_ ?_⟩
    · exact fun _ _ _ _ hother => by cases hkind.symm.trans hother
    · exact fun _ hother => by cases hkind.symm.trans hother
  · rename_i hunion hintersection
    split
    · rename_i hraw
      refine (answers_plainSchema hlater _ hunion hintersection hbuild).imp fun _ _ h =>
        ⟨h, .of_kind (fun hnot => ?_) hunion⟩
      rw [hraw] at hnot
      cases hnot
    · rename_i hraw
      obtain rfl : isRaw = false := by simpa using hraw
      split
      · rename_i members hkind
        refine .printed fun name _ => ?_
        refine (Answers.forM _ fun entry _ r _ => answers_note entry).bind fun _ q hpq _ => ?_
        refine .pure ⟨.enum hkind, .of_kind ?_ hunion⟩
        exact fun _ _ _ _ hother => by cases hkind.symm.trans hother
      · rename_i label hkind
        refine .pure ⟨?_, .of_kind (fun _ _ _ _ hother => by cases hkind.symm.trans hother) hunion⟩
        split
        · rename_i value hvalue
          exact .literal (hkind ▸ hvalue)
        · rename_i hnone
          exact absurd hnone (hkind ▸ enumLiteral_literal?_ne_none)
      · rename_i index _ hkind
        refine (answers_emptyObjectSchema hbuild hkind).imp fun _ _ h => ⟨h, .of_kind ?_ hunion⟩
        intro _ own anonymous other hother
        cases hkind.symm.trans hother
        exact ⟨rfl, rfl⟩
      · rename_i hkind
        exact answers_objectSchema hlater hanswered hbuild hnode hkind hstart
      · rename_i hobject
        refine (answers_plainSchema hlater _ hunion hintersection hbuild).imp fun _ _ h =>
          ⟨h, .of_kind (fun _ own anonymous index hother => ?_) hunion⟩
        exact absurd hother (hobject own anonymous index)

end Rules

end TypeSchema.Contract
