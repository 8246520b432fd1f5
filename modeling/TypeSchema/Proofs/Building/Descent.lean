import TypeSchema.Proofs.Building.Composition

/-!
# Every request is answered as the contract says

A request is answered in stages, and there is one lemma for each: the subject is named, the
construction is taken up (`post_plan`), the rule for the structure is applied (`answers_define`),
perhaps as the definition of a name that references point to (`post_defineShared`), and the
construction is ended (`post_finish`).  Taking up changes the names under construction and ending
changes them back, so only the whole settles.

**`Contract.answers_buildWithin`** ties the stages together by induction on the depth: whatever is
asked with as much depth left as the contract wants is answered as it says.
-/

set_option autoImplicit false

namespace TypeSchema

namespace Contract

open BuildM

variable {catalog : Catalog} {C : Contract catalog} {p q r : Progress} {build : Builder}
  {request : Request} {subject : Subject} {frame : Frame} {definition : Definition} {depth : Nat}

/-! ## Naming -/

/-- A name made from one of the bases of a type is handed out. -/
theorem answers_makeUnique {id : TypeId} {node : TypeNode} {base : String}
    (htype : catalog.graph.lookupType id = .ok node) (hbase : base ∈ catalog.bases id)
    (hfresh : p.context.names.name? id = none ∧ catalog.OwnBase id base ∨
      catalog.AliasBase node base) :
    C.Answers p (answer fun context =>
        ((context.names.makeUnique id base).1,
          { context with names := (context.names.makeUnique id base).2 })) fun name q =>
      Unwritten p q ∧ Dict.get? q.context.names.holders name = some id := by
  intro hp
  have hstep := Catalog.Step.named htype hbase (hfresh.imp_left And.left)
  have horigin : catalog.Origin C.inv p (p.withContext
      { p.context with names := (p.context.names.makeUnique id base).2 }) :=
    .of_journal rfl (.inr ⟨id, base, rfl, hfresh.imp_right fun halias => ⟨node, htype, halias⟩⟩)
  have htable : Unwritten p (p.withContext
      { p.context with names := (p.context.names.makeUnique id base).2 }) := ⟨rfl, fun _ => rfl⟩
  refine post_answer.2 ⟨hp.step hstep horigin htable, .of_grows hstep.grows rfl htable, htable, ?_⟩
  exact NameRegistry.get?_holders_makeUnique _ _ _

theorem answers_ownName {id : TypeId} {node : TypeNode}
    (htype : catalog.graph.lookupType id = .ok node) :
    C.Answers p (catalog.ownName id) fun name q =>
      Unwritten p q ∧ Dict.get? q.context.names.holders name = some id := by
  intro hp
  refine (?_ : C.Answers p _ _) hp
  rw [Catalog.ownName]
  refine .context ?_
  split
  · rename_i name hname
    exact .pure ⟨.refl p, hp.sound.current _ _ hname⟩
  · rename_i hnone
    refine .printed fun text htext => ?_
    have hbase : canonicalName text ∈ catalog.bases id := by simp [Catalog.bases, htext]
    intro hp
    refine post_answer.2 ?_
    simp only [NameRegistry.nameOf, hnone]
    exact answers_makeUnique htype hbase (.inl ⟨hnone, text, htext, rfl⟩) hp

theorem answers_overrideName? (named : Option SymbolId) :
    C.Answers p (catalog.overrideName? named) fun answer q =>
      Unwritten p q ∧ ∀ name, answer = some name →
        ∃ id symbol, named = some id ∧ catalog.graph.lookupSymbol id = .ok symbol ∧
          name = symbol.name ∧ Dict.contains catalog.overrides symbol.name = true := by
  simp only [Catalog.overrideName?]
  split
  · exact .pure ⟨.refl p, fun _ h => nomatch h⟩
  · rename_i id
    refine .symbol fun symbol hsymbol => .pure ⟨.refl p, fun name hname => ?_⟩
    split at hname
    · rename_i hcontains
      exact ⟨id, symbol, rfl, hsymbol, (Option.some.inj hname).symm, hcontains⟩
    · cases hname

theorem answers_aliasName {id : SymbolId} {symbol : Symbol}
    (htype : catalog.graph.lookupType subject.id = .ok subject.node)
    (hliterals : catalog.graph.isStringUnion subject.node = .ok true)
    (hnamed : subject.named = some id) (hsymbol : catalog.graph.lookupSymbol id = .ok symbol) :
    C.Answers p (catalog.aliasName subject.id symbol) fun name q =>
      Unwritten p q ∧ catalog.Named q.context.names subject name ∧
        catalog.Sourced subject name.source := by
  have hsourced : ∀ source, catalog.Sourced subject source :=
    fun _ => ⟨htype, fun _ _ _ _ _ hother => absurd hliterals hother⟩
  rw [Catalog.aliasName]
  dsimp only
  split
  · rename_i declaration hdeclaration
    refine .pure ⟨.refl p, ?_, hsourced _⟩
    split at hdeclaration
    · rename_i hunique
      exact .aliasDeclaration hunique hnamed hsymbol hdeclaration
    · cases hdeclaration
  · have hmem := TypeGraph.mem_symbols hsymbol
    have hbase : canonicalName symbol.fullName ∈ catalog.bases subject.id :=
      List.mem_append_right _ (List.mem_map.2 ⟨symbol, hmem, rfl⟩)
    have halias : catalog.AliasBase subject.node (canonicalName symbol.fullName) :=
      ⟨hliterals, symbol, hmem, rfl⟩
    intro hp
    obtain ⟨hq, hpq, htable, hheld⟩ :=
      post_answer.1 (answers_makeUnique (C := C) htype hbase (.inr halias) hp)
    exact post_answer.2 ⟨hq, hpq, htable, .registry hheld, hsourced _⟩

/-- However a subject comes by its name, it is one of the four ways. -/
theorem answers_subjectName {aliasReference : Bool}
    (htype : catalog.graph.lookupType subject.id = .ok subject.node)
    (hliterals : aliasReference = true → catalog.graph.isStringUnion subject.node = .ok true) :
    C.Answers p (catalog.subjectName subject aliasReference) fun name q =>
      Unwritten p q ∧ catalog.Named q.context.names subject name ∧
        catalog.Sourced subject name.source := by
  rw [Catalog.subjectName]
  split
  · rename_i id hid
    split at hid
    · rename_i halias
      exact .symbol fun symbol hsymbol => answers_aliasName htype (hliterals halias) hid hsymbol
    · cases hid
  · refine .find fun declaring hdeclaring => ?_
    split
    · rename_i declaration hdeclaration
      refine (answers_ownName htype).bind ?_
      rintro name q hpq ⟨htable, hheld⟩
      refine .pure ⟨htable, ?_, htype, fun _ _ _ _ _ _ => rfl⟩
      split at hdeclaration
      · rename_i hunique
        cases declaring with
        | none => cases hdeclaration
        | some symbol => exact .declaration hunique hdeclaring hdeclaration hheld
      · cases hdeclaration
    · rename_i hundeclared
      -- No declaration names the type, or the declaration does not count.
      have hsourced : ∀ source, catalog.Sourced subject source := by
        refine fun source => ⟨htype, fun hunique symbol declaration hsymbol hdeclaration => ?_⟩
        obtain rfl := Except.ok.inj (hdeclaring.symm.trans hsymbol)
        simp [hunique, hdeclaration] at hundeclared
      refine (answers_overrideName? _).bind ?_
      rintro answer q hpq ⟨htable, hanswer⟩
      split
      · obtain ⟨id, symbol, hnamed, hsymbol, rfl, hcontains⟩ := hanswer _ rfl
        exact .pure ⟨htable, .override hnamed hsymbol hcontains, hsourced _⟩
      · refine (answers_ownName htype).bind ?_
        rintro name r hqr ⟨htable', hheld⟩
        exact .pure ⟨htable.trans htable', .registry hheld, hsourced _⟩

/-! ## Taking up -/

/-- Whether a name becomes a reference is only looked up. -/
theorem post_isPromoted (hp : C.Holds p) (name : String) :
    (catalog.isPromoted subject name).Post p
      (fun promoted q => q = p ∧ (promoted = true → catalog.options.reference = true))
      fun e q => C.fault e ∧ C.inv q := by
  have pure_post : ∀ ofLiteral : Bool, (pure (catalog.options.reference && !ofLiteral &&
      subject.node.aliasArguments.isEmpty && !subject.isEnumReference && isReferenceName name) :
      BuildM Bool).Post p
      (fun promoted q => q = p ∧ (promoted = true → catalog.options.reference = true))
      fun e q => C.fault e ∧ C.inv q := fun _ => ⟨rfl, fun h => by simp_all⟩
  rw [Catalog.isPromoted]
  split
  · refine post_bind.2 (.find (fun symbol _ => ?_) fun _ => ?_)
    · exact pure_post _
    · exact ⟨C.fault_other fun _ => nofun, hp.inv⟩
  · exact pure_post false

theorem post_takeUp (hp : C.Holds p) {name : SourcedName} {isRaw asReference : Bool}
    (hasked : asReference = true → request.asReference = true)
    (hraw : catalog.graph.isRaw subject.node = .ok isRaw)
    (hnamed : catalog.Named p.context.names subject name)
    (hsourced : catalog.Sourced subject name.source)
    (hreference : subject.isGuarded isRaw = false → asReference = true →
      catalog.graph.isStringUnion subject.node = .ok true ∧ subject.named.isSome = true) :
    (catalog.takeUp subject name isRaw asReference).Post p
      (fun plan q => C.Holds q ∧ catalog.Planned request p ⟨subject, plan⟩ q)
      fun e q => C.fault e ∧ C.inv q := by
  rw [Catalog.takeUp]
  split
  · rename_i hguarded
    have hguarded : subject.isGuarded isRaw = false := by simpa using hguarded
    exact ⟨hp, .refl p, hraw, hnamed, hsourced, .unguarded hguarded rfl, .refl p, hreference,
      fun h => .inl (hasked h)⟩
  · rename_i hguarded
    have hguarded : subject.isGuarded isRaw = true := by simpa using hguarded
    have hnone : ∀ {P : Prop}, subject.isGuarded isRaw = false → P :=
      fun hfree => absurd (hguarded.symm.trans hfree) nofun
    refine post_bind.2 (post_context.2 ?_)
    split
    · rename_i hbuilding
      exact ⟨hp, .refl p, hraw, hnamed, hsourced, .again hguarded hbuilding rfl rfl, .refl p,
        hnone, fun _ => .inr (.inr hbuilding)⟩
    · rename_i hbuilding
      have hstep : catalog.Step p (p.withContext (p.context.enter name.text).2) :=
        .entered name.text
      have htable : Unwritten p (p.withContext (p.context.enter name.text).2) := ⟨rfl, fun _ => rfl⟩
      have hq := hp.step hstep (.of_same rfl rfl) htable
      refine post_bind.2 (post_answer.2 ((post_isPromoted hq name.text).bind ?_))
      rintro promoted _ ⟨rfl, hpromoted⟩
      refine ⟨hq, hstep.grows, hraw, hnamed, hsourced, .first hguarded hbuilding rfl, htable, hnone,
        fun h => ?_⟩
      exact (Bool.or_eq_true_iff.1 h).imp hasked fun h => .inl (hpromoted h)

theorem post_plan (hp : C.Holds p) (request : Request)
    (htype : catalog.graph.lookupType subject.id = .ok subject.node) :
    (catalog.plan subject request.asReference).Post p
      (fun plan q => C.Holds q ∧ catalog.Planned request p ⟨subject, plan⟩ q)
      fun e q => C.fault e ∧ C.inv q := by
  have hmissing : ∀ missing, C.fault (.missing missing) ∧ C.inv p :=
    fun _ => ⟨C.fault_other fun _ => nofun, hp.inv⟩
  rw [Catalog.plan]
  refine post_bind.2 (.find (fun isRaw hraw => ?_) hmissing)
  refine post_bind.2 (.find (fun isStringUnion hliterals => ?_) hmissing)
  refine (answers_subjectName htype (fun halias => ?_) hp).bind ?_
  · simp only [Bool.and_eq_true] at halias
    rw [hliterals, halias.1.2]
  rintro name q ⟨hq, hpq, htable, hnamed, hsourced⟩
  refine (post_takeUp hq (show _ → request.asReference = true from fun hasked => ?_) hraw hnamed
    hsourced fun hfree hreference => ?_).imp ?_
  · simp only [Bool.and_eq_true] at hasked
    exact hasked.1.1.1
  · -- What has no guard is raw, and a raw type is referred to by an alias only.
    simp only [Subject.isGuarded, Bool.or_eq_false_iff, Bool.not_eq_false'] at hfree
    simp [hfree.1] at hreference
    rw [hliterals, hreference.1.2.1.2]
    exact ⟨rfl, hreference.1.2.2⟩
  · rintro plan r ⟨hr, hplan⟩
    have hguard := hplan.guard
    have hwanted := hplan.wanted
    rw [hpq.guard] at hguard
    rw [Context.isBuilding, hpq.guard] at hwanted
    exact ⟨hr, hpq.toGrows.trans hplan.toGrows, hplan.raw, hplan.named, hplan.sourced, hguard,
      htable.trans hplan.table, hplan.reference, hwanted⟩

/-- Annotations are only looked up. -/
theorem post_annotate (hp : C.Holds p) (symbols : List SymbolId) :
    (catalog.annotate symbols).Post p
      (fun definition q => q = p ∧ ∃ annotations, catalog.description symbols = .ok annotations ∧
        definition = annotations.definition)
      fun e q => C.fault e ∧ C.inv q := by
  suffices hall : ∀ start : Annotations, (symbols.foldlM (fun annotations id => do
      take (catalog.reader.extend annotations (← catalog.symbol id))) start).Post p
      (fun done q => q = p ∧ symbols.foldlM catalog.extendBy start = Except.ok done)
      fun e q => C.fault e ∧ C.inv q by
    refine (hall {}).bind fun annotations q ⟨hq, hannotations⟩ => ?_
    exact (post_pure _).2 ⟨hq, annotations, hannotations, rfl⟩
  induction symbols with
  | nil => exact fun start => ⟨rfl, rfl⟩
  | cons id rest ih =>
    intro start
    rw [List.foldlM_cons, List.foldlM_cons]
    refine post_bind.2 (post_bind.2 (.find (fun symbol hsymbol => ?_) fun _ => ?_))
    · refine .take (fun extended hextend => ?_) fun _ hfault => ⟨fault_extend hfault, hp.inv⟩
      rw [Catalog.extendBy_eq_ok.2 ⟨symbol, hsymbol, hextend⟩]
      exact ih extended
    · exact ⟨C.fault_other fun _ => nofun, hp.inv⟩

theorem good_description {symbols : List SymbolId} {annotations : Annotations}
    (h : catalog.description symbols = .ok annotations) : C.Good annotations.definition p :=
  Catalog.description_induction good_empty
    (fun _ _ _ _ hgood hsymbol hextend => C.extend hsymbol hgood hextend) h

/-! ## Applying the rule -/

/-- Requests are answered as the contract says where there is the depth for them, and with what can be
derived for them. -/
def AnswersWithin (C : Contract catalog) (depth : Nat) : Prop :=
  ∀ request p, catalog.Described request → C.ask depth request p →
    C.Answers p (catalog.buildWithin depth request) fun definition q =>
      C.Served request definition q ∧ catalog.Yields q request definition

/-- What a construction has to start from: the request was made where it may be made, for whom its owner
says. -/
structure Starts (C : Contract catalog) (depth : Nat) (request : Request) (p : Progress)
    (frame : Frame) : Prop where
  described : catalog.Described request
  ask : C.ask (depth + 1) request p
  subject : catalog.graph.unwrap (catalog.graph.types.size + 1) request.type request.named =
    .ok frame.subject
  unsettled : Catalog.settled? request.owner = none

/-- The frame tells what is known of the construction. -/
theorem Starts.frames (h : C.Starts depth request p frame)
    (hplan : catalog.Planned request p frame q) : catalog.Frames q request frame :=
  ⟨h.subject, h.unsettled, hplan.raw, hplan.named, hplan.reference⟩

/-- The rule is applied with a builder that answers parts, one level deeper. -/
theorem answers_define (ih : C.AnswersWithin depth) (hstarts : C.Starts depth request p frame)
    (hopens : catalog.Opens request p frame q) (hdefinition : C.Good definition q) :
    C.Answers q (catalog.define (catalog.buildWithin depth) request frame definition)
      fun schema r => C.Shaped frame.subject schema r ∧
        catalog.Defined (catalog.Yields r) request.unionKeyword request.owner frame.subject
          frame.plan.isRaw definition schema ∧ catalog.Built r request frame definition schema := by
  intro hq
  refine (?_ : C.Answers q _ _) hq
  rw [Catalog.define]
  split
  · rename_i htyped
    refine .pure ⟨Filled.shaped ⟨hdefinition, ?_⟩, .typed htyped, .typed htyped, fun hstart => ?_⟩
    · rintro rfl
      cases htyped
    · rw [htyped] at hstart
      cases hstart
  · rename_i hstart
    have hstart : definition.contains "type" = false := by simpa using hstart
    have happlied : Settles q (q.act (.applied (frame :: request.above))) := .act _ ⟨_, rfl⟩ rfl
    intro hq
    have hholds : C.Holds (q.act (.applied (frame :: request.above))) :=
      ⟨hq.sound, C.inv_applied hstarts.ask hopens hq.inv⟩
    have hlater : ∀ part schema r s, Settles r s →
        (C.Served part schema r ∧ catalog.Yields r part schema) ∧
          catalog.Answered C.inv r part schema →
        (C.Served part schema s ∧ catalog.Yields s part schema) ∧
          catalog.Answered C.inv s part schema :=
      fun _ _ _ _ hrs ⟨⟨hserved, hyields⟩, hanswered⟩ =>
        ⟨⟨⟨hserved.1.grows hrs.toGrows, hserved.2⟩, hyields.grows hrs.toGrows⟩,
          hanswered.grows hrs.toGrows⟩
    have hserves : C.Serves (fun r part schema =>
          (C.Served part schema r ∧ catalog.Yields r part schema) ∧
            catalog.Answered C.inv r part schema) (q.act (.applied (frame :: request.above)))
        (fun part => catalog.buildWithin depth { part with above := frame :: request.above })
        (catalog.Asks request frame.subject) := by
      intro part hpart s hs
      have hdeeper :=
        C.ask_settles (C.ask_part hstarts.ask hopens hq.inv hpart) (happlied.trans hs)
      have hdescribed := hpart.described hstarts.subject hstarts.described
      have hanswers := ih { part with above := frame :: request.above } s hdescribed hdeeper
      intro hheld
      refine (hanswers hheld).exec.imp ?_
      rintro schema r ⟨⟨hr, hsr, hserved, hyields⟩, hrun⟩
      exact ⟨hr, hsr,
        ⟨⟨hserved.1, fun hempty => (hserved.2 hempty).of_above⟩, hyields.of_above⟩,
        hdescribed, depth, _, s, r, hheld.sound, hheld.inv, hrun, .refl r⟩
    refine post_bind.2 (post_act.2 ?_)
    have hrule := answers_structureSchema hlater (fun _ _ _ h => h.2) frame.plan.isRaw hserves
      hstarts.subject hstarts.described hstart
    refine (hrule.settled.imp fun schema r ⟨hr, hcomposed, hrecorded⟩ => ?_).after happlied hholds
    have hlast := hdefinition.grows (happlied.trans hr).toGrows
    exact ⟨shaped_of_composed (fun _ _ h => h.1.1) hlast hcomposed,
      .composed hstart (hcomposed.mono fun _ _ h => h.1.2),
      .composed hstart (hcomposed.mono fun _ _ h => h.2.mono fun _ _ => trivial),
      fun _ => hrecorded.mono (.refl r) fun _ _ h => h.2.mono fun _ _ => trivial⟩

theorem post_refer {Q : Definition → Progress → Prop} {E : Error → Progress → Prop} :
    (Catalog.refer frame).Post p Q E ↔
      Q (p.context.refTo frame.plan.name) (p.act (.referred frame)) := Iff.rfl

/-- The definition of a name is built where it is not known yet; afterwards it is known, and
complete if it was built here. -/
theorem post_defineShared {annotations : Annotations} (ih : C.AnswersWithin depth)
    (hstarts : C.Starts depth request p frame) (hplan : catalog.Planned request p frame q)
    (hreference : frame.plan.isReference = true) (hq : C.Holds (q.act (.referred frame)))
    (hannotations : catalog.description frame.subject.describing = .ok annotations) :
    (catalog.defineShared (catalog.buildWithin depth) request frame annotations.definition).Post
      (q.act (.referred frame))
      (fun _ r => C.Holds r ∧ Settles q r ∧ Catalog.RefersTo r frame)
      fun e r => C.fault e ∧ C.inv r := by
  have hreferred : Settles q (q.act (.referred frame)) := .act _ ⟨_, rfl⟩ rfl
  rw [Catalog.defineShared]
  refine post_bind.2 (post_context.2 ?_)
  split
  · rename_i hnot
    have hnew : q.context.isReffed frame.plan.name = false := by simpa [Event.effect] using hnot
    have hpromote : catalog.Step (q.act (.referred frame))
        ((q.act (.referred frame)).act (.promoted frame)) := .promoted hplan.named hnew
    have hopens : catalog.Opens request p frame
        ((q.act (.referred frame)).act (.promoted frame)) :=
      .shared hstarts.subject hplan hreference hnew
    have hgrows := hreferred.toGrows.trans hpromote.grows
    have htitled : C.Good (if catalog.options.titles then
        annotations.definition.insert "title" (.string frame.plan.name)
        else annotations.definition) ((q.act (.referred frame)).act (.promoted frame)) := by
      split
      · exact (good_description hannotations).insert
          (.of_ne (by decide) (Json.refersOnly_string _))
      · exact good_description hannotations
    refine post_bind.2 (post_act.2 ?_)
    have hpromoted : C.Holds ((q.act (.referred frame)).act (.promoted frame)) :=
      ⟨hpromote.sound hq.sound, C.inv_promoted hstarts.ask hreference hopens hq.inv hpromote⟩
    refine (answers_define ih hstarts hopens htitled hpromoted).bind ?_
    rintro done r ⟨hr, hpr, hdone, hdefined, hbuilt⟩
    refine post_act.2 ?_
    have hmem : Event.promoted frame ∈ r.journal := hpr.mem_journal List.mem_cons_self
    have hframes := (hstarts.frames hplan).grows (hgrows.trans hpr.toGrows)
    have hcompletes : catalog.Completes r frame done :=
      ⟨hreference, ⟨request, annotations, hstarts.described, hframes, hannotations, hdefined⟩,
        request, annotations, hstarts.described, hframes, hannotations, hbuilt⟩
    have hinv := C.inv_completed hr.inv hmem hcompletes hdone.1 hdone.2
    refine ⟨⟨hr.sound, hinv⟩, hgrows.settles_completed rfl rfl rfl hnew hpr, ?_, ?_⟩
    · exact List.mem_cons_of_mem _ (hpr.mem_journal (by simp))
    · simp [Event.effect, Context.isReffed_promote]
  · rename_i hknown
    exact ⟨hq, hreferred, List.mem_cons_self, by simpa [Event.effect] using hknown⟩

/-! ## Ending -/

/-- A reference says something. -/
theorem refTo_merge_ne_nil {context : Context} {name : String} :
    (context.refTo name).merge definition ≠ [] :=
  fun h => List.cons_ne_nil _ _ (Dict.extend_eq_nil h).1

/-- A reference to a definition of the table, with keywords that were kept beside it. -/
theorem shaped_reference {subject : Subject} {context : Context}
    (hroot : r.context.root = context.root) (hr : C.Good definition r)
    (hreffed : r.context.isReffed frame.plan.name = true) :
    C.Shaped subject ((context.refTo frame.plan.name).merge definition) r := by
  refine Filled.shaped ⟨Definition.RefersOnly.merge ?_ hr, refTo_merge_ne_nil⟩
  refine Definition.refersOnly_reference ?_
  rw [← hroot]
  exact C.target_reffed hreffed

/-- What the construction ends with: its own answer, or a reference if the one who took it up finds the
name in the table. -/
inductive Ends (frame : Frame) (answer : Definition) (s : Progress) : Definition → Prop
  | asIs (h : frame.plan.token = none ∨ s.context.isReffed frame.plan.name = false) :
      Ends frame answer s answer
  | linked {token : Nat} (htoken : frame.plan.token = some token)
      (hguarded : frame.isGuarded = true) (hrefers : Catalog.RefersTo s frame) :
      Ends frame answer s ((s.context.refTo frame.plan.name).merge answer.refAnnotations)

/-- What is answered where a plan has been carried out, before the hook is applied. -/
inductive Carried (catalog : Catalog) (request : Request) (frame : Frame) (s : Progress) :
    Definition → Prop
  /-- What the construction of the schema ends with. -/
  | schema {annotations : Annotations} {schema done : Definition}
      (hinline : frame.plan.isReference = false)
      (hannotations : catalog.description frame.subject.describing = .ok annotations)
      (hschema : catalog.Defined (catalog.Yields s) request.unionKeyword request.owner frame.subject
        frame.plan.isRaw (annotations.definition.merge (Catalog.ownerKeywords request.owner)) schema)
      (hbuilt : catalog.Built s request frame
        (annotations.definition.merge (Catalog.ownerKeywords request.owner)) schema)
      (hends : Ends frame schema s done) : Carried catalog request frame s done
  /-- What a planned reference ends with. -/
  | reference {done : Definition} (hreference : frame.plan.isReference = true)
      (hrefers : Catalog.RefersTo s frame)
      (hends : Ends frame ((s.context.refTo frame.plan.name).merge
        (Catalog.ownerKeywords request.owner)) s done) : Carried catalog request frame s done

/-- What is carried out can be derived: a planned reference stays one, with the keywords of the owner or
the descriptive ones; a schema is the answer itself, or a reference is made to the definition that is in
the table. -/
theorem Carried.yields (h : Carried catalog request frame r definition)
    (hframe : catalog.Frames r request frame) :
    catalog.Yields r request (catalog.hook definition) := by
  cases h with
  | schema hinline hannotations hschema _ hends =>
    cases hends with
    | asIs _ => exact .inline (fun _ _ h => h) hframe hinline hannotations hschema
    | linked _ _ hlinked => exact .linked (fun _ _ h => h) hframe hinline hannotations hschema hlinked
  | reference hreference hrefers hends =>
    cases hends with
    | asIs hends =>
      have htoken := hends.resolve_right fun hfree => by
        rw [hrefers.reffed] at hfree
        cases hfree
      exact .referred hframe hreference (.all htoken) hrefers
    | linked htoken _ hlinked => exact .referred hframe hreference (.descriptive htoken) hlinked

theorem post_finish {answer : Definition} (hplan : catalog.Planned request p frame q)
    (hqr : Settles q r) (hr : C.Holds r) (hanswer : C.Shaped frame.subject answer r) :
    (Catalog.finish frame answer).Post r
      (fun done s => C.Holds s ∧ Settles p s ∧ Grows r s ∧ C.Shaped frame.subject done s ∧
        Ends frame answer s done)
      fun e s => C.fault e ∧ C.inv s := by
  rw [Catalog.finish]
  have hguard := hplan.guard
  rw [← hqr.guard] at hguard
  cases htoken : frame.plan.token with
  | none =>
    refine ⟨hr, hplan.settles hqr ?_ List.suffix_rfl fun _ => rfl, .refl r, hanswer,
      .asIs (.inl htoken)⟩
    rw [← hguard.eq_of_none htoken]
  | some token =>
    -- The token given out is still the latest: everything that was taken up since was ended.
    have hleave := hguard.leave htoken
    have hstep : catalog.Step r (r.withContext (r.context.leave frame.plan.name token).2) :=
      .left _ _
    have hnamed := hplan.named.grows (hqr.toGrows.trans hstep.grows)
    have hgood := hanswer.1.grows hstep.grows
    have hgrows := hstep.grows
    refine post_bind.2 (post_answer.2 ?_)
    rw [hleave] at hnamed hstep hgood hgrows ⊢
    have hs := hr.step hstep (.of_same rfl rfl) ⟨rfl, fun _ => rfl⟩
    refine post_bind.2 (post_context.2 ?_)
    split
    · rename_i hreffed
      have hreffed : r.context.isReffed frame.plan.name = true := by
        simpa [Context.isReffed] using hreffed
      have hreferred := (Catalog.Step.referred hnamed).grows
      have hrefers : Catalog.RefersTo (Progress.act _ (.referred frame)) frame :=
        ⟨List.mem_cons_self, hreferred.reffed _ hreffed⟩
      refine post_bind.2 (post_refer.2 ?_)
      exact ⟨hs.step (.referred hnamed) (.referred_act hplan.sourced)
          ⟨rfl, fun _ => writings_cons_of_none rfl⟩,
        hplan.settles hqr rfl (List.suffix_cons _ _) fun _ => writings_cons_of_none rfl,
        hgrows.trans hreferred,
        shaped_reference rfl (Good.grows hgood hreferred).refAnnotations hrefers.reffed,
        .linked htoken (hguard.isGuarded htoken) hrefers⟩
    · rename_i hreffed
      exact ⟨hs, hplan.settles hqr rfl List.suffix_rfl fun _ => rfl, hgrows, ⟨hgood, hanswer.2⟩,
        .asIs (.inr (by simpa [Context.isReffed] using hreffed))⟩

/-! ## Requests -/

theorem post_carryOut (ih : C.AnswersWithin depth) (hstarts : C.Starts depth request p frame)
    (hplan : catalog.Planned request p frame q) (hq : C.Holds q) :
    (catalog.carryOut (catalog.buildWithin depth) request frame).Post q
      (fun done s => C.Holds s ∧ Settles p s ∧ C.Shaped frame.subject done s ∧
        catalog.Frames s request frame ∧ Carried catalog request frame s done)
      fun e s => C.fault e ∧ C.inv s := by
  have hkeywords : ∀ s, C.Good (Catalog.ownerKeywords request.owner) s :=
    fun s => good_ownerKeywords fun owner howner => (hstarts.described owner howner).1
  have hframes := hstarts.frames hplan
  rw [Catalog.carryOut]
  refine (post_annotate hq _).bind ?_
  rintro _ _ ⟨rfl, annotations, hannotations, rfl⟩
  dsimp only
  split
  · rename_i hreference
    refine post_bind.2 (post_refer.2 ?_)
    have hreferred := hq.step (.referred hplan.named) (.referred_act hplan.sourced)
      ⟨rfl, fun _ => writings_cons_of_none rfl⟩
    refine (post_defineShared ih hstarts hplan hreference hreferred hannotations).bind ?_
    rintro _ r ⟨hr, hqr, hrefers⟩
    have hanswer : C.Shaped frame.subject _ r :=
      shaped_reference hqr.root (hkeywords r) hrefers.reffed
    refine (post_finish hplan hqr hr hanswer).imp ?_
    rintro done s ⟨hs, hps, hrs, hdone, hends⟩
    have hqs := hqr.toGrows.trans hrs
    rw [← Catalog.refTo_of_grows hqs] at hends
    exact ⟨hs, hps, hdone, hframes.grows hqs, .reference hreference (hrefers.grows hrs) hends⟩
  · rename_i hinline
    have hinline : frame.plan.isReference = false := by simpa using hinline
    have hopens : catalog.Opens request p frame _ := .inline hstarts.subject hplan hinline
    refine (answers_define ih hstarts hopens
      ((good_description hannotations).merge (hkeywords _)) hq).bind ?_
    rintro schema r ⟨hr, hqr, hschema, hdefined, hbuilt⟩
    refine (post_finish hplan hqr hr hschema).imp ?_
    rintro done s ⟨hs, hps, hrs, hdone, hends⟩
    have hlater := hdefined.mono fun _ _ hpart => hpart.grows hrs
    exact ⟨hs, hps, hdone, hframes.grows (hqr.toGrows.trans hrs),
      .schema hinline hannotations hlater (hbuilt.grows hrs) hends⟩

/-- What a request is answered with: what the annotations of its owner say, or what is carried out for
its subject. -/
inductive Responds (catalog : Catalog) (q : Progress) (request : Request) : Definition → Prop
  | settled {definition : Definition} (h : Catalog.settled? request.owner = some definition) :
      Responds catalog q request definition
  | carried {frame : Frame} {done : Definition} (hframes : catalog.Frames q request frame)
      (hcarried : Carried catalog request frame q done) :
      Responds catalog q request (catalog.hook done)

theorem Responds.yields (h : Responds catalog q request definition) :
    catalog.Yields q request definition := by
  cases h with
  | settled h => exact .settled h
  | carried hframes hcarried => exact hcarried.yields hframes

/-- A request is answered as the contract says where its parts are. -/
theorem answers_respond (ih : C.AnswersWithin depth) (hdescribed : catalog.Described request)
    (hask : C.ask (depth + 1) request p) :
    C.Answers p (catalog.buildWithin (depth + 1) request) fun definition q =>
      C.Served request definition q ∧ Responds catalog q request definition := by
  rw [Catalog.buildWithin, Catalog.respond]
  refine .take (fun subject hsubject => ?_) fun _ hfault => C.fault_unwrap hask hfault
  split
  · rename_i definition hsettled
    refine .pure ⟨?_, .settled hsettled⟩
    obtain ⟨owner, howner, rfl, hchosen⟩ := Catalog.settled?_eq_some hsettled
    refine ⟨good_owner (hdescribed owner howner).1, fun hempty => ?_⟩
    refine .ignored howner (hchosen.resolve_right ?_) hempty
    simp [hempty, Definition.contains, Dict.contains]
  · rename_i hunsettled
    intro hp
    have htype := (TypeGraph.unwrap_subject hsubject).1
    refine (post_plan hp _ htype).bind ?_
    rintro plan q ⟨hq, hplan⟩
    refine (post_carryOut ih ⟨hdescribed, hask, hsubject, hunsettled⟩ hplan hq).bind ?_
    rintro done s ⟨hs, hps, hdone, hframes, hcarried⟩
    refine (post_pure _).2 ⟨hs, hps, ⟨C.hook hdone.1, fun hempty => ?_⟩, .carried hframes hcarried⟩
    by_cases hbare : done = []
    · exact .built hsubject (hdone.2 hbare)
    · exact .hooked hbare hempty

/-- **Requests are answered as the contract says**, with the depth it wants for them, and every answer
can be derived. -/
theorem answers_buildWithin (depth : Nat) : C.AnswersWithin depth := by
  induction depth with
  | zero =>
    intro request p _ hask hp
    exact (post_throw _).2 ⟨C.fault_exhausted hp.inv hask, hp.inv⟩
  | succ depth ih =>
    intro request p hdescribed hask
    exact (answers_respond ih hdescribed hask).imp fun _ _ h => ⟨h.1, h.2.yields⟩

/-- The contract that asks for nothing. -/
def free (catalog : Catalog) : Contract catalog :=
  .ofInvariant (fun _ => True) (fun _ _ _ => trivial) (fun _ _ _ _ => trivial) fun _ => trivial

end Contract

/-- However deep the builder goes, it answers a request by its settlement or by what is carried out. -/
theorem Catalog.responds_of_answer {catalog : Catalog} {depth : Nat} {request : Request}
    {p q : Progress} {definition : Definition} (hp : p.context.names.Sound)
    (hdescribed : catalog.Described request)
    (hanswer : (catalog.buildWithin depth request).exec p = (.ok definition, q)) :
    Contract.Responds catalog q request definition := by
  cases depth with
  | zero => cases hanswer
  | succ depth =>
    have hpost := Contract.answers_respond (C := .free catalog) (p := p)
      (Contract.answers_buildWithin depth) hdescribed trivial ⟨hp, trivial⟩
    rw [BuildM.Post, hanswer] at hpost
    exact hpost.2.2.2

/-- Whatever a request is answered with can be derived for it. -/
theorem Catalog.yields_of_answer {catalog : Catalog} {depth : Nat} {request : Request}
    {p q : Progress} {definition : Definition} (hp : p.context.names.Sound)
    (hdescribed : catalog.Described request)
    (hanswer : (catalog.buildWithin depth request).exec p = (.ok definition, q)) :
    catalog.Yields q request definition :=
  (responds_of_answer hp hdescribed hanswer).yields

end TypeSchema
