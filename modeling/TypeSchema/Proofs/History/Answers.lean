import TypeSchema.Proofs.History.Marks
import TypeSchema.Proofs.Merging.Transport

/-!
# Answers do not depend on what was built before

A request that is made twice, in two contexts of the same call or of different ones, is followed side by
side down the recursion.  The contexts differ in the names that were handed out, in what is under
construction and in the marks.  Names do not show, as nothing is referred to; and the marks that an
object reads are made good by the time it reads them, for it has just built its properties, and each of
them leaves the mark that it would leave at the start of a call (`Catalog.post_property`).

**`Catalog.answersAnywhere`** says so at every depth, by induction on it, with one lemma for each stage.
-/

set_option autoImplicit false

namespace TypeSchema

open Relation

namespace Catalog

/-- Answers requests that are made inside the constructions. -/
abbrev buildInside (catalog : Catalog) (depth : Nat) (chain : List Frame) : Builder :=
  fun part => catalog.buildWithin depth { part with above := chain }

/-- Requests are answered alike in all contexts in which they may be made. -/
def AnswersAnywhere (catalog : Catalog) (depth : Nat) : Prop :=
  ∀ {request : Request} {above' : List Frame} {p p' : Progress}, Poses catalog request p →
    Poses catalog { request with above := above' } p' →
    (catalog.buildWithin depth request).Post₂
      (catalog.buildWithin depth { request with above := above' }) p p'
      (fun schema schema' q q' => schema = schema' ∧ Tracks catalog request.owner p p' q q')
      catalog.Raises

/-- The construction of the subject was taken up for the request, and its schema is to be the answer. -/
structure Underway (catalog : Catalog) (request : Request) (frame : Frame) (p q : Progress) :
    Prop where
  poses : Poses catalog request p
  subject : catalog.graph.unwrap (catalog.graph.types.size + 1) request.type request.named =
    .ok frame.subject
  planned : catalog.Planned request p frame q
  inline : frame.plan.isReference = false
  sound : q.context.names.Sound
  inPlace : InPlace q
  marks : q.context.absent = p.context.absent

namespace Underway

variable {catalog : Catalog} {request : Request} {frame : Frame} {p q : Progress}

theorem opens (h : catalog.Underway request frame p q) : catalog.Opens request p frame q :=
  .inline h.subject h.planned h.inline

theorem refl (h : catalog.Underway request frame p q) (owner : Option Owner) :
    Follows catalog owner q q :=
  .refl h.sound h.inPlace

theorem node (h : catalog.Underway request frame p q) :
    catalog.graph.lookupType frame.subject.id = .ok frame.subject.node :=
  (TypeGraph.unwrap_subject h.subject).1

theorem hasSymbol (h : catalog.Underway request frame p q) (id : SymbolId)
    (hid : frame.subject.named = some id) : catalog.graph.HasSymbol id :=
  h.poses.subject_hasSymbol h.subject id hid

end Underway

end Catalog

open Catalog in
/-- The subject of a request is planned without fail, and its construction is taken up. -/
theorem Poses.post_plan {catalog : Catalog} {request : Request} {p : Progress}
    (h : Poses catalog request p) (hwhole : catalog.Whole) (hinlines : catalog.Inlines)
    (hacyclic : catalog.Acyclic) {subject : Subject}
    (hsubject : catalog.graph.unwrap (catalog.graph.types.size + 1) request.type request.named =
      .ok subject) :
    (catalog.plan subject request.asReference).Post p
      (fun plan q => catalog.Underway request ⟨subject, plan⟩ p q) fun _ _ => False := by
  have hp : (placing catalog hinlines hacyclic).Holds p := h.holds
  refine (post_plan_inPlace hwhole (TypeGraph.unwrap_subject hsubject).1
    (h.subject_hasSymbol hsubject) hp h.enclosed hsubject).imp ?_
  rintro plan q ⟨hq, hplan, hinline, hmarks⟩
  exact ⟨h, hsubject, hplan, hinline, hq.sound, hq.inv, hmarks⟩

namespace Catalog

/-- What a rule asks for does not depend on where the request was made. -/
theorem Asks.within {catalog : Catalog} {request part : Request} {subject : Subject}
    (h : catalog.Asks request subject part) (chain : List Frame) :
    catalog.Asks { request with above := chain } subject part := by
  cases h with
  | member hkind hmem hnode howner => exact .member hkind hmem hnode howner
  | factor hkind hmem => exact .factor hkind hmem
  | element hkind hmem => exact .element hkind hmem
  | item hindex => exact .item hindex
  | value hkind => exact @Asks.value _ { request with above := chain } _ _ hkind
  | property hmem howner => exact .property hmem howner
  | subtype hsymbol hbase habstract hprinted hnames hmem hdeclared =>
    exact .subtype hsymbol hbase habstract hprinted hnames hmem hdeclared

section Sides

variable {catalog : Catalog} (hwhole : catalog.Whole) (hinlines : catalog.Inlines)
  (hacyclic : catalog.Acyclic) (hown : catalog.graph.OwnSymbols) {depth : Nat}
  (ih : catalog.AnswersAnywhere depth)
  {request : Request} {subject : Subject} {plan plan' : Plan} {above' : List Frame}
  {p p' q q' r r' : Progress}

/-! ## Properties -/

include hinlines ih in
/-- Wherever a property is built, it is left with the mark that it would leave at the start of a call,
and with no other one. -/
theorem post_property {property : Property} {annotations : Annotations} {above : List Frame}
    (hposes : Poses catalog { catalog.propertyRequest property annotations with above } r)
    (hdescribes : catalog.Describes ⟨property.symbol, annotations⟩) :
    (catalog.buildInside depth above (catalog.propertyRequest property annotations)).Post r
      (fun _ s =>
        (property.symbol ∈ s.context.absent →
          property.symbol ∈ r.context.absent ∨ catalog.LeavesMark property) ∧
        (catalog.LeavesMark property → property.symbol ∈ s.context.absent))
      fun _ _ => True := by
  refine (ih hposes (hposes.start hinlines)).exists_right.mono ?_ fun _ _ _ => trivial
  rintro schema s ⟨_, s', hrun, rfl, htracks⟩
  refine ⟨fun hmem => (htracks.shared _ hmem).imp_right fun hmem' =>
    ⟨depth, annotations, schema, s', hdescribes, hrun, hmem'⟩, ?_⟩
  rintro ⟨depth', annotations', schema', t, hdescribes', hrun', hmem⟩
  -- The two runs from the start of a call are one run, at the greater of the two depths.
  obtain rfl := hdescribes.unique hdescribes'
  obtain ⟨u, hfirst, hu⟩ := exec_buildWithin_of_le (le_max_left depth depth') hrun
  obtain ⟨u', hsecond, hu'⟩ := exec_buildWithin_of_le (le_max_right depth depth') hrun'
  obtain rfl : u = u' := congrArg Prod.snd (hfirst.symm.trans hsecond)
  rw [← hu', hu] at hmem
  exact (htracks.shared' _ hmem).resolve_left fun hstart => by cases hstart

/-- The mark that a property is left with, once it is kept for an object. -/
theorem post_keptProperty {build : Builder} {property : Property} {Q : List SymbolId → Prop}
    (hbuild : ∀ annotations, catalog.Describes ⟨property.symbol, annotations⟩ →
      (build (catalog.propertyRequest property annotations)).Post r
        (fun _ s => Q s.context.absent) fun _ _ => True) :
    (catalog.keptProperty build property).Post r
      (fun kept s => kept.isSome = true → Q s.context.absent) fun _ _ => True := by
  rw [keptProperty]
  split
  · exact fun h => by cases h
  · rw [annotations, bind_assoc]
    refine BuildM.post_bind.2 (.find (fun symbol hsymbol => ?_) fun _ => trivial)
    refine BuildM.post_bind.2 (.take (fun annotations hread => ?_) fun _ _ => trivial)
    split
    · exact fun h => by cases h
    · have hschema : (catalog.propertySchema build property annotations).Post r
          (fun answer s => answer.isSome = true → Q s.context.absent) fun _ _ => True := by
        rw [propertySchema]
        refine BuildM.post_bind.2 (.find (fun symbol _ => ?_) fun _ => trivial)
        refine (hbuild annotations ⟨_, hsymbol, hread⟩).bind fun schema s hs => ?_
        split
        · exact fun h => by cases h
        · dsimp only
          split
          · exact fun _ => hs
          · refine (BuildM.Post.forM (J := fun t => Q t.context.absent) _ hs
              fun _ _ _ ht => BuildM.post_note.2 ht).bind fun _ _ ht => fun _ => ht
      refine hschema.bind fun answer s hs => ?_
      cases answer with
      | none => exact fun h => by cases h
      | some schema =>
        refine BuildM.post_bind.2 (.find (fun symbol _ => ?_) fun _ => trivial)
        exact fun _ => hs rfl

/-! ## Parts -/

section Parts

variable (h : catalog.Underway request ⟨subject, plan⟩ p q)
  (h' : catalog.Underway { request with above := above' } ⟨subject, plan'⟩ p' q')

include hwhole hinlines hacyclic hown h in
/-- A part may be asked for whatever was built since the construction was taken up. -/
theorem Underway.poses_part (hqr : Follows catalog request.owner q r) {part : Request}
    (hpart : catalog.Asks request subject part) :
    Poses catalog { part with above := ⟨subject, plan⟩ :: request.above } r :=
  h.poses.ofPart hwhole hinlines hacyclic hown h.opens h.marks hqr hpart

include hwhole hinlines hacyclic hown ih h in
/-- Building a part makes no mark that the whole may not make. -/
theorem post_part_marks (hqr : Follows catalog request.owner q r) {part : Request}
    (hpart : catalog.Asks request subject part) :
    (catalog.buildInside depth (⟨subject, plan⟩ :: request.above) part).Post r
      (fun _ s => catalog.Marks part.owner r.context.absent s.context.absent →
        catalog.Marks request.owner r.context.absent s.context.absent)
      fun _ _ => True := by
  have hposes := h.poses_part hwhole hinlines hacyclic hown hqr hpart
  have hother : (∀ property, catalog.graph.IsProperty property →
      part.owner.map Owner.symbol = some property.symbol →
        request.owner.map Owner.symbol = some property.symbol) →
      (catalog.buildInside depth (⟨subject, plan⟩ :: request.above) part).Post r
      (fun _ s => catalog.Marks part.owner r.context.absent s.context.absent →
        catalog.Marks request.owner r.context.absent s.context.absent)
      fun _ _ => True := fun hsame => .of_forall
    (fun _ _ hmarks => hmarks.of_part fun property hproperty howner _ =>
      .inr (.inl (hsame property hproperty howner))) fun _ _ => trivial
  cases hpart with
  | member _ _ hmember hmemberOwner =>
    exact hother fun property hproperty howner =>
      absurd (hmemberOwner.1.symm.trans howner) (hown.unaliased hproperty hmember)
  | value => exact hother fun _ _ howner => howner
  | @property property annotations hmem hdescribes =>
    refine (post_property hinlines ih hposes hdescribes).mono ?_ fun _ _ _ => trivial
    rintro schema s ⟨hmark, -⟩ hmarks
    refine hmarks.of_part fun another hanother howner hmem' => ?_
    obtain rfl := hown.eq_of_symbol ⟨_, _, h.node, hmem⟩ hanother (Option.some.inj howner).symm
    exact (hmark hmem').imp_right .inr
  | _ => exact hother fun _ _ howner => by cases howner

include hwhole hinlines hacyclic hown ih h in
/-- A property that is kept has its mark afterwards. -/
theorem post_kept_mark (hqr : Follows catalog request.owner q r) {property : Property}
    (hmem : property ∈ subject.node.properties) :
    (catalog.keptProperty (catalog.buildInside depth (⟨subject, plan⟩ :: request.above))
        property).Post r
      (fun kept s => kept.isSome = true →
        catalog.LeavesMark property → property.symbol ∈ s.context.absent)
      fun _ _ => True :=
  post_keptProperty (Q := fun absent => catalog.LeavesMark property → property.symbol ∈ absent)
    fun _ hdescribes =>
      (post_property hinlines ih (h.poses_part hwhole hinlines hacyclic hown hqr
        (.property hmem hdescribes)) hdescribes).imp fun _ _ hmarks => hmarks.2

include hwhole hinlines hacyclic hown ih h h'

/-- Parts are answered alike at any time of the two constructions. -/
theorem serves_parts (hqr : Tracks catalog request.owner q q' r r') :
    (Accord.tracking catalog request.owner r r').Serves catalog request subject
      (catalog.buildInside depth (⟨subject, plan⟩ :: request.above))
      (catalog.buildInside depth (⟨subject, plan'⟩ :: above')) := by
  intro part hpart s s' hrs
  have hleft := hqr.left.trans hrs.left
  have hright := hqr.right.trans hrs.right
  have hposes := h.poses_part hwhole hinlines hacyclic hown hleft hpart
  have hposes' := h'.poses_part hwhole hinlines hacyclic hown hright (hpart.within above')
  have hmarks := post_part_marks hwhole hinlines hacyclic hown ih h hleft hpart
  have hmarks' := post_part_marks hwhole hinlines hacyclic hown ih h' hright (hpart.within above')
  refine ((ih hposes hposes').and_posts hmarks hmarks').imp ?_
  rintro schema schema' t t' ⟨⟨rfl, hst⟩, hsame, hsame'⟩
  exact ⟨hrs.trans (hst.of_part (hsame hst.left.marks) (hsame' hst.right.marks)), rfl⟩

/-- The properties of an object are built alike, and each that is kept has its mark afterwards. -/
theorem track_keptProperties (properties : List Property)
    (hproperties : ∀ property ∈ properties, property ∈ subject.node.properties)
    (hqr : Tracks catalog request.owner q q' r r') :
    (properties.mapM (catalog.keptProperty
        (catalog.buildInside depth (⟨subject, plan⟩ :: request.above)))).Post₂
      (properties.mapM (catalog.keptProperty
        (catalog.buildInside depth (⟨subject, plan'⟩ :: above')))) r r'
      (fun kept kept' s s' => Tracks catalog request.owner r r' s s' ∧ kept = kept' ∧
        ∀ k, some k ∈ kept → k.property ∈ subject.node.properties ∧
          (catalog.LeavesMark k.property →
            k.property.symbol ∈ s.context.absent ∧ k.property.symbol ∈ s'.context.absent))
      catalog.Raises := by
  induction properties generalizing r r' with
  | nil =>
    rw [List.mapM_nil, List.mapM_nil]
    exact ⟨.refl (.refl hqr.left.sound hqr.left.inPlace) (.refl hqr.right.sound hqr.right.inPlace),
      rfl, fun k hk => by cases hk⟩
  | cons property rest ihrest =>
    rw [List.mapM_cons, List.mapM_cons]
    obtain ⟨hmem, hrest⟩ := List.forall_mem_cons.1 hproperties
    have hstart : (Accord.tracking catalog request.owner r r').rel r r' :=
      .refl (.refl hqr.left.sound hqr.left.inPlace) (.refl hqr.right.sound hqr.right.inPlace)
    have hfirst := Accord.agree_keptProperty hwhole h.node
      (serves_parts hwhole hinlines hacyclic hown ih h h' hqr) hmem r r' hstart
    have hleft := post_kept_mark hwhole hinlines hacyclic hown ih h hqr.left hmem
    have hright := post_kept_mark hwhole hinlines hacyclic hown ih h' hqr.right hmem
    refine (hfirst.and_posts hleft hright).bind ?_
    rintro kept _ s s' ⟨⟨hrs, rfl, hsame⟩, hmark, hmark'⟩
    refine (ihrest hrest (hqr.trans hrs)).bind ?_
    rintro others _ t t' ⟨hst, rfl, hothers⟩
    refine ⟨hrs.trans hst, rfl, fun k hk => ?_⟩
    rcases List.mem_cons.1 hk with rfl | hk
    · obtain rfl := hsame k rfl
      exact ⟨hmem, fun hleaves => ⟨hst.left.marks.kept _ (hmark rfl hleaves),
        hst.right.marks.kept _ (hmark' rfl hleaves)⟩⟩
    · exact hothers k hk

theorem keepsAlike_parts :
    (Accord.tracking catalog request.owner q q').KeepsAlike catalog subject.node
      (catalog.buildInside depth (⟨subject, plan⟩ :: request.above))
      (catalog.buildInside depth (⟨subject, plan'⟩ :: above')) := by
  intro r r' hqr
  refine (track_keptProperties hwhole hinlines hacyclic hown ih h h' _
    (fun _ hmem => (List.mem_filter.1 hmem).1) hqr).imp ?_
  rintro kept _ s s' ⟨hrs, rfl, hkept⟩
  have hqs := hqr.trans hrs
  refine ⟨hqs, rfl, fun _ k hk _ => ?_⟩
  obtain ⟨hmem, hmarked⟩ := hkept k hk
  have hinvolves : catalog.Involves request.type k.property :=
    ⟨subject.id, subject.node, leadsTo_of_unwrap h.subject, h.node, hmem⟩
  exact ⟨fun hs => (hmarked (h.poses.leavesMark h.marks hqs.left hinvolves hs)).2,
    fun hs => (hmarked (h'.poses.leavesMark h'.marks hqs.right hinvolves hs)).1⟩

/-! ## Stages -/

theorem track_define (definition : Definition) :
    (catalog.define (catalog.buildWithin depth) request ⟨subject, plan⟩ definition).Post₂
      (catalog.define (catalog.buildWithin depth) { request with above := above' }
        ⟨subject, plan'⟩ definition) q q'
      (fun schema schema' r r' => schema = schema' ∧ Tracks catalog request.owner q q' r r')
      catalog.Raises := by
  have hrefl : Tracks catalog request.owner q q' q q' := .refl (h.refl _) (h'.refl _)
  have hraw : plan'.isRaw = plan.isRaw := Except.ok.inj (h'.planned.raw.symm.trans h.planned.raw)
  rw [define, define]
  split
  · exact ⟨rfl, hrefl⟩
  · rename_i htype
    have htype : definition.contains "type" = false := by simpa using htype
    have happlied : Tracks catalog request.owner q q'
        (q.act (.applied (⟨subject, plan⟩ :: request.above)))
        (q'.act (.applied (⟨subject, plan'⟩ :: above'))) :=
      ⟨hrefl.left.act rfl rfl, hrefl.right.act rfl rfl, hrefl.shared, hrefl.shared'⟩
    have hserves := serves_parts hwhole hinlines hacyclic hown ih h h' hrefl
    have hrule : (Accord.tracking catalog request.owner q q').Agree catalog
        (catalog.structureSchema (catalog.buildInside depth (⟨subject, plan⟩ :: request.above))
          request subject plan.isRaw definition)
        (catalog.structureSchema (catalog.buildInside depth (⟨subject, plan'⟩ :: above'))
          { request with above := above' } subject plan.isRaw definition)
        fun schema schema' => True → schema = schema' :=
      Accord.agree_structureSchema hwhole h.node h.hasSymbol hserves h.planned.raw rfl
        (fun _ _ hkind => hserves _ (.value hkind)) (fun _ _ _ _ htracks => htracks.dropFor)
        (keepsAlike_parts hwhole hinlines hacyclic hown ih h h') (fun _ => rfl) htype htype
        fun _ => rfl
    refine BuildM.post₂_act_bind.2 ?_
    dsimp only
    rw [hraw]
    refine (hrule _ _ happlied).imp ?_
    rintro schema schema' r r' ⟨hqr, hsame⟩
    exact ⟨hsame trivial, hqr⟩

/-- Both constructions are carried through to their schemas; ending them makes no mark. -/
theorem track_carryOut :
    (catalog.carryOut (catalog.buildWithin depth) request ⟨subject, plan⟩).Post₂
      (catalog.carryOut (catalog.buildWithin depth) { request with above := above' }
        ⟨subject, plan'⟩) q q'
      (fun schema schema' s s' => schema = schema' ∧ ∃ r r', Tracks catalog request.owner q q' r r' ∧
        s.context.absent = r.context.absent ∧ s'.context.absent = r'.context.absent)
      catalog.Raises := by
  have hrefl : (Accord.tracking catalog request.owner q q').rel q q' :=
    .refl (h.refl _) (h'.refl _)
  have hannotated : ∀ {s : Progress}, s.context.names.Sound → InPlace s →
      (catalog.annotate subject.describing).Post s (fun _ t => t = s) fun _ _ => True :=
    fun hsound hinPlace => (Contract.post_annotate (C := placing catalog hinlines hacyclic)
      ⟨hsound, hinPlace⟩ _).mono (fun _ _ h => h.1) fun _ _ _ => trivial
  have hannotate := (Accord.agree_annotate hwhole h.node h.hasSymbol q q' hrefl).and_posts
    (hannotated h.sound h.inPlace) (hannotated h'.sound h'.inPlace)
  rw [carryOut, carryOut]
  refine hannotate.bind ?_
  rintro described _ _ _ ⟨⟨-, rfl⟩, rfl, rfl⟩
  dsimp only
  rw [h.inline, h'.inline]
  refine (track_define hwhole hinlines hacyclic hown ih h h' _).bind ?_
  rintro schema _ r r' ⟨rfl, hqr⟩
  refine (BuildM.Post₂.of_posts
    (post_finish_inPlace h.planned hqr.left.settles hqr.left.inPlace)
    (post_finish_inPlace h'.planned hqr.right.settles hqr.right.inPlace)).imp ?_
  rintro done done' s s' ⟨⟨rfl, hs⟩, rfl, hs'⟩
  exact ⟨rfl, r, r', hqr, hs, hs'⟩

end Parts

include hwhole hinlines hacyclic hown ih

/-- A subject is planned for both requests, and its constructions are carried through. -/
theorem track_answerPlanned (hposes : Poses catalog request p)
    (hposes' : Poses catalog { request with above := above' } p')
    (hsubject : catalog.graph.unwrap (catalog.graph.types.size + 1) request.type request.named =
      .ok subject) :
    (catalog.answerPlanned depth request subject).Post₂
      (catalog.answerPlanned depth { request with above := above' } subject) p p'
      (fun schema schema' s s' => schema = schema' ∧ ∃ q q' r r',
        Tracks catalog request.owner q q' r r' ∧
        q.context.absent = p.context.absent ∧ q'.context.absent = p'.context.absent ∧
        s.context.absent = r.context.absent ∧ s'.context.absent = r'.context.absent)
      catalog.Raises := by
  rw [answerPlanned, answerPlanned]
  refine (BuildM.Post₂.of_posts (hposes.post_plan hwhole hinlines hacyclic hsubject)
    (hposes'.post_plan hwhole hinlines hacyclic hsubject)).bind ?_
  rintro plan plan' q q' ⟨h, h'⟩
  refine (track_carryOut hwhole hinlines hacyclic hown ih h h').bind ?_
  rintro schema _ s s' ⟨rfl, r, r', htracks, hs, hs'⟩
  exact ⟨rfl, q, q', r, r', htracks, h.marks, h'.marks, hs, hs'⟩

end Sides

/-- A run by itself settles in place. -/
theorem post_buildWithin_inPlace {catalog : Catalog} (hinlines : catalog.Inlines)
    (hacyclic : catalog.Acyclic) (depth : Nat) {request : Request} {p : Progress}
    (h : Poses catalog request p) :
    (catalog.buildWithin depth request).Post p
      (fun _ q => q.context.names.Sound ∧ InPlace q ∧ Settles p q) fun _ _ => True :=
  (Contract.answers_buildWithin (C := placing catalog hinlines hacyclic) _ _ _
    h.described h.enclosed h.holds).mono (fun _ _ h => ⟨h.1.sound, h.1.inv, h.2.1⟩)
      fun _ _ _ => trivial

/-- **Requests are answered alike wherever they are made.** -/
theorem answersAnywhere {catalog : Catalog} (hwhole : catalog.Whole) (hinlines : catalog.Inlines)
    (hacyclic : catalog.Acyclic) (hown : catalog.graph.OwnSymbols) (depth : Nat) :
    catalog.AnswersAnywhere depth := by
  induction depth with
  | zero =>
    intro request above' p p' _ _
    exact ⟨rfl, .endless request.type⟩
  | succ depth ih =>
    intro request above' p p' hposes hposes'
    have hrefl : Tracks catalog request.owner p p' p p' :=
      .refl (.refl hposes.sound hposes.inPlace) (.refl hposes'.sound hposes'.inPlace)
    -- Each run by itself is as the contract says; what is left to compare are answers and marks.
    suffices hanswers : (catalog.buildWithin (depth + 1) request).Post₂
        (catalog.buildWithin (depth + 1) { request with above := above' }) p p'
        (fun schema schema' s s' => schema = schema' ∧ ∃ q q' r r',
          Tracks catalog request.owner q q' r r' ∧
          q.context.absent = p.context.absent ∧ q'.context.absent = p'.context.absent ∧
          s.context.absent = r.context.absent ∧ s'.context.absent = r'.context.absent)
        catalog.Raises by
      refine (hanswers.and_posts (post_buildWithin_inPlace hinlines hacyclic _ hposes)
        (post_buildWithin_inPlace hinlines hacyclic _ hposes')).imp ?_
      rintro schema _ s s' ⟨⟨rfl, q, q', r, r', htracks, hq, hq', hs, hs'⟩, hleft, hright⟩
      exact ⟨rfl, htracks.around hq hq' hs hs' hleft hright⟩
    cases hsubject : catalog.graph.unwrap (catalog.graph.types.size + 1) request.type
        request.named with
    | error error =>
      rw [buildWithin, buildWithin, respond, respond, hsubject]
      exact ⟨rfl, raises_of_unwrap hwhole hposes.hasType hsubject⟩
    | ok subject =>
      cases hsettled : settled? request.owner with
      | some definition =>
        rw [buildWithin, buildWithin, respond, respond, hsubject, hsettled]
        exact ⟨rfl, p, p', p, p', hrefl, rfl, rfl, rfl, rfl⟩
      | none =>
        have hrun : catalog.buildWithin (depth + 1) { request with above := above' } =
            catalog.answerPlanned depth { request with above := above' } subject :=
          buildWithin_succ hsubject hsettled
        rw [buildWithin_succ hsubject hsettled, hrun]
        exact track_answerPlanned hwhole hinlines hacyclic hown ih hposes hposes' hsubject

end Catalog

end TypeSchema
