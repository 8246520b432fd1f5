import TypeSchema.Proofs.Objects.Keys
import TypeSchema.Proofs.Objects.Listings

/-!
# Enums that are asked for by name

An enum that a property names is described where it is used, also in ref mode: nothing is put into
the table of definitions for it.  But whoever took up a construction finds out at its end whether its
name is in the table, and then a reference is the answer.  So the property refers to the enum after
all once a definition was promoted under its name, by an array of the enum or by the enum as a
declaration of its own (`Catalog.exists_enum_referred`): the schema depends on what was met before.

**`Catalog.enum_in_place`** says that it depends on nothing else.  The property refers to the enum if
the name was promoted before it was answered, and otherwise has the values of the enum in place.
-/

set_option autoImplicit false

namespace TypeSchema

open BuildM

/-! ## What an enum says -/

namespace Enumeration

variable {members : List EnumMember}

/-- Where there are values, they have kinds. -/
theorem kinds_ne_nil {found : List Literal} (h : found ≠ []) : kinds found ≠ [] := by
  have hkept : ∀ (rest : List Literal) (found : List LiteralKind), found ≠ [] →
      rest.foldl (fun found v => if found.contains v.kind then found else found ++ [v.kind]) found ≠
        [] := by
    intro rest
    induction rest with
    | nil => exact fun _ hfound => hfound
    | cons value rest ih =>
      intro found hfound
      refine ih _ ?_
      dsimp only
      split
      · exact hfound
      · exact List.append_ne_nil_of_left_ne_nil hfound _
  match found, h with
  | value :: rest, _ => exact hkept rest [value.kind] (List.cons_ne_nil _ _)

theorem get?_type_insertKinds {kinds : List LiteralKind} (h : kinds ≠ []) (definition : Definition) :
    (insertKinds definition kinds).get? "type" = (insertKinds Definition.empty kinds).get? "type" := by
  match kinds, h with
  | [kind], _ => simp only [insertKinds, Definition.get?_insert, if_true]
  | first :: second :: rest, _ => simp only [insertKinds, Definition.get?_insert, if_true]

/-- The schema has the values of the enum and their kinds. -/
structure Shows (members : List EnumMember) (schema : Definition) : Prop where
  enum : schema.get? "enum" = some (.array ((Literal.sort (values members)).map Literal.toJson))
  type : schema.get? "type" = (define members Definition.empty).get? "type"

/-- An enum with values is described by them, whatever doc comments say beside them. -/
theorem shows_define (h : values members ≠ []) (definition : Definition) :
    Shows members (define members definition) := by
  have hdefine : ∀ start, define members start = (insertKinds start (kinds (values members))).insert
      "enum" (.array ((Literal.sort (values members)).map Literal.toJson)) := fun start => by
    rw [define, if_neg (by simpa using h)]
  refine ⟨?_, ?_⟩
  · rw [hdefine, Definition.get?_insert, if_pos rfl]
  · rw [hdefine, hdefine, Definition.get?_insert_of_ne (by decide),
      Definition.get?_insert_of_ne (by decide), get?_type_insertKinds (kinds_ne_nil h)]

end Enumeration

/-! ## What is promoted -/

/-- The names of the table are those of promoted definitions, where none is given. -/
theorem Reached.isReffed_iff_promoted {catalog : Catalog} {p : Progress} (h : Reached catalog p)
    (hgiven : catalog.overrides = []) {name : String} :
    p.context.isReffed name = true ↔ ∃ frame, .promoted frame ∈ p.journal ∧ frame.plan.name = name := by
  constructor
  · intro hreffed
    induction h with
    | fresh root => simp [Context.isReffed, Contract.fresh, Context.start, hgiven, Dict.contains] at hreffed
    | @step p q _ hstep ih =>
      rcases hstep.table with htable | ⟨frame, _, rfl⟩
      · rw [Context.isReffed, htable.reffed] at hreffed
        obtain ⟨frame, hmem, hname⟩ := ih hreffed
        exact ⟨frame, hstep.grows.mem_journal hmem, hname⟩
      · rw [Progress.act_context, Event.effect, Context.isReffed_promote, Bool.or_eq_true,
          decide_eq_true_iff] at hreffed
        rcases hreffed with hname | hold
        · exact ⟨frame, List.mem_cons_self, hname⟩
        · obtain ⟨other, hmem, hname⟩ := ih hold
          exact ⟨other, List.mem_cons_of_mem _ hmem, hname⟩
    | applied _ chain ih =>
      obtain ⟨frame, hmem, hname⟩ := ih hreffed
      exact ⟨frame, List.mem_cons_of_mem _ hmem, hname⟩
    | @completed p frame definition _ hpromoted _ ih =>
      rw [Progress.act_context, Event.effect, Context.isReffed_promote, Bool.or_eq_true,
        decide_eq_true_iff] at hreffed
      rcases hreffed with hname | hold
      · exact ⟨frame, List.mem_cons_of_mem _ hpromoted, hname⟩
      · obtain ⟨other, hmem, hname⟩ := ih hold
        exact ⟨other, List.mem_cons_of_mem _ hmem, hname⟩
  · rintro ⟨frame, hmem, rfl⟩
    by_contra hnew
    have hwritten : .promoted frame ∈ writings p.journal frame.plan.name := mem_writings hmem rfl
    rw [h.writings_eq_nil (by simpa using hnew)] at hwritten
    cases hwritten

namespace Catalog

variable {catalog : Catalog} {build : Builder} {request : Request} {subject : Subject} {frame : Frame}
  {p q : Progress} {journal : List Event} {listing : Listing} {kept : KeptProperty}
  {annotations : Annotations} {definition : Definition} {members : List EnumMember}

/-! ## How an enum is answered -/

/-- The schema of an enum, which starts from what doc comments say: they may give the type. -/
def enumSchema (members : List EnumMember) (start : Definition) : Definition :=
  if start.contains "type" then start else Enumeration.define members start

/-- The subject is an enum that was asked for by its name. -/
structure NamesEnum (subject : Subject) (members : List EnumMember) : Prop where
  kind : subject.node.kind = .enum members
  named : subject.named.isSome = true

namespace NamesEnum

theorem isEnumReference (h : NamesEnum subject members) : subject.isEnumReference = true := by
  rw [Subject.isEnumReference, h.named, TypeNode.isEnum, h.kind]
  rfl

theorem isRaw (h : NamesEnum subject members) : catalog.graph.isRaw subject.node = .ok false := by
  rw [TypeGraph.isRaw, h.kind]
  rfl

theorem post_isPromoted (h : NamesEnum subject members) (name : String) :
    (catalog.isPromoted subject name).Post p (fun promoted _ => promoted = false) fun _ _ => True := by
  have hpure : ∀ ofLiteral q, (pure (catalog.options.reference && !ofLiteral &&
      subject.node.aliasArguments.isEmpty && !true && isReferenceName name) : BuildM Bool).Post q
      (fun promoted _ => promoted = false) fun _ _ => True := fun _ _ => by simp
  rw [isPromoted, h.isEnumReference]
  split
  · exact (Post.any _ p).bind fun symbol q _ => hpure _ q
  · exact hpure false p

/-- It is referred to where its name is under construction only, and then by someone else. -/
theorem post_takeUp (h : NamesEnum subject members) (name : SourcedName) :
    (catalog.takeUp subject name false false).Post p
      (fun plan _ => plan.isRaw = false ∧ (plan.isReference = true ∨ plan.token.isSome = true))
      fun _ _ => True := by
  rw [takeUp, if_neg (by simp [Subject.isGuarded])]
  refine post_bind.2 (post_context.2 ?_)
  split
  · exact ⟨rfl, .inl rfl⟩
  · exact post_bind.2 (post_answer.2 ((h.post_isPromoted name.text).bind fun _ _ _ => ⟨rfl, .inr rfl⟩))

theorem post_plan (h : NamesEnum subject members) (asReference : Bool) :
    (catalog.plan subject asReference).Post p
      (fun plan _ => plan.isRaw = false ∧ (plan.isReference = true ∨ plan.token.isSome = true))
      fun _ _ => True := by
  rw [plan, h.isRaw, h.isEnumReference]
  refine post_bind.2 (.find (fun isRaw hraw => ?_) fun _ => trivial)
  obtain rfl := Except.ok.inj hraw
  refine post_bind.2 (.find (fun isStringUnion _ => ?_) fun _ => trivial)
  simp only [Bool.not_true, Bool.and_false, Bool.false_and]
  exact (Post.any _ p).bind fun name q _ => h.post_takeUp name

/-- What is defined is the schema of the enum. -/
theorem post_define (h : NamesEnum frame.subject members) (hraw : frame.plan.isRaw = false) :
    (catalog.define build request frame definition).Post p
      (fun schema _ => schema = enumSchema members definition) fun _ _ => True := by
  rw [define, enumSchema]
  split
  · rfl
  · refine post_bind.2 (post_act.2 ?_)
    rw [structureSchema]
    simp only [h.kind, hraw]
    refine post_bind.2 (.find (fun name _ => ?_) fun _ => trivial)
    exact (Post.any _ _).bind fun _ _ _ => rfl

/-- A construction ends with its answer, unless its name is in the table. -/
theorem post_finish (frame : Frame) (answer : Definition) :
    (finish frame answer).Post p
      (fun done q => done = answer ∨ q.context.isReffed frame.plan.name = true) fun _ _ => True := by
  rw [finish]
  split
  · exact .inl rfl
  · refine post_bind.2 (post_answer.2 (post_bind.2 (post_context.2 ?_)))
    split
    · rename_i hreffed
      exact .inr (Bool.and_eq_true_iff.1 hreffed).2
    · exact .inl rfl

/-- Where it is not referred to, the enum is described in place, unless its name is in the table. -/
theorem post_carryOut {C : Contract catalog} (hp : C.Holds p)
    (h : NamesEnum frame.subject members) (hraw : frame.plan.isRaw = false)
    (hinline : frame.plan.isReference = false) :
    (catalog.carryOut build request frame).Post p
      (fun done q => ∃ said, catalog.description frame.subject.describing = .ok said ∧
        (done = enumSchema members (said.definition.merge (ownerKeywords request.owner)) ∨
          q.context.isReffed frame.plan.name = true)) fun _ _ => True := by
  rw [carryOut]
  refine ((Contract.post_annotate hp _).mono (fun _ _ said => said) fun _ _ _ => trivial).bind ?_
  rintro _ _ ⟨rfl, said, hsaid, rfl⟩
  rw [if_neg (by simp [hinline])]
  refine (h.post_define hraw).bind ?_
  rintro _ q rfl
  exact (post_finish frame _).imp fun done r hdone => ⟨said, hsaid, hdone⟩

/-- What carrying out the plan comes to refers to the name if it is in the table, and else is the schema
of the enum. -/
theorem answer_of_carried {done : Definition}
    (htaken : frame.plan.isReference = true ∨ frame.plan.token.isSome = true)
    (hcarried : Contract.Carried catalog request frame q done)
    (hdone : frame.plan.isReference = false → ∃ said,
      catalog.description frame.subject.describing = .ok said ∧
        (done = enumSchema members (said.definition.merge (ownerKeywords request.owner)) ∨
          q.context.isReffed frame.plan.name = true)) :
    q.context.isReffed frame.plan.name = true ∧
        (∃ beside, done = (q.context.refTo frame.plan.name).merge beside) ∨
      q.context.isReffed frame.plan.name = false ∧ ∃ said,
        catalog.description frame.subject.describing = .ok said ∧
          done = enumSchema members (said.definition.merge (ownerKeywords request.owner)) := by
  cases hcarried with
  | reference _ hrefers hends =>
    refine .inl ⟨hrefers.reffed, ?_⟩
    cases hends with
    | asIs _ => exact ⟨_, rfl⟩
    | linked _ _ _ => exact ⟨_, rfl⟩
  | schema hinline _ _ _ hends =>
    have htoken := htaken.resolve_left (by simp [hinline])
    obtain ⟨said, hsaid, hplace⟩ := hdone hinline
    cases hreffed : q.context.isReffed frame.plan.name with
    | false =>
      exact .inr ⟨rfl, said, hsaid, hplace.resolve_right (by simp [hreffed])⟩
    | true =>
      refine .inl ⟨rfl, ?_⟩
      cases hends with
      | asIs hends =>
        rcases hends with hnone | hnew
        · rw [hnone] at htoken
          cases htoken
        · cases hnew.symm.trans hreffed
      | linked _ _ _ => exact ⟨_, rfl⟩

/-- A request for an enum by its name is answered by a reference if the name is in the table, and else by
the schema of the enum. -/
theorem post_buildWithin (h : NamesEnum subject members) (hp : Reached catalog p)
    (hdescribed : catalog.Described request)
    (hsubject : catalog.graph.unwrap (catalog.graph.types.size + 1) request.type request.named =
      .ok subject) (hunsettled : settled? request.owner = none) (depth : Nat) :
    (catalog.buildWithin depth request).Post p
      (fun answer q => Reached catalog q ∧ ∃ name done, answer = catalog.hook done ∧
        catalog.Named q.context.names subject name ∧
        (q.context.isReffed name.text = true ∧
            (∃ beside, done = (q.context.refTo name.text).merge beside) ∨
          q.context.isReffed name.text = false ∧ ∃ said,
            catalog.description subject.describing = .ok said ∧
              done = enumSchema members (said.definition.merge (ownerKeywords request.owner))))
      fun _ _ => True := by
  have hholds : (changes catalog p).Holds p := ⟨hp.sound, hp, fun _ => .same rfl⟩
  cases depth with
  | zero => exact (post_throw _).2 trivial
  | succ depth =>
    have htype := (TypeGraph.unwrap_subject hsubject).1
    rw [buildWithin, respond, hsubject]
    refine post_bind.2 (.take (fun found hfound => ?_) fun _ _ => trivial)
    obtain rfl := Except.ok.inj hfound
    rw [hunsettled]
    refine (((h.post_plan request.asReference).and (Contract.post_plan hholds request htype)).mono
      (fun _ _ hplan => hplan) fun _ _ _ => trivial).bind ?_
    rintro plan q ⟨⟨hraw, htaken⟩, hq, hplanned⟩
    have hstarts : (changes catalog p).Starts depth request p ⟨subject, plan⟩ :=
      ⟨hdescribed, trivial, hsubject, hunsettled⟩
    have hcarried := Contract.post_carryOut (Contract.answers_buildWithin depth) hstarts hplanned hq
    have hplace : (catalog.carryOut (catalog.buildWithin depth) request ⟨subject, plan⟩).Post q
        (fun done r => plan.isReference = false → ∃ said,
          catalog.description subject.describing = .ok said ∧
            (done = enumSchema members (said.definition.merge (ownerKeywords request.owner)) ∨
              r.context.isReffed plan.name = true)) fun _ _ => True := by
      cases hreference : plan.isReference with
      | true => exact .of_forall (fun _ _ hinline => absurd hinline (by simp)) fun _ _ => trivial
      | false => exact (NamesEnum.post_carryOut hq h hraw hreference).imp fun _ _ hdone _ => hdone
    refine ((hcarried.and hplace).mono (fun _ _ hdone => hdone) fun _ _ _ => trivial).bind ?_
    rintro done r ⟨⟨hr, _, _, hframes, hcarried⟩, hdone⟩
    exact (post_pure _).2 ⟨hr.inv.1, ⟨plan.name, plan.source⟩, done, rfl, hframes.named,
      answer_of_carried htaken hcarried hdone⟩

end NamesEnum

/-! ## Properties -/

theorem contains_refTo_merge {context : Context} (name : String) (beside : Definition) :
    ((context.refTo name).merge beside).contains "$ref" = true := by
  rw [Definition.contains, Definition.merge, Dict.contains_extend]
  rfl

/-- **Enums that are named are in place unless they were promoted.**  Where the type of a listed property
is an enum, with wrappers looked through, that is asked for by its name, and the doc comment of the
property leaves it to its type, the property is answered in a run of the call.  If a definition was
promoted under the name of the enum by the end of this run, the property refers to it.  If none was,
its schema is that of the enum: it has the values of the enum and their kinds, and no reference but one
that doc comments enter. -/
theorem enum_in_place (catalog : Catalog) (hhook : catalog.hook = id) (hgiven : catalog.overrides = [])
    (hjournal : catalog.Journals journal) (hlisted : .listed listing ∈ journal)
    (hkept : kept ∈ listing.kept) (hown : catalog.Describes ⟨kept.property.symbol, annotations⟩)
    (htype : annotations.definition.contains "type" = false)
    (hsubject : catalog.graph.unwrap (catalog.graph.types.size + 1) kept.property.type
      kept.property.referenced = .ok subject)
    (henum : NamesEnum subject members) :
    ∃ depth above p answer q name, Reached catalog p ∧ q.journal <:+ journal ∧
      (catalog.buildWithin depth { catalog.requestFor kept.property annotations with above }).exec p =
        (.ok answer, q) ∧ catalog.Named q.context.names subject name ∧
      ((∃ frame, .promoted frame ∈ q.journal ∧ frame.plan.name = name.text) →
        kept.schema.contains "$ref" = true) ∧
      ((∀ frame, .promoted frame ∈ q.journal → frame.plan.name ≠ name.text) → ∃ said,
        catalog.description subject.describing = .ok said ∧
        kept.schema = catalog.propertyDefinition kept.property kept.name
          (enumSchema members (said.definition.merge annotations.definition)) ∧
        kept.schema.get? "$ref" = (said.definition.merge annotations.definition).get? "$ref" ∧
        (said.definition.contains "type" = false → Enumeration.values members ≠ [] →
          Enumeration.Shows members kept.schema)) := by
  obtain ⟨_, answer, rfl, hunsettled, hanswered, hschema⟩ :=
    exists_answered hjournal hlisted hkept hown htype
  obtain ⟨depth, above, p, q, _, hp, hrun, hgrows⟩ := hanswered.run
  have hdescribed : catalog.Described { catalog.requestFor kept.property annotations with above } :=
    hanswered.described
  have hpost := henum.post_buildWithin hp hdescribed hsubject hunsettled depth
  rw [Post, hrun] at hpost
  obtain ⟨hq, name, done, rfl, hnamed, hdone⟩ := hpost
  rw [hhook] at hschema
  have hsame : ∀ key : String, key ≠ "title" → key ≠ "default" →
      kept.schema.get? key = done.get? key := fun key htitle hdefault => by
    rw [hschema]
    exact get?_propertyDefinition _ _ htitle hdefault
  refine ⟨depth, above, p, _, q, name, hp, hgrows.journal, hrun, hnamed, fun hpromoted => ?_,
    fun hfree => ?_⟩
  · have hreffed := (hq.isReffed_iff_promoted hgiven).2 hpromoted
    rcases hdone with ⟨_, beside, rfl⟩ | ⟨hnew, _⟩
    · rw [Definition.contains, Dict.contains, ← Definition.get?, hsame _ (by decide) (by decide)]
      exact contains_refTo_merge name.text beside
    · cases hnew.symm.trans hreffed
  · have hnew : ¬q.context.isReffed name.text = true := fun hreffed => by
      obtain ⟨frame, hmem, hname⟩ := (hq.isReffed_iff_promoted hgiven).1 hreffed
      exact hfree frame hmem hname
    obtain ⟨_, said, hsaid, rfl⟩ := hdone.resolve_left fun h => hnew h.1
    refine ⟨said, hsaid, hschema, ?_, fun htypeless hvalues => ?_⟩
    · rw [hsame _ (by decide) (by decide), enumSchema]
      split
      · rfl
      · exact Definition.get?_define members (by decide) (by decide)
    · have hstart : (said.definition.merge annotations.definition).contains "type" = false := by
        rw [Definition.contains, Definition.merge, Dict.contains_extend, Bool.or_eq_false_iff]
        exact ⟨htypeless, htype⟩
      have hplace : enumSchema members (said.definition.merge annotations.definition) =
          Enumeration.define members (said.definition.merge annotations.definition) := if_neg (by simp [hstart])
      have hshows := Enumeration.shows_define hvalues (said.definition.merge annotations.definition)
      rw [← hplace] at hshows
      exact ⟨(hsame _ (by decide) (by decide)).trans hshows.enum,
        (hsame _ (by decide) (by decide)).trans hshows.type⟩

/-- The members of an enum of colors. -/
def colors : List EnumMember :=
  [⟨"Red", some (.string "red"), none⟩]

/-- A catalog in ref mode of a type literal with a color that is named. -/
def theme : Catalog where
  graph :=
    { types := #[{ kind := .enum colors, symbol := some ⟨0⟩ },
        { kind := .object [{ symbol := ⟨1⟩, type := ⟨0⟩, referenced := some ⟨0⟩ }] true none }]
      symbols := #[{ name := "Color" }, { name := "main" }]
      declarations := [("Theme", ⟨1⟩)] }
  options := { reference := true }
  declared := [("Theme", ⟨1⟩)]

/-- Nothing is promoted for a theme, so its color is in place. -/
theorem enum_in_place_theme : ∃ listing kept,
    .listed listing ∈ (theme.schemas [.exact "Theme"]).journal ∧ kept ∈ listing.kept ∧
      kept.schema.get? "$ref" = none ∧ Enumeration.Shows colors kept.schema := by
  have hevent : ((theme.schemas [.exact "Theme"]).journal.any fun
      | .listed listing => listing.kept.any fun kept =>
          decide (kept.property = { symbol := ⟨1⟩, type := ⟨0⟩, referenced := some ⟨0⟩ })
      | _ => false) = true := by decide +kernel
  have hpromoted : ((theme.schemas [.exact "Theme"]).journal.any fun
      | .promoted _ => true
      | _ => false) = false := by decide +kernel
  obtain ⟨event, hmem, hevent⟩ := List.any_eq_true.1 hevent
  cases event with
  | listed listing =>
    obtain ⟨kept, hkept, hmain⟩ := List.any_eq_true.1 hevent
    have hproperty := of_decide_eq_true hmain
    have hown : theme.Describes ⟨kept.property.symbol, {}⟩ := by
      rw [hproperty]
      exact ⟨{ name := "main" }, rfl, rfl⟩
    have hsubject : theme.graph.unwrap (theme.graph.types.size + 1) kept.property.type
        kept.property.referenced =
        .ok ⟨⟨0⟩, { kind := .enum colors, symbol := some ⟨0⟩ }, some ⟨0⟩⟩ := by
      rw [hproperty]
      rfl
    obtain ⟨_, _, _, _, q, name, _, hjournal, _, _, _, hplace⟩ :=
      enum_in_place theme rfl rfl (.schemas _) hmem hkept hown rfl hsubject ⟨rfl, rfl⟩
    have hfree : ∀ frame, .promoted frame ∈ q.journal → frame.plan.name ≠ name.text :=
      fun frame hframe => absurd (List.any_eq_false.1 hpromoted _ (hjournal.subset hframe)) nofun
    obtain ⟨said, hsaid, _, hreference, hshows⟩ := hplace hfree
    obtain rfl : { } = said := Except.ok.inj hsaid
    exact ⟨listing, kept, hmem, hkept, hreference, hshows rfl (by decide)⟩
  | _ => cases hevent

/-- A catalog in ref mode of an object with an array of colors, and then a color that is named. -/
def palette : Catalog where
  graph :=
    { types := #[{ kind := .enum colors, symbol := some ⟨0⟩ },
        { kind := .object [] false none, numberIndex := some ⟨0⟩ },
        { kind := .object [{ symbol := ⟨2⟩, type := ⟨1⟩ },
            { symbol := ⟨3⟩, type := ⟨0⟩, referenced := some ⟨0⟩ }] false none
          symbol := some ⟨1⟩ }]
      symbols := #[{ name := "Color" }, { name := "Palette" }, { name := "all" }, { name := "main" }]
      declarations := [("Palette", ⟨2⟩)] }
  options := { reference := true }
  declared := [("Palette", ⟨2⟩)]

/-- **A named enum is referred to.**  The array has promoted the enum, so that the property with the color
refers to it and has no values in place. -/
theorem exists_enum_referred :
    palette.graph.validate = .ok () ∧
    ofGraph palette.graph palette.options Modules.none = .ok palette ∧
    palette.options.reference = true ∧ palette.overrides = [] ∧ palette.hook = id ∧
    (palette.schemas [.exact "Palette"]).result.toOption.isSome ∧
    ∃ listing kept subject, .listed listing ∈ (palette.schemas [.exact "Palette"]).journal ∧
      kept ∈ listing.kept ∧ palette.Describes ⟨kept.property.symbol, {}⟩ ∧
      palette.graph.unwrap (palette.graph.types.size + 1) kept.property.type
        kept.property.referenced = .ok subject ∧ NamesEnum subject colors ∧
      kept.schema.contains "$ref" = true ∧ kept.schema.get? "enum" = none := by
  have hevent : ((palette.schemas [.exact "Palette"]).journal.any fun
      | .listed listing => listing.kept.any fun kept =>
          decide (kept.property = { symbol := ⟨3⟩, type := ⟨0⟩, referenced := some ⟨0⟩ }) &&
            (kept.schema.contains "$ref" && (kept.schema.get? "enum").isNone)
      | _ => false) = true := by decide +kernel
  refine ⟨rfl, rfl, rfl, rfl, rfl, by decide +kernel, ?_⟩
  obtain ⟨event, hmem, hevent⟩ := List.any_eq_true.1 hevent
  cases event with
  | listed listing =>
    obtain ⟨kept, hkept, hmain⟩ := List.any_eq_true.1 hevent
    obtain ⟨hproperty, hschema⟩ := Bool.and_eq_true_iff.1 hmain
    obtain ⟨hreference, hnone⟩ := Bool.and_eq_true_iff.1 hschema
    have hproperty := of_decide_eq_true hproperty
    refine ⟨listing, kept, ⟨⟨0⟩, { kind := .enum colors, symbol := some ⟨0⟩ }, some ⟨0⟩⟩, hmem, hkept, ?_,
      ?_, ⟨rfl, rfl⟩, hreference, Option.isNone_iff_eq_none.1 hnone⟩
    · rw [hproperty]
      exact ⟨{ name := "main" }, rfl, rfl⟩
    · rw [hproperty]
      rfl
  | _ => cases hevent

end Catalog

end TypeSchema
