import TypeSchema.Proofs.Context.Integrity
import TypeSchema.Proofs.Names.Distinct
import TypeSchema.Proofs.Objects.Required
import TypeSchema.Proofs.Objects.Undefined

/-!
# What a lookup finds

The assembler of operations looks at the schemas of parameters and of security schemes, and where it
meets a reference it looks up the text after the last slash among the definitions of the call.  This
file says what it then has in hands.  `Catalog.Findable` is what it takes for a name to lead back to
the type it was made for, and **`Catalog.Answered.found`** says that a lookup comes to a schema that
was built for the type that was asked for, whether it stands in the answer itself or in the table.

What a schema was built of is in the journal of the call.  `Traced` keeps what the journal tells:
what was completed, what was gathered where an object was listed, and why a symbol was marked.
-/

set_option autoImplicit false

namespace TypeSchema

/-! ## The text after a slash -/

/-- Behind a path that ends with the separator stands the name, if the separator is not in it. -/
theorem Text.afterLast_append {sep : Char} {path name : String}
    (hpath : path.toList.getLast? = some sep) (hname : sep ∉ name.toList) :
    Text.afterLast sep (path ++ name) = name := by
  obtain ⟨front, hfront⟩ := List.getLast?_eq_some_iff.1 hpath
  have hall : ∀ c ∈ name.toList.reverse, decide (c ≠ sep) = true := by
    intro c hc
    refine decide_eq_true fun heq => hname ?_
    exact heq ▸ List.mem_reverse.1 hc
  rw [Text.afterLast, String.toList_append, hfront, List.reverse_append, List.reverse_append,
    List.takeWhile_append_of_pos hall]
  simp

theorem ReferenceRoot.getLast?_path (root : ReferenceRoot) : root.path.toList.getLast? = some '/' := by
  cases root <;> decide

/-- The names that are made from a base without slashes have none. -/
theorem NameRegistry.slash_not_mem_candidate {base : String} (hbase : '/' ∉ base.toList) (number : Nat) :
    '/' ∉ (candidate base number).toList := by
  cases number with
  | zero => exact hbase
  | succ number =>
    have hdigits : '/' ∉ (toString (number + 1)).toList := by
      intro hmem
      rw [Nat.toString_eq_repr, Nat.toList_repr] at hmem
      exact absurd (Nat.isDigit_of_mem_toDigits (by decide) (by decide) hmem) (by decide)
    simp only [candidate, String.toList_append, List.mem_append, not_or]
    exact ⟨⟨hbase, by decide⟩, hdigits⟩

/-! ## Names that are found -/

/-- The type is described where it is used: nothing of it goes by a name. -/
structure Catalog.Unnamed (catalog : Catalog) (node : TypeNode) : Prop where
  raw : catalog.graph.isRaw node = .ok true
  unaliased : node.aliasSymbol = none
  unlisted : catalog.graph.isStringUnion node ≠ .ok true

/-- In no context of a call a name with a slash stands for the definition of a type that can go by a
name, or a name that a definition of another type has. -/
def Catalog.Findable (catalog : Catalog) : Prop :=
  ∀ p, Reached catalog p → ∀ f : Frame, f.NamedIn p.journal →
    catalog.graph.lookupType f.subject.id = .ok f.subject.node → ¬catalog.Unnamed f.subject.node →
    '/' ∉ f.plan.name.toList ∧
      ∀ g : Frame, g.NamedIn p.journal → g.plan.name = f.plan.name → g.subject.id = f.subject.id

namespace Reached

variable {catalog : Catalog} {p : Progress}

theorem namesKnown (h : Reached catalog p) : NamesKnown catalog p := by
  induction h with
  | fresh root =>
    exact fun _ h => h.elim (fun h => absurd h List.not_mem_nil) fun h => absurd h List.not_mem_nil
  | step _ hstep ih => exact ih.step hstep
  | applied _ chain ih =>
    exact ih.act (Settles.act _ ⟨_, rfl⟩ rfl).toGrows (by simp) (by simp)
  | completed _ _ _ ih => exact ih.complete

/-- Every name is one that its holder is given from its bases. -/
theorem settled (h : Reached catalog p) : p.context.names.Settled catalog.bases := by
  induction h with
  | fresh root => exact NameRegistry.settled_empty
  | applied _ chain ih => exact ih
  | completed _ _ _ ih => exact ih
  | @step p q _ hstep ih =>
    cases hstep with
    | named _ hbase _ => exact ih.makeUnique hbase
    | left name token =>
      obtain ⟨guard, hleave⟩ := p.context.leave_eq name token
      rw [hleave]
      exact ih
    | dropped _ => exact (Catalog.Origin.names_act (p := p) _).symm ▸ ih
    | noted _ => exact ih
    | entered _ => exact ih
    | listed _ => exact ih
    | referred _ => exact ih
    | promoted _ _ => exact ih

end Reached

/-- Names that the registry alone makes are found where no printed form and no alias of a type
that can go by a name has a slash. -/
theorem Catalog.findable_of_registry {catalog : Catalog} (hoverrides : catalog.overrides = [])
    (hunique : catalog.options.uniqueNames = false)
    (hbases : ∀ id node, catalog.graph.lookupType id = .ok node → ¬catalog.Unnamed node →
      ∀ base ∈ catalog.bases id, '/' ∉ base.toList) : catalog.Findable := by
  intro p hp f hf hnode hplace
  have hnamed := hp.namesKnown f hf
  refine ⟨?_, fun g hg hname => ?_⟩
  · generalize hsource : f.sourcedName = name at hnamed
    have hfname : f.plan.name = name.text := congrArg SourcedName.text hsource
    rw [hfname]
    cases hnamed with
    | registry hheld =>
      obtain ⟨base, hbase, rfl⟩ := hp.settled _ _ hheld
      exact NameRegistry.slash_not_mem_candidate (hbases _ _ hnode hplace base hbase) _
    | declaration hdeclared _ _ _ => cases hunique.symm.trans hdeclared
    | aliasDeclaration hdeclared _ _ _ => cases hunique.symm.trans hdeclared
    | override _ _ hoverride => simp [hoverrides, Dict.contains] at hoverride
  · by_contra hother
    cases hunique.symm.trans ((hp.namesKnown g hg).clashes hoverrides hnamed hname hother).1

/-! ## What the journal tells -/

/-- What the journal of a call tells of the schemas that were built. -/
structure Traced (catalog : Catalog) (p : Progress) : Prop where
  reached : Reached catalog p
  marked : Marked catalog p
  completed : ∀ frame definition, .completed frame definition ∈ p.journal →
    .promoted frame ∈ p.journal ∧ catalog.Completes p frame definition
  /-- An object was listed when all answers for its properties were there. -/
  listed : ∀ later listing earlier, p.journal = later ++ .listed listing :: earlier →
    ∃ q : Progress, q.journal = earlier ∧ Grows q p ∧
      catalog.Gathers (catalog.Answered (fun _ => True) q) listing
  dropped : ∀ symbol, .dropped symbol ∈ p.journal →
    catalog.Drops (catalog.Answered (fun _ => True) p) symbol

namespace Traced

open Catalog

variable {catalog : Catalog} {p q : Progress}

theorem fresh (catalog : Catalog) (root : ReferenceRoot) :
    Traced catalog (Contract.fresh catalog root) where
  reached := .fresh root
  marked := ⟨by simp [Contract.fresh, Context.start], by simp [Contract.fresh],
    fun later _ _ heq => by cases later <;> cases heq⟩
  completed _ _ hmem := absurd hmem List.not_mem_nil
  listed later _ _ heq := by cases later <;> cases heq
  dropped _ hmem := absurd hmem List.not_mem_nil

/-- What is added to the journal tells of what it says; the rest is as before. -/
theorem of_journal (h : Traced catalog p) (hreached : Reached catalog q) (hmarked : Marked catalog q)
    (hpq : Grows p q) (hjournal : q.journal = p.journal ∨ ∃ event, q.journal = event :: p.journal)
    (hcompleted : ∀ frame definition, .completed frame definition ∈ q.journal →
      .completed frame definition ∈ p.journal ∨
        .promoted frame ∈ q.journal ∧ catalog.Completes q frame definition)
    (hlisted : ∀ listing, q.journal = .listed listing :: p.journal →
      catalog.Gathers (catalog.Answered (fun _ => True) p) listing)
    (hdropped : ∀ symbol, q.journal = .dropped symbol :: p.journal →
      catalog.Drops (catalog.Answered (fun _ => True) p) symbol) : Traced catalog q where
  reached := hreached
  marked := hmarked
  completed frame definition hmem := by
    rcases hcompleted frame definition hmem with hold | hnew
    · obtain ⟨hpromoted, hcompletes⟩ := h.completed frame definition hold
      exact ⟨hpq.mem_journal hpromoted, hcompletes.grows hpq⟩
    · exact hnew
  listed later listing earlier heq := by
    rcases hjournal with hsame | ⟨event, hadded⟩
    · obtain ⟨r, hr, hrp, hgathers⟩ := h.listed later listing earlier (hsame ▸ heq)
      exact ⟨r, hr, hrp.trans hpq, hgathers⟩
    · cases later with
      | nil =>
        obtain ⟨-, rfl⟩ := List.cons.inj (hadded.symm.trans heq)
        exact ⟨p, rfl, hpq, hlisted listing heq⟩
      | cons latest later =>
        obtain ⟨-, hold⟩ := List.cons.inj (hadded.symm.trans heq)
        obtain ⟨r, hr, hrp, hgathers⟩ := h.listed later listing earlier hold
        exact ⟨r, hr, hrp.trans hpq, hgathers⟩
  dropped symbol hmem := by
    have hold : .dropped symbol ∈ p.journal →
        catalog.Drops (catalog.Answered (fun _ => True) q) symbol := fun hmem =>
      (h.dropped symbol hmem).mono fun _ _ hanswer => hanswer.grows hpq
    rcases hjournal with hsame | ⟨event, hadded⟩
    · exact hold (hsame ▸ hmem)
    · rw [hadded] at hmem
      rcases List.mem_cons.1 hmem with rfl | hmem
      · exact (hdropped symbol hadded).mono fun _ _ hanswer => hanswer.grows hpq
      · exact hold hmem

theorem step (h : Traced catalog p) (hstep : catalog.Step p q)
    (horigin : catalog.Origin (Traced catalog) p q) : Traced catalog q :=
  have horigin := horigin.mono fun _ _ => trivial
  h.of_journal (h.reached.step hstep) (h.marked.step hstep) hstep.grows
    (hstep.journal.imp_right fun ⟨event, _, hadded⟩ => ⟨event, hadded⟩)
    (fun _ _ hmem => .inl (hstep.completed hmem)) horigin.listed horigin.dropped

/-- An event that is no step adds nothing but itself. -/
theorem act (h : Traced catalog p) (event : Event) (hreached : Reached catalog (p.act event))
    (hpq : Grows p (p.act event)) (habsent : (event.effect p.context).absent = p.context.absent)
    (hlisted : ∀ listing, event ≠ .listed listing) (hdropped : ∀ symbol, .dropped symbol ≠ event)
    (hcompleted : ∀ frame definition, .completed frame definition = event →
      .promoted frame ∈ p.journal ∧ catalog.Completes p frame definition) :
    Traced catalog (p.act event) := by
  refine h.of_journal hreached (h.marked.act_other event habsent hdropped hlisted) hpq
    (.inr ⟨event, rfl⟩) (fun frame definition hmem => ?_)
    (fun listing heq => absurd (List.cons.inj heq).1 (hlisted listing))
    fun symbol heq => absurd (List.cons.inj heq).1.symm (hdropped symbol)
  rcases List.mem_cons.1 hmem with heq | hold
  · obtain ⟨hpromoted, hcompletes⟩ := hcompleted frame definition heq
    exact .inr ⟨hpq.mem_journal hpromoted, hcompletes.grows hpq⟩
  · exact .inl hold

end Traced

/-- What the journal tells is kept. -/
def traces (catalog : Catalog) : Contract catalog :=
  .ofInvariant (Traced catalog) (fun h hstep horigin => h.step hstep horigin)
    (fun h hpromoted hcompletes hhollow =>
      h.act _ (h.reached.completed hpromoted hhollow) (.completed _ _ _) rfl (by simp) (by simp)
        fun _ _ heq => by
          cases heq
          exact ⟨hpromoted, hcompletes⟩)
    fun h => h.act _ (h.reached.applied _) (Settles.act _ ⟨_, rfl⟩ rfl).toGrows rfl (by simp) (by simp)
      (by simp)

namespace Catalog

open OpenApi

variable {catalog : Catalog} {p : Progress} {request : Request} {frame : Frame} {node : TypeNode}
  {subject : Subject} {definition schema answer : Definition}

/-! ## What was built for a type -/

/-- The schema was built for the type, starting from what doc comments say. -/
def BuiltFor (catalog : Catalog) (p : Progress) (id : TypeId) (schema : Definition) : Prop :=
  ∃ request frame start, frame.subject.id = id ∧
    catalog.graph.lookupType id = .ok frame.subject.node ∧
    catalog.graph.isRaw frame.subject.node = .ok frame.plan.isRaw ∧
    start.OnlyKeys (fun key => catalog.IsCommented key ∨ key = "title") ∧
    catalog.Built p request frame start schema

/-- The schema is the definition itself, or the definition refers to it and the name is found. -/
inductive Leads (p : Progress) (schema : Definition) : Definition → Prop
  | itself : Leads p schema schema
  | linked {definition : Definition} {name : String}
      (htarget : definition.get? "$ref" = some (.string (p.context.root.path ++ name)))
      (htype : definition.contains "type" = false) (hslash : '/' ∉ name.toList)
      (hknown : Dict.get? p.context.reffed name = some schema) : Leads p schema definition

theorem Leads.resolve_eq_of_target (h : Leads p schema answer)
    (hsame : definition.get? "$ref" = answer.get? "$ref") (hschema : schema.get? "$ref" = none) :
    resolve p.context definition = schema ∨
      resolve p.context definition = definition ∧ answer = schema := by
  have htarget : definition.refTarget? = (answer.get? "$ref").bind Json.text? := by
    rw [Definition.refTarget?, hsame]
  rw [resolve]
  cases h with
  | itself =>
    rw [htarget, hschema]
    exact .inr ⟨rfl, rfl⟩
  | @linked _ name hget _ hslash hknown =>
    rw [htarget, hget]
    have hname : Text.afterLast '/' (p.context.root.path ++ name) = name :=
      Text.afterLast_append p.context.root.getLast?_path hslash
    refine .inl ?_
    simp only [Option.bind_some, Json.text?, hname, hknown, Option.getD_some]

/-- A lookup comes to the schema, unless that is a reference itself. -/
theorem Leads.resolve_eq (h : Leads p schema definition) (hschema : schema.get? "$ref" = none) :
    resolve p.context definition = schema := by
  rcases h.resolve_eq_of_target rfl hschema with heq | ⟨heq, hsame⟩
  · exact heq
  · exact heq.trans hsame

/-! ## What is found -/

/-- The keywords that the assembler reads. -/
def assemblyKeywords : List String :=
  ["$ref", "type", "properties", "required", "items", "enum", "allOf", "anyOf", "oneOf"]

/-- Nothing is given from outside, doc comments enter no keyword that the assembler reads, and names
lead back to the types they were made for. -/
structure Readable (catalog : Catalog) : Prop where
  given : catalog.overrides = []
  hook : catalog.hook = id
  comments : ∀ key ∈ assemblyKeywords, ¬catalog.IsCommented key
  findable : catalog.Findable

/-- What a schema is built from has no keyword that the assembler reads. -/
theorem Readable.not_contains (h : catalog.Readable) {start : Definition}
    (hstart : start.OnlyKeys fun key => catalog.IsCommented key ∨ key = "title") {key : String}
    (hkey : key ∈ assemblyKeywords) : start.contains key = false := by
  refine hstart.not_contains fun hsaid => ?_
  rcases hsaid with hcommented | rfl
  · exact h.comments _ hkey hcommented
  · exact absurd hkey (by decide)

/-- A call stands where it has settled since its start. -/
structure Stands (catalog : Catalog) (p : Progress) : Prop where
  traced : Traced catalog p
  settled : Settles (Contract.fresh catalog .components) p

/-- Beside a reference stands no other one. -/
theorem get?_refTo_merge {context : Context} {name : String} {beside : Definition}
    (h : beside.contains "$ref" = false) :
    ((context.refTo name).merge beside).get? "$ref" = some (.string (context.root.path ++ name)) :=
  (Dict.get?_extend_of_not_contains (by simpa [Definition.contains] using h)).trans rfl

/-- A construction that is guarded, or that may answer with a reference, goes by a name. -/
theorem not_unnamed {request : Request} (hframes : catalog.Frames p request frame)
    (h : frame.isGuarded = true ∨ frame.plan.isReference = true) :
    ¬catalog.Unnamed frame.subject.node := by
  intro hplace
  have hfree : frame.isGuarded = false := by
    have hraw := Except.ok.inj (hplace.raw.symm.trans hframes.raw)
    simp [Frame.isGuarded, Subject.isGuarded, ← hraw, hplace.unaliased]
  rcases h with hguarded | hreference
  · cases hfree.symm.trans hguarded
  · exact hplace.unlisted (hframes.reference hfree hreference).1

/-- Whatever a reference of the call points to was built for the type that the reference was made
for. -/
theorem Stands.exists_known (hp : catalog.Stands p) (hreadable : catalog.Readable)
    (hnode : catalog.graph.lookupType frame.subject.id = .ok frame.subject.node)
    (hplace : ¬catalog.Unnamed frame.subject.node) (hrefers : RefersTo p frame) :
    '/' ∉ frame.plan.name.toList ∧ ∃ known, Dict.get? p.context.reffed frame.plan.name = some known ∧
      catalog.BuiltFor p frame.subject.id known := by
  obtain ⟨hslash, hunique⟩ :=
    hreadable.findable p hp.traced.reached frame (.inl hrefers.referred) hnode hplace
  refine ⟨hslash, ?_⟩
  obtain ⟨known, hknown⟩ := Option.isSome_iff_exists.1 hrefers.reffed
  refine ⟨known, hknown, ?_⟩
  have hnew : (Contract.fresh catalog .components).context.isReffed frame.plan.name = false := by
    simp [Contract.fresh, Context.start, Context.isReffed, hreadable.given, Dict.contains]
  obtain ⟨other, hname, hmem⟩ := hp.settled.made hnew hknown
  obtain ⟨hpromoted, hcompletes⟩ := hp.traced.completed other known hmem
  have hsame := hunique other (.inr hpromoted) hname
  obtain ⟨request, annotations, _, hframes, hannotations, hbuilt⟩ := hcompletes.built
  have hkeys := (onlyKeys_description hannotations).mono fun key h =>
    (Or.inl h : catalog.IsCommented key ∨ key = "title")
  refine ⟨request, other, _, hsame, hsame ▸ (TypeGraph.unwrap_subject hframes.subject).1, hframes.raw,
    ?_, hbuilt⟩
  split
  · exact hkeys.insert (.inr rfl)
  · exact hkeys

/-- A reference leads to what was built for its type, whatever stands beside it but another reference
and a type. -/
theorem Stands.leads {request : Request} {q r : Progress} (hp : catalog.Stands p)
    (hreadable : catalog.Readable) (hframes : catalog.Frames q request frame)
    (hnamed : frame.isGuarded = true ∨ frame.plan.isReference = true) (hrefers : RefersTo r frame)
    (hrp : Grows r p) {beside : Definition}
    (hbeside : ∀ key ∈ ["$ref", "type"], beside.contains key = false) :
    ∃ schema, catalog.BuiltFor p frame.subject.id schema ∧
      Leads p schema ((r.context.refTo frame.plan.name).merge beside) := by
  obtain ⟨hslash, known, hknown, hbuilt⟩ :=
    hp.exists_known hreadable (TypeGraph.unwrap_subject hframes.subject).1
      (not_unnamed hframes hnamed) (hrefers.grows hrp)
  have hroot : r.context.root.path = p.context.root.path := by rw [hrp.root]
  refine ⟨known, hbuilt, .linked ?_ ?_ hslash hknown⟩
  · rw [← hroot]
    exact get?_refTo_merge (hbeside _ (by decide))
  · have htype := hbeside "type" (by decide)
    rw [Definition.contains] at htype ⊢
    rw [Definition.merge, Dict.contains_extend, htype]
    rfl

/-- **What a lookup finds.** The schema that an answer comes to when a reference is looked up was
built for the type that was asked for. -/
theorem Answered.found (h : catalog.Answered (fun _ => True) p request answer)
    (hp : catalog.Stands p) (hreadable : catalog.Readable)
    (hunsettled : settled? request.owner = none) :
    ∃ subject schema, catalog.graph.unwrap (catalog.graph.types.size + 1) request.type
        request.named = .ok subject ∧
      catalog.BuiltFor p subject.id schema ∧ Leads p schema answer := by
  obtain ⟨depth, above, q, r, hsound, _, hrun, hrp⟩ := h.run
  have hdescribed : catalog.Described { request with above } := h.described
  have howner : ∀ o, request.owner = some o → catalog.Describes o := fun o ho => (h.described o ho).1
  have hdescriptive : ∀ {schema : Definition}, ∀ key ∈ ["$ref", "type"],
      schema.refAnnotations.contains key = false := by
    intro schema key hkey
    refine Definition.OnlyKeys.refAnnotations.not_contains fun hmem => ?_
    exact absurd hmem ((show ∀ key ∈ ["$ref", "type"], key ∉ Definition.descriptive by decide) key hkey)
  cases responds_of_answer hsound hdescribed hrun with
  | settled hsettled => cases hunsettled.symm.trans hsettled
  | @carried frame done hframes hcarried =>
    rw [hreadable.hook]
    refine ⟨frame.subject, ?_⟩
    refine (exists_congr fun schema => and_iff_right hframes.subject).2 ?_
    cases hcarried with
    | schema hinline hannotations _ hbuilt hends =>
      cases hends with
      | asIs _ =>
        have hkeys := (onlyKeys_description hannotations).merge (onlyKeys_ownerKeywords howner)
        exact ⟨_, ⟨_, frame, _, rfl, (TypeGraph.unwrap_subject hframes.subject).1, hframes.raw,
          hkeys.mono fun key h => .inl h, hbuilt.grows hrp⟩, .itself⟩
      | linked _ hguarded hrefers =>
        exact hp.leads hreadable hframes (.inl hguarded) hrefers hrp hdescriptive
    | reference hreference hrefers hends =>
      cases hends with
      | asIs _ =>
        refine hp.leads hreadable hframes (.inr hreference) hrefers hrp fun key hkey =>
          (onlyKeys_ownerKeywords howner).not_contains ?_
        exact hreadable.comments key
          ((show ["$ref", "type"] ⊆ assemblyKeywords by decide) hkey)
      | linked _ _ _ => exact hp.leads hreadable hframes (.inr hreference) hrefers hrp hdescriptive

/-- A type that is described in place is answered by what was built for it, with the keywords of its
owner. -/
theorem Answered.unnamed (h : catalog.Answered (fun _ => True) p request answer)
    (hreadable : catalog.Readable) (hunsettled : settled? request.owner = none)
    (hsubject : catalog.graph.unwrap (catalog.graph.types.size + 1) request.type request.named =
      .ok subject) (hplace : catalog.Unnamed subject.node) :
    ∃ frame start, frame.subject = subject ∧ start.OnlyKeys catalog.IsCommented ∧
      catalog.Built p request frame start answer := by
  obtain ⟨depth, above, q, r, hsound, _, hrun, hrp⟩ := h.run
  have hdescribed : catalog.Described { request with above } := h.described
  have howner : ∀ o, request.owner = some o → catalog.Describes o := fun o ho => (h.described o ho).1
  cases responds_of_answer hsound hdescribed hrun with
  | settled hsettled => cases hunsettled.symm.trans hsettled
  | @carried frame done hframes hcarried =>
    rw [hreadable.hook]
    obtain rfl := Except.ok.inj (hsubject.symm.trans hframes.subject)
    cases hcarried with
    | schema hinline hannotations _ hbuilt hends =>
      cases hends with
      | asIs _ =>
        have hbuilt := hbuilt.grows hrp
        exact ⟨frame, _, rfl,
          (onlyKeys_description hannotations).merge (onlyKeys_ownerKeywords howner),
          hbuilt.defined, hbuilt.recorded⟩
      | linked _ hguarded _ => exact absurd hplace (not_unnamed hframes (.inl hguarded))
    | reference hreference _ _ => exact absurd hplace (not_unnamed hframes (.inr hreference))

end Catalog

end TypeSchema
