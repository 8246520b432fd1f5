import TypeSchema.Proofs.History.InPlace

/-!
# The marks that a construction leaves

A union with a member that is `undefined` leaves a mark on the property it is built for, and an object
that lists the property reads it.  The marks are kept along a call, so an object may find marks that
were left long before.  They do no harm if each is one that the property would leave by itself, built
at the start of a call (`Catalog.LeavesMark`): then an object finds on its properties what it would
have found anyhow.

A mark belongs to a symbol, and for it to say something of a property the symbol must be used by no
other one, nor as an alias, which a union would mark for a member it lists (`TypeGraph.OwnSymbols`).

`Tracks` is what two runs of one request keep: each settles, marks nothing but the property it is
built for and what would be marked anyhow, and a mark that only one of the runs makes was there in the
other one.  It is an accord of the rules (`Accord.tracking`), and `Poses` says of which requests it is
going to be proved.
-/

set_option autoImplicit false

namespace TypeSchema

open Relation

/-! ## Properties and their symbols -/

/-- An object of the graph has the property. -/
def TypeGraph.IsProperty (graph : TypeGraph) (property : Property) : Prop :=
  ∃ id node, graph.lookupType id = .ok node ∧ property ∈ node.properties

/-- The symbol of each property is used by that property alone: by no other one, and not as the alias
of a type. -/
structure TypeGraph.OwnSymbols (graph : TypeGraph) : Prop where
  property : ∀ {id other : TypeId} {node otherNode : TypeNode} {property another : Property},
    graph.lookupType id = .ok node → graph.lookupType other = .ok otherNode →
    property ∈ node.properties → another ∈ otherNode.properties →
    another.symbol = property.symbol → other = id ∧ another = property
  unaliased : ∀ {property : Property} {id : TypeId} {node : TypeNode}, graph.IsProperty property →
    graph.lookupType id = .ok node → node.aliasSymbol ≠ some property.symbol

/-- There is one property with the symbol. -/
theorem TypeGraph.OwnSymbols.eq_of_symbol {graph : TypeGraph} (h : graph.OwnSymbols)
    {property another : Property} (hproperty : graph.IsProperty property)
    (hanother : graph.IsProperty another) (hsymbol : another.symbol = property.symbol) :
    another = property := by
  obtain ⟨id, node, hnode, hmem⟩ := hproperty
  obtain ⟨other, otherNode, hother, hmem'⟩ := hanother
  exact (h.property hnode hother hmem hmem' hsymbol).2

namespace Catalog

/-- An object that the type is made of has the property. -/
def Involves (catalog : Catalog) (id : TypeId) (property : Property) : Prop :=
  ∃ object node, ReflTransGen catalog.LeadsTo id object ∧
    catalog.graph.lookupType object = .ok node ∧ property ∈ node.properties

theorem Involves.isProperty {catalog : Catalog} {id : TypeId} {property : Property}
    (h : catalog.Involves id property) : catalog.graph.IsProperty property := by
  obtain ⟨object, node, -, hnode, hmem⟩ := h
  exact ⟨object, node, hnode, hmem⟩

theorem Involves.of_leads {catalog : Catalog} {id part : TypeId} {property : Property}
    (h : catalog.Involves part property) (hpath : ReflTransGen catalog.LeadsTo id part) :
    catalog.Involves id property := by
  obtain ⟨object, node, hway, hproperty⟩ := h
  exact ⟨object, node, hpath.trans hway, hproperty⟩

/-- The request for the schema of a property. -/
def propertyRequest (catalog : Catalog) (property : Property) (annotations : Annotations) :
    Request :=
  { catalog.member property.type property.referenced with
    owner := some ⟨property.symbol, annotations⟩ }

/-- Built at the start of a call, the schema of the property leaves a mark on it. -/
def LeavesMark (catalog : Catalog) (property : Property) : Prop :=
  ∃ depth annotations schema q, catalog.Describes ⟨property.symbol, annotations⟩ ∧
    (catalog.buildWithin depth (catalog.propertyRequest property annotations)).exec
      (Contract.fresh catalog .definitions) = (.ok schema, q) ∧
    property.symbol ∈ q.context.absent

/-! ## Marks along a run -/

/-- What becomes of the marks while a schema is built for the owner. -/
structure Marks (catalog : Catalog) (owner : Option Owner) (before after : List SymbolId) :
    Prop where
  kept : ∀ symbol ∈ before, symbol ∈ after
  made : ∀ property, catalog.graph.IsProperty property → property.symbol ∈ after →
    property.symbol ∈ before ∨ owner.map Owner.symbol = some property.symbol ∨
      catalog.LeavesMark property

namespace Marks

variable {catalog : Catalog} {owner : Option Owner} {a b c : List SymbolId}

@[refl] theorem refl (a : List SymbolId) : catalog.Marks owner a a :=
  ⟨fun _ h => h, fun _ _ h => .inl h⟩

theorem trans (h : catalog.Marks owner a b) (h' : catalog.Marks owner b c) :
    catalog.Marks owner a c where
  kept symbol hmem := h'.kept symbol (h.kept symbol hmem)
  made property hproperty hmem :=
    (h'.made property hproperty hmem).elim (h.made property hproperty) .inr

/-- The marks that are made for a part are made for the whole, if those on the owner of the part are
marks that it may make. -/
theorem of_part {part : Option Owner} (h : catalog.Marks part a b)
    (hpart : ∀ property, catalog.graph.IsProperty property →
      part.map Owner.symbol = some property.symbol → property.symbol ∈ b →
      property.symbol ∈ a ∨ owner.map Owner.symbol = some property.symbol ∨
        catalog.LeavesMark property) :
    catalog.Marks owner a b where
  kept := h.kept
  made property hproperty hmem := by
    rcases h.made property hproperty hmem with hold | howner | hleaves
    · exact .inl hold
    · exact hpart property hproperty howner hmem
    · exact .inr (.inr hleaves)

end Marks

end Catalog

/-- A run that settles in place, and marks what it may. -/
structure Follows (catalog : Catalog) (owner : Option Owner) (p q : Progress) : Prop where
  sound : q.context.names.Sound
  inPlace : InPlace q
  settles : Settles p q
  marks : catalog.Marks owner p.context.absent q.context.absent

namespace Follows

variable {catalog : Catalog} {owner : Option Owner} {p q r : Progress}

theorem refl (hsound : p.context.names.Sound) (hinPlace : InPlace p) :
    Follows catalog owner p p :=
  ⟨hsound, hinPlace, .refl p, .refl _⟩

theorem trans (h : Follows catalog owner p q) (h' : Follows catalog owner q r) :
    Follows catalog owner p r :=
  ⟨h'.sound, h'.inPlace, h.settles.trans h'.settles, h.marks.trans h'.marks⟩

theorem note (h : Follows catalog owner p q) (entry : LogEntry) :
    Follows catalog owner p (q.note entry) :=
  ⟨h.sound, h.inPlace.of_unwritten ⟨rfl, fun _ => rfl⟩, h.settles.trans (.note entry), h.marks⟩

/-- An event without an effect. -/
theorem act (h : Follows catalog owner p q) {event : Event}
    (heffect : event.effect q.context = q.context) (hwritten : event.written? = none) :
    Follows catalog owner p (q.act event) where
  sound := by rw [Progress.act_context, heffect]; exact h.sound
  inPlace := h.inPlace.of_unwritten
    ⟨by rw [Progress.act_context, heffect], fun _ => writings_cons_of_none hwritten⟩
  settles := h.settles.trans (.act event ⟨_, heffect⟩ hwritten)
  marks := by rw [Progress.act_context, heffect]; exact h.marks

/-- A member is left out. -/
theorem dropFor (h : Follows catalog owner p q) : Follows catalog owner p (q.dropFor owner) := by
  cases owner with
  | none => exact h
  | some owner =>
    obtain ⟨absent, heffect⟩ := q.context.markAbsent_eq owner.symbol
    have hmarks : ∀ symbol, symbol ∈ (q.dropFor (some owner)).context.absent ↔
        some owner.symbol = some symbol ∨ symbol ∈ q.context.absent :=
      fun _ => q.mem_absent_dropFor (some owner)
    have hcontext : (q.dropFor (some owner)).context = { q.context with absent } := heffect
    refine ⟨?_, h.inPlace.of_unwritten ⟨?_, fun _ => writings_cons_of_none rfl⟩,
      h.settles.trans (.act _ ⟨absent, heffect⟩ rfl), fun symbol hmem => ?_,
      fun property hproperty hmem => ?_⟩
    · rw [hcontext]
      exact h.sound
    · rw [hcontext]
    · exact (hmarks symbol).2 (.inr (h.marks.kept symbol hmem))
    · rcases (hmarks property.symbol).1 hmem with howner | hold
      · exact .inr (.inl howner)
      · exact h.marks.made property hproperty hold

end Follows

/-! ## Two runs -/

/-- Two runs for one owner: a mark that only one of them makes was there in the other one. -/
structure Tracks (catalog : Catalog) (owner : Option Owner) (p p' q q' : Progress) : Prop where
  left : Follows catalog owner p q
  right : Follows catalog owner p' q'
  shared : ∀ symbol ∈ q.context.absent, symbol ∈ p.context.absent ∨ symbol ∈ q'.context.absent
  shared' : ∀ symbol ∈ q'.context.absent, symbol ∈ p'.context.absent ∨ symbol ∈ q.context.absent

namespace Tracks

variable {catalog : Catalog} {owner : Option Owner} {p p' q q' r r' : Progress}

theorem refl (hleft : Follows catalog owner p p) (hright : Follows catalog owner p' p') :
    Tracks catalog owner p p' p p' :=
  ⟨hleft, hright, fun _ => .inl, fun _ => .inl⟩

theorem trans (h : Tracks catalog owner p p' q q') (h' : Tracks catalog owner q q' r r') :
    Tracks catalog owner p p' r r' where
  left := h.left.trans h'.left
  right := h.right.trans h'.right
  shared symbol hmem := (h'.shared symbol hmem).elim
    (fun hq => (h.shared symbol hq).imp_right (h'.right.marks.kept symbol)) .inr
  shared' symbol hmem := (h'.shared' symbol hmem).elim
    (fun hq => (h.shared' symbol hq).imp_right (h'.left.marks.kept symbol)) .inr

/-- The runs of a part, with what they mark. -/
theorem of_part {part : Option Owner} (h : Tracks catalog part p p' q q')
    (hleft : catalog.Marks owner p.context.absent q.context.absent)
    (hright : catalog.Marks owner p'.context.absent q'.context.absent) :
    Tracks catalog owner p p' q q' :=
  ⟨{ h.left with marks := hleft }, { h.right with marks := hright }, h.shared, h.shared'⟩

theorem dropFor (h : Tracks catalog owner p p' q q') :
    Tracks catalog owner p p' (q.dropFor owner) (q'.dropFor owner) where
  left := h.left.dropFor
  right := h.right.dropFor
  shared symbol hmem := by
    rw [Progress.mem_absent_dropFor] at hmem ⊢
    rcases hmem with howner | hq
    · exact .inr (.inl howner)
    · exact (h.shared symbol hq).imp_right .inr
  shared' symbol hmem := by
    rw [Progress.mem_absent_dropFor] at hmem ⊢
    rcases hmem with howner | hq
    · exact .inr (.inl howner)
    · exact (h.shared' symbol hq).imp_right .inr

/-- What lies around the runs leaves the marks as they are. -/
theorem around {s s' : Progress} (h : Tracks catalog owner q q' r r')
    (hq : q.context.absent = p.context.absent) (hq' : q'.context.absent = p'.context.absent)
    (hs : s.context.absent = r.context.absent) (hs' : s'.context.absent = r'.context.absent)
    (hleft : s.context.names.Sound ∧ InPlace s ∧ Settles p s)
    (hright : s'.context.names.Sound ∧ InPlace s' ∧ Settles p' s') :
    Tracks catalog owner p p' s s' := by
  have hmarks := h.left.marks
  have hmarks' := h.right.marks
  have hshared := h.shared
  have hshared' := h.shared'
  rw [hq, ← hs] at hmarks
  rw [hq', ← hs'] at hmarks'
  rw [hq, ← hs, ← hs'] at hshared
  rw [hq', ← hs, ← hs'] at hshared'
  exact ⟨⟨hleft.1, hleft.2.1, hleft.2.2, hmarks⟩, ⟨hright.1, hright.2.1, hright.2.2, hmarks'⟩,
    hshared, hshared'⟩

end Tracks

/-- No rule can tell runs apart that track each other. -/
def Accord.tracking (catalog : Catalog) (owner : Option Owner) (p p' : Progress) : Accord where
  rel := Tracks catalog owner p p'
  note h entry := ⟨h.left.note entry, h.right.note entry, h.shared, h.shared'⟩
  listed h _ _ := ⟨h.left.act rfl rfl, h.right.act rfl rfl, h.shared, h.shared'⟩

/-! ## Requests -/

/-- A request as the rules make it in place: the marks on the properties that it involves are those
they would leave by themselves, and it is built for none of these properties. -/
structure Poses (catalog : Catalog) (request : Request) (p : Progress) : Prop where
  sound : p.context.names.Sound
  inPlace : InPlace p
  enclosed : Enclosed catalog (fun _ => True) request p
  described : catalog.Described request
  hasType : catalog.graph.HasType request.type
  hasSymbol : ∀ id, request.named = some id → catalog.graph.HasSymbol id
  marks : ∀ property, catalog.Involves request.type property →
    property.symbol ∈ p.context.absent → catalog.LeavesMark property
  apart : ∀ property, catalog.Involves request.type property →
    request.owner.map Owner.symbol ≠ some property.symbol

namespace Poses

open Catalog

variable {catalog : Catalog} {request part : Request} {frame : Frame} {p q r : Progress}

theorem holds {hinlines : catalog.Inlines} {hacyclic : catalog.Acyclic}
    (h : Poses catalog request p) : (placing catalog hinlines hacyclic).Holds p :=
  ⟨h.sound, h.inPlace⟩

theorem subject_hasSymbol (h : Poses catalog request p) {subject : Subject}
    (hsubject : catalog.graph.unwrap (catalog.graph.types.size + 1) request.type request.named =
      .ok subject) (id : SymbolId) (hid : subject.named = some id) : catalog.graph.HasSymbol id := by
  rcases TypeGraph.unwrap_named hsubject with hnamed | hnone
  · exact h.hasSymbol id (hnamed ▸ hid)
  · rw [hnone] at hid
    cases hid

/-- A later mark on a property that the request involves is one that it would leave by itself. -/
theorem leavesMark (h : Poses catalog request p) (hmarks : q.context.absent = p.context.absent)
    (hqr : Follows catalog request.owner q r) {property : Property}
    (hinvolves : catalog.Involves request.type property)
    (hmem : property.symbol ∈ r.context.absent) : catalog.LeavesMark property := by
  rcases hqr.marks.made property hinvolves.isProperty hmem with hold | howner | hleaves
  · exact h.marks property hinvolves (hmarks ▸ hold)
  · exact absurd howner (h.apart property hinvolves)
  · exact hleaves

/-- No part is built for a property that it involves: the way to the part would lead back. -/
theorem apart_part (h : Poses catalog request p) (hacyclic : catalog.Acyclic)
    (hown : catalog.graph.OwnSymbols) {subject : Subject}
    (hsubject : catalog.graph.unwrap (catalog.graph.types.size + 1) request.type request.named =
      .ok subject) (hpart : catalog.Asks request subject part) {property : Property}
    (hinvolves : catalog.Involves part.type property) :
    part.owner.map Owner.symbol ≠ some property.symbol := by
  have hway := (leadsTo_of_unwrap hsubject).tail (leadsTo_part hsubject hpart)
  have hnode := (TypeGraph.unwrap_subject hsubject).1
  intro howner
  cases hpart with
  | member _ _ hmember hmemberOwner =>
    exact hown.unaliased hinvolves.isProperty hmember (hmemberOwner.1.symm.trans howner)
  | value => exact h.apart property (hinvolves.of_leads hway) howner
  | property hmem howns =>
    have hback := leadsTo_part hsubject (.property hmem howns)
    obtain ⟨object, node, hpath, hobject, hmem'⟩ := hinvolves
    obtain ⟨rfl, -⟩ := hown.property hnode hobject hmem hmem' (Option.some.inj howner).symm
    exact hacyclic _ (.head' hback hpath)
  | _ => cases howner

/-- Going down to a part, whatever was built in between. -/
theorem ofPart (h : Poses catalog request p) (hwhole : catalog.Whole) (hinlines : catalog.Inlines)
    (hacyclic : catalog.Acyclic) (hown : catalog.graph.OwnSymbols)
    (hopens : catalog.Opens request p frame q) (hmarks : q.context.absent = p.context.absent)
    (hqr : Follows catalog request.owner q r) (hpart : catalog.Asks request frame.subject part) :
    Poses catalog { part with above := frame :: request.above } r where
  sound := hqr.sound
  inPlace := hqr.inPlace
  enclosed := (h.enclosed.ofPart hinlines hopens hpart).settles hqr.settles
  described := hpart.described hopens.subject h.described
  hasType := hpart.hasPart.hasType hwhole (TypeGraph.unwrap_subject hopens.subject).1
  hasSymbol := hpart.hasSymbol hwhole (TypeGraph.unwrap_subject hopens.subject).1
    (h.subject_hasSymbol hopens.subject)
  marks property hinvolves hmem := by
    have hway := (leadsTo_of_unwrap hopens.subject).tail (leadsTo_part hopens.subject hpart)
    exact h.leavesMark hmarks hqr (hinvolves.of_leads hway) hmem
  apart _ hinvolves := h.apart_part hacyclic hown hopens.subject hpart hinvolves

/-- The part could be asked for at the start of a call as well. -/
theorem start (h : Poses catalog request p) (hinlines : catalog.Inlines) :
    Poses catalog { request with above := [] } (Contract.fresh catalog .definitions) where
  sound := NameRegistry.sound_empty
  inPlace := .fresh hinlines .definitions
  enclosed := ⟨⟨request.type, trivial, .refl⟩, h.enclosed.asReference, .nil rfl,
    List.forall_mem_nil _⟩
  described := h.described
  hasType := h.hasType
  hasSymbol := h.hasSymbol
  marks _ _ hmem := by cases hmem
  apart := h.apart

end Poses

end TypeSchema
