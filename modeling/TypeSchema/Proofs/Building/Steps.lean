import TypeSchema.Proofs.Building.Runs
import TypeSchema.Proofs.Names.Registry
import TypeSchema.Schema.Resolution

/-!
# The steps of a construction

Whatever a rule does, it does to the progress in steps of few kinds: it logs, hands out a name,
takes up or ends the construction of a name, or lets an event happen.  `Catalog.Step` lists them,
each with what is known where it is taken: that a name comes from the registry in one of four ways
(`Catalog.Named`), that an object is described by the properties that were kept (`Catalog.Lists`),
or that the property for which a member is left out owns a union (`Catalog.OwnsUnion`).

Two preorders say what lies between an earlier and a later progress.  `Grows` holds along every
step: nobody loses a name, no definition is lost, the journal is only added to.  `Settles` holds
from a request to its answer: in addition, what was under construction is so again, and every entry
of the table of definitions is either untouched or was made by one construction, which took its place
and completed it (`TableEntry`).
-/

set_option autoImplicit false

namespace TypeSchema

/-! ## Where names come from -/

namespace Catalog

/-- What names of the type are made from: its printed form, or the alias it is referred to by. -/
def bases (catalog : Catalog) (id : TypeId) : List String :=
  (match catalog.graph.typeText id with
    | .ok text => [canonicalName text]
    | .error _ => []) ++
  catalog.graph.symbols.toList.map fun symbol => canonicalName symbol.fullName

/-- How a subject comes by its name. -/
inductive Named (catalog : Catalog) (names : NameRegistry) (subject : Subject) : SourcedName → Prop
  | registry {name : String} (hheld : Dict.get? names.holders name = some subject.id) :
      Named catalog names subject ⟨name, .registry⟩
  | declaration {name : String} {symbol : Symbol} {declaration : Declaration}
      (hunique : catalog.options.uniqueNames = true)
      (hsymbol : catalog.graph.declaringSymbol subject.node = .ok (some symbol))
      (hdeclaration : symbol.declaration = some declaration)
      (hheld : Dict.get? names.holders name = some subject.id) :
      Named catalog names subject ⟨name ++ "." ++ declaration.hash, .declaration⟩
  | aliasDeclaration {id : SymbolId} {symbol : Symbol} {declaration : Declaration}
      (hunique : catalog.options.uniqueNames = true) (hnamed : subject.named = some id)
      (hsymbol : catalog.graph.lookupSymbol id = .ok symbol)
      (hdeclaration : symbol.declaration = some declaration) :
      Named catalog names subject
        ⟨canonicalName symbol.fullName ++ "." ++ declaration.hash, .aliasDeclaration⟩
  | override {id : SymbolId} {symbol : Symbol} (hnamed : subject.named = some id)
      (hsymbol : catalog.graph.lookupSymbol id = .ok symbol)
      (hoverride : Dict.contains catalog.overrides symbol.name = true) :
      Named catalog names subject ⟨symbol.name, .override⟩

end Catalog

/-- The name of a frame and where it comes from. -/
def Frame.sourcedName (frame : Frame) : SourcedName :=
  ⟨frame.plan.name, frame.plan.source⟩

/-! ## What is listed -/

namespace Catalog

/-- What is known of a property that is kept for the object. -/
structure Keeps (catalog : Catalog) (id : TypeId) (kept : KeptProperty) : Prop where
  property : ∃ node, catalog.graph.lookupType id = .ok node ∧ kept.property ∈ node.properties
  isPublic : kept.property.isPrivate = false
  isField : kept.property.isMethod = false
  inhabited : ∃ node, catalog.graph.lookupType kept.property.type = .ok node ∧ node.kind ≠ .never
  name : ∃ symbol, catalog.graph.lookupSymbol kept.property.symbol = .ok symbol ∧
    kept.name = symbol.name

/-- How an object is described where the given properties are marked as absent. -/
structure Lists (catalog : Catalog) (absent : List SymbolId) (listing : Listing) : Prop where
  kept : ∀ kept ∈ listing.kept, catalog.Keeps listing.id kept
  start : listing.start.contains "type" = false
  schema : listing.schema = catalog.listProperties listing.start listing.kept absent

/-! ## What is left out -/

/-- The type is built for the symbol: as the type of a property, as the member that a union lists
under an alias, or as the values of an index signature that is built for the symbol. -/
inductive Owns (catalog : Catalog) : SymbolId → TypeId → Prop
  | property {id : TypeId} {node : TypeNode} {property : Property}
      (hnode : catalog.graph.lookupType id = .ok node) (hmem : property ∈ node.properties) :
      Owns catalog property.symbol property.type
  | member {id member : TypeId} {node memberNode : TypeNode} {members : List TypeId}
      {symbol : SymbolId} (hnode : catalog.graph.lookupType id = .ok node)
      (hkind : node.kind = .union members) (hmem : member ∈ members)
      (hmember : catalog.graph.lookupType member = .ok memberNode)
      (halias : memberNode.aliasSymbol = some symbol) : Owns catalog symbol member
  | value {id value : TypeId} {named : Option SymbolId} {subject : Subject} {symbol : SymbolId}
      (h : Owns catalog symbol id)
      (hsubject : catalog.graph.unwrap (catalog.graph.types.size + 1) id named = .ok subject)
      (hkind : subject.node.kind = .object [] true (some value)) : Owns catalog symbol value

/-- A type that is built for the symbol is, with wrappers looked through, a union with a member that
is no literal. -/
def OwnsUnion (catalog : Catalog) (symbol : SymbolId) : Prop :=
  ∃ id named subject members, catalog.Owns symbol id ∧
    catalog.graph.unwrap (catalog.graph.types.size + 1) id named = .ok subject ∧
    subject.node.kind = .union members ∧
    ∃ member ∈ members, ∃ node, catalog.graph.lookupType member = .ok node ∧
      node.kind.literal? = none

/-! ## Steps -/

/-- The type is a union of string literals, and the name is made from that of a symbol it is referred
to by. -/
def AliasBase (catalog : Catalog) (node : TypeNode) (base : String) : Prop :=
  catalog.graph.isStringUnion node = .ok true ∧
    ∃ symbol ∈ catalog.graph.symbols.toList, base = canonicalName symbol.fullName

/-- A step of a construction. -/
inductive Step (catalog : Catalog) (p : Progress) : Progress → Prop
  | noted (entry : LogEntry) : Step catalog p (p.note entry)
  | named {id : TypeId} {node : TypeNode} {base : String}
      (htype : catalog.graph.lookupType id = .ok node) (hbase : base ∈ catalog.bases id)
      (hfresh : p.context.names.name? id = none ∨ catalog.AliasBase node base) :
      Step catalog p
        (p.withContext { p.context with names := (p.context.names.makeUnique id base).2 })
  | entered (name : String) : Step catalog p (p.withContext (p.context.enter name).2)
  | left (name : String) (token : Nat) :
      Step catalog p (p.withContext (p.context.leave name token).2)
  | dropped {owner : SymbolId} (h : catalog.OwnsUnion owner) : Step catalog p (p.act (.dropped owner))
  | listed {listing : Listing} (h : catalog.Lists p.context.absent listing) :
      Step catalog p (p.act (.listed listing))
  | referred {frame : Frame}
      (hnamed : catalog.Named p.context.names frame.subject frame.sourcedName) :
      Step catalog p (p.act (.referred frame))
  | promoted {frame : Frame}
      (hnamed : catalog.Named p.context.names frame.subject frame.sourcedName)
      (hnew : p.context.isReffed frame.plan.name = false) : Step catalog p (p.act (.promoted frame))

end Catalog

/-- Whether the event is one of a step: a rule is applied, and a definition completed, between steps. -/
def Event.isOfStep : Event → Bool
  | .applied _ => false
  | .completed _ _ => false
  | _ => true

/-! ## Between an earlier and a later progress -/

/-- Nothing that was given is taken back. -/
structure Grows (p q : Progress) : Prop where
  root : q.context.root = p.context.root
  holders : ∀ name id, Dict.get? p.context.names.holders name = some id →
    Dict.get? q.context.names.holders name = some id
  reffed : ∀ name, p.context.isReffed name = true → q.context.isReffed name = true
  journal : p.journal <:+ q.journal

namespace Grows

variable {p q r : Progress}

@[refl] theorem refl (p : Progress) : Grows p p :=
  ⟨rfl, fun _ _ h => h, fun _ h => h, List.suffix_rfl⟩

theorem trans (h : Grows p q) (h' : Grows q r) : Grows p r where
  root := h'.root.trans h.root
  holders name id hp := h'.holders name id (h.holders name id hp)
  reffed name hp := h'.reffed name (h.reffed name hp)
  journal := h.journal.trans h'.journal

/-- An event of the journal stays there. -/
theorem mem_journal (h : Grows p q) {event : Event} (hmem : event ∈ p.journal) :
    event ∈ q.journal :=
  h.journal.subset hmem

end Grows

/-- A name stays the name it is. -/
theorem Catalog.Named.grows {catalog : Catalog} {p q : Progress} {subject : Subject}
    {name : SourcedName} (h : catalog.Named p.context.names subject name) (hpq : Grows p q) :
    catalog.Named q.context.names subject name := by
  cases h with
  | registry hheld => exact .registry (hpq.holders _ _ hheld)
  | declaration hunique hsymbol hdeclaration hheld =>
    exact .declaration hunique hsymbol hdeclaration (hpq.holders _ _ hheld)
  | aliasDeclaration hunique hnamed hsymbol hdeclaration =>
    exact .aliasDeclaration hunique hnamed hsymbol hdeclaration
  | override hnamed hsymbol hoverride => exact .override hnamed hsymbol hoverride

/-! ## What is written -/

/-- The name under which an event writes into the table of definitions, if it does. -/
def Event.written? : Event → Option String
  | .promoted frame => some frame.plan.name
  | .completed frame _ => some frame.plan.name
  | .applied _ => none
  | .referred _ => none
  | .dropped _ => none
  | .listed _ => none

/-- The events that wrote under the name, the latest first. -/
def writings (journal : List Event) (name : String) : List Event :=
  journal.filter fun event => event.written? == some name

section

variable {event : Event} {journal : List Event} {name : String}

theorem writings_cons_of_eq (h : event.written? = some name) :
    writings (event :: journal) name = event :: writings journal name := by
  simp [writings, h]

theorem writings_cons_of_ne (h : event.written? ≠ some name) :
    writings (event :: journal) name = writings journal name := by
  simp [writings, h]

theorem writings_cons_of_none (h : event.written? = none) :
    writings (event :: journal) name = writings journal name :=
  writings_cons_of_ne (by simp [h])

theorem mem_writings (h : event ∈ journal) (hname : event.written? = some name) :
    event ∈ writings journal name :=
  List.mem_filter.2 ⟨h, by simp [hname]⟩

theorem mem_of_mem_writings (h : event ∈ writings journal name) : event ∈ journal :=
  (List.mem_filter.1 h).1

end

/-- Nothing is written into the table of definitions. -/
structure Unwritten (p q : Progress) : Prop where
  reffed : q.context.reffed = p.context.reffed
  writings : ∀ name, writings q.journal name = writings p.journal name

namespace Unwritten

variable {p q r : Progress}

@[refl] theorem refl (p : Progress) : Unwritten p p := ⟨rfl, fun _ => rfl⟩

theorem trans (h : Unwritten p q) (h' : Unwritten q r) : Unwritten p r :=
  ⟨h'.reffed.trans h.reffed, fun name => (h'.writings name).trans (h.writings name)⟩

end Unwritten

/-- What becomes of the name's entry in the table of definitions. -/
inductive TableEntry (p q : Progress) (name : String) : Prop
  | untouched (hget : Dict.get? q.context.reffed name = Dict.get? p.context.reffed name)
      (hwritings : writings q.journal name = writings p.journal name) : TableEntry p q name
  /-- One construction takes the place and completes it. -/
  | made {frame : Frame} {definition : Definition} (hname : frame.plan.name = name)
      (hnew : p.context.isReffed name = false)
      (hget : Dict.get? q.context.reffed name = some definition)
      (hwritings : writings q.journal name =
        .completed frame definition :: .promoted frame :: writings p.journal name) :
      TableEntry p q name

theorem Unwritten.entry {p q : Progress} (h : Unwritten p q) (name : String) :
    TableEntry p q name :=
  .untouched (by rw [h.reffed]) (h.writings name)

theorem TableEntry.trans {p q r : Progress} {name : String} (h : TableEntry p q name)
    (h' : TableEntry q r name) : TableEntry p r name := by
  cases h with
  | untouched hget hwritings =>
    cases h' with
    | untouched hget' hwritings' => exact .untouched (hget'.trans hget) (hwritings'.trans hwritings)
    | made hname hnew hget' hwritings' =>
      refine .made hname ?_ hget' (hwritings ▸ hwritings')
      rwa [Context.isReffed, Dict.contains, hget] at hnew
  | made hname hnew hget hwritings =>
    cases h' with
    | untouched hget' hwritings' =>
      exact .made hname hnew (hget'.trans hget) (hwritings'.trans hwritings)
    | made _ hnew' _ _ => simp [Context.isReffed, Dict.contains, hget] at hnew'

/-- From a request to its answer: what was under construction is so again, and every entry of the
table is untouched or made by one construction. -/
structure Settles (p q : Progress) : Prop extends Grows p q where
  guard : q.context.guard = p.context.guard
  entry : ∀ name, TableEntry p q name

namespace Settles

variable {p q r : Progress}

@[refl] theorem refl (p : Progress) : Settles p p where
  toGrows := .refl p
  guard := rfl
  entry _ := .untouched rfl rfl

theorem trans (h : Settles p q) (h' : Settles q r) : Settles p r where
  toGrows := h.toGrows.trans h'.toGrows
  guard := h'.guard.trans h.guard
  entry name := (h.entry name).trans (h'.entry name)

/-- Definitions that were there are the same. -/
theorem kept (h : Settles p q) {name : String} {definition : Definition}
    (hp : Dict.get? p.context.reffed name = some definition) :
    Dict.get? q.context.reffed name = some definition := by
  cases h.entry name with
  | untouched hget _ => exact hget.trans hp
  | made _ hnew _ _ => simp [Context.isReffed, Dict.contains, hp] at hnew

/-- A new definition is complete. -/
theorem made (h : Settles p q) {name : String} {definition : Definition}
    (hnew : p.context.isReffed name = false)
    (hq : Dict.get? q.context.reffed name = some definition) :
    ∃ frame, frame.plan.name = name ∧ .completed frame definition ∈ q.journal := by
  cases h.entry name with
  | untouched hget _ =>
    rw [Context.isReffed, Dict.contains, ← hget, hq] at hnew
    cases hnew
  | made hname _ hget hwritings =>
    obtain rfl := Option.some.inj (hget.symm.trans hq)
    exact ⟨_, hname, mem_of_mem_writings (hwritings ▸ List.mem_cons_self)⟩

/-- A change that concerns neither the names under construction nor the definitions. -/
theorem of_grows (h : Grows p q) (hguard : q.context.guard = p.context.guard)
    (htable : Unwritten p q) : Settles p q where
  toGrows := h
  guard := hguard
  entry := htable.entry

end Settles

/-! ## What steps leave -/

namespace Progress

variable {p : Progress}

@[simp] theorem act_context (event : Event) : (p.act event).context = event.effect p.context := rfl

@[simp] theorem act_journal (event : Event) : (p.act event).journal = event :: p.journal := rfl

@[simp] theorem withContext_context (context : Context) :
    (p.withContext context).context = context := rfl

/-- An event of the journal that is not the latest was there before. -/
theorem mem_of_mem_act {event latest : Event} (h : event ∈ (p.act latest).journal)
    (hne : event ≠ latest) : event ∈ p.journal :=
  (List.mem_cons.1 h).resolve_left hne

end Progress

namespace Context

variable (context : Context)

/-- Remembering that a property may be `undefined` changes nothing else. -/
theorem markAbsent_eq (symbol : SymbolId) :
    ∃ absent, context.markAbsent symbol = { context with absent } := by
  rw [markAbsent]
  split
  · exact ⟨context.absent, rfl⟩
  · exact ⟨_, rfl⟩

theorem mem_markAbsent {symbol other : SymbolId} :
    other ∈ (context.markAbsent symbol).absent ↔ other = symbol ∨ other ∈ context.absent := by
  rw [markAbsent]
  split
  · rename_i h
    have hmem : symbol ∈ context.absent := by simpa using h
    exact ⟨.inr, fun h => h.elim (fun heq => heq ▸ hmem) fun hold => hold⟩
  · exact List.mem_cons

/-- Ending a construction changes nothing else. -/
theorem leave_eq (name : String) (token : Nat) :
    ∃ guard, (context.leave name token).2 = { context with guard } := by
  rw [leave]
  split
  · exact ⟨_, rfl⟩
  · exact ⟨context.guard, rfl⟩

theorem isReffed_promote (name other : String) (definition : Definition) :
    (context.promote name definition).isReffed other =
      (decide (name = other) || context.isReffed other) :=
  Dict.contains_insert _ _ _ _

end Context

/-- Logging settles at once. -/
theorem Settles.note {p : Progress} (entry : LogEntry) : Settles p (p.note entry) :=
  .of_grows ⟨rfl, fun _ _ h => h, fun _ h => h, List.suffix_rfl⟩ rfl ⟨rfl, fun _ => rfl⟩

/-- So does an event that at most marks a property. -/
theorem Settles.act {p : Progress} (event : Event)
    (h : ∃ absent, event.effect p.context = { p.context with absent })
    (hwritten : event.written? = none) : Settles p (p.act event) := by
  obtain ⟨absent, heffect⟩ := h
  refine .of_grows ⟨?_, ?_, ?_, List.suffix_cons _ _⟩ ?_ ⟨?_, fun name => ?_⟩
  · simp [heffect]
  · simp [heffect]
  · simp [heffect, Context.isReffed]
  · simp [heffect]
  · simp [heffect]
  · exact writings_cons_of_none hwritten

/-- A definition whose place is taken, and which is completed after what it took to build it has
settled. -/
theorem Grows.settles_completed {p q r : Progress} {frame : Frame} {definition : Definition}
    (hpq : Grows p q) (hguard : q.context.guard = p.context.guard)
    (hpromoted : q.context.reffed = Dict.insert p.context.reffed frame.plan.name Definition.empty)
    (hjournal : q.journal = .promoted frame :: .referred frame :: p.journal)
    (hnew : p.context.isReffed frame.plan.name = false) (hqr : Settles q r) :
    Settles p (r.act (.completed frame definition)) where
  root := hqr.root.trans hpq.root
  holders name id h := hqr.holders name id (hpq.holders name id h)
  reffed name h := by
    simp [Event.effect, Context.isReffed_promote, hqr.reffed name (hpq.reffed name h)]
  journal := (hpq.journal.trans hqr.journal).trans (List.suffix_cons _ _)
  guard := hqr.guard.trans hguard
  entry name := by
    have hreferred : writings (.referred frame :: p.journal) name = writings p.journal name :=
      writings_cons_of_none rfl
    by_cases hname : frame.plan.name = name
    · -- The place that was taken is untouched until it is filled.
      subst hname
      have hget : Dict.get? (r.act (.completed frame definition)).context.reffed frame.plan.name =
          some definition := by
        simp [Event.effect, Context.promote, Dict.get?_insert]
      refine .made rfl hnew hget ?_
      rw [Progress.act_journal, writings_cons_of_eq rfl]
      cases hqr.entry frame.plan.name with
      | untouched _ hwritings => rw [hwritings, hjournal, writings_cons_of_eq rfl, hreferred]
      | made _ hfree _ _ =>
        simp [Context.isReffed, hpromoted, Dict.contains_insert] at hfree
    · have hpromotes : (Event.promoted frame).written? ≠ some name := by
        simpa [Event.written?] using hname
      have hcompletes : (Event.completed frame definition).written? ≠ some name := by
        simpa [Event.written?] using hname
      have hfirst : TableEntry p q name := by
        refine .untouched ?_ ?_
        · rw [hpromoted, Dict.get?_insert, if_neg hname]
        · rw [hjournal, writings_cons_of_ne hpromotes, hreferred]
      have hlast : TableEntry r (r.act (.completed frame definition)) name := by
        refine .untouched ?_ (writings_cons_of_ne hcompletes)
        simp [Event.effect, Context.promote, Dict.get?_insert, hname]
      exact (hfirst.trans (hqr.entry name)).trans hlast

/-- Nothing is taken back where a definition is completed. -/
theorem Grows.completed (p : Progress) (frame : Frame) (definition : Definition) :
    Grows p (p.act (.completed frame definition)) := by
  refine ⟨rfl, fun _ _ h => h, fun name hname => ?_, List.suffix_cons _ _⟩
  simp [Event.effect, Context.isReffed_promote, hname]

namespace Catalog

variable {catalog : Catalog} {p q : Progress}

/-- Nothing is taken back in a step. -/
theorem Step.grows (h : catalog.Step p q) : Grows p q := by
  cases h with
  | noted entry => exact (Settles.note entry).toGrows
  | named htype hbase hfresh =>
    exact ⟨rfl, fun _ _ h => NameRegistry.holder_makeUnique h, fun _ h => h, List.suffix_rfl⟩
  | entered name => exact ⟨rfl, fun _ _ h => h, fun _ h => h, List.suffix_rfl⟩
  | left name token =>
    obtain ⟨guard, hleave⟩ := p.context.leave_eq name token
    rw [hleave]
    exact ⟨rfl, fun _ _ h => h, fun _ h => h, List.suffix_rfl⟩
  | @dropped owner _ =>
    exact (Settles.act (.dropped owner) (p.context.markAbsent_eq owner) rfl).toGrows
  | listed h => exact (Settles.act _ ⟨_, rfl⟩ rfl).toGrows
  | referred hnamed => exact (Settles.act _ ⟨_, rfl⟩ rfl).toGrows
  | promoted hnamed hnew =>
    refine ⟨rfl, fun _ _ h => h, fun name h => ?_, List.suffix_cons _ _⟩
    simp [Event.effect, Context.isReffed_promote, h]

/-- A step adds one event to the journal or none. -/
theorem Step.journal (h : catalog.Step p q) :
    q.journal = p.journal ∨ ∃ event, event.isOfStep = true ∧ q.journal = event :: p.journal := by
  cases h with
  | noted _ => exact .inl rfl
  | named _ _ _ => exact .inl rfl
  | entered _ => exact .inl rfl
  | left _ _ => exact .inl rfl
  | dropped _ => exact .inr ⟨_, rfl, rfl⟩
  | listed _ => exact .inr ⟨_, rfl, rfl⟩
  | referred _ => exact .inr ⟨_, rfl, rfl⟩
  | promoted _ _ => exact .inr ⟨_, rfl, rfl⟩

/-- What no step adds was there before the step. -/
theorem Step.mem_journal (h : catalog.Step p q) {event : Event} (hevent : event.isOfStep = false)
    (hmem : event ∈ q.journal) : event ∈ p.journal := by
  rcases h.journal with heq | ⟨latest, hlatest, heq⟩
  · exact heq ▸ hmem
  · rcases List.mem_cons.1 (heq ▸ hmem) with rfl | hearlier
    · cases hlatest.symm.trans hevent
    · exact hearlier

/-- The registry stays sound. -/
theorem Step.sound (h : catalog.Step p q) (hsound : p.context.names.Sound) :
    q.context.names.Sound := by
  cases h with
  | noted entry => exact hsound
  | named htype hbase hfresh => exact hsound.makeUnique _ _
  | entered name => exact hsound
  | left name token =>
    obtain ⟨guard, hleave⟩ := p.context.leave_eq name token
    rw [hleave]
    exact hsound
  | @dropped owner _ =>
    obtain ⟨absent, hmark⟩ := p.context.markAbsent_eq owner
    rw [Progress.act_context, Event.effect, hmark]
    exact hsound
  | listed h => exact hsound
  | referred hnamed => exact hsound
  | promoted hnamed hnew => exact hsound

/-- A step writes nothing into the table, or it takes a place that is free. -/
theorem Step.table (h : catalog.Step p q) :
    Unwritten p q ∨ ∃ frame : Frame, p.context.isReffed frame.plan.name = false ∧
      q = p.act (.promoted frame) := by
  cases h with
  | noted entry => exact .inl ⟨rfl, fun _ => rfl⟩
  | named htype hbase hfresh => exact .inl ⟨rfl, fun _ => rfl⟩
  | entered name => exact .inl ⟨rfl, fun _ => rfl⟩
  | left name token =>
    obtain ⟨guard, hleave⟩ := p.context.leave_eq name token
    exact .inl ⟨by rw [hleave]; rfl, fun _ => rfl⟩
  | @dropped owner _ =>
    obtain ⟨absent, hmark⟩ := p.context.markAbsent_eq owner
    refine .inl ⟨?_, fun _ => writings_cons_of_none rfl⟩
    rw [Progress.act_context, Event.effect, hmark]
  | listed _ => exact .inl ⟨rfl, fun _ => writings_cons_of_none rfl⟩
  | referred _ => exact .inl ⟨rfl, fun _ => writings_cons_of_none rfl⟩
  | promoted _ hnew => exact .inr ⟨_, hnew, rfl⟩

/-- A step that settles at once writes nothing: what takes a place has yet to fill it. -/
theorem Step.unwritten (h : catalog.Step p q) (hpq : Settles p q) : Unwritten p q := by
  rcases h.table with htable | ⟨frame, -, rfl⟩
  · exact htable
  · exfalso
    have hpromoted : writings (p.act (.promoted frame)).journal frame.plan.name =
        .promoted frame :: writings p.journal frame.plan.name := writings_cons_of_eq rfl
    cases hpq.entry frame.plan.name with
    | untouched _ hwritings => exact List.cons_ne_self _ _ (hpromoted.symm.trans hwritings)
    | made _ _ _ hwritings =>
      cases (List.cons.inj (hpromoted.symm.trans hwritings)).1

end Catalog

end TypeSchema
