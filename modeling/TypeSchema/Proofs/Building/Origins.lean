import TypeSchema.Proofs.Building.Derivations

/-!
# Where what is written down comes from

A step hands out a name, makes a reference, lists an object or marks the owner of a union; what is known
of the names, of the reference, of the properties that are listed and of the union is known where the step
is taken.  `Catalog.Origin` says it of a step from one progress to the next, so that what is kept from step
to step can say it of a whole call: of every reference (`Catalog.Sourced`), of every listing, which gathers
all properties of its object (`Catalog.Gathers`), and of every mark (`Catalog.Drops`), with what the
builder answered (`Catalog.Answered`).
-/

set_option autoImplicit false

namespace TypeSchema

namespace Catalog

variable {catalog : Catalog} {inv : Progress → Prop} {p q : Progress}

/-- The base is the printed form of the type. -/
def OwnBase (catalog : Catalog) (id : TypeId) (base : String) : Prop :=
  ∃ text, catalog.graph.typeText id = .ok text ∧ base = canonicalName text

/-- What is known of a subject and the source of its name.  Under unique names, a type that a
declaration names goes by that declaration, unless it is a union of string literals: that may go by an
alias. -/
structure Sourced (catalog : Catalog) (subject : Subject) (source : NameSource) : Prop where
  node : catalog.graph.lookupType subject.id = .ok subject.node
  declared : catalog.options.uniqueNames = true → ∀ symbol declaration,
    catalog.graph.declaringSymbol subject.node = .ok (some symbol) →
    symbol.declaration = some declaration →
    catalog.graph.isStringUnion subject.node ≠ .ok true → source = .declaration

/-- What is known of what a step writes down.  A type that has no name is given one made from its
printed form; only an alias gives it another one.  What is listed is gathered from the answers for the
properties, and whatever is marked owns a union with a member that was answered as `undefined`. -/
structure Origin (catalog : Catalog) (inv : Progress → Prop) (p q : Progress) : Prop where
  names : q.context.names = p.context.names ∨ ∃ id base,
    q.context.names = (p.context.names.makeUnique id base).2 ∧
      (p.context.names.name? id = none ∧ catalog.OwnBase id base ∨
        ∃ node, catalog.graph.lookupType id = .ok node ∧ catalog.AliasBase node base)
  referred : ∀ frame, .referred frame ∈ q.journal →
    .referred frame ∈ p.journal ∨ catalog.Sourced frame.subject frame.plan.source
  listed : ∀ listing, q.journal = .listed listing :: p.journal →
    catalog.Gathers (catalog.Answered inv p) listing
  dropped : ∀ symbol, q.journal = .dropped symbol :: p.journal →
    catalog.Drops (catalog.Answered inv p) symbol

namespace Origin

theorem mono {inv' : Progress → Prop} (h : catalog.Origin inv p q) (hinv : ∀ p, inv p → inv' p) :
    catalog.Origin inv' p q :=
  ⟨h.names, h.referred, fun listing heq => (h.listed listing heq).mono fun _ _ hpart => hpart.mono hinv,
    fun symbol heq => (h.dropped symbol heq).mono fun _ _ hpart => hpart.mono hinv⟩

/-- Nothing is written down, and the names come from somewhere. -/
theorem of_journal (hjournal : q.journal = p.journal)
    (hnames : q.context.names = p.context.names ∨ ∃ id base,
      q.context.names = (p.context.names.makeUnique id base).2 ∧
        (p.context.names.name? id = none ∧ catalog.OwnBase id base ∨
          ∃ node, catalog.graph.lookupType id = .ok node ∧ catalog.AliasBase node base)) :
    catalog.Origin inv p q :=
  ⟨hnames, fun _ hmem => .inl (hjournal ▸ hmem),
    fun _ heq => absurd (hjournal.symm.trans heq) List.ne_cons_self,
    fun _ heq => absurd (hjournal.symm.trans heq) List.ne_cons_self⟩

/-- No name is handed out, and nothing is written down. -/
theorem of_same (hnames : q.context.names = p.context.names) (hjournal : q.journal = p.journal) :
    catalog.Origin inv p q :=
  .of_journal hjournal (.inl hnames)

theorem names_act (event : Event) : (p.act event).context.names = p.context.names := by
  cases event with
  | dropped owner =>
    obtain ⟨absent, hmark⟩ := p.context.markAbsent_eq owner
    rw [Progress.act_context, Event.effect, hmark]
  | _ => rfl

/-- Events hand out no names, and three kinds of them tell of more than that they happened. -/
theorem act {event : Event} (hreferred : ∀ frame, .referred frame ≠ event)
    (hlisted : ∀ listing, .listed listing ≠ event) (hdropped : ∀ symbol, .dropped symbol ≠ event) :
    catalog.Origin inv p (p.act event) :=
  ⟨.inl (names_act event), fun frame hmem => .inl (Progress.mem_of_mem_act hmem (hreferred frame)),
    fun listing heq => absurd (List.cons.inj heq).1.symm (hlisted listing),
    fun symbol heq => absurd (List.cons.inj heq).1.symm (hdropped symbol)⟩

theorem referred_act {frame : Frame} (h : catalog.Sourced frame.subject frame.plan.source) :
    catalog.Origin inv p (p.act (.referred frame)) := by
  refine ⟨.inl rfl, fun other hmem => ?_, fun _ heq => ?_, fun _ heq => ?_⟩
  · rcases List.mem_cons.1 hmem with heq | hold
    · cases heq
      exact .inr h
    · exact .inl hold
  · cases (List.cons.inj heq).1
  · cases (List.cons.inj heq).1

theorem listed_act {listing : Listing} (h : catalog.Gathers (catalog.Answered inv p) listing) :
    catalog.Origin inv p (p.act (.listed listing)) := by
  refine ⟨.inl rfl, fun _ hmem => .inl (Progress.mem_of_mem_act hmem nofun), fun _ heq => ?_,
    fun _ heq => ?_⟩
  · cases (List.cons.inj heq).1
    exact h
  · cases (List.cons.inj heq).1

theorem dropped_act {symbol : SymbolId} (h : catalog.Drops (catalog.Answered inv p) symbol) :
    catalog.Origin inv p (p.act (.dropped symbol)) := by
  refine ⟨.inl (names_act _), fun _ hmem => .inl (Progress.mem_of_mem_act hmem nofun),
    fun _ heq => ?_, fun _ heq => ?_⟩
  · cases (List.cons.inj heq).1
  · cases (List.cons.inj heq).1
    exact h

/-- What is in the journal after a step is in it before, or it was listed in this step. -/
theorem listed_mem (h : catalog.Origin inv p q) (hstep : catalog.Step p q) {listing : Listing}
    (hmem : .listed listing ∈ q.journal) :
    .listed listing ∈ p.journal ∨ catalog.Gathers (catalog.Answered inv p) listing := by
  rcases hstep.journal with hsame | ⟨event, _, hadded⟩
  · exact .inl (hsame ▸ hmem)
  · rw [hadded] at hmem
    rcases List.mem_cons.1 hmem with rfl | hold
    · exact .inr (h.listed listing hadded)
    · exact .inl hold

end Origin

end Catalog

end TypeSchema
