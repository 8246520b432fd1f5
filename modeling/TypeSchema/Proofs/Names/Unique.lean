import TypeSchema.Proofs.Names.Distinct

/-!
# Names with the place of a declaration

With unique names, the hash of the declaration that names a type is added to its name, so that types
that print alike stay apart wherever they are declared.  The name it is added to has been through the
registry, though: of two types that print alike the one that is named later in a call has a number
before its hash, and which one that is depends on what the call came by before
(`Catalog.exists_unique_name_numbered`).  **`Catalog.unique_name_iff`** says that this is the only way
in which such a name can depend on the call.

What carries the proof is that a type which is no union of string literals is given names made from its
own printed form only (`Catalog.givenBases`): an alias gives names to unions of string literals.
-/

set_option autoImplicit false

namespace TypeSchema

namespace NameRegistry

variable {registry : NameRegistry} {id : TypeId} {base : String}

/-- A base is given without a number exactly if nobody else holds it. -/
theorem openNumber_eq_zero_iff : registry.openNumber id base = 0 ↔
    ∀ other, Dict.get? registry.holders base = some other → other = id := by
  rw [← isOpen_iff]
  constructor
  · intro hzero
    have hopen := (openNumber_spec registry id base).1
    rwa [hzero] at hopen
  · exact fun hopen => openNumber_eq hopen fun m hm => absurd hm (Nat.not_lt_zero m)

end NameRegistry

namespace Catalog

variable {catalog : Catalog} {p q : Progress}

/-- What names of the type can be made from in a call: its printed form, and for a union of string
literals the alias it is referred to by. -/
def givenBases (catalog : Catalog) (id : TypeId) : List String :=
  (match catalog.graph.typeText id with
    | .ok text => [canonicalName text]
    | .error _ => []) ++
  match catalog.graph.lookupType id >>= catalog.graph.isStringUnion with
  | .ok true => catalog.graph.symbols.toList.map fun symbol => canonicalName symbol.fullName
  | _ => []

theorem OwnBase.mem_givenBases {id : TypeId} {base : String} (h : catalog.OwnBase id base) :
    base ∈ catalog.givenBases id := by
  obtain ⟨text, htext, rfl⟩ := h
  simp [givenBases, htext]

theorem AliasBase.mem_givenBases {id : TypeId} {node : TypeNode} {base : String}
    (hnode : catalog.graph.lookupType id = .ok node) (h : catalog.AliasBase node base) :
    base ∈ catalog.givenBases id := by
  obtain ⟨hliterals, symbol, hmem, rfl⟩ := h
  have hunion : (catalog.graph.lookupType id >>= catalog.graph.isStringUnion) = .ok true := by
    rw [hnode]
    exact hliterals
  refine List.mem_append_right _ ?_
  rw [hunion]
  exact List.mem_map.2 ⟨symbol, hmem, rfl⟩

/-- A type that is no union of string literals is named by its printed form. -/
theorem ownBase_of_mem_givenBases {id : TypeId} {node : TypeNode} {base : String}
    (hnode : catalog.graph.lookupType id = .ok node)
    (hother : catalog.graph.isStringUnion node ≠ .ok true) (h : base ∈ catalog.givenBases id) :
    catalog.OwnBase id base := by
  have hunion : (catalog.graph.lookupType id >>= catalog.graph.isStringUnion) ≠ .ok true := by
    rw [hnode]
    exact hother
  rcases List.mem_append.1 h with hown | halias
  · split at hown
    · rename_i text htext
      exact ⟨text, htext, List.mem_singleton.1 hown⟩
    · cases hown
  · split at halias
    · rename_i heq
      exact absurd heq hunion
    · cases halias

/-- A name that comes from a declaration is one that the type holds, with the hash. -/
theorem Named.of_declaration {names : NameRegistry} {frame : Frame}
    (h : catalog.Named names frame.subject frame.sourcedName)
    (hsource : frame.plan.source = .declaration) :
    ∃ symbol declaration held, catalog.graph.declaringSymbol frame.subject.node = .ok (some symbol) ∧
      symbol.declaration = some declaration ∧
      Dict.get? names.holders held = some frame.subject.id ∧
      frame.plan.name = held ++ "." ++ declaration.hash := by
  generalize hname : frame.sourcedName = name at h
  have hsame : name.source = .declaration := hname ▸ hsource
  cases h with
  | declaration _ hsymbol hdeclaration hheld =>
    exact ⟨_, _, _, hsymbol, hdeclaration, hheld, congrArg SourcedName.text hname⟩
  | _ => cases hsame

/-- A name that comes from the declaration of an alias is the alias with the hash. -/
theorem Named.of_aliasDeclaration {names : NameRegistry} {frame : Frame}
    (h : catalog.Named names frame.subject frame.sourcedName)
    (hsource : frame.plan.source = .aliasDeclaration) :
    ∃ id symbol declaration, frame.subject.named = some id ∧
      catalog.graph.lookupSymbol id = .ok symbol ∧ symbol.declaration = some declaration ∧
      frame.plan.name = canonicalName symbol.fullName ++ "." ++ declaration.hash := by
  generalize hname : frame.sourcedName = name at h
  have hsame : name.source = .aliasDeclaration := hname ▸ hsource
  cases h with
  | aliasDeclaration _ hnamed hsymbol hdeclaration =>
    exact ⟨_, _, _, hnamed, hsymbol, hdeclaration, congrArg SourcedName.text hname⟩
  | _ => cases hsame

/-- No other type of the graph can be given the name. -/
def IsSole (catalog : Catalog) (id : TypeId) (name : String) : Prop :=
  ∀ other, ∀ base ∈ catalog.givenBases other, ∀ number,
    NameRegistry.candidate base number = name → other = id

end Catalog

/-! ## What a call knows of its names -/

/-- Every name is one that its holder is given from its bases, and every reference goes by a name that
is known and by the declaration, if one names the type. -/
structure NamesGiven (catalog : Catalog) (p : Progress) : Prop where
  settled : p.context.names.Settled catalog.givenBases
  known : NamesKnown catalog p
  sourced : ∀ frame, .referred frame ∈ p.journal →
    catalog.Sourced frame.subject frame.plan.source

namespace NamesGiven

variable {catalog : Catalog} {p q : Progress}

theorem fresh (catalog : Catalog) (root : ReferenceRoot) :
    NamesGiven catalog (Contract.fresh catalog root) where
  settled := NameRegistry.settled_empty
  known := fun _ h => h.elim (fun h => absurd h List.not_mem_nil) fun h => absurd h List.not_mem_nil
  sourced := fun _ h => absurd h List.not_mem_nil

/-- What is known stays known as names are handed out where they come from. -/
theorem of_origin (h : NamesGiven catalog p) (hknown : NamesKnown catalog q)
    (horigin : catalog.Origin (NamesGiven catalog) p q) : NamesGiven catalog q where
  settled := by
    rcases horigin.names with hsame | ⟨id, base, hgiven, hbase⟩
    · rw [hsame]
      exact h.settled
    · rw [hgiven]
      refine h.settled.makeUnique ?_
      rcases hbase with ⟨_, hown⟩ | ⟨node, hnode, halias⟩
      · exact hown.mem_givenBases
      · exact halias.mem_givenBases hnode
  known := hknown
  sourced frame hframe := (horigin.referred frame hframe).elim (h.sourced frame) fun hnew => hnew

end NamesGiven

/-- What is known of the names of a call is kept. -/
def nameGiving (catalog : Catalog) : Contract catalog :=
  .ofInvariant (NamesGiven catalog)
    (fun h hstep horigin => h.of_origin (h.known.step hstep) horigin)
    (fun h _ _ _ => h.of_origin h.known.complete (.act (by simp) (by simp) (by simp)))
    fun h => h.of_origin (h.known.act (Settles.act _ ⟨_, rfl⟩ rfl).toGrows (by simp) (by simp))
      (.act (by simp) (by simp) (by simp))

namespace Catalog

variable (catalog : Catalog)

theorem namesGiven_ending (call : Call) : NamesGiven catalog (catalog.ending call) :=
  (nameGiving catalog).ending_kept (NamesGiven.fresh catalog) (fun _ => trivial)
    (fun _ _ _ => trivial) call

/-- **Unique names.**  With unique names, consider a reference that a call makes to a type which a
declaration names.  If the type is no union of string literals, its printed form and the hash of the
declaration make the name, with a number between them or without: without, exactly if no other type
holds the printed form where the call ends, as in every call if no other type of the graph can be given
that name.  If the type is referred to by an alias with a declaration, the alias and the hash of its
declaration make the name, whatever the call came by. -/
theorem unique_name_iff (hunique : catalog.options.uniqueNames = true) (call : Call) {frame : Frame}
    (hreferred : .referred frame ∈ catalog.journal call) {symbol : Symbol} {declaration : Declaration}
    (hsymbol : catalog.graph.declaringSymbol frame.subject.node = .ok (some symbol))
    (hdeclaration : symbol.declaration = some declaration) :
    (catalog.graph.isStringUnion frame.subject.node ≠ .ok true →
      ∃ text, catalog.graph.typeText frame.subject.id = .ok text ∧
        (∃ number, frame.plan.name =
          NameRegistry.candidate (canonicalName text) number ++ "." ++ declaration.hash) ∧
        (frame.plan.name = canonicalName text ++ "." ++ declaration.hash ↔
          ∀ other, Dict.get? (catalog.ending call).context.names.holders (canonicalName text) =
            some other → other = frame.subject.id) ∧
        (catalog.IsSole frame.subject.id (canonicalName text) →
          frame.plan.name = canonicalName text ++ "." ++ declaration.hash)) ∧
    (frame.plan.source = .aliasDeclaration →
      ∃ id referred place, frame.subject.named = some id ∧
        catalog.graph.lookupSymbol id = .ok referred ∧ referred.declaration = some place ∧
        frame.plan.name = canonicalName referred.fullName ++ "." ++ place.hash) := by
  rw [journal_ending] at hreferred
  have hgiven := catalog.namesGiven_ending call
  have hnamed := hgiven.known frame (.inl hreferred)
  have hsourced := hgiven.sourced frame hreferred
  have hsettled := hgiven.settled
  generalize (catalog.ending call).context.names = names at hnamed hsettled ⊢
  refine ⟨fun hother => ?_, hnamed.of_aliasDeclaration⟩
  obtain ⟨_, _, held, hsymbol', hdeclaration', hheld, hframe⟩ := hnamed.of_declaration
    (hsourced.declared hunique symbol declaration hsymbol hdeclaration hother)
  obtain rfl := Option.some.inj (Except.ok.inj (hsymbol.symm.trans hsymbol'))
  obtain rfl := Option.some.inj (hdeclaration.symm.trans hdeclaration')
  obtain ⟨base, hbase, rfl⟩ := hsettled held _ hheld
  obtain ⟨text, hprinted, rfl⟩ := ownBase_of_mem_givenBases hsourced.node hother hbase
  have hiff : frame.plan.name = canonicalName text ++ "." ++ declaration.hash ↔
      ∀ other, Dict.get? names.holders (canonicalName text) = some other →
        other = frame.subject.id := by
    rw [hframe, ← NameRegistry.openNumber_eq_zero_iff]
    refine ⟨fun heq => ?_, fun hzero => by rw [hzero]; rfl⟩
    exact NameRegistry.candidate_injective _ (Declaration.append_hash_inj heq)
  refine ⟨text, hprinted, ⟨_, hframe⟩, hiff, fun hsole => hiff.2 fun other hholds => ?_⟩
  obtain ⟨base, hbase, hcandidate⟩ := hsettled _ other hholds
  exact hsole other base hbase _ hcandidate

/-- Where an interface is declared in the file. -/
def interfacePlace (file : String) : Declaration :=
  { file, position := 1, kind := .interface, isAbstract := false }

/-- The second of two interfaces with one name. -/
def secondNamesake : TypeNode :=
  { kind := .object [] false none, symbol := some ⟨1⟩ }

/-- Two interfaces `A` in different files, and two types that have a property of the one and of the
other. -/
def namesakes : Catalog where
  graph :=
    { types := #[{ kind := .object [] false none, symbol := some ⟨0⟩ },
        secondNamesake,
        { kind := .object [{ symbol := ⟨4⟩, type := ⟨0⟩ }] false none, symbol := some ⟨2⟩ },
        { kind := .object [{ symbol := ⟨5⟩, type := ⟨1⟩ }] false none, symbol := some ⟨3⟩ }]
      symbols := #[{ name := "A", declaration := some (interfacePlace "a.ts") },
        { name := "A", declaration := some (interfacePlace "b.ts") }, { name := "First" }, { name := "Second" },
        { name := "a" }, { name := "b" }]
      declarations := [("First", ⟨2⟩), ("Second", ⟨3⟩)] }
  options := { reference := true, uniqueNames := true }
  declared := [("First", ⟨2⟩), ("Second", ⟨3⟩)]

/-- The call that selects the second of the two types with a property. -/
def secondAlone : Call := .schemas [.exact "Second"]

/-- The call that selects both of them. -/
def firstAndSecond : Call := .schemas [.exact "First", .exact "Second"]

/-- A call refers to the second of the interfaces by the name. -/
def RefersToSecond (call : Call) (name : String) : Prop :=
  ∃ frame, .referred frame ∈ namesakes.journal call ∧ frame.subject.id = ⟨1⟩ ∧
    frame.subject.node = secondNamesake ∧ frame.plan.name = name

theorem refersToSecond_of_any {call : Call} {name : String}
    (h : ((namesakes.journal call).any fun event => match event with
      | .referred frame => frame.subject.id == ⟨1⟩ &&
          frame.subject.node == secondNamesake && frame.plan.name == name
      | _ => false) = true) : RefersToSecond call name := by
  obtain ⟨event, hmem, hmatch⟩ := List.any_eq_true.1 h
  split at hmatch
  · rename_i frame
    simp only [Bool.and_eq_true, beq_iff_eq] at hmatch
    obtain ⟨⟨hid, hnode⟩, hname⟩ := hmatch
    exact ⟨frame, hmem, hid, hnode, hname⟩
  · cases hmatch

theorem refersToSecond_alone :
    RefersToSecond secondAlone ("A" ++ "." ++ (interfacePlace "b.ts").hash) :=
  refersToSecond_of_any (by decide +kernel)

theorem refersToSecond_after :
    RefersToSecond firstAndSecond ("A_1" ++ "." ++ (interfacePlace "b.ts").hash) :=
  refersToSecond_of_any (by decide +kernel)

/-- One type goes by two names: by its own one where the other interface is not met before it, and
else by one with a number. -/
theorem exists_unique_name_numbered :
    namesakes.graph.validate = .ok () ∧
    ofGraph namesakes.graph namesakes.options Modules.none = .ok namesakes ∧
    namesakes.overrides = [] ∧ namesakes.options.uniqueNames = true ∧
    ∃ alone after : Frame, alone.subject.id = after.subject.id ∧
      .referred alone ∈ namesakes.journal secondAlone ∧
      .referred after ∈ namesakes.journal firstAndSecond ∧
      alone.plan.name = "A" ++ "." ++ (interfacePlace "b.ts").hash ∧
      after.plan.name = "A_1" ++ "." ++ (interfacePlace "b.ts").hash ∧
      alone.plan.name ≠ after.plan.name := by
  obtain ⟨alone, halone, hid, _, hname⟩ := refersToSecond_alone
  obtain ⟨after, hafter, hid', _, hname'⟩ := refersToSecond_after
  refine ⟨rfl, rfl, rfl, rfl, alone, after, hid.trans hid'.symm, halone, hafter, hname, hname', ?_⟩
  rw [hname, hname']
  exact fun heq => absurd (Declaration.append_hash_inj heq) (by decide)

/-- In the call that selects both, another type holds the printed form. -/
theorem unique_name_iff_namesakes : ∃ frame, .referred frame ∈ namesakes.journal firstAndSecond ∧
    frame.plan.name = "A_1" ++ "." ++ (interfacePlace "b.ts").hash ∧
    ∃ text, namesakes.graph.typeText frame.subject.id = .ok text ∧ ∃ other,
      Dict.get? (namesakes.ending firstAndSecond).context.names.holders (canonicalName text) =
        some other ∧ other ≠ frame.subject.id := by
  obtain ⟨frame, hreferred, hid, hnode, hname⟩ := refersToSecond_after
  have hsymbol : namesakes.graph.declaringSymbol frame.subject.node =
      .ok (some { name := "A", declaration := some (interfacePlace "b.ts") }) := by
    rw [hnode]
    rfl
  have hother : namesakes.graph.isStringUnion frame.subject.node ≠ .ok true := by
    rw [hnode]
    exact fun h => nomatch h
  obtain ⟨text, htext, _, hiff, _⟩ :=
    (unique_name_iff namesakes rfl firstAndSecond hreferred hsymbol rfl).1 hother
  have hprinted : canonicalName text = "A" := by
    rw [hid] at htext
    have hA : namesakes.graph.typeText ⟨1⟩ = .ok "A" := by decide +kernel
    obtain rfl := Except.ok.inj (hA.symm.trans htext)
    decide +kernel
  refine ⟨frame, hreferred, hname, text, htext, ?_⟩
  by_contra! hnone
  have hown := hiff.2 hnone
  rw [hprinted, hname] at hown
  exact absurd (Declaration.append_hash_inj hown) (by decide)

end Catalog

end TypeSchema
