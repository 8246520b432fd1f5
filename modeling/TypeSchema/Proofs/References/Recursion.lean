import TypeSchema.Proofs.References.Closure
import TypeSchema.Proofs.Termination.Depth

/-!
# Only recursive types are referred to

Where references are not asked for, every type is described in place, and none of its names is put
into the table of definitions until one is met again while it is under construction.  That alone
does not make the type recursive: what is met is a *name*, and the construction it belongs to has to
be that of the same type, and to be one that led here.

Both hold, and `Enclosed` says why.  The names under construction are those of the constructions
around the request (`Tallied`), each of which leads to the type that is asked for; and a name that
the registry has given to a type is never given to another one, so whoever has the name is the type
itself (`Enclosed.isRecursive`).  `inlining` is the contract that keeps this along a call, with the
types that the call begins with as its roots.

**`Catalog.inline_promotes_recursive`** is what this means for documents.  A document has the
definitions of the selected declarations and those of recursive types, and if nothing that is
selected leads to a recursive type it has nothing else, and no reference.
-/

set_option autoImplicit false

namespace TypeSchema

open Relation

namespace Catalog

/-- Schemas are built in place: references are not asked for, the registry gives all names, and
there are no given definitions. -/
structure Inlines (catalog : Catalog) : Prop where
  reference : catalog.options.reference = false
  uniqueNames : catalog.options.uniqueNames = false
  overrides : catalog.overrides = []

/-- Building the schema of the type leads back to the type. -/
def IsRecursive (catalog : Catalog) (id : TypeId) : Prop :=
  TransGen catalog.LeadsTo id id

/-- One of the types leads there. -/
def Reaches (catalog : Catalog) (roots : TypeId → Prop) (id : TypeId) : Prop :=
  ∃ root, roots root ∧ ReflTransGen catalog.LeadsTo root id

theorem Reaches.trans {catalog : Catalog} {roots : TypeId → Prop} {id part : TypeId}
    (h : catalog.Reaches roots id) (hpath : ReflTransGen catalog.LeadsTo id part) :
    catalog.Reaches roots part := by
  obtain ⟨root, hroot, hway⟩ := h
  exact ⟨root, hroot, hway.trans hpath⟩

namespace Inlines

variable {catalog : Catalog}

/-- Whoever is known by a name holds it. -/
theorem holder (h : catalog.Inlines) {names : NameRegistry} {subject : Subject} {name : SourcedName}
    (hnamed : catalog.Named names subject name) :
    Dict.get? names.holders name.text = some subject.id := by
  cases hnamed with
  | registry hheld => exact hheld
  | declaration hunique _ _ _ =>
    rw [h.uniqueNames] at hunique
    cases hunique
  | aliasDeclaration hunique _ _ _ =>
    rw [h.uniqueNames] at hunique
    cases hunique
  | override _ _ hoverride =>
    rw [h.overrides] at hoverride
    cases hoverride

/-- No rule asks for references. -/
theorem asReference (h : catalog.Inlines) {request part : Request} {subject : Subject}
    (hasks : catalog.Asks request subject part) : part.asReference = false := by
  cases hasks <;> exact h.reference

end Inlines

end Catalog

open Catalog

/-! ## The constructions around a request -/

/-- The construction holds its name, and leads to the type. -/
structure LedBy (catalog : Catalog) (id : TypeId) (p : Progress) (frame : Frame) : Prop where
  held : Dict.get? p.context.names.holders frame.plan.name = some frame.subject.id
  leads : TransGen catalog.LeadsTo frame.subject.id id

/-- The request is made within constructions that led to it, the first of them of one of the types,
and they are what is under construction. -/
structure Enclosed (catalog : Catalog) (roots : TypeId → Prop) (request : Request) (p : Progress) :
    Prop where
  reached : catalog.Reaches roots request.type
  asReference : request.asReference = false
  tallied : Tallied request.above p
  led : ∀ frame ∈ request.above, LedBy catalog request.type p frame

namespace Enclosed

variable {catalog : Catalog} {roots : TypeId → Prop} {request part : Request} {p q : Progress}
  {frame : Frame}

theorem root (hinlines : catalog.Inlines) {id : TypeId} {named : Option SymbolId} (hroot : roots id)
    (hguard : p.context.guard = []) : Enclosed catalog roots (catalog.member id named) p where
  reached := ⟨id, hroot, .refl⟩
  asReference := hinlines.reference
  tallied := .nil hguard
  led := List.forall_mem_nil _

theorem settles (h : Enclosed catalog roots request p) (hpq : Settles p q) :
    Enclosed catalog roots request q where
  reached := h.reached
  asReference := h.asReference
  tallied := h.tallied.settles hpq
  led frame hmem := ⟨hpq.holders _ _ (h.led frame hmem).held, (h.led frame hmem).leads⟩

/-- Going down to a part, the constructions lead on through it. -/
theorem ofPart (hinlines : catalog.Inlines) (h : Enclosed catalog roots request p)
    (hopens : catalog.Opens request p frame q) (hasks : catalog.Asks request frame.subject part) :
    Enclosed catalog roots { part with above := frame :: request.above } q := by
  have hway := leadsTo_of_unwrap hopens.subject
  have hpart := leadsTo_part hopens.subject hasks
  have hasked : part.asReference = false := hinlines.asReference hasks
  refine ⟨(h.reached.trans hway).trans (.single hpart), hasked, h.tallied.opens hopens,
    List.forall_mem_cons.2 ⟨?_, fun outer hmem => ?_⟩⟩
  · exact ⟨hinlines.holder hopens.named, .single hpart⟩
  · have hled := h.led outer hmem
    exact ⟨hopens.grows.holders _ _ hled.held, (hled.leads.trans_left hway).tail hpart⟩

/-- **A reference is only made where the way came back**: the name that is met belongs to a
construction of the same type. -/
theorem isRecursive (hinlines : catalog.Inlines) (h : Enclosed catalog roots request p)
    (hopens : catalog.Opens request p frame q) (hreference : frame.plan.isReference = true) :
    catalog.IsRecursive frame.subject.id := by
  -- Nobody asked for the reference, so the name is under construction, by one of those around.
  have hbuilding : p.context.isBuilding frame.plan.name = true := by
    simpa [h.asReference, hinlines.reference] using hopens.wanted hreference
  obtain ⟨outer, houter⟩ := List.exists_mem_of_ne_nil _ ((h.tallied.building _).1 hbuilding)
  obtain ⟨hguarded, hname⟩ := List.mem_filter.1 houter
  have hled := h.led outer (List.mem_filter.1 hguarded).1
  -- A name keeps its holder while the way goes down, so the two constructions are of one type.
  have hheld : Dict.get? q.context.names.holders frame.plan.name = some outer.subject.id := by
    rw [← eq_of_beq hname]
    exact hopens.grows.holders _ _ hled.held
  have hsame : outer.subject.id = frame.subject.id :=
    Option.some.inj (hheld.symm.trans (hinlines.holder hopens.named))
  have hcycle := hled.leads.trans_left (leadsTo_of_unwrap hopens.subject)
  rwa [hsame] at hcycle

end Enclosed

/-! ## The invariant -/

/-- The types whose definitions references point to are recursive, and one of the types that the
call began with leads to them. -/
structure Inlined (catalog : Catalog) (roots : TypeId → Prop) (p : Progress) : Prop where
  reffed : ∀ frame, .promoted frame ∈ p.journal → p.context.isReffed frame.plan.name = true
  completed : ∀ frame definition, .completed frame definition ∈ p.journal →
    .promoted frame ∈ p.journal
  reached : ∀ frame, .promoted frame ∈ p.journal → catalog.Reaches roots frame.subject.id
  recursive : ∀ frame, .promoted frame ∈ p.journal → catalog.IsRecursive frame.subject.id

namespace Inlined

variable {catalog : Catalog} {roots : TypeId → Prop} {request : Request} {p q : Progress}
  {frame : Frame}

theorem of_empty (h : p.journal = []) : Inlined catalog roots p := by
  constructor <;> simp [h]

/-- What writes nothing into the table leaves everything as it is. -/
theorem of_unwritten (h : Inlined catalog roots p) (hpq : Grows p q) (htable : Unwritten p q) :
    Inlined catalog roots q := by
  have hold : ∀ event ∈ q.journal, ∀ name, event.written? = some name → event ∈ p.journal :=
    fun event hmem name hname =>
      mem_of_mem_writings (htable.writings name ▸ mem_writings hmem hname)
  exact {
    reffed := fun frame hmem => hpq.reffed _ (h.reffed frame (hold _ hmem _ rfl))
    completed := fun frame definition hmem =>
      hpq.mem_journal (h.completed frame definition (hold _ hmem _ rfl))
    reached := fun frame hmem => h.reached frame (hold _ hmem _ rfl)
    recursive := fun frame hmem => h.recursive frame (hold _ hmem _ rfl) }

theorem promote (hinlines : catalog.Inlines) (h : Inlined catalog roots q)
    (hrequest : Enclosed catalog roots request p) (hreference : frame.plan.isReference = true)
    (hopens : catalog.Opens request p frame (q.act (.promoted frame)))
    (hstep : catalog.Step q (q.act (.promoted frame))) :
    Inlined catalog roots (q.act (.promoted frame)) := by
  have hcases : ∀ other, .promoted other ∈ (q.act (.promoted frame)).journal →
      other = frame ∨ .promoted other ∈ q.journal :=
    fun other hmem => (List.mem_cons.1 hmem).imp_left Event.promoted.inj
  refine ⟨fun other hmem => ?_, fun other definition hmem => ?_, fun other hmem => ?_,
    fun other hmem => ?_⟩
  · rcases hcases other hmem with rfl | hold
    · exact (hopens.promotes hreference).2.2
    · exact hstep.grows.reffed _ (h.reffed other hold)
  · exact List.mem_cons_of_mem _
      (h.completed other definition (Progress.mem_of_mem_act hmem (by simp)))
  · rcases hcases other hmem with rfl | hold
    · exact hrequest.reached.trans (leadsTo_of_unwrap hopens.subject)
    · exact h.reached other hold
  · rcases hcases other hmem with rfl | hold
    · exact hrequest.isRecursive hinlines hopens hreference
    · exact h.recursive other hold

theorem complete (h : Inlined catalog roots p) (hpromoted : .promoted frame ∈ p.journal)
    (definition : Definition) : Inlined catalog roots (p.act (.completed frame definition)) := by
  have hold : ∀ other, .promoted other ∈ (p.act (.completed frame definition)).journal →
      .promoted other ∈ p.journal := fun other hmem => Progress.mem_of_mem_act hmem (by simp)
  refine ⟨fun other hmem => ?_, fun other done hmem => ?_, fun other hmem => ?_,
    fun other hmem => ?_⟩
  · exact (Grows.completed p frame definition).reffed _ (h.reffed other (hold other hmem))
  · rcases List.mem_cons.1 hmem with heq | hmem
    · obtain ⟨rfl, -⟩ := Event.completed.inj heq
      exact List.mem_cons_of_mem _ hpromoted
    · exact List.mem_cons_of_mem _ (h.completed other done hmem)
  · exact h.reached other (hold other hmem)
  · exact h.recursive other (hold other hmem)

end Inlined

/-- What is kept where schemas are built in place, by a call that begins with the given types. -/
def inlining (catalog : Catalog) (hinlines : catalog.Inlines) (roots : TypeId → Prop) :
    Contract catalog where
  inv := Inlined catalog roots
  root := roots
  ask _ := Enclosed catalog roots
  target _ _ := True
  fault _ := True
  inv_step _ h hstep _ htable := h.of_unwritten hstep.grows htable
  inv_promoted hrequest hreference hopens h hstep :=
    h.promote hinlines hrequest hreference hopens hstep
  inv_completed h hpromoted _ _ _ := h.complete hpromoted _
  inv_known _ _ := fun _ _ => trivial
  inv_applied _ _ h := h.of_unwritten (Settles.act _ ⟨_, rfl⟩ rfl).toGrows
    ⟨rfl, fun _ => writings_cons_of_none rfl⟩
  ask_root hroot hguard := .root hinlines hroot hguard
  ask_settles h hpq := h.settles hpq
  ask_part h hopens _ hasks := h.ofPart hinlines hopens hasks
  target_grows _ _ := trivial
  target_reffed _ := trivial
  extend _ _ _ := fun _ _ => trivial
  hook _ := fun _ _ => trivial
  fault_unwrap _ _ := trivial
  fault_exhausted _ _ := trivial
  fault_other _ := trivial

/-! ## Documents -/

namespace Catalog

variable {catalog : Catalog} {patterns : List NamePattern} {definitions : Dict Definition}
  {name : String}

/-- The entry is a declaration that one of the patterns selects. -/
def Selected (catalog : Catalog) (patterns : List NamePattern) (entry : String × TypeId) : Prop :=
  entry ∈ catalog.declared ∧ ∃ pattern ∈ patterns, pattern.selects entry.1 = true

/-- The types of the declarations that the patterns select. -/
def SelectedType (catalog : Catalog) (patterns : List NamePattern) (id : TypeId) : Prop :=
  ∃ name, catalog.Selected patterns (name, id)

theorem mem_select_iff (hpatterns : patterns.isEmpty = false) {entry : String × TypeId} :
    entry ∈ catalog.select patterns ↔ catalog.Selected patterns entry := by
  simp only [select, hpatterns, Bool.false_eq_true, if_false, List.mem_flatMap, List.mem_filter,
    Selected]
  constructor
  · rintro ⟨pattern, hpattern, hentry, hselects⟩
    exact ⟨hentry, pattern, hpattern, hselects⟩
  · rintro ⟨hentry, pattern, hpattern, hselects⟩
    exact ⟨pattern, hpattern, hentry, hselects⟩

/-- The definitions of the roots have the names of what is selected. -/
theorem contains_roots_iff {C : Contract catalog} {q : Progress}
    {roots : List (String × Definition)} (hpatterns : patterns.isEmpty = false)
    (hroots : List.Forall₂ (C.IsRoot q) (catalog.select patterns) roots) :
    Dict.contains (Dict.ofEntries roots) name = true ↔
      ∃ id, catalog.Selected patterns (name, id) := by
  have hentered : Dict.contains (Dict.ofEntries roots) name = Dict.contains roots name := by
    rw [Dict.ofEntries, Dict.contains_extend]
    rfl
  rw [hentered, Dict.contains_iff_mem_keys]
  constructor
  · intro hname
    obtain ⟨root, hroot, rfl⟩ := List.mem_map.1 hname
    obtain ⟨⟨_, id⟩, hdeclared, hisRoot⟩ := exists_left_of_forall₂ hroots hroot
    exact ⟨id, hisRoot.name ▸ (mem_select_iff hpatterns).1 hdeclared⟩
  · rintro ⟨id, hselected⟩
    obtain ⟨root, hroot, hisRoot⟩ :=
      exists_right_of_forall₂ hroots ((mem_select_iff hpatterns).2 hselected)
    exact List.mem_map.2 ⟨root, hroot, hisRoot.name⟩

/-- The names of the table are those of promoted definitions. -/
theorem isReffed_iff (hinlines : catalog.Inlines) {roots : TypeId → Prop} {q : Progress}
    (hq : Inlined catalog roots q) (hsettles : Settles (Contract.fresh catalog .definitions) q) :
    q.context.isReffed name = true ↔
      ∃ frame, .promoted frame ∈ q.journal ∧ frame.plan.name = name := by
  constructor
  · intro hreffed
    cases hsettles.entry name with
    | untouched hget _ =>
      simp [Context.isReffed, Dict.contains, hget, Contract.fresh, Context.start,
        hinlines.overrides] at hreffed
    | @made frame definition hname _ _ hwritings =>
      have hmem : .promoted frame ∈ writings q.journal name := by simp [hwritings]
      exact ⟨frame, mem_of_mem_writings hmem, hname⟩
  · rintro ⟨frame, hmem, rfl⟩
    exact hq.reffed frame hmem

/-- What is known of a call whose schemas are built in place. -/
theorem schemas_inlined (hinlines : catalog.Inlines) (patterns : List NamePattern) :
    ∃ q, (catalog.schemas patterns).journal = q.journal ∧
      Inlined catalog (catalog.SelectedType patterns) q ∧
      ∀ definitions, (catalog.schemas patterns).result = .ok definitions →
        (Dict.keys definitions).Nodup ∧ ∀ name, name ∈ Dict.keys definitions ↔
          (∃ id, catalog.Selected patterns (name, id)) ∨
            ∃ frame, .promoted frame ∈ (catalog.schemas patterns).journal ∧
              frame.plan.name = name := by
  cases hpatterns : patterns.isEmpty with
  | true =>
    obtain rfl := List.isEmpty_iff.1 hpatterns
    refine ⟨Contract.fresh catalog .definitions, rfl, .of_empty rfl, fun definitions hresult => ?_⟩
    obtain rfl : [] = definitions := Except.ok.inj hresult
    simp [schemas, Selected, Dict.keys]
  | false =>
    obtain ⟨q, hjournal, hq, hresult⟩ :=
      (inlining catalog hinlines (catalog.SelectedType patterns)).schemas_kept (.of_empty rfl)
        (fun declared hmem => ⟨declared.1, (mem_select_iff hpatterns).1 hmem⟩) hpatterns
    refine ⟨q, hjournal, hq, fun definitions hdefinitions => ?_⟩
    rcases hresult with ⟨e, he, _⟩ | ⟨roots, hdone, hsettles, hroots⟩
    · cases hdefinitions.symm.trans he
    · obtain rfl := Except.ok.inj (hdefinitions.symm.trans hdone)
      refine ⟨Dict.nodup_keys_extend (Dict.nodup_keys_extend List.nodup_nil), fun name => ?_⟩
      rw [← Dict.contains_iff_mem_keys, Dict.contains_extend, Bool.or_eq_true, hjournal]
      exact or_congr (contains_roots_iff hpatterns hroots) (isReffed_iff hinlines hq hsettles)

/-- **Only recursive types are referred to** where schemas are built in place: whatever becomes a
definition of its own, building its type leads back to the type, and a document has these
definitions beside those that are selected.  If nothing that is selected leads to a recursive type,
the document has what is selected and nothing else; nor has it a reference, unless the hook or a doc
comment puts one there. -/
theorem inline_promotes_recursive (catalog : Catalog) (hinlines : catalog.Inlines)
    (patterns : List NamePattern) :
    (∀ frame, .promoted frame ∈ (catalog.schemas patterns).journal →
      catalog.IsRecursive frame.subject.id) ∧
    ∀ definitions, (catalog.schemas patterns).result = .ok definitions →
      (Dict.keys definitions).Nodup ∧
      (∀ name, name ∈ Dict.keys definitions ↔ (∃ id, catalog.Selected patterns (name, id)) ∨
        ∃ frame, .promoted frame ∈ (catalog.schemas patterns).journal ∧ frame.plan.name = name) ∧
      ((∀ id, catalog.Reaches (catalog.SelectedType patterns) id → ¬catalog.IsRecursive id) →
        (∀ name, name ∈ Dict.keys definitions ↔ ∃ id, catalog.Selected patterns (name, id)) ∧
        (catalog.hook = id → catalog.RefersToNothing →
          ∀ target, ¬(schemasJson definitions).Refers target)) := by
  obtain ⟨q, hjournal, hq, hdocument⟩ := schemas_inlined hinlines patterns
  refine ⟨fun frame hmem => hq.recursive frame (hjournal ▸ hmem), fun definitions hresult => ?_⟩
  obtain ⟨hnodup, hkeys⟩ := hdocument definitions hresult
  refine ⟨hnodup, hkeys, fun hacyclic => ?_⟩
  have hnone : ∀ frame, .promoted frame ∉ q.journal := fun frame hmem =>
    hacyclic _ (hq.reached frame hmem) (hq.recursive frame hmem)
  constructor
  · intro name
    rw [hkeys, hjournal]
    exact or_iff_left fun ⟨frame, hmem, _⟩ => hnone frame hmem
  · intro hhook hgiven target htarget
    obtain ⟨name, definition, _, _, hmem | ⟨frame, _, hmem, _⟩⟩ :=
      schemas_resolve hhook hgiven hresult htarget
    · rw [hinlines.overrides] at hmem
      exact List.not_mem_nil hmem
    · exact hnone frame (hq.completed frame definition (hjournal ▸ hmem))

/-- A catalog of two declarations: a pair of leaves of one type, and the holder of a node that
refers to itself. -/
def pairAndNode : Catalog where
  graph :=
    { types := #[{ kind := .string },
        { kind := .object [{ symbol := ⟨1⟩, type := ⟨0⟩ }] false none, symbol := some ⟨0⟩ },
        { kind := .object [{ symbol := ⟨3⟩, type := ⟨1⟩ }, { symbol := ⟨4⟩, type := ⟨1⟩ }] false none
          symbol := some ⟨2⟩ },
        { kind := .object [{ symbol := ⟨6⟩, type := ⟨3⟩, isOptional := true }] false none
          symbol := some ⟨5⟩ },
        { kind := .object [{ symbol := ⟨8⟩, type := ⟨3⟩ }] false none, symbol := some ⟨7⟩ }]
      symbols := #[{ name := "Leaf" }, { name := "text" }, { name := "Pair" }, { name := "left" },
        { name := "right" }, { name := "Node" }, { name := "next" }, { name := "Holder" },
        { name := "first" }]
      declarations := [("Pair", ⟨2⟩), ("Holder", ⟨4⟩)] }
  declared := [("Pair", ⟨2⟩), ("Holder", ⟨4⟩)]

/-- Below the pair every way goes down. -/
theorem leadsTo_pairAndNode {id part : TypeId} (h : pairAndNode.LeadsTo id part)
    (hbelow : id.index.toNat ≤ 2) : part.index.toNat < id.index.toNat := by
  have hids : ∀ id ∈ pairAndNode.graph.ids, id.index.toNat ≤ 2 → id = ⟨0⟩ ∨ id = ⟨1⟩ ∨ id = ⟨2⟩ := by
    decide
  rcases h with ⟨node, hnode, hwrapped⟩ | ⟨node, hnode, _, hpart⟩
  · rcases hids id (TypeGraph.mem_ids hnode) hbelow with rfl | rfl | rfl <;> cases hnode <;>
      cases hwrapped
  · have hproperty : ∃ property ∈ node.properties, property.type = part := by
      rcases hids id (TypeGraph.mem_ids hnode) hbelow with rfl | rfl | rfl <;> cases hnode <;>
        cases hpart with
        | property hmem => exact ⟨_, hmem, rfl⟩
        | subtype _ _ _ _ hnames _ _ => cases hnames
        | item hindex => cases hindex
        | member hkind _ => cases hkind
        | factor hkind _ => cases hkind
        | element hkind _ => cases hkind
        | value hkind => cases hkind
    obtain ⟨property, hmem, rfl⟩ := hproperty
    rcases hids id (TypeGraph.mem_ids hnode) hbelow with rfl | rfl | rfl <;> cases hnode
    · cases hmem
    · obtain rfl := List.mem_singleton.1 hmem
      decide
    · rcases List.mem_cons.1 hmem with rfl | hmem
      · decide
      · obtain rfl := List.mem_singleton.1 hmem
        decide

/-- The pair leads to no recursive type. -/
theorem not_isRecursive_pair {id : TypeId}
    (h : pairAndNode.Reaches (pairAndNode.SelectedType [.exact "Pair"]) id) :
    ¬pairAndNode.IsRecursive id := by
  have hdown : ∀ {a b}, a.index.toNat ≤ 2 → TransGen pairAndNode.LeadsTo a b →
      b.index.toNat < a.index.toNat := by
    intro a b ha hway
    induction hway with
    | single hleads => exact leadsTo_pairAndNode hleads ha
    | tail _ hleads ih => exact (leadsTo_pairAndNode hleads (ih.le.trans ha)).trans ih
  obtain ⟨root, ⟨name, hdeclared, pattern, hpattern, hselects⟩, hway⟩ := h
  have hroot : root.index.toNat ≤ 2 := by
    obtain rfl := List.mem_singleton.1 hpattern
    have hall : ∀ entry ∈ pairAndNode.declared, (NamePattern.exact "Pair").selects entry.1 = true →
        entry.2.index.toNat ≤ 2 := by decide
    exact hall _ hdeclared hselects
  have hbelow : id.index.toNat ≤ 2 := by
    rcases reflTransGen_iff_eq_or_transGen.1 hway with rfl | hway
    · exact hroot
    · exact (hdown hroot hway).le.trans hroot
  exact fun hcycle => (hdown hbelow hcycle).false

theorem refersToNothing_pairAndNode : pairAndNode.RefersToNothing where
  overrides := List.forall_mem_nil _
  tags symbol hsymbol := by
    have hplain : ∀ symbol ∈ pairAndNode.graph.symbols.toList, symbol.tags = [] := by decide
    rw [hplain symbol hsymbol]
    exact List.forall_mem_nil _

/-- The document of the pair has the pair and no reference, as leaves are no cycle, though there are
two of them; and what becomes a definition of its own with the holder is recursive. -/
theorem inline_promotes_recursive_pairAndNode :
    (∃ definitions, (pairAndNode.schemas [.exact "Pair"]).result = .ok definitions ∧
      (∀ name, name ∈ Dict.keys definitions ↔
        ∃ id, pairAndNode.Selected [.exact "Pair"] (name, id)) ∧
      ∀ target, ¬(schemasJson definitions).Refers target) ∧
    ∃ frame, .promoted frame ∈ (pairAndNode.schemas [.exact "Holder"]).journal ∧
      frame.plan.name = "Node" ∧ pairAndNode.IsRecursive frame.subject.id := by
  have hinlines : pairAndNode.Inlines := ⟨rfl, rfl, rfl⟩
  constructor
  · have hok : (pairAndNode.schemas [.exact "Pair"]).result.isOk = true := by decide +kernel
    cases hresult : (pairAndNode.schemas [.exact "Pair"]).result with
    | error error =>
      rw [hresult] at hok
      cases hok
    | ok definitions =>
      obtain ⟨hkeys, hnone⟩ := ((inline_promotes_recursive pairAndNode hinlines _).2 _ hresult).2.2
        fun _ => not_isRecursive_pair
      exact ⟨definitions, rfl, hkeys, hnone rfl refersToNothing_pairAndNode⟩
  · have hnames : (pairAndNode.schemas [.exact "Holder"]).journal.filterMap (fun
        | .promoted frame => some frame.plan.name
        | _ => none) = ["Node"] := by decide +kernel
    obtain ⟨event, hmem, hname⟩ := List.mem_filterMap.1 (hnames ▸ List.mem_singleton_self "Node")
    cases event with
    | promoted frame =>
      exact ⟨frame, hmem, Option.some.inj hname,
        (inline_promotes_recursive pairAndNode hinlines _).1 frame hmem⟩
    | _ => cases hname

end Catalog

end TypeSchema
