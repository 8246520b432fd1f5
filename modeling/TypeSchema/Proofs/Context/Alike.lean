import TypeSchema.Proofs.Building.Agreement
import TypeSchema.Proofs.Termination.Edges

/-!
# Runs that cannot be told apart

One type is asked for twice, for two owners and within two lots of constructions, in contexts that
agree on the names, on the table of definitions, on what is under construction and on the marks of
the properties that the type is made of (`Context.Alike`).  The two runs are followed side by side
down the recursion.  They hand out the same names, take up the same constructions and store the same
definitions, and only the answers to the first requests differ, by the keywords of the owners:
`Catalog.answersAlike`, by induction on the depth, with a lemma for each stage of a request.

What the owners must have in common for that is listed in `Catalog.Apart`.
-/

set_option autoImplicit false

namespace TypeSchema

open Relation

/-! ## Contexts that agree -/

/-- The contexts agree on all that definitions are built from: on the names, on the table of
definitions, on what is under construction, and on the marks that matter. -/
structure Context.Alike (marked : SymbolId → Prop) (c d : Context) : Prop where
  root : d.root = c.root
  names : d.names = c.names
  reffed : d.reffed = c.reffed
  guard : Dict.keys d.guard = Dict.keys c.guard
  absent : ∀ symbol, marked symbol → (symbol ∈ c.absent ↔ symbol ∈ d.absent)

namespace Context.Alike

variable {marked : SymbolId → Prop} {c d : Context}

theorem isBuilding (h : c.Alike marked d) (name : String) :
    d.isBuilding name = c.isBuilding name := by
  rw [Bool.eq_iff_iff, Context.isBuilding, Context.isBuilding, Dict.contains_iff_mem_keys,
    Dict.contains_iff_mem_keys, h.guard]

theorem isReffed (h : c.Alike marked d) (name : String) : d.isReffed name = c.isReffed name := by
  rw [Context.isReffed, Context.isReffed, h.reffed]

theorem refTo (h : c.Alike marked d) (name : String) : d.refTo name = c.refTo name := by
  rw [Context.refTo, Context.refTo, h.root]

/-- The same definition is stored in both. -/
theorem promote (h : c.Alike marked d) (name : String) (definition : Definition) :
    (c.promote name definition).Alike marked (d.promote name definition) :=
  ⟨h.root, h.names, by rw [Context.promote, Context.promote, h.reffed], h.guard, h.absent⟩

/-- Both take up the construction of the name. -/
theorem enter (h : c.Alike marked d) (name : String) :
    (c.enter name).2.Alike marked (d.enter name).2 := by
  refine ⟨h.root, h.names, h.reffed, ?_, h.absent⟩
  simp only [Context.enter, Dict.keys_insert, h.guard]

/-- Both end what they took up. -/
theorem withGuard (h : c.Alike marked d) {guard guard' : Dict Nat}
    (hguard : Dict.keys guard' = Dict.keys guard) :
    ({ c with guard } : Context).Alike marked { d with guard := guard' } :=
  ⟨h.root, h.names, h.reffed, hguard, h.absent⟩

end Context.Alike

namespace Progress

variable (p : Progress) (owner : Option Owner)

/-- Leaving out a member changes nothing but marks. -/
theorem dropFor_context :
    ∃ absent, (p.dropFor owner).context = { p.context with absent } := by
  cases owner with
  | none => exact ⟨p.context.absent, rfl⟩
  | some owner => exact p.context.markAbsent_eq owner.symbol

/-- It marks the property that the union is built for. -/
theorem mem_absent_dropFor {symbol : SymbolId} :
    symbol ∈ (p.dropFor owner).context.absent ↔
      owner.map Owner.symbol = some symbol ∨ symbol ∈ p.context.absent := by
  cases owner with
  | none => simp [dropFor]
  | some owner =>
    rw [dropFor, act_context, Event.effect, Context.mem_markAbsent, Option.map_some,
      Option.some.injEq, eq_comm]

end Progress

/-- Both leave out a member, and no mark that matters is made in one of them only. -/
theorem Context.Alike.dropFor {marked : SymbolId → Prop} {p q : Progress}
    (h : p.context.Alike marked q.context) {owner owner' : Option Owner}
    (hmarks : ∀ symbol, marked symbol →
      (owner.map Owner.symbol = some symbol ↔ owner'.map Owner.symbol = some symbol)) :
    (p.dropFor owner).context.Alike marked (q.dropFor owner').context := by
  obtain ⟨absent, hfirst⟩ := p.dropFor_context owner
  obtain ⟨absent', hsecond⟩ := q.dropFor_context owner'
  refine ⟨?_, ?_, ?_, ?_, fun symbol hsymbol => ?_⟩
  · rw [hfirst, hsecond]; exact h.root
  · rw [hfirst, hsecond]; exact h.names
  · rw [hfirst, hsecond]; exact h.reffed
  · rw [hfirst, hsecond]; exact h.guard
  · rw [Progress.mem_absent_dropFor, Progress.mem_absent_dropFor, hmarks symbol hsymbol,
      h.absent symbol hsymbol]

/-- Contexts that agree cannot be told apart, as long as the same is under construction in each of
them as at the start. -/
def Accord.alike (marked : SymbolId → Prop) (guard guard' : Dict Nat) : NamingAccord where
  rel p q := p.context.Alike marked q.context ∧ p.context.guard = guard ∧ q.context.guard = guard'
  names h := h.1.names
  note h _ := h
  named h id base := by
    obtain ⟨⟨root, names, reffed, keys, absent⟩, hguards⟩ := h
    exact ⟨⟨root, by simp only [Progress.withContext_context, names], reffed, keys, absent⟩, hguards⟩
  listed h _ _ := h

theorem Accord.keys_of_alike {marked : SymbolId → Prop} {guard guard' : Dict Nat} {p q : Progress}
    (h : (Accord.alike marked guard guard').rel p q) : Dict.keys guard' = Dict.keys guard := by
  obtain ⟨halike, rfl, rfl⟩ := h
  exact halike.guard

theorem Accord.alike_dropFor {marked : SymbolId → Prop} {guard guard' : Dict Nat} {p q : Progress}
    (h : (Accord.alike marked guard guard').rel p q) {owner owner' : Option Owner}
    (hmarks : ∀ symbol, marked symbol →
      (owner.map Owner.symbol = some symbol ↔ owner'.map Owner.symbol = some symbol)) :
    (Accord.alike marked guard guard').rel (p.dropFor owner) (q.dropFor owner') := by
  obtain ⟨halike, hguard, hguard'⟩ := h
  obtain ⟨absent, hfirst⟩ := p.dropFor_context owner
  obtain ⟨absent', hsecond⟩ := q.dropFor_context owner'
  refine ⟨halike.dropFor hmarks, ?_, ?_⟩
  · rw [hfirst]; exact hguard
  · rw [hsecond]; exact hguard'

/-! ## Requests side by side -/

namespace Catalog

variable {catalog : Catalog} {marked : SymbolId → Prop} {guard guard' : Dict Nat}
  {build build' : Builder} {request request' : Request} {subject : Subject} {p q : Progress}

/-- Whether the property with the symbol is marked matters to what is built for the type: an object
that the type is made of lists the property as required unless it is marked. -/
def MarkMatters (catalog : Catalog) (id : TypeId) (symbol : SymbolId) : Prop :=
  catalog.options.ignoreRequired = false ∧
    ∃ object node property, ReflTransGen catalog.LeadsTo id object ∧
      catalog.graph.lookupType object = .ok node ∧ property ∈ node.properties ∧
      property.isOptional = false ∧ property.symbol = symbol

/-- Two owners that say the same, and whose marks agree as far as they matter. -/
structure Interchangeable (marked : SymbolId → Prop) (owner owner' : Option Owner) : Prop where
  settled : settled? owner' = settled? owner
  keywords : ownerKeywords owner' = ownerKeywords owner
  marks : ∀ symbol, marked symbol →
    (owner.map Owner.symbol = some symbol ↔ owner'.map Owner.symbol = some symbol)

@[refl] theorem Interchangeable.refl (owner : Option Owner) : Interchangeable marked owner owner :=
  ⟨rfl, rfl, fun _ _ => Iff.rfl⟩

/-- The owners of two requests for one type have a say in the answers only, and not in what is
stored: they leave the schema to the type; if it is a dictionary, which is built along with its
values for the owner, they say the same; and where it is a union, which may mark its owner as
absent, or a dictionary of unions, their marks agree as far as they matter. -/
structure Apart (catalog : Catalog) (marked : SymbolId → Prop) (request : Request)
    (owner' : Option Owner) : Prop where
  unsettled : settled? request.owner = none
  unsettled' : settled? owner' = none
  dictionary : ∀ subject value,
    catalog.graph.unwrap (catalog.graph.types.size + 1) request.type request.named = .ok subject →
      catalog.graph.isRaw subject.node = .ok false →
      subject.node.kind = .object [] true (some value) →
      Interchangeable marked request.owner owner'
  union : ∀ subject members,
    catalog.graph.unwrap (catalog.graph.types.size + 1) request.type request.named = .ok subject →
      subject.node.kind = .union members → ∀ symbol, marked symbol →
      (request.owner.map Owner.symbol = some symbol ↔ owner'.map Owner.symbol = some symbol)

/-- Two requests for one type, asked for in the same way, whose owners are interchangeable or have
no say in what is stored. -/
structure Paired (catalog : Catalog) (marked : SymbolId → Prop) (request request' : Request) :
    Prop where
  type : request'.type = request.type
  asReference : request'.asReference = request.asReference
  unionKeyword : request'.unionKeyword = request.unionKeyword
  named : request'.named = request.named
  hasType : catalog.graph.HasType request.type
  hasSymbol : ∀ id, request.named = some id → catalog.graph.HasSymbol id
  matters : ∀ symbol, catalog.MarkMatters request.type symbol → marked symbol
  owner : Interchangeable marked request.owner request'.owner ∨
    catalog.Apart marked request request'.owner

/-- A part of a type of the graph is a type of the graph. -/
theorem HasPart.hasType {id part : TypeId} {node : TypeNode} (h : catalog.HasPart id node part)
    (hwhole : catalog.Whole) (hnode : catalog.graph.lookupType id = .ok node) :
    catalog.graph.HasType part := by
  have hrange := hwhole.graph.nodeInRange hnode
  cases h with
  | member hkind hmem => exact hrange.member hkind hmem
  | factor hkind hmem => exact hrange.factor hkind hmem
  | element hkind hmem => exact hrange.element hkind hmem
  | item hindex => exact hrange.numberIndex _ hindex
  | value hkind => exact hrange.value hkind
  | property hmem => exact (hrange.property hmem).type
  | subtype _ _ _ _ hnames hmem hdeclared =>
    obtain ⟨id, hid, htype⟩ := hwhole.exists_declared hnames hmem
    exact Option.some.inj (hid.symm.trans hdeclared) ▸ htype

/-- The symbol that a part is asked for by is one of the graph. -/
theorem Asks.hasSymbol {part : Request} (h : catalog.Asks request subject part)
    (hwhole : catalog.Whole) (hnode : catalog.graph.lookupType subject.id = .ok subject.node)
    (hnamed : ∀ id, subject.named = some id → catalog.graph.HasSymbol id) (id : SymbolId)
    (hid : part.named = some id) : catalog.graph.HasSymbol id := by
  cases h with
  | member hkind hmem hmember howner =>
    exact (hwhole.graph.nodeInRange hmember).aliasSymbol id hid
  | value hkind => exact hnamed id hid
  | property hmem howner =>
    exact ((hwhole.graph.nodeInRange hnode).property hmem).referenced id hid
  | _ => cases hid

/-- Looking through the wrappers fails only if there is no end to them. -/
theorem raises_of_unwrap (hwhole : catalog.Whole) {id : TypeId} (hid : catalog.graph.HasType id)
    {named : Option SymbolId} {error : Error}
    (hfault : catalog.graph.unwrap (catalog.graph.types.size + 1) id named = .error error) :
    catalog.Raises error := by
  rcases hwhole.graph.unwrap (catalog.graph.types.size + 1) named hid with
    ⟨subject, hfound⟩ | ⟨last, hendless⟩
  · rw [hfault] at hfound
    cases hfound
  · obtain rfl := Except.error.inj (hfault.symm.trans hendless)
    exact .endless last

namespace Paired

theorem unwrap (h : catalog.Paired marked request request') :
    catalog.graph.unwrap (catalog.graph.types.size + 1) request'.type request'.named =
      catalog.graph.unwrap (catalog.graph.types.size + 1) request.type request.named := by
  rw [h.type, h.named]

theorem subject_hasSymbol (h : catalog.Paired marked request request')
    (hsubject : catalog.graph.unwrap (catalog.graph.types.size + 1) request.type request.named =
      .ok subject) (id : SymbolId) (hid : subject.named = some id) :
    catalog.graph.HasSymbol id := by
  rcases TypeGraph.unwrap_named hsubject with hnamed | hnone
  · exact h.hasSymbol id (hnamed ▸ hid)
  · rw [hnone] at hid
    cases hid

/-- The marks of an object's own properties matter. -/
theorem marked_property (h : catalog.Paired marked request request')
    (hsubject : catalog.graph.unwrap (catalog.graph.types.size + 1) request.type request.named =
      .ok subject) (hrequired : catalog.options.ignoreRequired = false) {property : Property}
    (hmem : property ∈ subject.node.properties) (hoptional : property.isOptional = false) :
    marked property.symbol :=
  h.matters _ ⟨hrequired, subject.id, subject.node, property, leadsTo_of_unwrap hsubject,
    (TypeGraph.unwrap_subject hsubject).1, hmem, hoptional, rfl⟩

/-- The same part, asked for within any constructions and for owners that are interchangeable. -/
theorem part (h : catalog.Paired marked request request') (hwhole : catalog.Whole)
    (hsubject : catalog.graph.unwrap (catalog.graph.types.size + 1) request.type request.named =
      .ok subject) {part part' : Request} (hpart : catalog.Asks request subject part)
    {owner : Option Owner} (howner : Interchangeable marked part.owner owner)
    (chain : List Frame) {chain' : List Frame}
    (hpart' : part' = { part with owner, above := chain' }) :
    catalog.Paired marked { part with above := chain } part' where
  type := by rw [hpart']
  asReference := by rw [hpart']
  unionKeyword := by rw [hpart']
  named := by rw [hpart']
  hasType := hpart.hasPart.hasType hwhole (TypeGraph.unwrap_subject hsubject).1
  hasSymbol := hpart.hasSymbol hwhole (TypeGraph.unwrap_subject hsubject).1
    (h.subject_hasSymbol hsubject)
  matters symbol hmatters := by
    obtain ⟨hrequired, object, node, property, hpath, hproperty⟩ := hmatters
    have hway := (leadsTo_of_unwrap hsubject).trans (hpath.head (leadsTo_part hsubject hpart))
    exact h.matters symbol ⟨hrequired, object, node, property, hway, hproperty⟩
  owner := .inl (by rw [hpart']; exact howner)

end Paired

/-! ## Stages -/

/-- What is planned side by side: the same but for the tokens, where one is given out for both or
for neither. -/
structure PlannedAlike (catalog : Catalog) (marked : SymbolId → Prop) (guard guard' : Dict Nat)
    (subject : Subject) (plan plan' : Plan) (p q : Progress) : Prop where
  alike : p.context.Alike marked q.context
  first : TakesUp ⟨subject, plan⟩ guard p.context.guard
  second : TakesUp ⟨subject, plan'⟩ guard' q.context.guard
  raw : catalog.graph.isRaw subject.node = .ok plan.isRaw
  same : plan' = { plan with token := plan'.token }
  token : plan'.token.isSome = plan.token.isSome

theorem agree_isPromoted {A : Accord}
    (hnamed : ∀ id, subject.named = some id → catalog.graph.HasSymbol id) (name : String) :
    A.Agree catalog (catalog.isPromoted subject name) (catalog.isPromoted subject name) Eq := by
  rw [isPromoted]
  split
  · rename_i id hid
    exact .symbol (hnamed id hid) fun symbol _ => .pure rfl
  · exact .pure rfl

theorem pair_takeUp (hnamed : ∀ id, subject.named = some id → catalog.graph.HasSymbol id)
    {name : SourcedName} {isRaw asReference : Bool}
    (hraw : catalog.graph.isRaw subject.node = .ok isRaw)
    (hpq : (Accord.alike marked guard guard').rel p q) :
    (catalog.takeUp subject name isRaw asReference).Post₂
      (catalog.takeUp subject name isRaw asReference) p q
      (catalog.PlannedAlike marked guard guard' subject) catalog.Raises := by
  obtain ⟨halike, rfl, rfl⟩ := hpq
  rw [takeUp]
  split
  · rename_i hguarded
    have hguarded : subject.isGuarded isRaw = false := by simpa using hguarded
    exact ⟨halike, .unguarded hguarded rfl, .unguarded hguarded rfl, hraw, rfl, rfl⟩
  · rename_i hguarded
    have hguarded : subject.isGuarded isRaw = true := by simpa using hguarded
    refine BuildM.post₂_context_bind.2 ?_
    rw [halike.isBuilding]
    split
    · rename_i hbuilding
      have hbuilding' : Dict.contains q.context.guard name.text = true :=
        (halike.isBuilding name.text).trans hbuilding
      exact ⟨halike, .again hguarded hbuilding rfl rfl, .again hguarded hbuilding' rfl rfl, hraw,
        rfl, rfl⟩
    · rename_i hbuilding
      have hbuilding' : ¬Dict.contains q.context.guard name.text = true := by
        rwa [← halike.isBuilding] at hbuilding
      refine BuildM.post₂_answer_bind.2 ?_
      have hentered : (Accord.alike marked _ _).rel
          (p.withContext (p.context.enter name.text).2)
          (q.withContext (q.context.enter name.text).2) :=
        ⟨halike.enter name.text, rfl, rfl⟩
      refine (agree_isPromoted hnamed name.text _ _ hentered).bind ?_
      rintro promoted _ r s ⟨⟨hrs, hr, hs⟩, rfl⟩
      refine ⟨hrs, ?_, ?_, hraw, rfl, rfl⟩
      · rw [hr]
        exact .first hguarded hbuilding rfl
      · rw [hs]
        exact .first hguarded hbuilding' rfl

/-- How a construction is ended by who took it up. -/
theorem exec_finish {frame : Frame} (answer : Definition) {token : Nat} {context : Context}
    (htoken : frame.plan.token = some token)
    (hleave : p.context.leave frame.plan.name token = (true, context)) :
    (finish frame answer).exec p =
      if context.isReffed frame.plan.name = true then
        (.ok ((context.refTo frame.plan.name).merge answer.refAnnotations),
          (p.withContext context).act (.referred frame))
      else (.ok answer, p.withContext context) := by
  rw [finish, htoken]
  dsimp only
  rw [BuildM.exec_bind]
  have hanswer : (BuildM.answer fun context => context.leave frame.plan.name token).exec p =
      (.ok true, p.withContext context) := by
    show (Except.ok (p.context.leave frame.plan.name token).1,
      p.withContext (p.context.leave frame.plan.name token).2) = _
    rw [hleave]
  rw [hanswer]
  dsimp only
  rw [BuildM.exec_bind]
  show (if (true && context.isReffed frame.plan.name) = true then _ else _ :
    BuildM Definition).exec _ = _
  rw [Bool.true_and]
  split
  · rfl
  · rfl

/-- An owner that leaves the schema to the type gives no `type`. -/
theorem ownerKeywords_contains_type {owner : Option Owner} (h : settled? owner = none) :
    (ownerKeywords owner).contains "type" = false := by
  cases owner with
  | none => rfl
  | some owner =>
    rw [settled?] at h
    split at h
    · cases h
    · rename_i hfree
      rw [Bool.or_eq_true, not_or] at hfree
      exact Bool.eq_false_iff.2 hfree.2

/-- The owners of two requests for one type both give its items or neither does, if it is an
array. -/
def ItemsAgree (catalog : Catalog) (subject : Subject) (request request' : Request) : Prop :=
  catalog.IsArray subject.node →
    (ownerKeywords request.owner).contains "items" = (ownerKeywords request'.owner).contains "items"

/-- At the given depth, paired requests are answered alike in contexts that agree, and with the same
schema if their owners say the same. -/
def AnswersAlike (catalog : Catalog) (marked : SymbolId → Prop) (depth : Nat) : Prop :=
  ∀ (request request' : Request) (guard guard' : Dict Nat), catalog.Paired marked request request' →
    (∀ subject, catalog.graph.unwrap (catalog.graph.types.size + 1) request.type request.named =
      .ok subject → catalog.ItemsAgree subject request request') →
    (Accord.alike marked guard guard').Agree catalog (catalog.buildWithin depth request)
      (catalog.buildWithin depth request') fun schema schema' =>
        ownerKeywords request'.owner = ownerKeywords request.owner → schema = schema'

section Stages

variable (hwhole : catalog.Whole)
  (hpaired : catalog.Paired marked request request')
  (hsubject : catalog.graph.unwrap (catalog.graph.types.size + 1) request.type request.named =
    .ok subject)
  {plan plan' : Plan} {depth : Nat}

include hwhole hpaired hsubject

theorem pair_plan (hpq : (Accord.alike marked guard guard').rel p q) :
    (catalog.plan subject request.asReference).Post₂ (catalog.plan subject request'.asReference) p q
      (catalog.PlannedAlike marked guard guard' subject) catalog.Raises := by
  have hnode := (TypeGraph.unwrap_subject hsubject).1
  have hrange := hwhole.graph.nodeInRange hnode
  have hnamed := hpaired.subject_hasSymbol hsubject
  obtain ⟨isRaw, hraw⟩ := hrange.found_isRaw
  obtain ⟨isStringUnion, hliterals⟩ := hrange.found_isStringUnion
  rw [plan, plan, hpaired.asReference, hraw, hliterals]
  refine (Accord.agree_subjectName hwhole hnode (Accord.alike marked guard guard') hnamed _ p q
    hpq).bind ?_
  rintro name _ r s ⟨hrs, rfl⟩
  exact pair_takeUp hnamed hraw hrs

/-- The rule is applied to the same structure, with builders that answer alike.  Of what a
definition starts from only the answer depends. -/
theorem agree_define {definition definition' : Definition} (same : Prop)
    (ih : catalog.AnswersAlike marked depth)
    (hraw : catalog.graph.isRaw subject.node = .ok plan.isRaw)
    (hplan : plan'.isRaw = plan.isRaw) (hstart : same → definition = definition')
    (htype : definition.contains "type" = definition'.contains "type")
    (hitems : catalog.IsArray subject.node →
      definition.contains "items" = definition'.contains "items") :
    (Accord.alike marked guard guard').Agree catalog
      (catalog.define (catalog.buildWithin depth) request ⟨subject, plan⟩ definition)
      (catalog.define (catalog.buildWithin depth) request' ⟨subject, plan'⟩ definition')
      fun schema schema' => same → schema = schema' := by
  have hanswers : ∀ {part part' : Request} {owner : Option Owner}, catalog.Asks request subject part →
      Interchangeable marked part.owner owner →
      part' = { part with owner, above := ⟨subject, plan'⟩ :: request'.above } →
      (Accord.alike marked guard guard').Agree catalog
        (catalog.buildWithin depth { part with above := ⟨subject, plan⟩ :: request.above })
        (catalog.buildWithin depth part') Eq := by
    intro part part' owner hpart howner hpart'
    have hpaired :=
      hpaired.part hwhole hsubject hpart howner (⟨subject, plan⟩ :: request.above) hpart'
    have hkeywords : ownerKeywords part'.owner = ownerKeywords part.owner := hpart' ▸ howner.keywords
    refine (ih _ _ guard guard' hpaired fun _ _ _ => ?_).imp fun _ _ h => h hkeywords
    rw [hkeywords]
  have hserves : (Accord.alike marked guard guard').Serves catalog request subject
      (fun part => catalog.buildWithin depth { part with above := ⟨subject, plan⟩ :: request.above })
      fun part =>
        catalog.buildWithin depth { part with above := ⟨subject, plan'⟩ :: request'.above } :=
    fun part hpart => hanswers hpart (.refl _) rfl
  rw [define, define, ← htype]
  split
  · exact .pure hstart
  · rename_i hcontains
    have htyped : definition.contains "type" = false := by simpa using hcontains
    have hvalues : ∀ value, plan.isRaw = false →
        subject.node.kind = .object [] true (some value) →
        Interchangeable marked request.owner request'.owner := fun value hinline hkind =>
      hpaired.owner.elim id fun hapart =>
        hapart.dictionary subject value hsubject (hinline ▸ hraw) hkind
    have hmarks : ∀ members, subject.node.kind = .union members → ∀ symbol, marked symbol →
        (request.owner.map Owner.symbol = some symbol ↔
          request'.owner.map Owner.symbol = some symbol) := fun members hkind =>
      hpaired.owner.elim (fun hsame => hsame.marks) fun hapart =>
        hapart.union subject members hsubject hkind
    have hkept := Accord.keepsAlike_of_marks hwhole (TypeGraph.unwrap_subject hsubject).1 hserves
      fun hrequired _ hmem hoptional _ _ hpq =>
        hpq.1.absent _ (hpaired.marked_property hsubject hrequired hmem hoptional)
    have hrule := Accord.agree_structureSchema hwhole (TypeGraph.unwrap_subject hsubject).1
      (hpaired.subject_hasSymbol hsubject) hserves hraw hpaired.unionKeyword
      (fun value hinline hkind => hanswers (.value hkind) (hvalues value hinline hkind)
        (by rw [valueRequest, hpaired.unionKeyword]; rfl))
      (fun members hkind _ _ hpq => Accord.alike_dropFor hpq (hmarks members hkind))
      hkept hstart htyped
      (htype ▸ htyped) hitems
    intro p q hpq
    refine BuildM.post₂_act_bind.2 ?_
    dsimp only
    rw [hplan]
    exact hrule _ _ hpq

/-- A definition is stored for both runs or for neither, and it is the same. -/
theorem agree_defineShared (definition : Definition)
    (ih : catalog.AnswersAlike marked depth)
    (hraw : catalog.graph.isRaw subject.node = .ok plan.isRaw)
    (hplan : plan' = { plan with token := plan'.token }) :
    (Accord.alike marked guard guard').Agree catalog
      (catalog.defineShared (catalog.buildWithin depth) request ⟨subject, plan⟩ definition)
      (catalog.defineShared (catalog.buildWithin depth) request' ⟨subject, plan'⟩ definition)
      fun _ _ => True := by
  have hname : plan'.name = plan.name := by rw [hplan]
  have hisRaw : plan'.isRaw = plan.isRaw := by rw [hplan]
  intro p q hpq
  rw [defineShared, defineShared]
  refine BuildM.post₂_context_bind.2 ?_
  dsimp only
  rw [hname, hpq.1.isReffed]
  split
  · refine BuildM.post₂_act_bind.2 ?_
    have hpromoted : (Accord.alike marked guard guard').rel (p.act (.promoted ⟨subject, plan⟩))
        (q.act (.promoted ⟨subject, plan'⟩)) := by
      obtain ⟨halike, hguard, hguard'⟩ := hpq
      refine ⟨?_, hguard, hguard'⟩
      simp only [Progress.act_context, Event.effect, hname]
      exact halike.promote plan.name Definition.empty
    refine (agree_define hwhole hpaired hsubject True ih hraw hisRaw (fun _ => rfl) rfl
      (fun _ => rfl) _ _ hpromoted).bind ?_
    rintro done done' r s ⟨hrs, hdone⟩
    obtain rfl := hdone trivial
    obtain ⟨halike, hguard, hguard'⟩ := hrs
    refine ⟨⟨?_, hguard, hguard'⟩, trivial⟩
    simp only [Progress.act_context, Event.effect, hname]
    exact halike.promote plan.name done
  · exact ⟨hpq, trivial⟩

omit hwhole hpaired hsubject in
/-- Both runs end what they took up. -/
theorem pair_finish {answer answer' : Definition} {same : Prop} {r s : Progress}
    (hplanned : catalog.PlannedAlike marked guard guard' subject plan plan' p q)
    (hrs : (Accord.alike marked p.context.guard q.context.guard).rel r s)
    (hkeys : Dict.keys guard' = Dict.keys guard) (hanswer : same → answer = answer') :
    (finish ⟨subject, plan⟩ answer).Post₂ (finish ⟨subject, plan'⟩ answer') r s
      (fun done done' r' s' => (Accord.alike marked guard guard').rel r' s' ∧ (same → done = done'))
      catalog.Raises := by
  obtain ⟨halike, hguard, hguard'⟩ := hrs
  have hname : plan'.name = plan.name := by rw [hplanned.same]
  have hfirst : TakesUp ⟨subject, plan⟩ guard r.context.guard := hguard ▸ hplanned.first
  have hsecond : TakesUp ⟨subject, plan'⟩ guard' s.context.guard := hguard' ▸ hplanned.second
  have htokens := hplanned.token
  cases htoken : plan.token with
  | none =>
    have htoken' : plan'.token = none := by simpa [htoken] using htokens
    simp only [finish, htoken, htoken']
    exact ⟨⟨halike, hfirst.eq_of_none htoken, hsecond.eq_of_none htoken'⟩, hanswer⟩
  | some token =>
    obtain ⟨token', htoken'⟩ : ∃ token', plan'.token = some token' :=
      Option.isSome_iff_exists.1 (by simp [htokens, htoken])
    have hleave : r.context.leave plan.name token = (true, { r.context with guard }) :=
      hfirst.leave htoken
    have hleave' : s.context.leave plan'.name token' =
        (true, { s.context with guard := guard' }) := hsecond.leave htoken'
    have hleft := halike.withGuard hkeys
    have hreffed := hleft.isReffed plan.name
    have hrun : (finish ⟨subject, plan⟩ answer).exec r = _ := exec_finish answer htoken hleave
    have hrun' : (finish ⟨subject, plan'⟩ answer').exec s = _ := exec_finish answer' htoken' hleave'
    dsimp only at hrun hrun'
    rw [hname, hreffed] at hrun'
    rw [BuildM.Post₂, hrun, hrun']
    by_cases hknown : ({ r.context with guard } : Context).isReffed plan.name = true
    · rw [if_pos hknown, if_pos hknown]
      refine ⟨⟨hleft, rfl, rfl⟩, fun hsame => ?_⟩
      rw [hanswer hsame, hleft.refTo]
    · rw [if_neg hknown, if_neg hknown]
      exact ⟨⟨hleft, rfl, rfl⟩, hanswer⟩

/-! ## Requests -/

theorem pair_carryOut (ih : catalog.AnswersAlike marked depth)
    (hplanned : catalog.PlannedAlike marked guard guard' subject plan plan' p q)
    (hkeys : Dict.keys guard' = Dict.keys guard)
    (hitems : plan.isReference = false → catalog.ItemsAgree subject request request') :
    (catalog.carryOut (catalog.buildWithin depth) request ⟨subject, plan⟩).Post₂
      (catalog.carryOut (catalog.buildWithin depth) request' ⟨subject, plan'⟩) p q
      (fun done done' r s => (Accord.alike marked guard guard').rel r s ∧
        (ownerKeywords request'.owner = ownerKeywords request.owner → done = done'))
      catalog.Raises := by
  have hnode := (TypeGraph.unwrap_subject hsubject).1
  have hname : plan'.name = plan.name := by rw [hplanned.same]
  have hreference : plan'.isReference = plan.isReference := by rw [hplanned.same]
  have hisRaw : plan'.isRaw = plan.isRaw := by rw [hplanned.same]
  have hpq : (Accord.alike marked p.context.guard q.context.guard).rel p q :=
    ⟨hplanned.alike, rfl, rfl⟩
  rw [carryOut, carryOut]
  refine (Accord.agree_annotate hwhole hnode (hpaired.subject_hasSymbol hsubject) p q hpq).bind ?_
  rintro described _ r s ⟨hrs, rfl⟩
  dsimp only
  rw [hreference]
  split
  · -- The answer is a reference; the keywords of the owner stand beside it.
    have hshared := agree_defineShared hwhole hpaired hsubject described ih
      hplanned.raw hplanned.same (r.act (.referred ⟨subject, plan⟩))
      (s.act (.referred ⟨subject, plan'⟩)) hrs
    have hrefers : s.context.refTo plan'.name = r.context.refTo plan.name := by
      rw [hname, hrs.1.refTo]
    refine hshared.bind fun _ _ t u ⟨htu, _⟩ => pair_finish hplanned htu hkeys fun hsame => ?_
    show (r.context.refTo plan.name).merge _ = (s.context.refTo plan'.name).merge _
    rw [hrefers, hsame]
  · -- The answer is the definition; the keywords of the owner are part of it.
    rename_i hinline
    have hcontains : ∀ key, (ownerKeywords request.owner).contains key =
        (ownerKeywords request'.owner).contains key →
        (described.merge (ownerKeywords request.owner)).contains key =
          (described.merge (ownerKeywords request'.owner)).contains key := by
      intro key hkey
      have hmerge : ∀ keywords : Definition, (described.merge keywords).contains key =
          (described.contains key || keywords.contains key) := fun _ => Dict.contains_extend _
      rw [hmerge, hmerge, hkey]
    have htype : (ownerKeywords request.owner).contains "type" =
        (ownerKeywords request'.owner).contains "type" := by
      rcases hpaired.owner with hsame | hapart
      · rw [hsame.keywords]
      · rw [ownerKeywords_contains_type hapart.unsettled,
          ownerKeywords_contains_type hapart.unsettled']
    refine (agree_define hwhole hpaired hsubject
      (ownerKeywords request'.owner = ownerKeywords request.owner) ih hplanned.raw hisRaw
      (fun hsame => by rw [hsame]) (hcontains _ htype)
      (fun harray => hcontains _ (hitems (by simpa using hinline) harray)) r s hrs).bind ?_
    rintro done done' t u ⟨htu, hdone⟩
    exact pair_finish hplanned htu hkeys hdone

end Stages

/-- Answers a request for what its wrappers hold. -/
def answerPlanned (catalog : Catalog) (depth : Nat) (request : Request) (subject : Subject) :
    BuildM Definition := do
  let plan ← catalog.plan subject request.asReference
  return catalog.hook (← catalog.carryOut (catalog.buildWithin depth) request ⟨subject, plan⟩)

theorem buildWithin_succ {depth : Nat}
    (hsubject : catalog.graph.unwrap (catalog.graph.types.size + 1) request.type request.named =
      .ok subject) (hsettled : settled? request.owner = none) :
    catalog.buildWithin (depth + 1) request = catalog.answerPlanned depth request subject := by
  rw [buildWithin, respond, hsubject, hsettled]
  rfl

theorem pair_answerPlanned (hwhole : catalog.Whole) {depth : Nat}
    (ih : catalog.AnswersAlike marked depth) (hpaired : catalog.Paired marked request request')
    (hsubject : catalog.graph.unwrap (catalog.graph.types.size + 1) request.type request.named =
      .ok subject) (hkeys : Dict.keys guard' = Dict.keys guard)
    (hplan : (catalog.plan subject request.asReference).Post₂
      (catalog.plan subject request'.asReference) p q
      (fun plan plan' r s => catalog.PlannedAlike marked guard guard' subject plan plan' r s ∧
        (plan.isReference = false → catalog.ItemsAgree subject request request')) catalog.Raises) :
    (catalog.answerPlanned depth request subject).Post₂ (catalog.answerPlanned depth request' subject)
      p q (fun done done' r s => (Accord.alike marked guard guard').rel r s ∧
        (ownerKeywords request'.owner = ownerKeywords request.owner → done = done'))
      catalog.Raises := by
  refine hplan.bind ?_
  rintro plan plan' r s ⟨hplanned, hitems⟩
  refine (pair_carryOut hwhole hpaired hsubject ih hplanned hkeys hitems).bind ?_
  rintro done done' t u ⟨htu, hdone⟩
  exact ⟨htu, fun hsame => by rw [hdone hsame]⟩

/-- **Paired requests are answered alike**, at every depth: the definitions that are stored are the
same, whatever the owners. -/
theorem answersAlike (hwhole : catalog.Whole) (depth : Nat) :
    catalog.AnswersAlike marked depth := by
  induction depth with
  | zero =>
    intro request request' guard guard' hpaired _
    rw [buildWithin, buildWithin, hpaired.type]
    exact .throw (.endless request.type)
  | succ depth ih =>
    intro request request' guard guard' hpaired hitems
    rw [buildWithin, buildWithin, respond, respond, hpaired.unwrap]
    refine .take (fun error hfault => raises_of_unwrap hwhole hpaired.hasType hfault) fun subject hsubject => ?_
    have hplanned : (Accord.alike marked guard guard').Agree catalog
        (catalog.answerPlanned depth request subject) (catalog.answerPlanned depth request' subject)
        fun schema schema' =>
          ownerKeywords request'.owner = ownerKeywords request.owner → schema = schema' :=
      fun p q hpq => pair_answerPlanned hwhole ih hpaired hsubject (Accord.keys_of_alike hpq)
        ((pair_plan hwhole hpaired hsubject hpq).imp fun _ _ _ _ h => ⟨h, fun _ => hitems _ hsubject⟩)
    rcases hpaired.owner with hsame | hapart
    · rw [hsame.settled]
      cases settled? request.owner with
      | some definition => exact .pure fun _ => rfl
      | none => exact hplanned
    · rw [hapart.unsettled, hapart.unsettled']
      exact hplanned

end Catalog

end TypeSchema
