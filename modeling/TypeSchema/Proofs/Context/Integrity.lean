import TypeSchema.Proofs.Building.Calls

/-!
# What a request does to its context

All requests of a call share one context, and every rule may change it: names are handed out, places
are taken in the table of definitions, constructions are taken up and ended.  What a request leaves is
nevertheless easy to say.  Whatever was taken up on the way was ended, so the same names are under
construction as before; no definition that was there was touched; and a new one was written twice, by
one construction, which took the place and filled it.

Only the current name of a type may be another one afterwards, and only that of a union of string
literals: where an alias refers to it, the union takes a name made from that of the alias, although it
may have one already (`NameChange.renamed`).

**`Catalog.context_kept`** says so of every context that a call can reach.  The definitions that are
given stand in the table from the start, so they are what the document has under their names, whatever
else goes by them.
-/

set_option autoImplicit false

namespace TypeSchema

/-! ## Contexts that are reached -/

/-- A call comes to the progress: in steps from a fresh context. -/
inductive Reached (catalog : Catalog) : Progress → Prop
  | fresh (root : ReferenceRoot) : Reached catalog (Contract.fresh catalog root)
  | step {p q : Progress} (h : Reached catalog p) (hstep : catalog.Step p q) : Reached catalog q
  | applied {p : Progress} (h : Reached catalog p) (chain : List Frame) :
      Reached catalog (p.act (.applied chain))
  | completed {p : Progress} {frame : Frame} {definition : Definition} (h : Reached catalog p)
      (hpromoted : .promoted frame ∈ p.journal)
      (hhollow : definition = [] → catalog.HollowSubject frame.subject) :
      Reached catalog (p.act (.completed frame definition))

namespace Catalog

variable {catalog : Catalog} {p q : Progress}

/-- No step completes a definition. -/
theorem Step.completed (h : catalog.Step p q) {frame : Frame} {definition : Definition}
    (hmem : .completed frame definition ∈ q.journal) :
    .completed frame definition ∈ p.journal :=
  h.mem_journal rfl hmem

end Catalog

namespace Reached

variable {catalog : Catalog} {p : Progress}

theorem sound (h : Reached catalog p) : p.context.names.Sound := by
  induction h with
  | fresh root => exact NameRegistry.sound_empty
  | step _ hstep ih => exact hstep.sound ih
  | applied _ chain ih => exact ih
  | completed _ _ _ ih => exact ih

/-- What was written is in the table. -/
theorem writings_eq_nil (h : Reached catalog p) {name : String}
    (hnew : p.context.isReffed name = false) : writings p.journal name = [] := by
  induction h with
  | fresh root => rfl
  | @step p q _ hstep ih =>
    rcases hstep.table with htable | ⟨frame, _, rfl⟩
    · rw [htable.writings]
      refine ih ?_
      rwa [Context.isReffed, htable.reffed] at hnew
    · rw [Progress.act_context, Event.effect, Context.isReffed_promote] at hnew
      simp only [Bool.or_eq_false_iff, decide_eq_false_iff_not] at hnew
      have hother : (Event.promoted frame).written? ≠ some name := by
        simpa [Event.written?] using hnew.1
      rw [Progress.act_journal, writings_cons_of_ne hother]
      exact ih hnew.2
  | applied _ chain ih =>
    rw [Progress.act_journal, writings_cons_of_none rfl]
    exact ih hnew
  | @completed p frame definition _ _ _ ih =>
    rw [Progress.act_context, Event.effect, Context.isReffed_promote] at hnew
    simp only [Bool.or_eq_false_iff, decide_eq_false_iff_not] at hnew
    have hother : (Event.completed frame definition).written? ≠ some name := by
      simpa [Event.written?] using hnew.1
    rw [Progress.act_journal, writings_cons_of_ne hother]
    exact ih hnew.2

/-- A completed definition says something, if the structure of its type yields a keyword. -/
theorem hollow (h : Reached catalog p) {frame : Frame}
    (hmem : .completed frame [] ∈ p.journal) : catalog.HollowSubject frame.subject := by
  induction h with
  | fresh root => cases hmem
  | step _ hstep ih => exact ih (hstep.completed hmem)
  | applied _ chain ih => exact ih (Progress.mem_of_mem_act hmem (by simp))
  | completed _ _ hhollow ih =>
    rcases List.mem_cons.1 hmem with heq | hold
    · cases heq
      exact hhollow rfl
    · exact ih hold

/-- No name stands in the table twice, if none is given twice. -/
theorem nodup_keys (h : Reached catalog p) (hgiven : (Dict.keys catalog.overrides).Nodup) :
    (Dict.keys p.context.reffed).Nodup := by
  induction h with
  | fresh root => exact hgiven
  | step _ hstep ih =>
    rcases hstep.table with htable | ⟨frame, _, rfl⟩
    · rwa [htable.reffed]
    · exact Dict.nodup_keys_insert ih
  | applied _ chain ih => exact ih
  | completed _ _ _ ih => exact Dict.nodup_keys_insert ih

end Reached

/-! ## Names -/

/-- What becomes of the current name of a type. -/
inductive NameChange (catalog : Catalog) (p q : Progress) (id : TypeId) : Prop
  | same (h : q.context.names.name? id = p.context.names.name? id) : NameChange catalog p q id
  | given {name : String} (hnone : p.context.names.name? id = none)
      (hsome : q.context.names.name? id = some name) : NameChange catalog p q id
  /-- A union of string literals is referred to by an alias. -/
  | renamed {node : TypeNode} {base : String} {number : Nat}
      (hnode : catalog.graph.lookupType id = .ok node) (halias : catalog.AliasBase node base)
      (hname : q.context.names.name? id = some (NameRegistry.candidate base number)) :
      NameChange catalog p q id

namespace NameChange

variable {catalog : Catalog} {p q r : Progress} {id : TypeId}

theorem trans (h : NameChange catalog p q id) (h' : NameChange catalog q r id) :
    NameChange catalog p r id := by
  cases h' with
  | same hsame =>
    cases h with
    | same hfirst => exact .same (hsame.trans hfirst)
    | given hnone hsome => exact .given hnone (hsame.trans hsome)
    | renamed hnode halias hname => exact .renamed hnode halias (hsame.trans hname)
  | given hnone hsome =>
    cases h with
    | same hfirst => exact .given (hfirst.symm.trans hnone) hsome
    | given _ hsome' => cases hnone.symm.trans hsome'
    | renamed _ _ hname => cases hnone.symm.trans hname
  | renamed hnode halias hname => exact .renamed hnode halias hname

/-- A name is handed out to a type that has none, or to a union that an alias refers to. -/
theorem of_step (h : catalog.Step p q) : NameChange catalog p q id := by
  cases h with
  | noted entry => exact .same rfl
  | @named other node base htype hbase hfresh =>
    by_cases hother : other = id
    · subst hother
      have hgiven : (p.context.names.makeUnique other base).2.name? other =
          some (NameRegistry.candidate base (p.context.names.openNumber other base)) := by
        rw [NameRegistry.makeUnique, NameRegistry.name?_assign, if_pos rfl]
      rcases hfresh with hnone | halias
      · exact .given hnone hgiven
      · exact .renamed htype halias hgiven
    · refine .same ?_
      show (p.context.names.makeUnique other base).2.name? id = _
      rw [NameRegistry.makeUnique, NameRegistry.name?_assign, if_neg hother]
  | entered name => exact .same rfl
  | left name token =>
    obtain ⟨guard, hleave⟩ := p.context.leave_eq name token
    exact .same (by rw [hleave]; rfl)
  | @dropped owner _ =>
    obtain ⟨absent, hmark⟩ := p.context.markAbsent_eq owner
    refine .same ?_
    rw [Progress.act_context, Event.effect, hmark]
  | listed _ => exact .same rfl
  | referred _ => exact .same rfl
  | promoted _ _ => exact .same rfl

end NameChange

/-- What steps from a context lead to: contexts that are reached, with names as they may be. -/
def changes (catalog : Catalog) (start : Progress) : Contract catalog :=
  .ofInvariant (fun q => Reached catalog q ∧ ∀ id, NameChange catalog start q id)
    (fun h hstep _ => ⟨h.1.step hstep, fun id => (h.2 id).trans (.of_step hstep)⟩)
    (fun h hpromoted _ hhollow =>
      ⟨h.1.completed hpromoted hhollow, fun id => (h.2 id).trans (.same rfl)⟩)
    fun h => ⟨h.1.applied _, fun id => (h.2 id).trans (.same rfl)⟩

/-! ## What is left -/

/-- A definition of the table is finished: it was written twice, by one construction that took the place
and completed it, and it is empty only where the structure of its type yields no keyword. -/
def Catalog.WrittenOnce (catalog : Catalog) (journal : List Event) (name : String)
    (definition : Definition) : Prop :=
  ∃ frame : Frame, frame.plan.name = name ∧
    writings journal name = [.completed frame definition, .promoted frame] ∧
    (definition = [] → catalog.HollowSubject frame.subject)

/-- What a request that was answered has done to the context. -/
structure Intact (catalog : Catalog) (p q : Progress) : Prop where
  guard : q.context.guard = p.context.guard
  kept : ∀ name definition, Dict.get? p.context.reffed name = some definition →
    Dict.get? q.context.reffed name = some definition
  added : ∀ name definition, p.context.isReffed name = false →
    Dict.get? q.context.reffed name = some definition →
    catalog.WrittenOnce q.journal name definition
  held : ∀ name id, Dict.get? p.context.names.holders name = some id →
    Dict.get? q.context.names.holders name = some id
  names : ∀ id, NameChange catalog p q id

theorem Settles.intact {catalog : Catalog} {p q : Progress} (h : Settles p q)
    (hp : Reached catalog p) (hq : Reached catalog q) (hnames : ∀ id, NameChange catalog p q id) :
    Intact catalog p q where
  guard := h.guard
  kept _ _ hget := h.kept hget
  added name definition hnew hget := by
    cases h.entry name with
    | untouched hsame _ =>
      rw [Context.isReffed, Dict.contains, ← hsame, hget] at hnew
      cases hnew
    | @made frame done hname _ hdone hwritings =>
      obtain rfl := Option.some.inj (hdone.symm.trans hget)
      rw [hp.writings_eq_nil hnew] at hwritings
      refine ⟨frame, hname, hwritings, ?_⟩
      rintro rfl
      exact hq.hollow (mem_of_mem_writings (hwritings ▸ List.mem_cons_self))
  held := h.holders
  names := hnames

namespace Catalog

variable {catalog : Catalog}

/-- Whatever a call leaves was reached. -/
theorem reached_of_journals {journal : List Event} (h : catalog.Journals journal) :
    ∃ q, journal = q.journal ∧ Reached catalog q := by
  obtain ⟨q, hjournal, hq, _⟩ :=
    (changes catalog (Contract.fresh catalog .definitions)).journals_kept
      (fun root => ⟨.fresh root, fun id => .same rfl⟩) (fun _ => trivial) (fun _ _ _ => trivial) h
  exact ⟨q, hjournal, hq⟩

/-- A request that is answered leaves the context intact. -/
theorem intact_of_answer {depth : Nat} {request : Request} {p q : Progress}
    {definition : Definition} (hp : Reached catalog p) (hdescribed : catalog.Described request)
    (hanswer : (catalog.buildWithin depth request).exec p = (.ok definition, q)) :
    Intact catalog p q := by
  have hholds : (changes catalog p).Holds p := ⟨hp.sound, hp, fun id => .same rfl⟩
  have hpost := Contract.answers_buildWithin (C := changes catalog p) depth request p hdescribed
    trivial hholds
  rw [BuildM.Post, hanswer] at hpost
  obtain ⟨hq, hsettles, _⟩ := hpost
  exact hsettles.intact hp hq.inv.1 hq.inv.2

/-- A definition that is given is the one the document has under its name. -/
theorem get?_override {patterns : List NamePattern} (hpatterns : patterns.isEmpty = false)
    (hgiven : (Dict.keys catalog.overrides).Nodup) {definitions : Dict Definition}
    (hresult : (catalog.schemas patterns).result = .ok definitions) {name : String}
    {definition : Definition} (hmem : (name, definition) ∈ catalog.overrides) :
    Dict.get? definitions name = some definition := by
  have hfresh : (changes catalog (Contract.fresh catalog .definitions)).inv
      (Contract.fresh catalog .definitions) := ⟨.fresh _, fun id => .same rfl⟩
  obtain ⟨q, _, hq, ⟨e, he, _⟩ | ⟨roots, hdone, hsettles, _⟩⟩ :=
    (changes catalog _).schemas_kept hfresh (fun _ _ => trivial) hpatterns
  · rw [hresult] at he
    cases he
  · obtain rfl := Except.ok.inj (hresult.symm.trans hdone)
    have hstart : Dict.get? (Contract.fresh catalog .definitions).context.reffed name =
        some definition := Dict.get?_of_mem hgiven hmem
    exact Dict.get?_extend_of_nodup (hq.1.nodup_keys hgiven) (hsettles.kept hstart)

/-- Definitions that are given one after the other have different names. -/
theorem nodup_override (catalog : Catalog) (h : (Dict.keys catalog.overrides).Nodup)
    (name : String) (definition : Definition) :
    (Dict.keys (catalog.override name definition).overrides).Nodup :=
  Dict.nodup_keys_insert h

/-- **The context is kept.**  In every context that a call reaches, a request that is answered ends what
it took up, touches no definition that was there, writes every new one once, and changes no current name
but that of a union of string literals.  So whatever else goes by the name of a definition that is given,
the document has the given one. -/
theorem context_kept (catalog : Catalog) :
    (∀ depth request p definition q, Reached catalog p → catalog.Described request →
      (catalog.buildWithin depth request).exec p = (.ok definition, q) → Intact catalog p q) ∧
    ∀ patterns : List NamePattern, patterns.isEmpty = false →
      (Dict.keys catalog.overrides).Nodup → ∀ definitions,
        (catalog.schemas patterns).result = .ok definitions →
        ∀ name definition, (name, definition) ∈ catalog.overrides →
          Dict.get? definitions name = some definition :=
  ⟨fun _ _ _ _ _ hp hdescribed hanswer => intact_of_answer hp hdescribed hanswer,
    fun _ hpatterns hgiven _ hresult _ _ hmem => get?_override hpatterns hgiven hresult hmem⟩

/-- A catalog of two declarations that refer to each other; for one of them a definition is given. -/
def givenNode : Catalog :=
  Catalog.override
    { graph :=
        { types := #[{ kind := .object [{ symbol := ⟨2⟩, type := ⟨1⟩ }] false none
                       symbol := some ⟨0⟩ },
            { kind := .object [{ symbol := ⟨3⟩, type := ⟨0⟩, referenced := some ⟨0⟩ }] false none
              symbol := some ⟨1⟩ }]
          symbols := #[{ name := "Node" }, { name := "List" }, { name := "all" }, { name := "first" }]
          declarations := [("Node", ⟨0⟩), ("List", ⟨1⟩)] }
      declared := [("Node", ⟨0⟩), ("List", ⟨1⟩)] }
    "Node" (Definition.ofType "string")

/-- Both declarations are built, and the one that is given stays what it is. -/
theorem context_kept_givenNode :
    (∃ definition q, (givenNode.build (givenNode.member ⟨1⟩)).exec
        (Contract.fresh givenNode .definitions) = (.ok definition, q) ∧
      Intact givenNode (Contract.fresh givenNode .definitions) q) ∧
    ∃ definitions, (givenNode.schemas [.exact "Node", .exact "List"]).result = .ok definitions ∧
      Dict.get? definitions "Node" = some (Definition.ofType "string") := by
  obtain ⟨hrequests, hdocuments⟩ := context_kept givenNode
  constructor
  · have hdone : ((givenNode.build (givenNode.member ⟨1⟩)).exec
        (Contract.fresh givenNode .definitions)).1.toOption.isSome = true := by decide +kernel
    rcases hexec : (givenNode.build (givenNode.member ⟨1⟩)).exec
        (Contract.fresh givenNode .definitions) with ⟨_ | definition, q⟩
    · rw [hexec] at hdone
      cases hdone
    · have hdescribed : givenNode.Described (givenNode.member ⟨1⟩) := fun _ h => nomatch h
      exact ⟨definition, q, rfl, hrequests _ _ _ _ _ (.fresh _) hdescribed hexec⟩
  · have hdone : (givenNode.schemas [.exact "Node", .exact "List"]).result.toOption.isSome =
        true := by decide +kernel
    cases hresult : (givenNode.schemas [.exact "Node", .exact "List"]).result with
    | error e =>
      rw [hresult] at hdone
      cases hdone
    | ok definitions =>
      have hgiven := nodup_override { givenNode with overrides := [] } List.nodup_nil "Node"
        (Definition.ofType "string")
      exact ⟨definitions, rfl, hdocuments _ rfl hgiven _ hresult _ _ (List.mem_singleton.2 rfl)⟩

end Catalog

end TypeSchema
