import TypeSchema.Proofs.Building.Operations
import TypeSchema.Schema.Document

/-!
# Whole calls

A call starts in a fresh context and builds what its patterns select, one declaration or shape after
the other.  `Contract.schemas_kept` and `Contract.openApi_kept` say of the two kinds of calls what a
contract promises of them: the journal is that of a progress for which the invariant holds, a failure
is one that the contract allows, and a document is made of good parts and of the definitions that
references point to, all of them settled since the start.
-/

set_option autoImplicit false

namespace TypeSchema

/-! ## Runs -/

/-- What a construction that starts in a fresh context comes to. -/
theorem BuildM.Post.run {α : Type} {m : BuildM α} {start : Context}
    {Q : α → Progress → Prop} {E : Error → Progress → Prop}
    (h : m.Post { context := start } Q E) :
    (∃ a q, (m.run start).result = .ok a ∧ (m.run start).journal = q.journal ∧ Q a q) ∨
      ∃ e q, (m.run start).result = .error e ∧ (m.run start).journal = q.journal ∧ E e q := by
  have hrun : m.run start = ⟨(m.exec { context := start }).1, (m.exec { context := start }).2.log,
      (m.exec { context := start }).2.journal⟩ := rfl
  rw [BuildM.Post] at h
  rw [hrun]
  generalize m.exec { context := start } = done at h ⊢
  obtain ⟨e | a, q⟩ := done
  · exact .inr ⟨e, q, rfl, rfl, h⟩
  · exact .inl ⟨a, q, rfl, rfl, h⟩

namespace Contract

variable {catalog : Catalog} {C : Contract catalog} {p : Progress}

/-- The progress in which a call starts. -/
def fresh (catalog : Catalog) (root : ReferenceRoot) : Progress :=
  { context := Context.start root catalog.overrides }

theorem holds_fresh {root : ReferenceRoot} (h : C.inv (fresh catalog root)) :
    C.Holds (fresh catalog root) :=
  ⟨NameRegistry.sound_empty, h⟩

/-! ## Documents of definitions -/

/-- The entry has the schema of the declaration under its name. -/
structure IsRoot (C : Contract catalog) (p : Progress) (declared : String × TypeId)
    (entry : String × Definition) : Prop where
  name : entry.1 = declared.1
  good : C.Good entry.2 p
  yields : catalog.Yields p (catalog.member declared.2) entry.2

theorem IsRoot.grows {q : Progress} {declared : String × TypeId} {entry : String × Definition}
    (h : C.IsRoot p declared entry) (hpq : Grows p q) : C.IsRoot q declared entry :=
  ⟨h.name, h.good.grows hpq, h.yields.grows hpq⟩

theorem answers_definitions {selected : List (String × TypeId)}
    (hroots : ∀ declared ∈ selected, C.root declared.2) (hguard : p.context.guard = []) :
    C.Answers p (catalog.definitions selected) fun roots q =>
      ∃ entries, List.Forall₂ (C.IsRoot q) selected entries ∧ roots = Dict.ofEntries entries := by
  have hmono : ∀ declared entry q r, Settles q r → C.IsRoot q declared entry →
      C.IsRoot r declared entry := fun _ _ _ _ hqr h => h.grows hqr.toGrows
  rw [Catalog.definitions]
  refine .gather (R := C.IsRoot) selected [] hmono fun declared hdeclared done q hpq => ?_
  have hdescribed : catalog.Described (catalog.member declared.2) := fun _ h => nomatch h
  have hask : C.ask catalog.depthBound (catalog.member declared.2) q :=
    C.ask_root (hroots declared hdeclared) (hpq.guard.trans hguard)
  refine (answers_buildWithin _ _ _ hdescribed hask).bind fun schema r _ hschema => .pure ?_
  exact ⟨(declared.1, schema), ⟨rfl, hschema.1.1, hschema.2⟩, rfl⟩

/-- **What a contract promises of a document of definitions.** -/
theorem schemas_kept (hstart : C.inv (fresh catalog .definitions)) {patterns : List NamePattern}
    (hroots : ∀ declared ∈ catalog.select patterns, C.root declared.2)
    (hpatterns : patterns.isEmpty = false) :
    ∃ q, (catalog.schemas patterns).journal = q.journal ∧ C.inv q ∧
      ((∃ e, (catalog.schemas patterns).result = .error e ∧ C.fault e) ∨
        ∃ roots, (catalog.schemas patterns).result =
            .ok (Dict.extend (Dict.ofEntries roots) q.context.reffed) ∧
          Settles (fresh catalog .definitions) q ∧
          List.Forall₂ (C.IsRoot q) (catalog.select patterns) roots) := by
  have hanswers : C.Answers (fresh catalog .definitions) (do
      let roots ← catalog.definitions (catalog.select patterns)
      return Dict.extend roots (← BuildM.context).reffed) fun document q =>
        ∃ roots, document = Dict.extend (Dict.ofEntries roots) q.context.reffed ∧
          List.Forall₂ (C.IsRoot q) (catalog.select patterns) roots := by
    refine (answers_definitions hroots rfl).bind ?_
    rintro _ q _ ⟨roots, hroots, rfl⟩
    exact .context (.pure ⟨roots, rfl, hroots⟩)
  rw [Catalog.schemas]
  rw [hpatterns]
  rcases (hanswers (holds_fresh hstart)).run with ⟨document, q, hresult, hjournal, hq, hpq, hdocument⟩ |
    ⟨e, q, hresult, hjournal, hfault, hinv⟩
  · obtain ⟨roots, rfl, hroots⟩ := hdocument
    exact ⟨q, hjournal, hq.inv, .inr ⟨roots, hresult, hpq, hroots⟩⟩
  · exact ⟨q, hjournal, hinv, .inl ⟨e, hresult, hfault⟩⟩

/-! ## OpenAPI documents -/

open OpenApi

/-- The document is the blank one with operations that refer to what the contract allows. -/
def Drafts (C : Contract catalog) (blank document : Document) (p : Progress) : Prop :=
  ∃ paths, document = { blank with paths := paths } ∧
    ∀ item ∈ paths, ∀ entry ∈ item.2, C.Allows entry.2.toJson p

theorem Drafts.grows {blank document : Document} {q : Progress} (h : C.Drafts blank document p)
    (hpq : Grows p q) : C.Drafts blank document q := by
  obtain ⟨paths, hdocument, hpaths⟩ := h
  exact ⟨paths, hdocument, fun item hitem entry hentry =>
    (hpaths item hitem entry hentry).grows hpq⟩

theorem Drafts.place {blank document : Document} {placed : Catalog.PlacedOperation}
    (h : C.Drafts blank document p)
    (hplaced : C.Allows placed.operation.toJson p) :
    C.Drafts blank (document.place placed) p := by
  obtain ⟨paths, rfl, hpaths⟩ := h
  refine ⟨_, rfl, fun item hitem entry hentry => ?_⟩
  rcases Dict.mem_of_mem_insert hitem with rfl | hold
  · rcases Dict.mem_of_mem_insert hentry with rfl | hother
    · exact hplaced
    · cases hget : Dict.get? paths placed.path with
      | none => simp [hget] at hother
      | some operations =>
        exact hpaths _ (Dict.mem_of_get? hget) entry (by simpa [hget] using hother)
  · exact hpaths item hold entry hentry

theorem answers_addShape (hroots : ∀ id, C.root id) (hguard : p.context.guard = [])
    (hcustom : catalog.options.customOperationEntries = true → ∀ text q, C.target text q)
    {blank document : Document} (hdocument : C.Drafts blank document p) (entry : String × TypeId) :
    C.Answers p (catalog.addShape document entry) (C.Drafts blank) := by
  rw [Catalog.addShape]
  refine (answers_operation hroots hguard _ _ hcustom).bind fun answer q hpq hanswer => ?_
  split
  · exact .pure (hdocument.grows hpq.toGrows)
  · rename_i placed
    have hplaced := hanswer placed rfl
    dsimp only
    split
    · refine .note (.pure ?_)
      refine ((hdocument.grows hpq.toGrows).place hplaced).grows (Settles.note _).toGrows
    · exact .pure ((hdocument.grows hpq.toGrows).place hplaced)

/-- **What a contract promises of an OpenAPI document.** -/
theorem openApi_kept (hstart : C.inv (fresh catalog .components)) (hroots : ∀ id, C.root id)
    (hcustom : catalog.options.customOperationEntries = true → ∀ text q, C.target text q)
    {patterns : List NamePattern} (hpatterns : patterns.isEmpty = false) (metadata : Metadata) :
    ∃ q, (catalog.openApi patterns metadata).journal = q.journal ∧ C.inv q ∧
      ((∃ e, (catalog.openApi patterns metadata).result = .error e ∧ C.fault e) ∨
        ∃ document, (catalog.openApi patterns metadata).result =
            .ok (document.addSchemas q.context.reffed) ∧
          Settles (fresh catalog .components) q ∧
          C.Drafts (Document.ofMetadata catalog.options.version metadata) document q) := by
  have hblank : C.Drafts (Document.ofMetadata catalog.options.version metadata)
      (Document.ofMetadata catalog.options.version metadata) (fresh catalog .components) :=
    ⟨[], rfl, List.forall_mem_nil _⟩
  have hanswers : C.Answers (fresh catalog .components) (do
      let document ← (catalog.select patterns).foldlM catalog.addShape
        (Document.ofMetadata catalog.options.version metadata)
      return document.addSchemas (← BuildM.context).reffed) fun answer q =>
        ∃ document, answer = document.addSchemas q.context.reffed ∧
          C.Drafts (Document.ofMetadata catalog.options.version metadata) document q := by
    refine (Answers.foldlM _ hblank fun entry _ document q hpq hdocument => ?_).bind
      fun document q _ hdocument => .context (.pure ⟨document, rfl, hdocument⟩)
    exact answers_addShape hroots hpq.guard hcustom hdocument entry
  unfold Catalog.openApi
  dsimp only
  rw [hpatterns]
  rcases (hanswers (holds_fresh hstart)).run with ⟨answer, q, hresult, hjournal, hq, hpq, hanswer⟩ |
    ⟨e, q, hresult, hjournal, hfault, hinv⟩
  · obtain ⟨document, rfl, hdocument⟩ := hanswer
    exact ⟨q, hjournal, hq.inv, .inr ⟨document, hresult, hpq, hdocument⟩⟩
  · exact ⟨q, hjournal, hinv, .inl ⟨e, hresult, hfault⟩⟩

/-! ## All calls -/

end Contract

/-- The list is the journal of a call. -/
inductive Catalog.Journals (catalog : Catalog) : List Event → Prop
  | schemas (patterns : List NamePattern) : Journals catalog (catalog.schemas patterns).journal
  | openApi (patterns : List NamePattern) (metadata : OpenApi.Metadata) :
      Journals catalog (catalog.openApi patterns metadata).journal

/-! ## How calls end -/

/-- A call of one of the two kinds. -/
inductive Call
  | schemas (patterns : List NamePattern)
  | openApi (patterns : List NamePattern) (metadata : OpenApi.Metadata)

namespace Catalog

variable (catalog : Catalog)

/-- What the call does, the latest first. -/
def journal : Call → List Event
  | .schemas patterns => (catalog.schemas patterns).journal
  | .openApi patterns metadata => (catalog.openApi patterns metadata).journal

/-- The progress in which a construction leaves a call, the progress in which the call starts if
nothing is selected. -/
def leave {α : Type} (root : ReferenceRoot) (patterns : List NamePattern) (m : BuildM α) : Progress :=
  if patterns.isEmpty then Contract.fresh catalog root else (m.exec (Contract.fresh catalog root)).2

/-- The progress in which the call ends. -/
def ending : Call → Progress
  | .schemas patterns =>
    catalog.leave .definitions patterns (catalog.definitions (catalog.select patterns))
  | .openApi patterns metadata =>
    catalog.leave .components patterns ((catalog.select patterns).foldlM catalog.addShape
      (OpenApi.Document.ofMetadata catalog.options.version metadata))

end Catalog

/-- What is made of an answer in the end is not written down. -/
theorem BuildM.journal_run {α β : Type} (m : BuildM α) (start : Context) (f : α → Context → β) :
    (BuildM.run (do let a ← m; return f a (← BuildM.context)) start).journal =
      (m.exec { context := start }).2.journal := by
  change ((m >>= fun a => BuildM.context >>= fun context => pure (f a context)).exec
    { context := start }).2.journal = _
  rw [exec_bind]
  obtain ⟨_ | a, q⟩ := m.exec { context := start }
  · rfl
  · rfl

/-- The journal of a call is that of the progress in which it ends. -/
theorem Catalog.journal_ending (catalog : Catalog) (call : Call) :
    catalog.journal call = (catalog.ending call).journal := by
  cases call with
  | schemas patterns =>
    rw [journal, ending, leave, schemas]
    split
    · rfl
    · exact BuildM.journal_run _ _ fun roots context => Dict.extend roots context.reffed
  | openApi patterns metadata =>
    rw [journal, ending, leave, openApi]
    split
    · rfl
    · exact BuildM.journal_run _ _ fun (document : OpenApi.Document) context =>
        document.addSchemas context.reffed

namespace Contract

variable {catalog : Catalog} {C : Contract catalog}

/-- The invariant holds wherever a construction leaves the call. -/
theorem Answers.inv_leave {α : Type} {root : ReferenceRoot} {patterns : List NamePattern}
    {m : BuildM α} {good : α → Progress → Prop} (h : C.Answers (fresh catalog root) m good)
    (hstart : C.inv (fresh catalog root)) : C.inv (catalog.leave root patterns m) := by
  rw [Catalog.leave]
  split
  · exact hstart
  · have hpost := h (holds_fresh hstart)
    rw [BuildM.Post] at hpost
    generalize m.exec (fresh catalog root) = done at hpost ⊢
    obtain ⟨e | a, q⟩ := done
    · exact hpost.2
    · exact hpost.1.inv

/-- What a contract keeps holds where a call ends. -/
theorem ending_kept (C : Contract catalog) (hstart : ∀ root, C.inv (fresh catalog root))
    (hroots : ∀ id, C.root id)
    (hcustom : catalog.options.customOperationEntries = true → ∀ text q, C.target text q)
    (call : Call) : C.inv (catalog.ending call) := by
  cases call with
  | schemas patterns =>
    exact (answers_definitions (fun _ _ => hroots _) rfl).inv_leave (hstart _)
  | openApi patterns metadata =>
    have hblank : C.Drafts (OpenApi.Document.ofMetadata catalog.options.version metadata)
        (OpenApi.Document.ofMetadata catalog.options.version metadata) (fresh catalog .components) :=
      ⟨[], rfl, List.forall_mem_nil _⟩
    refine (Answers.foldlM _ hblank fun entry _ document q hpq hdocument => ?_).inv_leave (hstart _)
    exact answers_addShape hroots hpq.guard hcustom hdocument entry

/-- What a contract keeps holds of the journal of every call. -/
theorem journals_kept (C : Contract catalog) (hstart : ∀ root, C.inv (fresh catalog root))
    (hroots : ∀ id, C.root id)
    (hcustom : catalog.options.customOperationEntries = true → ∀ text q, C.target text q)
    {journal : List Event} (h : catalog.Journals journal) : ∃ q, journal = q.journal ∧ C.inv q := by
  have kept := fun call => C.ending_kept hstart hroots hcustom call
  cases h with
  | schemas patterns => exact ⟨_, catalog.journal_ending (.schemas patterns), kept _⟩
  | openApi patterns metadata =>
    exact ⟨_, catalog.journal_ending (.openApi patterns metadata), kept _⟩

end Contract

/-! ## All definitions -/

namespace Catalog

variable {catalog : Catalog} {P : Definition → Prop}

/-- What is kept: the predicate holds of every definition in the table, those under construction
included. -/
def keepsTable (catalog : Catalog) (P : Definition → Prop) (hempty : P Definition.empty)
    (hcompletes : ∀ p frame definition, catalog.Completes p frame definition → P definition) :
    Contract catalog :=
  .ofInvariant (fun p => ∀ entry ∈ p.context.reffed, P entry.2)
    (fun h hstep _ => by
      rcases hstep.table with htable | ⟨frame, _, rfl⟩
      · exact fun entry hmem => h entry (htable.reffed ▸ hmem)
      · exact Dict.forall_mem_insert h hempty)
    (fun h _ hcompletes' _ => Dict.forall_mem_insert h (hcompletes _ _ _ hcompletes'))
    fun h => h

/-- What holds of what is given, of answers and of completed definitions holds of every definition in a
document. -/
theorem schemas_induction (hgiven : ∀ entry ∈ catalog.overrides, P entry.2)
    (hempty : P Definition.empty)
    (hcompletes : ∀ p frame definition, catalog.Completes p frame definition → P definition)
    (hyields : ∀ p id definition, catalog.Yields p (catalog.member id) definition → P definition)
    {patterns : List NamePattern} {definitions : Dict Definition}
    (hresult : (catalog.schemas patterns).result = .ok definitions) :
    ∀ entry ∈ definitions, P entry.2 := by
  cases hpatterns : patterns.isEmpty with
  | true =>
    rw [schemas, if_pos hpatterns] at hresult
    obtain rfl := Except.ok.inj hresult
    exact List.forall_mem_nil _
  | false =>
    obtain ⟨q, _, htable, ⟨e, he, _⟩ | ⟨roots, hdone, _, hroots⟩⟩ :=
      (catalog.keepsTable P hempty hcompletes).schemas_kept hgiven (fun _ _ => trivial) hpatterns
    · cases he.symm.trans hresult
    · obtain rfl := Except.ok.inj (hresult.symm.trans hdone)
      intro entry hmem
      rcases Dict.mem_of_mem_extend hmem with hroot | hshared
      · obtain ⟨declared, _, hroot⟩ :=
          exists_left_of_forall₂ hroots (Dict.mem_of_mem_ofEntries hroot)
        exact hyields _ _ _ hroot.yields
      · exact htable entry hshared

end Catalog

end TypeSchema
