import TypeSchema.Proofs.Context.Integrity
import TypeSchema.Proofs.Graph.Ranges
import TypeSchema.Proofs.Names.Distinct

/-!
# Declarations and the names of definitions

A document has the selected declarations under the names they are selected by, and the definitions that
references point to under names that the registry handed out while they were built.  The registry knows
nothing of the declarations.  So a type that is met on the way may be given the name of a declaration of
another type, if both are printed alike; and where its definition is put into the document it replaces
that of the declaration (`Catalog.exists_replaced_root`).

**`Catalog.root_own_iff`** says that this is all that can happen.  Unless a definition of another type was
completed under the name of a declaration, the document has the schema of the declared type there: the
schema itself, or a reference that leads to it.
-/

set_option autoImplicit false

namespace TypeSchema

/-! ## Catalogs of graphs -/

namespace Catalog

variable {catalog : Catalog}

theorem addDeclaration_eq_ok {next : Catalog} {entry : String × TypeId}
    (h : catalog.addDeclaration entry = .ok next) :
    ∃ name subtypes, next = { catalog with
      declared := Dict.insert catalog.declared name entry.2
      subtypes } := by
  obtain ⟨_, _, _, _, _, _, rfl⟩ := exists_of_addDeclaration h
  exact ⟨_, _, rfl⟩

/-- A catalog that nothing was done to but entering declarations. -/
structure Fresh (catalog : Catalog) : Prop where
  overrides : catalog.overrides = []
  hook : catalog.hook = id
  declared : (Dict.keys catalog.declared).Nodup

theorem Fresh.addDeclaration {entry : String × TypeId} {next : Catalog} (h : catalog.Fresh)
    (hnext : catalog.addDeclaration entry = .ok next) : next.Fresh := by
  obtain ⟨name, subtypes, rfl⟩ := addDeclaration_eq_ok hnext
  exact ⟨h.overrides, h.hook, Dict.nodup_keys_insert h.declared⟩

/-- The catalog of a graph is a fresh one. -/
theorem fresh_of_ofGraph {graph : TypeGraph} {options : Options} {modules : Modules}
    (h : ofGraph graph options modules = .ok catalog) : catalog.Fresh :=
  have hstart : ({ graph, options, modules } : Catalog).Fresh := ⟨rfl, rfl, List.nodup_nil⟩
  foldlM_induction (foldlM_of_ofGraph h) hstart fun _ hdone _ _ _ hnext => hdone.addDeclaration hnext

theorem mem_declared_of_mem_select {patterns : List NamePattern} {entry : String × TypeId}
    (h : entry ∈ catalog.select patterns) : entry ∈ catalog.declared := by
  rw [select] at h
  split at h
  · exact h
  · obtain ⟨pattern, _, hmem⟩ := List.mem_flatMap.1 h
    exact (List.mem_filter.1 hmem).1

/-- A name is declared for one type. -/
theorem Fresh.eq_of_select (h : catalog.Fresh) {patterns : List NamePattern} {name : String}
    {type other : TypeId} (htype : (name, type) ∈ catalog.select patterns)
    (hother : (name, other) ∈ catalog.select patterns) : other = type := by
  have hfirst := Dict.get?_of_mem h.declared (mem_declared_of_mem_select htype)
  have hsecond := Dict.get?_of_mem h.declared (mem_declared_of_mem_select hother)
  exact Option.some.inj (hsecond.symm.trans hfirst)

end Catalog

/-! ## What is known of a call -/

/-- Every definition that was completed was built for its frame, which had taken the place. -/
structure Accounted (catalog : Catalog) (p : Progress) : Prop where
  reached : Reached catalog p
  completed : ∀ frame definition, .completed frame definition ∈ p.journal →
    .promoted frame ∈ p.journal ∧ catalog.Completes p frame definition

namespace Accounted

variable {catalog : Catalog} {p q : Progress} {frame : Frame} {definition : Definition}

theorem fresh (root : ReferenceRoot) : Accounted catalog (Contract.fresh catalog root) where
  reached := .fresh root
  completed _ _ h := absurd h List.not_mem_nil

theorem grows (h : Accounted catalog p) (hreached : Reached catalog q) (hpq : Grows p q)
    (hsame : ∀ frame definition, .completed frame definition ∈ q.journal →
      .completed frame definition ∈ p.journal) : Accounted catalog q where
  reached := hreached
  completed frame definition hmem := by
    obtain ⟨hpromoted, hcompletes⟩ := h.completed frame definition (hsame frame definition hmem)
    exact ⟨hpq.mem_journal hpromoted, hcompletes.grows hpq⟩

theorem complete (h : Accounted catalog p) (hpromoted : .promoted frame ∈ p.journal)
    (hcompletes : catalog.Completes p frame definition)
    (hhollow : definition = [] → catalog.HollowSubject frame.subject) :
    Accounted catalog (p.act (.completed frame definition)) where
  reached := h.reached.completed hpromoted hhollow
  completed other found hmem := by
    have hgrows := Grows.completed p frame definition
    rcases List.mem_cons.1 hmem with heq | hold
    · cases heq
      exact ⟨hgrows.mem_journal hpromoted, hcompletes.grows hgrows⟩
    · obtain ⟨hother, hfound⟩ := h.completed other found hold
      exact ⟨hgrows.mem_journal hother, hfound.grows hgrows⟩

end Accounted

/-- Definitions are accounted for. -/
def accounts (catalog : Catalog) : Contract catalog :=
  .ofInvariant (Accounted catalog)
    (fun h hstep _ => h.grows (h.reached.step hstep) hstep.grows fun _ _ => hstep.completed)
    (fun h hpromoted hcompletes hhollow => h.complete hpromoted hcompletes hhollow)
    fun h => h.grows (h.reached.applied _) (Settles.act _ ⟨_, rfl⟩ rfl).toGrows
      fun _ _ hmem => Progress.mem_of_mem_act hmem (by simp)

/-! ## Own definitions -/

/-- The construction is one of the type, with wrappers looked through. -/
def Frame.Constructs (catalog : Catalog) (frame : Frame) (type : TypeId) : Prop :=
  ∃ subject, catalog.graph.unwrap (catalog.graph.types.size + 1) type none = .ok subject ∧
    subject.id = frame.subject.id

namespace Catalog

variable {catalog : Catalog} {q : Progress} {definitions : Dict Definition} {type : TypeId}
  {name : String}

/-- The schema of the type as it is built where a declaration is asked for. -/
structure BuiltAsRoot (catalog : Catalog) (q : Progress) (type : TypeId) (frame : Frame)
    (definition : Definition) : Prop where
  frames : catalog.Frames q (catalog.member type) frame
  defined : ∃ annotations, catalog.description frame.subject.describing = .ok annotations ∧
    catalog.Defined (catalog.Yields q) catalog.options.unionKeyword none frame.subject
      frame.plan.isRaw (annotations.definition.merge Definition.empty) definition

/-- No definition was completed under the name. -/
def Untaken (journal : List Event) (name : String) : Prop :=
  ∀ frame definition, .completed frame definition ∈ journal → frame.plan.name ≠ name

/-- Under the name the document has the schema that was built for the type, or a reference that leads
to it. -/
inductive HasOwn (catalog : Catalog) (q : Progress) (definitions : Dict Definition)
    (type : TypeId) : String → Prop
  /-- A definition that references point to was completed by a construction of the type. -/
  | shared {frame : Frame} {definition : Definition} (hconstructs : frame.Constructs catalog type)
      (hget : Dict.get? definitions frame.plan.name = some definition)
      (hcompleted : .completed frame definition ∈ q.journal)
      (hcompletes : catalog.Completes q frame definition) :
      HasOwn catalog q definitions type frame.plan.name
  /-- Nothing was completed under the name, and the schema was built where the declaration was asked
  for. -/
  | inline {name : String} {frame : Frame} {definition : Definition}
      (huntaken : Untaken q.journal name) (hget : Dict.get? definitions name = some definition)
      (hbuilt : catalog.BuiltAsRoot q type frame definition) :
      HasOwn catalog q definitions type name
  /-- The declaration was answered by a reference to a definition of its type. -/
  | followed {name : String} {frame : Frame} {beside : Definition}
      (huntaken : Untaken q.journal name) (hconstructs : frame.Constructs catalog type)
      (hget : Dict.get? definitions name = some ((q.context.refTo frame.plan.name).merge beside))
      (hown : HasOwn catalog q definitions type frame.plan.name) :
      HasOwn catalog q definitions type name

/-- Under a name one definition is completed. -/
theorem completed_unique {root : ReferenceRoot} (h : Settles (Contract.fresh catalog root) q)
    {frame other : Frame} {definition found : Definition}
    (hframe : .completed frame definition ∈ q.journal)
    (hother : .completed other found ∈ q.journal) (hname : other.plan.name = frame.plan.name) :
    other = frame ∧ found = definition := by
  have hfirst : .completed frame definition ∈ writings q.journal frame.plan.name :=
    mem_writings hframe rfl
  have hsecond : .completed other found ∈ writings q.journal frame.plan.name :=
    mem_writings hother (congrArg some hname)
  cases h.entry frame.plan.name with
  | untouched _ hwritings =>
    rw [hwritings] at hfirst
    cases hfirst
  | @made made done _ _ _ hwritings =>
    have hlatest : ∀ {f : Frame} {d : Definition},
        .completed f d ∈ writings q.journal frame.plan.name →
          Event.completed f d = .completed made done := by
      intro f d hmem
      rw [hwritings] at hmem
      rcases List.mem_cons.1 hmem with heq | hrest
      · exact heq
      · rcases List.mem_cons.1 hrest with heq | hnone
        · cases heq
        · cases hnone
    have hsame := (hlatest hsecond).trans (hlatest hfirst).symm
    injection hsame with hframes hdefinitions
    exact ⟨hframes, hdefinitions⟩

/-- Whatever was completed under the name was built for the type. -/
theorem HasOwn.constructs {root : ReferenceRoot} (h : catalog.HasOwn q definitions type name)
    (hsettles : Settles (Contract.fresh catalog root) q) {frame : Frame} {definition : Definition}
    (hcompleted : .completed frame definition ∈ q.journal) (hname : frame.plan.name = name) :
    frame.Constructs catalog type := by
  cases h with
  | shared hconstructs _ hcompleted' _ =>
    exact (completed_unique hsettles hcompleted' hcompleted hname).1 ▸ hconstructs
  | inline huntaken _ _ => exact absurd hname (huntaken frame definition hcompleted)
  | followed huntaken _ _ _ => exact absurd hname (huntaken frame definition hcompleted)

section

variable {roots : List (String × Definition)} {patterns : List NamePattern}

/-- A name of the table has the definition that was completed under it. -/
theorem hasOwn_of_isReffed (hq : Accounted catalog q) (hcatalog : catalog.Fresh)
    (hsettles : Settles (Contract.fresh catalog .definitions) q)
    (hreffed : q.context.isReffed name = true)
    (hconstructs : ∀ frame definition, .completed frame definition ∈ q.journal →
      frame.plan.name = name → frame.Constructs catalog type) :
    catalog.HasOwn q (Dict.extend (Dict.ofEntries roots) q.context.reffed) type name := by
  have hgiven : (Dict.keys catalog.overrides).Nodup := by
    rw [hcatalog.overrides]
    exact List.nodup_nil
  cases hsettles.entry name with
  | untouched hget _ =>
    have hstart : (Contract.fresh catalog .definitions).context.reffed = [] := hcatalog.overrides
    rw [Context.isReffed, Dict.contains, hget, hstart] at hreffed
    cases hreffed
  | @made frame definition hname _ hget hwritings =>
    subst hname
    have hcompleted : .completed frame definition ∈ q.journal :=
      mem_of_mem_writings (hwritings ▸ List.mem_cons_self)
    exact .shared (hconstructs frame definition hcompleted rfl)
      (Dict.get?_extend_of_nodup (hq.reached.nodup_keys hgiven) hget) hcompleted
      (hq.completed frame definition hcompleted).2

/-- A reference that was answered for the type leads to a definition of the type, unless names clash. -/
theorem hasOwn_of_refersTo (hq : Accounted catalog q) (hcatalog : catalog.Fresh)
    (hsettles : Settles (Contract.fresh catalog .definitions) q)
    (hnames : catalog.options.uniqueNames = true → ∀ f g : Frame,
      f.NamedIn q.journal → g.NamedIn q.journal → ¬catalog.Clashes f g)
    {frame : Frame} (hframe : catalog.Frames q (catalog.member type) frame)
    (hrefers : RefersTo q frame) :
    catalog.HasOwn q (Dict.extend (Dict.ofEntries roots) q.context.reffed) type
      frame.plan.name := by
  refine hasOwn_of_isReffed hq hcatalog hsettles hrefers.reffed ?_
  intro other definition hcompleted hname
  obtain ⟨hpromoted, hcompletes⟩ := hq.completed other definition hcompleted
  obtain ⟨_, _, _, hother, _⟩ := hcompletes.derivation
  refine ⟨frame.subject, hframe.subject, Decidable.byContradiction fun hne => ?_⟩
  obtain ⟨hunique, hclash⟩ :=
    Named.clashes hcatalog.overrides hframe.named hother.named hname.symm hne
  rcases hclash with hclash | hclash
  · exact hnames hunique _ _ (.inl hrefers.referred) (.inr hpromoted) hclash
  · exact hnames hunique _ _ (.inr hpromoted) (.inl hrefers.referred) hclash

/-- A name that is not in the table has what was answered for its declaration. -/
theorem exists_root (hcatalog : catalog.Fresh)
    (hroots : List.Forall₂ ((accounts catalog).IsRoot q) (catalog.select patterns) roots)
    (hselected : (name, type) ∈ catalog.select patterns)
    (hreffed : ¬q.context.isReffed name = true) :
    ∃ value, Dict.get? (Dict.extend (Dict.ofEntries roots) q.context.reffed) name = some value ∧
      catalog.Yields q (catalog.member type) value := by
  obtain ⟨root, hroot, hisRoot⟩ := exists_right_of_forall₂ hroots hselected
  have hkey : name ∈ Dict.keys roots := List.mem_map.2 ⟨root, hroot, hisRoot.name⟩
  obtain ⟨value, hget, hmem⟩ :=
    Dict.get?_extend_of_contains (d := []) (Dict.contains_iff_mem_keys.2 hkey)
  -- Another declaration may be the last one that wrote the name, but then it is one of the same type.
  obtain ⟨⟨declared, other⟩, hother, hlast⟩ := exists_left_of_forall₂ hroots hmem
  obtain rfl : name = declared := hlast.name
  obtain rfl := hcatalog.eq_of_select hselected hother
  refine ⟨value, ?_, hlast.yields⟩
  rw [Dict.get?_extend_of_not_contains hreffed]
  exact hget

theorem hasOwn_of_not_isReffed (hq : Accounted catalog q) (hcatalog : catalog.Fresh)
    (hsettles : Settles (Contract.fresh catalog .definitions) q)
    (hroots : List.Forall₂ ((accounts catalog).IsRoot q) (catalog.select patterns) roots)
    (hnames : catalog.options.uniqueNames = true → ∀ f g : Frame,
      f.NamedIn q.journal → g.NamedIn q.journal → ¬catalog.Clashes f g)
    (hselected : (name, type) ∈ catalog.select patterns)
    (hreffed : ¬q.context.isReffed name = true) :
    catalog.HasOwn q (Dict.extend (Dict.ofEntries roots) q.context.reffed) type name := by
  have huntaken : Untaken q.journal name := by
    intro frame definition hmem hname
    have hwritten : .completed frame definition ∈ writings q.journal name :=
      mem_writings hmem (congrArg some hname)
    rw [hq.reached.writings_eq_nil (Bool.not_eq_true _ ▸ hreffed)] at hwritten
    cases hwritten
  obtain ⟨value, hget, hyields⟩ := exists_root hcatalog hroots hselected hreffed
  cases hyields with
  | settled h => cases h
  | inline hpart hframe hinline hannotations hschema =>
    rw [hcatalog.hook] at hget
    exact .inline huntaken hget ⟨hframe, _, hannotations, hschema.mono hpart⟩
  | linked hpart hframe hinline hannotations hschema hrefers =>
    rw [hcatalog.hook] at hget
    exact .followed huntaken ⟨_, hframe.subject, rfl⟩ hget
      (hasOwn_of_refersTo hq hcatalog hsettles hnames hframe hrefers)
  | referred hframe hreference hbeside hrefers =>
    rw [hcatalog.hook] at hget
    exact .followed huntaken ⟨_, hframe.subject, rfl⟩ hget
      (hasOwn_of_refersTo hq hcatalog hsettles hnames hframe hrefers)

end

/-- **Declarations and definitions.**  Unless names clash, a document has the schema of every declaration
that is matched under its name, or a reference there that leads to it, if and only if no construction
of another type completed a definition under that name. -/
theorem root_own_iff {graph : TypeGraph} {options : Options} {modules : Modules} {catalog : Catalog}
    (hcatalog : ofGraph graph options modules = .ok catalog) {patterns : List NamePattern}
    {definitions : Dict Definition} (hresult : (catalog.schemas patterns).result = .ok definitions)
    (hnames : catalog.options.uniqueNames = true → ∀ f g : Frame,
      f.NamedIn (catalog.schemas patterns).journal → g.NamedIn (catalog.schemas patterns).journal →
        ¬catalog.Clashes f g) :
    ∃ q, (catalog.schemas patterns).journal = q.journal ∧ Reached catalog q ∧
      ∀ pattern ∈ patterns, ∀ name type, (name, type) ∈ catalog.declared →
        pattern.selects name = true →
        (catalog.HasOwn q definitions type name ↔
          ∀ frame definition, .completed frame definition ∈ q.journal → frame.plan.name = name →
            frame.Constructs catalog type) := by
  have hfresh := fresh_of_ofGraph hcatalog
  cases hpatterns : patterns.isEmpty with
  | true =>
    obtain rfl := List.isEmpty_iff.1 hpatterns
    exact ⟨Contract.fresh catalog .definitions, rfl, .fresh _, List.forall_mem_nil _⟩
  | false =>
    obtain ⟨q, hjournal, hq, ⟨e, he, _⟩ | ⟨roots, hdone, hsettles, hroots⟩⟩ :=
      (accounts catalog).schemas_kept (Accounted.fresh _) (fun _ _ => trivial) hpatterns
    · rw [hresult] at he
      cases he
    · obtain rfl := Except.ok.inj (hresult.symm.trans hdone)
      rw [hjournal] at hnames
      refine ⟨q, hjournal, hq.reached, ?_⟩
      intro pattern hpattern name type hdeclared hselects
      have hselected : (name, type) ∈ catalog.select patterns := by
        rw [select, hpatterns]
        exact List.mem_flatMap.2 ⟨pattern, hpattern, List.mem_filter.2 ⟨hdeclared, hselects⟩⟩
      constructor
      · intro hown frame definition hcompleted hname
        exact hown.constructs hsettles hcompleted hname
      · intro hconstructs
        by_cases hreffed : q.context.isReffed name = true
        · exact hasOwn_of_isReffed hq hfresh hsettles hreffed hconstructs
        · exact hasOwn_of_not_isReffed hq hfresh hsettles hroots hnames hselected hreffed

/-- A catalog of two declared types that are both printed `A`, in different files, the first of which is
not declared by a name of its own. -/
def twins : Catalog where
  graph :=
    { types := #[{ kind := .object [{ symbol := ⟨3⟩, type := ⟨0⟩, isOptional := true }] false none
                   symbol := some ⟨0⟩ },
        { kind := .object [{ symbol := ⟨4⟩, type := ⟨3⟩ }] false none, symbol := some ⟨1⟩ },
        { kind := .object [{ symbol := ⟨5⟩, type := ⟨0⟩ }] false none, symbol := some ⟨2⟩ },
        { kind := .number }]
      symbols := #[{ name := "A", declaration := some ⟨"a.ts", 1, .interface, false⟩ },
        { name := "A", declaration := some ⟨"b.ts", 1, .interface, false⟩ },
        { name := "Root" }, { name := "next" }, { name := "y" }, { name := "a" }]
      declarations := [("Root", ⟨2⟩), ("A", ⟨1⟩)] }
  declared := [("Root", ⟨2⟩), ("A", ⟨1⟩)]

/-- What a call comes to that selects both declarations. -/
def twinsOutcome : Outcome (Dict Definition) :=
  twins.schemas [.exact "Root", .exact "A"]

/-- A definition was completed under the name `A`. -/
theorem exists_completed_twins : ∃ frame definition,
    .completed frame definition ∈ twinsOutcome.journal ∧ frame.plan.name = "A" := by
  have hsome : (twinsOutcome.journal.any fun event => match event with
      | .completed frame _ => frame.plan.name == "A"
      | _ => false) = true := by decide +kernel
  obtain ⟨event, hmem, hevent⟩ := List.any_eq_true.1 hsome
  split at hevent
  · rename_i frame definition
    exact ⟨frame, definition, hmem, eq_of_beq hevent⟩
  · cases hevent

/-- All that was completed was built for the first type, and so not for that which `A` declares. -/
theorem not_constructs_twins {frame : Frame} {definition : Definition}
    (hmem : .completed frame definition ∈ twinsOutcome.journal) :
    frame.plan.name = "A" ∧ ¬frame.Constructs twins ⟨1⟩ := by
  have hall : (twinsOutcome.journal.all fun event => match event with
      | .completed frame _ => frame.plan.name == "A" && frame.subject.id == ⟨0⟩
      | _ => true) = true := by decide +kernel
  obtain ⟨hname, hid⟩ := Bool.and_eq_true_iff.1 (List.all_eq_true.1 hall _ hmem)
  refine ⟨eq_of_beq hname, ?_⟩
  rintro ⟨subject, hsubject, hsame⟩
  obtain rfl := Except.ok.inj hsubject
  exact absurd (hsame.trans (eq_of_beq hid)) (by decide)

/-- Both declarations are matched and the call succeeds, but under `A` the document has the definition of
another type that goes by that name. -/
theorem exists_replaced_root :
    twins.graph.validate = .ok () ∧
    ofGraph twins.graph twins.options Modules.none = .ok twins ∧
    ("A", ⟨1⟩) ∈ twins.declared ∧ (NamePattern.exact "A").selects "A" = true ∧
    ∃ definitions, twinsOutcome.result = .ok definitions ∧
      ((Dict.get? definitions "A").bind Definition.properties?).map Dict.keys = some ["next"] ∧
      ∀ q, Reached twins q → twinsOutcome.journal = q.journal →
        ¬twins.HasOwn q definitions ⟨1⟩ "A" := by
  refine ⟨rfl, rfl, List.mem_cons_of_mem _ List.mem_cons_self, by decide, ?_⟩
  have hlisted : (twinsOutcome.result.toOption.bind fun definitions =>
      ((Dict.get? definitions "A").bind Definition.properties?).map Dict.keys) =
        some ["next"] := by decide +kernel
  cases hresult : twinsOutcome.result with
  | error error =>
    rw [hresult] at hlisted
    cases hlisted
  | ok definitions =>
    rw [hresult] at hlisted
    refine ⟨definitions, rfl, hlisted, fun q _ hjournal hown => ?_⟩
    obtain ⟨frame, definition, hmem, hname⟩ := exists_completed_twins
    generalize hkey : "A" = key at hown
    cases hown with
    | shared hconstructs _ hcompleted _ =>
      exact (not_constructs_twins (hjournal ▸ hcompleted)).2 hconstructs
    | inline huntaken _ _ =>
      exact huntaken frame definition (hjournal ▸ hmem) (hname.trans hkey)
    | followed huntaken _ _ _ =>
      exact huntaken frame definition (hjournal ▸ hmem) (hname.trans hkey)

/-- Of the two declarations one has its own schema and the other has not. -/
theorem root_own_iff_twins : ∃ definitions q, twinsOutcome.result = .ok definitions ∧
    twinsOutcome.journal = q.journal ∧ twins.HasOwn q definitions ⟨2⟩ "Root" ∧
      ¬twins.HasOwn q definitions ⟨1⟩ "A" := by
  have hdone : twinsOutcome.result.toOption.isSome = true := by decide +kernel
  cases hresult : twinsOutcome.result with
  | error error =>
    rw [hresult] at hdone
    cases hdone
  | ok definitions =>
    have hcatalog : ofGraph twins.graph twins.options Modules.none = .ok twins := rfl
    obtain ⟨q, hjournal, _, hroots⟩ :=
      root_own_iff hcatalog hresult fun hunique => Bool.noConfusion hunique
    refine ⟨definitions, q, rfl, hjournal, ?_, ?_⟩
    · refine (hroots (.exact "Root") List.mem_cons_self "Root" ⟨2⟩ List.mem_cons_self
        (by decide)).2 fun frame definition hmem hname => ?_
      obtain ⟨hother, _⟩ := not_constructs_twins (hjournal ▸ hmem)
      exact absurd (hname.symm.trans hother) (by decide)
    · intro hown
      obtain ⟨frame, definition, hmem, hname⟩ := exists_completed_twins
      have hconstructs := (hroots (.exact "A") (List.mem_cons_of_mem _ List.mem_cons_self) "A" ⟨1⟩
        (List.mem_cons_of_mem _ List.mem_cons_self) (by decide)).1 hown frame definition
        (hjournal ▸ hmem) hname
      exact (not_constructs_twins hmem).2 hconstructs

end Catalog

end TypeSchema
