import TypeSchema.Proofs.Graph.Failures
import TypeSchema.Proofs.History.Answers

/-!
# Roots do not disturb each other

All declarations that a call selects are built in one context, one after the other.  Where schemas are
built in place, no type leads back to itself and each property has a symbol of its own, each of them is
built as if it were the first one: between two of them nothing is left but names, which do not show, and
marks that the later one would make itself (`Between`).  So a document has the schema of each selected
declaration as it is at the start of a call (`Catalog.RootSchema`), and nothing else.

**`Catalog.roots_undisturbed`** is what follows for documents: the definition of a declaration is that of
the document of this declaration alone, and the order of the patterns does not matter, nor whether one is
given twice.
-/

set_option autoImplicit false

namespace TypeSchema

open Relation

namespace Catalog

/-- At the start of a call the type is answered with the schema. -/
def RootSchema (catalog : Catalog) (id : TypeId) (schema : Definition) : Prop :=
  ∃ q, (catalog.build (catalog.member id)).exec (Contract.fresh catalog .definitions) =
    (.ok schema, q)

theorem RootSchema.unique {catalog : Catalog} {id : TypeId} {schema schema' : Definition}
    (h : catalog.RootSchema id schema) (h' : catalog.RootSchema id schema') : schema' = schema := by
  obtain ⟨q, hrun⟩ := h
  obtain ⟨q', hrun'⟩ := h'
  have hsame : Except.ok schema = (Except.ok schema' : Except Error Definition) :=
    congrArg Prod.fst (hrun.symm.trans hrun')
  exact (Except.ok.inj hsame).symm

/-- The entry has the schema of the declaration, as it is at the start of a call. -/
def HasRoot (catalog : Catalog) (declared : String × TypeId) (entry : String × Definition) : Prop :=
  entry.1 = declared.1 ∧ catalog.RootSchema declared.2 entry.2

end Catalog

/-- Between two declarations of a call nothing is under construction, and every property that is marked
is one that would be marked anyhow. -/
structure Between (catalog : Catalog) (p : Progress) : Prop where
  sound : p.context.names.Sound
  inPlace : InPlace p
  guard : p.context.guard = []
  marks : ∀ property, catalog.graph.IsProperty property → property.symbol ∈ p.context.absent →
    catalog.LeavesMark property

namespace Between

variable {catalog : Catalog} {p q : Progress}

theorem fresh (hinlines : catalog.Inlines) :
    Between catalog (Contract.fresh catalog .definitions) where
  sound := NameRegistry.sound_empty
  inPlace := .fresh hinlines .definitions
  guard := rfl
  marks _ _ hmem := by cases hmem

theorem poses (h : Between catalog p) (hinlines : catalog.Inlines) {id : TypeId}
    (hid : catalog.graph.HasType id) : Poses catalog (catalog.member id) p where
  sound := h.sound
  inPlace := h.inPlace
  enclosed := .root hinlines trivial h.guard
  described _ howner := by cases howner
  hasType := hid
  hasSymbol _ hnamed := by cases hnamed
  marks property hinvolves hmem := h.marks property hinvolves.isProperty hmem
  apart _ _ howner := by cases howner

/-- What was built for nobody in particular leaves everything ready. -/
theorem follows (h : Between catalog p) (hpq : Follows catalog none p q) : Between catalog q where
  sound := hpq.sound
  inPlace := hpq.inPlace
  guard := hpq.settles.guard.trans h.guard
  marks property hproperty hmem := by
    rcases hpq.marks.made property hproperty hmem with hold | howner | hleaves
    · exact h.marks property hproperty hold
    · cases howner
    · exact hleaves

end Between

namespace Catalog

/-! ## Selection -/

/-- A name selects the declaration it belongs to. -/
theorem selected_exact_iff {catalog : Catalog} (hnodup : (Dict.keys catalog.declared).Nodup)
    {name : String} {id : TypeId} (hid : Dict.get? catalog.declared name = some id)
    {entry : String × TypeId} : catalog.Selected [.exact name] entry ↔ entry = (name, id) := by
  constructor
  · rintro ⟨hdeclared, pattern, hpattern, hselects⟩
    obtain rfl := List.mem_singleton.1 hpattern
    obtain rfl : name = entry.1 := by simpa [NamePattern.selects] using hselects
    have hfound := Dict.get?_of_mem hnodup (show (entry.1, entry.2) ∈ catalog.declared from hdeclared)
    rw [Option.some.inj (hid.symm.trans hfound)]
  · rintro rfl
    exact ⟨Dict.mem_of_get? hid, _, List.mem_singleton_self _, by simp [NamePattern.selects]⟩

/-! ## Declarations -/

section Roots

variable {catalog : Catalog} (hwhole : catalog.Whole) (hinlines : catalog.Inlines)
  (hacyclic : catalog.Acyclic) (hown : catalog.graph.OwnSymbols) {p : Progress}

include hwhole hinlines hacyclic hown

/-- A declaration is answered as at the start of a call, whatever was built before. -/
theorem post_root (hp : Between catalog p) {id : TypeId} (hid : catalog.graph.HasType id) :
    (catalog.build (catalog.member id)).Post p
      (fun schema q => catalog.RootSchema id schema ∧ Between catalog q)
      fun _ _ => ∀ schema, ¬catalog.RootSchema id schema := by
  have hsame : (catalog.build (catalog.member id)).Post₂ (catalog.build (catalog.member id)) p
      (Contract.fresh catalog .definitions) (fun schema schema' q q' => schema = schema' ∧
        Tracks catalog none p (Contract.fresh catalog .definitions) q q') catalog.Raises :=
    answersAnywhere hwhole hinlines hacyclic hown catalog.depthBound (hp.poses hinlines hid)
      ((Between.fresh hinlines).poses hinlines hid)
  refine hsame.exists_right.mono ?_ ?_
  · rintro schema q ⟨_, q', hrun, rfl, htracks⟩
    exact ⟨⟨q', hrun⟩, hp.follows htracks.left⟩
  · rintro error q ⟨q', hrun⟩ schema ⟨q'', hrun'⟩
    cases congrArg Prod.fst (hrun.symm.trans hrun')

/-- The declarations are answered one after the other, if each can be answered. -/
theorem post_roots (hp : Between catalog p) (done : Dict Definition)
    (selected : List (String × TypeId))
    (hselected : ∀ declared ∈ selected, catalog.graph.HasType declared.2) :
    (selected.foldlM (fun done entry => do
      return Dict.insert done entry.1 (← catalog.build (catalog.member entry.2))) done :
      BuildM (Dict Definition)).Post p
      (fun roots q => Between catalog q ∧ ∃ entries,
        List.Forall₂ catalog.HasRoot selected entries ∧ roots = Dict.extend done entries)
      fun _ _ => ∃ declared ∈ selected, ∀ schema, ¬catalog.RootSchema declared.2 schema := by
  induction selected generalizing done p with
  | nil => exact ⟨hp, [], .nil, rfl⟩
  | cons declared rest ih =>
    obtain ⟨hid, hrest⟩ := List.forall_mem_cons.1 hselected
    rw [List.foldlM_cons]
    refine BuildM.post_bind.2 (BuildM.post_bind.2 ?_)
    refine (post_root hwhole hinlines hacyclic hown hp hid).mono ?_ fun _ _ hnone =>
      ⟨declared, List.mem_cons_self, hnone⟩
    rintro schema q ⟨hschema, hq⟩
    refine (ih hq (Dict.insert done declared.1 schema) hrest).mono ?_ ?_
    · rintro roots r ⟨hr, entries, hentries, rfl⟩
      exact ⟨hr, (declared.1, schema) :: entries, .cons ⟨rfl, hschema⟩ hentries, rfl⟩
    · rintro _ _ ⟨other, hmem, hnone⟩
      exact ⟨other, List.mem_cons_of_mem _ hmem, hnone⟩

/-! ## Documents -/

/-- A document is that of the declarations by themselves, and there is one if each can be answered. -/
theorem schemas_roots {patterns : List NamePattern} (hpatterns : patterns.isEmpty = false) :
    (∃ entries, List.Forall₂ catalog.HasRoot (catalog.select patterns) entries ∧
      (catalog.schemas patterns).result = .ok (Dict.ofEntries entries)) ∨
    ((∃ error, (catalog.schemas patterns).result = .error error) ∧
      ∃ declared ∈ catalog.select patterns, ∀ schema, ¬catalog.RootSchema declared.2 schema) := by
  have hroots := post_roots hwhole hinlines hacyclic hown (Between.fresh hinlines) []
    (catalog.select patterns) fun _ => hasType_of_mem_select hwhole
  have hdocument : (do
      let roots ← catalog.definitions (catalog.select patterns)
      return Dict.extend roots (← BuildM.context).reffed : BuildM (Dict Definition)).Post
        { context := Context.start .definitions catalog.overrides }
        (fun document _ => ∃ entries, List.Forall₂ catalog.HasRoot (catalog.select patterns) entries ∧
          document = Dict.ofEntries entries)
        fun _ _ => ∃ declared ∈ catalog.select patterns, ∀ schema,
          ¬catalog.RootSchema declared.2 schema := by
    refine BuildM.Post.bind hroots ?_
    rintro roots q ⟨hq, entries, hentries, rfl⟩
    refine BuildM.post_bind.2 (BuildM.post_context.2 ⟨entries, hentries, ?_⟩)
    rw [hq.inPlace.reffed]
    rfl
  rw [schemas, hpatterns]
  rcases hdocument.run with ⟨document, _, hresult, _, entries, hentries, rfl⟩ |
    ⟨error, _, hresult, _, hnone⟩
  · exact .inl ⟨entries, hentries, hresult⟩
  · exact .inr ⟨⟨error, hresult⟩, hnone⟩

/-- The document has the schemas of the selected declarations, and nothing else. -/
theorem get?_schemas_iff (hnodup : (Dict.keys catalog.declared).Nodup)
    {patterns : List NamePattern} (hpatterns : patterns.isEmpty = false) {document : Dict Definition}
    (hdocument : (catalog.schemas patterns).result = .ok document) {name : String}
    {schema : Definition} :
    Dict.get? document name = some schema ↔
      ∃ id, catalog.Selected patterns (name, id) ∧ catalog.RootSchema id schema := by
  rcases schemas_roots hwhole hinlines hacyclic hown hpatterns with
    ⟨entries, hentries, hresult⟩ | ⟨⟨error, hresult⟩, -⟩
  · obtain rfl := Except.ok.inj (hdocument.symm.trans hresult)
    have hiff : ∀ name schema, (name, schema) ∈ entries ↔
        ∃ id, catalog.Selected patterns (name, id) ∧ catalog.RootSchema id schema := by
      intro name schema
      constructor
      · intro hmem
        obtain ⟨⟨_, id⟩, hselected, rfl, hschema⟩ := exists_left_of_forall₂ hentries hmem
        exact ⟨id, (mem_select_iff hpatterns).1 hselected, hschema⟩
      · rintro ⟨id, hselected, hschema⟩
        obtain ⟨⟨_, found⟩, hmem, rfl, hfound⟩ :=
          exists_right_of_forall₂ hentries ((mem_select_iff hpatterns).2 hselected)
        exact hschema.unique hfound ▸ hmem
    rw [Dict.get?_ofEntries_iff, hiff]
    intro key value value' hmem hmem'
    obtain ⟨id, hselected, hvalue⟩ := (hiff key value).1 hmem
    obtain ⟨id', hselected', hvalue'⟩ := (hiff key value').1 hmem'
    have hid : some id = some id' := (Dict.get?_of_mem hnodup hselected.1).symm.trans
      (Dict.get?_of_mem hnodup hselected'.1)
    obtain rfl := Option.some.inj hid
    exact hvalue.unique hvalue'
  · cases hdocument.symm.trans hresult

/-- What a document selects can be answered at the start of a call. -/
theorem exists_rootSchema {patterns : List NamePattern} (hpatterns : patterns.isEmpty = false)
    {document : Dict Definition} (hdocument : (catalog.schemas patterns).result = .ok document)
    {entry : String × TypeId} (hselected : catalog.Selected patterns entry) :
    ∃ schema, catalog.RootSchema entry.2 schema := by
  rcases schemas_roots hwhole hinlines hacyclic hown hpatterns with
    ⟨entries, hentries, -⟩ | ⟨⟨error, hresult⟩, -⟩
  · obtain ⟨root, -, -, hschema⟩ :=
      exists_right_of_forall₂ hentries ((mem_select_iff hpatterns).2 hselected)
    exact ⟨root.2, hschema⟩
  · cases hdocument.symm.trans hresult

/-- There is a document of what can be answered at the start of a call. -/
theorem exists_schemas {patterns : List NamePattern} (hpatterns : patterns.isEmpty = false)
    (hroots : ∀ entry, catalog.Selected patterns entry →
      ∃ schema, catalog.RootSchema entry.2 schema) :
    ∃ document, (catalog.schemas patterns).result = .ok document := by
  rcases schemas_roots hwhole hinlines hacyclic hown hpatterns with
    ⟨entries, -, hresult⟩ | ⟨-, declared, hmem, hnone⟩
  · exact ⟨_, hresult⟩
  · obtain ⟨schema, hschema⟩ := hroots declared ((mem_select_iff hpatterns).1 hmem)
    exact absurd hschema (hnone schema)

/-- What selects no more than a document does has a document too. -/
theorem exists_schemas_of_subset {patterns others : List NamePattern}
    (hpatterns : patterns.isEmpty = false) (hothers : others.isEmpty = false)
    {document : Dict Definition} (hdocument : (catalog.schemas patterns).result = .ok document)
    (hsubset : ∀ entry, catalog.Selected others entry → catalog.Selected patterns entry) :
    ∃ other, (catalog.schemas others).result = .ok other :=
  exists_schemas hwhole hinlines hacyclic hown hothers fun entry hentry =>
    exists_rootSchema hwhole hinlines hacyclic hown hpatterns hdocument (hsubset entry hentry)

/-- A declaration has the same definition in a document and in the one of this declaration alone. -/
theorem schemas_exact (hnodup : (Dict.keys catalog.declared).Nodup)
    {patterns : List NamePattern} (hpatterns : patterns.isEmpty = false) {document : Dict Definition}
    (hdocument : (catalog.schemas patterns).result = .ok document) {name : String} {id : TypeId}
    (hselected : catalog.Selected patterns (name, id)) :
    ∃ single definition, (catalog.schemas [.exact name]).result = .ok single ∧
      Dict.get? single name = some definition ∧ Dict.get? document name = some definition := by
  have hid : Dict.get? catalog.declared name = some id := Dict.get?_of_mem hnodup hselected.1
  have halone : ∀ entry, catalog.Selected [.exact name] entry ↔ entry = (name, id) :=
    fun _ => selected_exact_iff hnodup hid
  have hexact : [NamePattern.exact name].isEmpty = false := rfl
  obtain ⟨schema, hschema⟩ :=
    exists_rootSchema hwhole hinlines hacyclic hown hpatterns hdocument hselected
  obtain ⟨single, hsingle⟩ := exists_schemas_of_subset hwhole hinlines hacyclic hown hpatterns hexact
    hdocument fun entry hentry => (halone entry).1 hentry ▸ hselected
  refine ⟨single, schema, hsingle, ?_, ?_⟩
  · exact (get?_schemas_iff hwhole hinlines hacyclic hown hnodup hexact hsingle).2
      ⟨id, (halone _).2 rfl, hschema⟩
  · exact (get?_schemas_iff hwhole hinlines hacyclic hown hnodup hpatterns hdocument).2
      ⟨id, hselected, hschema⟩

/-- The same patterns have the same document, in whatever order they are given and however often. -/
theorem schemas_congr (hnodup : (Dict.keys catalog.declared).Nodup)
    {patterns others : List NamePattern}
    (hsame : ∀ pattern, pattern ∈ others ↔ pattern ∈ patterns) {document : Dict Definition}
    (hdocument : (catalog.schemas patterns).result = .ok document) :
    ∃ other, (catalog.schemas others).result = .ok other ∧
      ∀ name, Dict.get? other name = Dict.get? document name := by
  cases hpatterns : patterns.isEmpty with
  | true =>
    obtain rfl := List.isEmpty_iff.1 hpatterns
    obtain rfl : others = [] := List.eq_nil_iff_forall_not_mem.2 fun pattern hmem => by
      simpa using (hsame pattern).1 hmem
    exact ⟨document, hdocument, fun _ => rfl⟩
  | false =>
    have hothers : others.isEmpty = false := by
      obtain ⟨pattern, hpattern⟩ := List.exists_mem_of_ne_nil _ (List.isEmpty_eq_false_iff.1 hpatterns)
      exact List.isEmpty_eq_false_iff.2 (List.ne_nil_of_mem ((hsame pattern).2 hpattern))
    have hselected : ∀ entry, catalog.Selected others entry ↔ catalog.Selected patterns entry := by
      intro entry
      simp only [Selected, hsame]
    obtain ⟨other, hresult⟩ := exists_schemas_of_subset hwhole hinlines hacyclic hown hpatterns hothers
      hdocument fun entry => (hselected entry).1
    refine ⟨other, hresult, fun name => Option.ext fun schema => ?_⟩
    rw [get?_schemas_iff hwhole hinlines hacyclic hown hnodup hothers hresult,
      get?_schemas_iff hwhole hinlines hacyclic hown hnodup hpatterns hdocument]
    simp only [hselected]

end Roots

/-- **Roots do not disturb each other** where schemas are built in place, no type leads back to itself,
and the symbol of each property is its own.  The definition of a declaration in a document is the one in
the document of this declaration alone; and two lists of the same patterns have the same document, in
whatever order they are given and however often. -/
theorem roots_undisturbed {catalog : Catalog} {graph : TypeGraph}
    (hvalid : graph.validate = .ok ()) (hcatalog : catalog.IsOf graph)
    (hinlines : catalog.Inlines) (hacyclic : catalog.Acyclic) (hown : graph.OwnSymbols)
    {patterns : List NamePattern} {document : Dict Definition}
    (hdocument : (catalog.schemas patterns).result = .ok document) :
    (∀ name, Dict.contains catalog.declared name = true →
      (∃ pattern ∈ patterns, pattern.selects name = true) →
      ∃ single definition, (catalog.schemas [.exact name]).result = .ok single ∧
        Dict.get? single name = some definition ∧ Dict.get? document name = some definition) ∧
    ∀ others : List NamePattern, (∀ pattern, pattern ∈ others ↔ pattern ∈ patterns) →
      ∃ other, (catalog.schemas others).result = .ok other ∧
        ∀ name, Dict.get? other name = Dict.get? document name := by
  obtain ⟨hwhole, rfl⟩ := hcatalog.whole hvalid
  have hnodup := hcatalog.nodup_declared
  constructor
  · rintro name hname ⟨pattern, hpattern, hselects⟩
    have hpatterns : patterns.isEmpty = false :=
      List.isEmpty_eq_false_iff.2 (List.ne_nil_of_mem hpattern)
    obtain ⟨id, hid⟩ := Option.isSome_iff_exists.1 hname
    exact schemas_exact hwhole hinlines hacyclic hown hnodup hpatterns hdocument
      ⟨Dict.mem_of_get? hid, pattern, hpattern, hselects⟩
  · intro others hsame
    exact schemas_congr hwhole hinlines hacyclic hown hnodup hsame hdocument

/-- A catalog of two declarations, a library and a book that it has; the book has a sequel that may be
missing. -/
def libraryAndBook : Catalog where
  graph :=
    { types := #[{ kind := .string }, { kind := .undefined }, { kind := .union [⟨1⟩, ⟨0⟩] },
        { kind := .object [{ symbol := ⟨1⟩, type := ⟨0⟩ }, { symbol := ⟨2⟩, type := ⟨2⟩ }] false none
          symbol := some ⟨0⟩ },
        { kind := .object [{ symbol := ⟨4⟩, type := ⟨3⟩ }, { symbol := ⟨5⟩, type := ⟨2⟩ }] false none
          symbol := some ⟨3⟩ }]
      symbols := #[{ name := "Book" }, { name := "title" }, { name := "sequel" }, { name := "Library" },
        { name := "newest" }, { name := "motto" }]
      declarations := [("Library", ⟨4⟩), ("Book", ⟨3⟩)] }
  declared := [("Library", ⟨4⟩), ("Book", ⟨3⟩)]

theorem isOf_libraryAndBook : libraryAndBook.IsOf libraryAndBook.graph :=
  ⟨libraryAndBook.options, Modules.none, libraryAndBook, rfl, rfl⟩

/-- Each type is made of earlier ones. -/
theorem leadsTo_libraryAndBook {id part : TypeId} (h : libraryAndBook.LeadsTo id part) :
    part.index.toNat < id.index.toNat := by
  have hparts : ∀ id ∈ libraryAndBook.graph.ids,
      ∀ node ∈ libraryAndBook.graph.type? id, node.aliasSymbol = none ∧
        node.numberIndex = none ∧ ∀ part ∈ node.kind.typeRefs,
          part.index.toNat < id.index.toNat := by
    decide
  rcases h with ⟨node, hnode, hwrapped⟩ | ⟨node, hnode, _, hpart⟩
  · obtain ⟨halias, _⟩ :=
      hparts id (TypeGraph.mem_ids hnode) node (TypeGraph.lookupType_eq_ok_iff.1 hnode)
    rw [TypeGraph.wrapped?.eq_def, halias] at hwrapped
    cases hwrapped
  · obtain ⟨-, hindex, hrefs⟩ :=
      hparts id (TypeGraph.mem_ids hnode) node (TypeGraph.lookupType_eq_ok_iff.1 hnode)
    refine hrefs part ?_
    cases hpart with
    | member hkind hmem => rw [hkind]; exact hmem
    | factor hkind hmem => rw [hkind]; exact hmem
    | element hkind hmem => rw [hkind]; exact hmem
    | item hitem => rw [hindex] at hitem; cases hitem
    | value hkind => rw [hkind]; simp [TypeKind.typeRefs]
    | property hmem =>
      cases hkind : node.kind with
      | object properties anonymous index =>
        rw [TypeNode.properties, hkind] at hmem
        exact List.mem_append_left _ (List.mem_map_of_mem hmem)
      | _ =>
        rw [TypeNode.properties, hkind] at hmem
        cases hmem
    | subtype _ _ _ _ hnames _ _ => cases hnames

theorem acyclic_libraryAndBook : libraryAndBook.Acyclic :=
  .of_decreasing (fun id => id.index.toNat) leadsTo_libraryAndBook

theorem ownSymbols_libraryAndBook : libraryAndBook.graph.OwnSymbols where
  property {id other node otherNode property another} hnode hother hmem hmem' hsymbol := by
    have hall : ∀ id ∈ libraryAndBook.graph.ids, ∀ other ∈ libraryAndBook.graph.ids,
        ∀ node ∈ libraryAndBook.graph.type? id,
        ∀ otherNode ∈ libraryAndBook.graph.type? other,
        ∀ property ∈ node.properties, ∀ another ∈ otherNode.properties,
          another.symbol = property.symbol → other = id ∧ another = property := by
      decide
    exact hall id (TypeGraph.mem_ids hnode) other (TypeGraph.mem_ids hother)
      node (TypeGraph.lookupType_eq_ok_iff.1 hnode)
      otherNode (TypeGraph.lookupType_eq_ok_iff.1 hother) property hmem another hmem' hsymbol
  unaliased {property id node} _ hnode halias := by
    have hall : ∀ id ∈ libraryAndBook.graph.ids,
        ∀ node ∈ libraryAndBook.graph.type? id, node.aliasSymbol = none := by
      decide
    have hnone := hall id (TypeGraph.mem_ids hnode) node (TypeGraph.lookupType_eq_ok_iff.1 hnode)
    cases hnone.symm.trans halias

/-- The book is described in the document of both as by itself, although its sequel is marked when the
library is built, which comes first; and it may be asked for twice. -/
theorem roots_undisturbed_libraryAndBook :
    ∃ document single definition other,
      (libraryAndBook.schemas [.exact "Library", .exact "Book"]).result = .ok document ∧
      (libraryAndBook.schemas [.exact "Book"]).result = .ok single ∧
      Dict.get? single "Book" = some definition ∧ Dict.get? document "Book" = some definition ∧
      (libraryAndBook.schemas [.exact "Book", .exact "Library", .exact "Book"]).result = .ok other ∧
      ∀ name, Dict.get? other name = Dict.get? document name := by
  have hvalid : libraryAndBook.graph.validate = .ok () := rfl
  have hinlines : libraryAndBook.Inlines := ⟨rfl, rfl, rfl⟩
  have hok : (libraryAndBook.schemas [.exact "Library", .exact "Book"]).result.isOk = true := by
    decide +kernel
  cases hdocument : (libraryAndBook.schemas [.exact "Library", .exact "Book"]).result with
  | error error =>
    rw [hdocument] at hok
    cases hok
  | ok document =>
    obtain ⟨halone, hsame⟩ := roots_undisturbed hvalid isOf_libraryAndBook hinlines
      acyclic_libraryAndBook ownSymbols_libraryAndBook hdocument
    obtain ⟨single, definition, hsingle, hdefinition, hthere⟩ :=
      halone "Book" (by decide) ⟨.exact "Book", by simp, by decide⟩
    have hmembers : ∀ pattern : NamePattern,
        pattern ∈ [NamePattern.exact "Book", .exact "Library", .exact "Book"] ↔
          pattern ∈ [NamePattern.exact "Library", .exact "Book"] := by
      intro pattern
      simp only [List.mem_cons, List.not_mem_nil, or_false]
      constructor
      · rintro (h | h | h)
        exacts [.inr h, .inl h, .inr h]
      · rintro (h | h)
        exacts [.inr (.inl h), .inl h]
    obtain ⟨other, hother, hget⟩ := hsame _ hmembers
    exact ⟨document, single, definition, other, rfl, hsingle, hdefinition, hthere, hother, hget⟩

end Catalog

end TypeSchema
