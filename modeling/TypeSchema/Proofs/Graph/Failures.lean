import TypeSchema.OpenApi.Assembly
import TypeSchema.Proofs.Building.Calls
import TypeSchema.Proofs.Context.Alike
import TypeSchema.Proofs.Names.Roots

/-!
# How calls can fail

Whatever is built from a graph looks types and symbols up by their positions, and names by the table
of declarations.  In a catalog that is whole each of these lookups finds something, so no failure is
a lookup that found nothing: a construction fails in one of the ways of `Catalog.Raises`, and a
call, which may also read API shapes, in one of those of `Catalog.Stops`.

That the builder keeps to this was proved of two runs side by side (`Catalog.answersAlike`) and is
used here for a run beside itself.  The assembly of operations has a lemma for each function, in the
small logic of `Catalog.Finds`.

Two results speak of all calls.  **`Catalog.lookups_succeed`** says that the check of a graph
accepts what makes every lookup succeed, no less and no more.
**`Catalog.fails_only_if_unsupported`** says what is left where, besides, no problem is reported and
no tag asks for a module: a document of definitions that does not end with an endless type fails at
a type that no schema can describe, if at all.
-/

set_option autoImplicit false

namespace TypeSchema

namespace Catalog

open BuildM OpenApi

variable {catalog : Catalog} {α β : Type} {m : BuildM α} {good : α → Prop} {G : β → Prop}
  {id : TypeId} {node : TypeNode} {property : Property}

/-! ## How a call can fail -/

/-- How a call can fail in a catalog that is whole: as a construction can, or at a shape that
describes no operation. -/
inductive Stops (catalog : Catalog) : Error → Prop
  | raised {error : Error} (h : catalog.Raises error) : Stops catalog error
  | shape (name : String) (fault : ShapeFault) : Stops catalog (.shape name fault)
  | status (name status : String) : Stops catalog (.invalidStatusCode name status)

theorem Raises.ne_missing {error : Error} (h : catalog.Raises error) (missing : Missing) :
    error ≠ .missing missing := by
  cases h <;> nofun

theorem Stops.ne_missing {error : Error} (h : catalog.Stops error) (missing : Missing) :
    error ≠ .missing missing := by
  cases h with
  | raised h => exact h.ne_missing missing
  | shape name fault => nofun
  | status name status => nofun

/-- A request for a type of the graph fails in one of the ways that are listed. -/
theorem post_buildWithin (hwhole : catalog.Whole) (depth : Nat) (request : Request)
    (htype : catalog.graph.HasType request.type)
    (hnamed : ∀ id, request.named = some id → catalog.graph.HasSymbol id) (p : Progress) :
    (catalog.buildWithin depth request).Post p (fun _ _ => True) fun e _ => catalog.Raises e := by
  have hself : catalog.Paired (fun _ => True) request request :=
    ⟨rfl, rfl, rfl, rfl, htype, hnamed, fun _ _ => trivial, .inl (.refl _)⟩
  have hcontext : p.context.Alike (fun _ => True) p.context :=
    ⟨rfl, rfl, rfl, rfl, fun _ _ => Iff.rfl⟩
  have hboth := answersAlike hwhole depth request request p.context.guard p.context.guard hself
    (fun _ _ _ => rfl) p p ⟨hcontext, rfl, rfl⟩
  exact hboth.post.imp fun _ _ _ => trivial

/-! ## The logic of lookups -/

/-- From any progress the construction finds whatever it looks up, and its answers are as stated. -/
def Finds (catalog : Catalog) (m : BuildM α) (good : α → Prop) : Prop :=
  ∀ p, m.Post p (fun a _ => good a) fun e _ => catalog.Stops e

theorem Finds.pure {a : α} (h : good a) : catalog.Finds (pure a) good :=
  fun _ => (post_pure a).2 h

theorem Finds.throw {error : Error} (h : catalog.Stops error) :
    catalog.Finds (throw error : BuildM α) good :=
  fun _ => (post_throw error).2 h

theorem Finds.bind {f : α → BuildM β} (hm : catalog.Finds m good)
    (hf : ∀ a, good a → catalog.Finds (f a) G) : catalog.Finds (m >>= f) G :=
  fun p => (hm p).bind fun a q ha => hf a ha q

theorem Finds.map {f : α → β} (hm : catalog.Finds m good) (hf : ∀ a, good a → G (f a)) :
    catalog.Finds (do return f (← m)) G :=
  hm.bind fun a ha => .pure (hf a ha)

/-- What the answers are may not matter. -/
theorem Finds.forget (hm : catalog.Finds m good) : catalog.Finds m fun _ => True :=
  fun p => (hm p).imp fun _ _ _ => trivial

theorem Finds.context {f : Context → BuildM β} (hf : ∀ context, catalog.Finds (f context) G) :
    catalog.Finds (BuildM.context >>= f) G :=
  fun p => post_bind.2 (post_context.2 (hf p.context p))

theorem Finds.mapM {f : α → BuildM β} {l : List α} (h : ∀ a ∈ l, catalog.Finds (f a) G) :
    catalog.Finds (l.mapM f) fun bs => ∀ b ∈ bs, G b := by
  induction l with
  | nil =>
    rw [List.mapM_nil]
    exact .pure (List.forall_mem_nil _)
  | cons a rest ih =>
    obtain ⟨hfirst, hrest⟩ := List.forall_mem_cons.1 h
    rw [List.mapM_cons]
    exact hfirst.bind fun b hb => (ih hrest).map fun bs hbs => List.forall_mem_cons.2 ⟨hb, hbs⟩

theorem Finds.foldlM {f : β → α → BuildM β} {l : List α}
    (h : ∀ a ∈ l, ∀ done, catalog.Finds (f done a) fun _ => True) (start : β) :
    catalog.Finds (l.foldlM f start) fun _ => True :=
  fun _ => Post.foldlM l trivial fun a ha done q _ => h a ha done q

theorem finds_type (hid : catalog.graph.HasType id) :
    catalog.Finds (catalog.type id) fun node => catalog.graph.lookupType id = .ok node := by
  obtain ⟨node, hnode⟩ := TypeGraph.found_type hid
  rw [Catalog.type, hnode]
  exact .pure rfl

theorem finds_symbol {id : SymbolId} (hid : catalog.graph.HasSymbol id) :
    catalog.Finds (catalog.symbol id) fun symbol =>
      catalog.graph.lookupSymbol id = .ok symbol := by
  obtain ⟨symbol, hsymbol⟩ := TypeGraph.found_symbol hid
  rw [Catalog.symbol, hsymbol]
  exact .pure rfl

theorem finds_annotations {id : SymbolId} (hid : catalog.graph.HasSymbol id) :
    catalog.Finds (catalog.annotations id) fun _ => True := by
  rw [Catalog.annotations]
  refine (finds_symbol hid).bind fun symbol hsymbol => ?_
  cases hread : catalog.reader.read symbol with
  | ok annotations => exact .pure trivial
  | error e => exact .throw (.raised (Accord.raises_of_extend hsymbol hread))

/-! ## What a shape is made of -/

theorem finds_isPlainObject (hnode : catalog.graph.NodeInRange node) :
    catalog.Finds (catalog.isPlainObject node) fun _ => True := by
  rw [isPlainObject]
  split
  · exact .pure trivial
  · rename_i members hkind
    exact (Finds.mapM fun member hmem => (finds_type (hnode.factor hkind hmem)).forget).map
      fun _ _ => trivial
  · exact .pure trivial

theorem finds_shapeMember? (hnode : catalog.graph.NodeInRange node) (key : String) :
    catalog.Finds (catalog.shapeMember? node key) fun member =>
      ∀ property, member = some property → catalog.graph.PropertyInRange property := by
  have heach : ∀ property ∈ node.properties, catalog.Finds
      (do return ((← catalog.symbol property.symbol).name, property))
      fun entry => catalog.graph.PropertyInRange entry.2 := fun property hmem =>
    (finds_symbol (hnode.property hmem).symbol).map fun _ _ => hnode.property hmem
  rw [shapeMember?]
  refine (Finds.mapM heach).map fun named hnamed property hproperty => ?_
  obtain ⟨entry, hfound, rfl⟩ := Option.map_eq_some_iff.1 hproperty
  exact hnamed entry (List.mem_of_find?_eq_some hfound)

theorem finds_requiredMember (hnode : catalog.graph.NodeInRange node) (shape key : String) :
    catalog.Finds (catalog.requiredMember shape node key) catalog.graph.PropertyInRange := by
  rw [requiredMember]
  refine (finds_shapeMember? hnode key).bind fun member hmember => ?_
  cases member with
  | some property => exact .pure (hmember property rfl)
  | none => exact .throw (.shape _ _)

theorem finds_literalMember (hproperty : catalog.graph.PropertyInRange property)
    (shape key : String) :
    catalog.Finds (catalog.literalMember shape key property) fun _ => True := by
  rw [literalMember]
  refine (finds_type hproperty.type).bind fun node _ => ?_
  split
  · exact .pure trivial
  · exact .throw (.shape _ _)

theorem finds_shapeMethod (hproperty : catalog.graph.PropertyInRange property) (shape : String) :
    catalog.Finds (catalog.shapeMethod shape property) fun _ => True := by
  rw [shapeMethod]
  refine (finds_literalMember hproperty _ _).bind fun text _ => ?_
  split
  · exact .pure trivial
  · exact .throw (.shape _ _)

theorem finds_checkResponse (hnode : catalog.graph.NodeInRange node) (shape status : String) :
    catalog.Finds (catalog.checkResponse shape status node) fun _ => True := by
  rw [checkResponse]
  split
  · exact .pure trivial
  · refine (finds_isPlainObject hnode).bind fun isPlain _ => ?_
    split
    · exact .pure trivial
    · exact .throw (.shape _ _)

theorem finds_customEntry (hproperty : catalog.graph.PropertyInRange property) :
    catalog.Finds (catalog.customEntry property) fun _ => True := by
  rw [customEntry]
  refine (finds_symbol hproperty.symbol).bind fun symbol _ => ?_
  dsimp only
  split
  · exact .pure trivial
  · exact (finds_type hproperty.type).bind fun node _ => .pure trivial

theorem finds_customEntries (hnode : catalog.graph.NodeInRange node) :
    catalog.Finds (catalog.customEntries node) fun _ => True := by
  rw [customEntries]
  split
  · exact (Finds.mapM fun property hmem => finds_customEntry (hnode.property hmem)).map
      fun _ _ => trivial
  · exact .pure trivial

theorem finds_withMember (hnode : catalog.graph.NodeInRange node) (key : String) (absent : α)
    {work : TypeId → BuildM α}
    (hwork : ∀ id, catalog.graph.HasType id → catalog.Finds (work id) fun _ => True) :
    catalog.Finds (catalog.withMember node key absent work) fun _ => True := by
  rw [withMember]
  refine (finds_shapeMember? hnode key).bind fun member hmember => ?_
  cases member with
  | some property => exact hwork property.type (hmember property rfl).type
  | none => exact .pure trivial

theorem finds_shapeAnnotations (hnode : catalog.graph.NodeInRange node) :
    catalog.Finds (catalog.shapeAnnotations node) fun _ => True := by
  rw [shapeAnnotations]
  split
  · rename_i id hnaming
    have hid := hnode.namingSymbol id hnaming
    exact (finds_annotations hid).bind fun annotations _ => (finds_symbol hid).bind fun _ _ =>
      .pure trivial
  · exact .pure trivial

/-! ## The schemas of a shape -/

section Shapes

variable (hwhole : catalog.Whole)

include hwhole

theorem finds_build {named : Option SymbolId} (hid : catalog.graph.HasType id)
    (hnamed : ∀ symbol, named = some symbol → catalog.graph.HasSymbol symbol) :
    catalog.Finds (catalog.build (catalog.member id named)) fun _ => True :=
  fun p => (post_buildWithin hwhole catalog.depthBound _ hid hnamed p).mono (fun _ _ h => h)
    fun _ _ h => .raised h

theorem finds_memberSchema (hid : catalog.graph.HasType id) :
    catalog.Finds (catalog.memberSchema id) fun _ => True := by
  rw [memberSchema]
  refine (finds_type hid).bind fun node hnode => ?_
  refine (finds_build hwhole hid (hwhole.graph.nodeInRange hnode).symbol).bind fun schema _ => ?_
  exact .context fun context => .pure trivial

theorem finds_parameters (hid : catalog.graph.HasType id) (shape key : String)
    (location : ParameterLocation) :
    catalog.Finds (catalog.parameters shape key location id) fun _ => True := by
  rw [parameters]
  refine (finds_type hid).bind fun node hnode => ?_
  split
  · exact .pure trivial
  · refine (finds_isPlainObject (hwhole.graph.nodeInRange hnode)).bind fun isPlain _ => ?_
    split
    · exact (finds_memberSchema hwhole hid).bind fun schema _ => .context fun context => .pure trivial
    · exact .throw (.shape _ _)

theorem finds_requestBody (hid : catalog.graph.HasType id) (shape : String) (keywords : Dict Json) :
    catalog.Finds (catalog.requestBody shape keywords id) fun _ => True := by
  rw [requestBody]
  refine (finds_type hid).bind fun node hnode => ?_
  have hrange := hwhole.graph.nodeInRange hnode
  split
  · exact .pure trivial
  · refine (finds_isPlainObject hrange).bind fun isPlain _ => ?_
    split
    · exact (finds_build hwhole hid hrange.symbol).map fun _ _ => trivial
    · exact .throw (.shape _ _)

theorem finds_describeResponse (hproperty : catalog.graph.PropertyInRange property)
    (hnode : catalog.graph.NodeInRange node) :
    catalog.Finds (catalog.describeResponse property node) fun _ => True := by
  rw [describeResponse]
  refine (finds_annotations hproperty.symbol).bind fun annotations _ => ?_
  dsimp only
  split
  · exact .pure trivial
  · exact (finds_build hwhole hproperty.type hnode.aliasSymbol).map fun _ _ => trivial

theorem finds_response (hproperty : catalog.graph.PropertyInRange property) (shape : String) :
    catalog.Finds (catalog.response shape property) fun _ => True := by
  rw [response]
  refine (finds_symbol hproperty.symbol).bind fun symbol _ => ?_
  dsimp only
  split
  · exact (Finds.throw (.status _ _)).bind fun _ h => h
  · refine (finds_type hproperty.type).bind fun node hnode => ?_
    have hrange := hwhole.graph.nodeInRange hnode
    refine (finds_checkResponse hrange shape _).bind fun _ _ => ?_
    exact (finds_describeResponse hwhole hproperty hrange).map fun _ _ => trivial

theorem finds_responses (hid : catalog.graph.HasType id) (shape : String) :
    catalog.Finds (catalog.responses shape id) fun _ => True := by
  rw [responses]
  refine (finds_type hid).bind fun node hnode => ?_
  have hrange := hwhole.graph.nodeInRange hnode
  refine (finds_isPlainObject hrange).bind fun isPlain _ => ?_
  split
  · exact (Finds.throw (.shape _ _)).bind fun _ h => h
  · exact (Finds.mapM fun property hmem => finds_response hwhole (hrange.property hmem) shape).map
      fun _ _ => trivial

theorem finds_securityRequirements (hid : catalog.graph.HasType id) (shape : String) :
    catalog.Finds (catalog.securityRequirements shape id) fun _ => True := by
  rw [securityRequirements]
  refine (finds_memberSchema hwhole hid).bind fun schema _ => .context fun context => ?_
  split
  · exact .pure trivial
  · exact .throw (.shape _ _)

/-! ## Operations -/

theorem finds_operation (hid : catalog.graph.HasType id) (shape : String) :
    catalog.Finds (catalog.operation shape id) fun _ => True := by
  rw [operation]
  refine (finds_type hid).bind fun node hnode => ?_
  have hrange := hwhole.graph.nodeInRange hnode
  refine (finds_shapeAnnotations hrange).bind ?_
  rintro ⟨annotations, symbolName⟩ _
  dsimp only
  split
  · exact .pure trivial
  refine (finds_requiredMember hrange shape "path").bind fun pathMember hpath => ?_
  refine (finds_requiredMember hrange shape "method").bind fun methodMember hmethod => ?_
  refine (finds_requiredMember hrange shape "responses").bind fun responsesMember hresponses => ?_
  refine (finds_literalMember hpath shape "path").bind fun path _ => ?_
  refine (finds_shapeMethod hmethod shape).bind fun method _ => ?_
  refine (finds_withMember hrange _ _ fun id hid => finds_parameters hwhole hid _ _ _).bind
    fun inPath _ => ?_
  refine (finds_withMember hrange _ _ fun id hid => finds_parameters hwhole hid _ _ _).bind
    fun inQuery _ => ?_
  refine (finds_withMember hrange _ _ fun id hid => finds_requestBody hwhole hid _ _).bind
    fun body _ => ?_
  refine (finds_responses hwhole hresponses.type shape).bind fun responses _ => ?_
  refine (finds_withMember hrange _ _ fun id hid =>
    (finds_securityRequirements hwhole hid shape).map fun _ _ => trivial).bind fun security _ => ?_
  exact (finds_customEntries hrange).bind fun custom _ => .pure trivial

theorem finds_addShape (document : Document) {entry : String × TypeId}
    (hentry : catalog.graph.HasType entry.2) :
    catalog.Finds (catalog.addShape document entry) fun _ => True := by
  rw [addShape]
  refine (finds_operation hwhole hentry entry.1).bind fun placed _ => ?_
  cases placed with
  | none => exact .pure trivial
  | some placed =>
    dsimp only
    split
    · exact fun p => trivial
    · exact .pure trivial

/-! ## Calls -/

/-- What patterns select are declarations. -/
theorem hasType_of_mem_select {patterns : List NamePattern} {entry : String × TypeId}
    (h : entry ∈ catalog.select patterns) : catalog.graph.HasType entry.2 :=
  hwhole.declared entry (mem_declared_of_mem_select h)

/-- The definitions of selected declarations, built down to the given depth. -/
def definitionsWithin (catalog : Catalog) (depth : Nat) (selected : List (String × TypeId)) :
    BuildM (Dict Definition) :=
  selected.foldlM (fun done entry => do
    return Dict.insert done entry.1 (← catalog.buildWithin depth (catalog.member entry.2))) []

/-- The document of definitions, built down to the given depth. -/
def documentWithin (catalog : Catalog) (depth : Nat) (patterns : List NamePattern) :
    Outcome (Dict Definition) :=
  if patterns.isEmpty then { result := .ok [] }
  else BuildM.run (do
    let roots ← catalog.definitionsWithin depth (catalog.select patterns)
    return Dict.extend roots (← BuildM.context).reffed)
    (Context.start .definitions catalog.overrides)

omit hwhole in
/-- A call builds its document down to the bound on the depth. -/
theorem schemas_eq_documentWithin (patterns : List NamePattern) :
    catalog.schemas patterns = catalog.documentWithin catalog.depthBound patterns := rfl

theorem post_definitionsWithin (depth : Nat) {selected : List (String × TypeId)}
    (hselected : ∀ entry ∈ selected, catalog.graph.HasType entry.2) (p : Progress) :
    (catalog.definitionsWithin depth selected).Post p (fun _ _ => True)
      fun e _ => catalog.Raises e := by
  refine Post.foldlM selected trivial fun entry hentry done q _ => ?_
  have hschema := post_buildWithin hwhole depth (catalog.member entry.2)
    (hselected entry hentry) (by rintro id ⟨⟩) q
  exact hschema.bind fun _ _ _ => trivial

/-- How a document of definitions can fail, whatever the bound on the depth. -/
theorem raises_of_documentWithin {depth : Nat} {patterns : List NamePattern} {error : Error}
    (h : (catalog.documentWithin depth patterns).result = .error error) : catalog.Raises error := by
  rw [documentWithin] at h
  split at h
  · cases h
  · have hpost : (do
        let roots ← catalog.definitionsWithin depth (catalog.select patterns)
        return Dict.extend roots (← BuildM.context).reffed : BuildM (Dict Definition)).Post
          { context := Context.start .definitions catalog.overrides }
          (fun _ _ => True) fun e _ => catalog.Raises e :=
      (post_definitionsWithin hwhole depth (fun _ => hasType_of_mem_select hwhole) _).bind
        fun _ _ _ => trivial
    rcases hpost.run with ⟨_, _, hresult, _⟩ | ⟨_, _, hresult, _, hraises⟩
    · rw [hresult] at h
      cases h
    · rw [hresult] at h
      exact Except.error.inj h ▸ hraises

theorem raises_of_schemas {patterns : List NamePattern} {error : Error}
    (h : (catalog.schemas patterns).result = .error error) : catalog.Raises error :=
  raises_of_documentWithin hwhole (schemas_eq_documentWithin patterns ▸ h)

/-- How an OpenAPI document can fail. -/
theorem stops_of_openApi {patterns : List NamePattern} {metadata : Metadata} {error : Error}
    (h : (catalog.openApi patterns metadata).result = .error error) : catalog.Stops error := by
  unfold openApi at h
  dsimp only at h
  split at h
  · cases h
  · have hfinds : catalog.Finds (do
        let document ← (catalog.select patterns).foldlM catalog.addShape
          (Document.ofMetadata catalog.options.version metadata)
        return document.addSchemas (← BuildM.context).reffed) fun _ => True :=
      (Finds.foldlM (fun entry hentry document =>
        finds_addShape hwhole document (hasType_of_mem_select hwhole hentry)) _).bind
          fun document _ => .context fun context => .pure trivial
    rcases (hfinds { context := Context.start .components catalog.overrides }).run with
      ⟨_, _, hresult, _⟩ | ⟨_, _, hresult, _, hstops⟩
    · rw [hresult] at h
      cases h
    · rw [hresult] at h
      exact Except.error.inj h ▸ hstops

end Shapes

/-! ## Catalogs of checked graphs -/

/-- The declarations of the catalog have names of their own. -/
theorem IsOf.nodup_declared {graph : TypeGraph} (h : catalog.IsOf graph) :
    (Dict.keys catalog.declared).Nodup := by
  obtain ⟨options, modules, base, hbase, hcatalog⟩ := h
  rw [hcatalog]
  exact (fresh_of_ofGraph hbase).declared

/-- **The check of a graph makes all lookups succeed.**  It accepts the graphs all of whose
positions are in range, and of such a graph a catalog is made without a lookup that finds nothing,
every type is printed, every subtype that is listed is declared, every selected name is in the table
of declarations, and no document fails for something that is missing, whatever the options, the
overrides, the hook and the patterns. -/
theorem lookups_succeed (graph : TypeGraph) :
    (graph.validate = .ok () ↔ graph.InRange) ∧
    (graph.validate = .ok () →
      (∀ options modules missing, ofGraph graph options modules ≠ .error (.missing missing)) ∧
      (∀ id, graph.HasType id → ∃ text, graph.typeText id = .ok text) ∧
      ∀ catalog : Catalog, catalog.IsOf graph →
        (∀ printed names name, Dict.get? catalog.subtypes printed = some names → name ∈ names →
          ∃ id, Dict.get? catalog.declared name = some id) ∧
        (∀ patterns, ∀ entry ∈ catalog.select patterns,
          Dict.get? catalog.declared entry.1 = some entry.2) ∧
        (∀ patterns missing, (catalog.schemas patterns).result ≠ .error (.missing missing)) ∧
        ∀ patterns metadata missing,
          (catalog.openApi patterns metadata).result ≠ .error (.missing missing)) := by
  refine ⟨TypeGraph.validate_eq_ok_iff, fun hvalid => ⟨fun options modules missing h => ?_,
    fun id hid => (TypeGraph.validate_eq_ok_iff.1 hvalid).found_typeText hid,
    fun catalog hcatalog => ?_⟩⟩
  · rcases ofGraph_of_inRange (TypeGraph.validate_eq_ok_iff.1 hvalid) options modules with
      ⟨_, _, hrefused⟩ | ⟨catalog, hcatalog, _⟩
    · cases h.symm.trans hrefused
    · cases h.symm.trans hcatalog
  · obtain ⟨hwhole, _⟩ := hcatalog.whole hvalid
    refine ⟨fun printed names name hnames hmem => ?_, fun patterns entry hentry => ?_,
      fun patterns missing h => ?_, fun patterns metadata missing h => ?_⟩
    · obtain ⟨id, hid, _⟩ := hwhole.exists_declared hnames hmem
      exact ⟨id, hid⟩
    · exact Dict.get?_of_mem hcatalog.nodup_declared (mem_declared_of_mem_select hentry)
    · exact (raises_of_schemas hwhole h).ne_missing missing rfl
    · exact (stops_of_openApi hwhole h).ne_missing missing rfl

/-- A book, and a shape that offers it at a path. -/
def offeredBook : TypeGraph where
  types := #[{ kind := .stringLiteral "/book" }, { kind := .stringLiteral "GET" },
    { kind := .string },
    { kind := .object [{ symbol := ⟨2⟩, type := ⟨2⟩ }] false none, symbol := some ⟨0⟩ },
    { kind := .object [{ symbol := ⟨3⟩, type := ⟨3⟩ }] true none },
    { kind := .object [{ symbol := ⟨4⟩, type := ⟨0⟩ }, { symbol := ⟨5⟩, type := ⟨1⟩ },
        { symbol := ⟨6⟩, type := ⟨4⟩ }] false none
      symbol := some ⟨1⟩ }]
  symbols := #[{ name := "Book" }, { name := "GetBook" }, { name := "title" }, { name := "200" },
    { name := "path" }, { name := "method" }, { name := "responses" }]
  declarations := [("Book", ⟨3⟩), ("GetBook", ⟨5⟩)]

/-- The catalog of the book and its shape. -/
def offeredCatalog : Catalog :=
  { graph := offeredBook, declared := offeredBook.declarations }

theorem lookups_succeed_offeredBook :
    offeredBook.InRange ∧
    (∀ missing, (offeredCatalog.schemas [.exact "Book"]).result ≠ .error (.missing missing)) ∧
    ∀ missing, (offeredCatalog.openApi [.exact "GetBook"] {}).result ≠ .error (.missing missing) := by
  have hvalid : offeredBook.validate = .ok () := rfl
  have hcatalog : offeredCatalog.IsOf offeredBook := ⟨{}, Modules.none, offeredCatalog, rfl, rfl⟩
  obtain ⟨haccepted, hlookups⟩ := lookups_succeed offeredBook
  obtain ⟨_, _, hschemas, hopenApi⟩ := (hlookups hvalid).2.2 offeredCatalog hcatalog
  exact ⟨haccepted.1 hvalid, hschemas _, hopenApi _ _⟩

/-! ## Types that no schema can describe -/

/-- Where a graph is valid, reports no problem and has no tag that asks for a module, the error with
which a document of definitions fails is that of a type of the graph that no schema can describe, as
long as it is not one that has no end.  If there is no such type, there is a document. -/
theorem fails_only_if_unsupported {graph : TypeGraph} {options : Options} {modules : Modules}
    (hvalid : graph.validate = .ok ()) (hreports : graph.diagnostics = [])
    (hrequires : ∀ symbol ∈ graph.symbols.toList, ∀ tag ∈ symbol.tags, ∀ require,
      ¬AnnotationReader.Requires ⟨options.keywords, modules⟩ tag require) :
    ∃ base, ofGraph graph options modules = .ok base ∧ ∀ overrides hook patterns,
      (∀ id, (schemas { base with overrides, hook } patterns).result ≠ .error (.endlessType id)) →
        (∀ error, (schemas { base with overrides, hook } patterns).result = .error error →
          ∃ id text, error = .unsupportedType text id ∧ graph.typeText id = .ok text ∧
            graph.Unsupported id) ∧
        ((∀ id, ¬graph.Unsupported id) →
          ∃ document, (schemas { base with overrides, hook } patterns).result = .ok document) := by
  rcases ofGraph_of_inRange (TypeGraph.validate_eq_ok_iff.1 hvalid) options modules with
    ⟨_, hreported, _⟩ | ⟨base, hbase, hwhole, rfl, hreader⟩
  · exact absurd hreports hreported
  refine ⟨base, hbase, fun overrides hook patterns hends => ?_⟩
  have hfails : ∀ error, (schemas { base with overrides, hook } patterns).result = .error error →
      ∃ id text, error = .unsupportedType text id ∧ base.graph.typeText id = .ok text ∧
        base.graph.Unsupported id := by
    intro error herror
    have hwhole : Whole { base with overrides, hook } :=
      ⟨hwhole.graph, hwhole.declared, hwhole.subtypes⟩
    cases raises_of_schemas hwhole herror with
    | unsupported htype htext => exact ⟨_, _, rfl, htext, htype⟩
    | endless id => exact absurd herror (hends id)
    | require fault hsymbol htag hrequire =>
      have hasks : base.reader.Requires _ _ := hrequire
      exact absurd (hreader ▸ hasks) (hrequires _ hsymbol _ htag _)
  refine ⟨hfails, fun hnone => ?_⟩
  cases hresult : (schemas { base with overrides, hook } patterns).result with
  | ok document => exact ⟨document, rfl⟩
  | error error =>
    obtain ⟨id, text, _, _, hunsupported⟩ := hfails error hresult
    exact absurd hunsupported (hnone id)

/-- A declared tuple whose element is a type parameter. -/
def openTuple : TypeGraph where
  types := #[{ kind := .typeParameter, symbol := some ⟨0⟩ }, { kind := .tuple [⟨0⟩] 1 false }]
  symbols := #[{ name := "T", tags := [{ name := "template", text := some "T" }] }]
  declarations := [("Pair", ⟨1⟩)]

/-- The document fails at the type parameter, which no schema can describe. -/
theorem fails_only_if_unsupported_openTuple : ∃ base, ofGraph openTuple {} Modules.none = .ok base ∧
    (base.schemas [.exact "Pair"]).result = .error (.unsupportedType "T" ⟨0⟩) ∧
      openTuple.Unsupported ⟨0⟩ := by
  have hrequires : ∀ symbol ∈ openTuple.symbols.toList, ∀ tag ∈ symbol.tags, ∀ require,
      ¬AnnotationReader.Requires ⟨({} : Options).keywords, Modules.none⟩ tag require := by
    intro symbol hsymbol tag htag require hasks
    obtain rfl := List.mem_singleton.1 hsymbol
    obtain rfl := List.mem_singleton.1 htag
    have hnone : Require.ofText? "T" = none := by with_unfolding_all rfl
    cases hasks with
    | whole h => cases hnone.symm.trans h
    | led hled h => cases hled
  have hvalid : openTuple.validate = .ok () := rfl
  obtain ⟨base, hbase, hcalls⟩ := fails_only_if_unsupported hvalid rfl hrequires
  have hresult : (base.schemas [.exact "Pair"]).result = .error (.unsupportedType "T" ⟨0⟩) := by
    obtain rfl := Except.ok.inj (hbase.symm.trans rfl)
    with_unfolding_all rfl
  refine ⟨base, hbase, hresult, ?_⟩
  obtain ⟨hfails, _⟩ := hcalls base.overrides base.hook [.exact "Pair"] fun id h => by
    cases hresult.symm.trans h
  obtain ⟨id, text, heq, _, hunsupported⟩ := hfails _ hresult
  cases heq
  exact hunsupported

end Catalog

end TypeSchema
