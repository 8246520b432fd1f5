import TypeSchema.Proofs.Building.Runs
import TypeSchema.Proofs.Names.Roots
import TypeSchema.Proofs.Objects.Branches

/-!
# The subtypes of abstract classes

An abstract class is described by the choice of the declarations that extend it.  Which these are is
found in an index that the catalog keeps for the graph: for every base of a declaration, under the
text that the base is printed as, the name of the declaration.

So a class has as many branches as bases of declarations are printed as it is, and that is one for
each declaration that extends it where the text tells the class from others.  It need not: two classes
of one name in different files are printed alike, also where unique names are to keep them apart, and
then each of them lists the subtypes of both (`Catalog.exists_foreign_subtype`).
**`Catalog.lists_subtypes`** has both: what is listed in general, and that it is what it should be
where the class is told from others.
-/

set_option autoImplicit false

namespace TypeSchema

open BuildM

/-! ## Classes and what extends them -/

namespace TypeGraph

variable {graph : TypeGraph}

/-- The name that the declaration is selected by. -/
def selectedName (graph : TypeGraph) (options : Options) (entry : String × TypeId) : String :=
  Catalog.declaredName options entry.1
    ((graph.lookupType entry.2).bind graph.declaringSymbol).toOption.join

/-- How many bases of the type are printed as the text. -/
def countBases (graph : TypeGraph) (text : String) (id : TypeId) : Nat :=
  match graph.lookupType id with
  | .ok node => node.baseTypes.countP fun base => decide (graph.typeText base = .ok text)
  | .error _ => 0

/-- Whether the type has the symbol. -/
def hasOwnSymbol (graph : TypeGraph) (symbol : SymbolId) (id : TypeId) : Bool :=
  match graph.lookupType id with
  | .ok node => node.symbol == some symbol
  | .error _ => false

/-- Whether the type extends the class with the symbol: one of its bases has the symbol. -/
def extendsClass (graph : TypeGraph) (symbol : SymbolId) (id : TypeId) : Bool :=
  match graph.lookupType id with
  | .ok node => node.baseTypes.any (graph.hasOwnSymbol symbol)
  | .error _ => false

/-- The text tells the class with the symbol from all others that are extended: a base is printed so
if and only if it is the class, and no declaration extends it twice. -/
structure TellsApart (graph : TypeGraph) (symbol : SymbolId) (text : String) : Prop where
  own : ∀ entry ∈ graph.declarations, ∀ node, graph.lookupType entry.2 = .ok node →
    ∀ base ∈ node.baseTypes, graph.typeText base = .ok text ↔ graph.hasOwnSymbol symbol base = true
  once : ∀ entry ∈ graph.declarations, ∀ node, graph.lookupType entry.2 = .ok node →
    node.baseTypes.countP (graph.hasOwnSymbol symbol) ≤ 1

/-- Where the class is told from others, its subtypes are listed once and nothing else is. -/
theorem TellsApart.countBases_eq {symbol : SymbolId} {text : String} (h : graph.TellsApart symbol text)
    {entry : String × TypeId} (hentry : entry ∈ graph.declarations) :
    graph.countBases text entry.2 = if graph.extendsClass symbol entry.2 then 1 else 0 := by
  rw [countBases, extendsClass]
  cases hnode : graph.lookupType entry.2 with
  | error missing => rfl
  | ok node =>
    have hsame : (node.baseTypes.countP fun base => decide (graph.typeText base = .ok text)) =
        node.baseTypes.countP (graph.hasOwnSymbol symbol) :=
      List.countP_congr fun base hbase => by
        rw [decide_eq_true_iff]
        exact h.own entry hentry node hnode base hbase
    have honce := h.once entry hentry node hnode
    have hany : node.baseTypes.any (graph.hasOwnSymbol symbol) = true ↔
        0 < node.baseTypes.countP (graph.hasOwnSymbol symbol) := by
      rw [List.any_eq_true, List.countP_pos_iff]
    simp only [hsame]
    split
    · rename_i hextends
      exact Nat.le_antisymm honce (hany.1 hextends)
    · rename_i hextends
      exact Nat.eq_zero_of_not_pos fun hpos => hextends (hany.2 hpos)

/-- A class is printed by the full name of its symbol. -/
theorem typeText_of_class {id : TypeId} {node : TypeNode} {own : SymbolId} {symbol : Symbol}
    (hnode : graph.lookupType id = .ok node) (halias : node.aliasSymbol = none)
    (hnamed : node.isAnonymousObject = false) (hown : node.symbol = some own)
    (hsymbol : graph.lookupSymbol own = .ok symbol) : graph.typeText id = .ok symbol.fullName := by
  rw [typeText, printedLevels, print, hnode]
  simp [bind, Except.bind, nodeText, halias, hnamed, hown, hsymbol, pure, Except.pure]

/-- Classes whose full names differ are told apart, where no declaration lists one of them twice. -/
theorem tellsApart_of_fullName {symbol : SymbolId} {named : Symbol}
    (hclass : graph.lookupSymbol symbol = .ok named)
    (hbases : ∀ entry ∈ graph.declarations, ∀ node, graph.lookupType entry.2 = .ok node →
      node.baseTypes.countP (graph.hasOwnSymbol symbol) ≤ 1 ∧
      ∀ base ∈ node.baseTypes, ∃ baseNode own other, graph.lookupType base = .ok baseNode ∧
        baseNode.aliasSymbol = none ∧ baseNode.isAnonymousObject = false ∧
        baseNode.symbol = some own ∧ graph.lookupSymbol own = .ok other ∧
        (other.fullName = named.fullName → own = symbol)) :
    graph.TellsApart symbol named.fullName := by
  refine ⟨fun entry hentry node hnode base hbase => ?_,
    fun entry hentry node hnode => (hbases entry hentry node hnode).1⟩
  obtain ⟨baseNode, own, other, hlookup, halias, hnamed, hown, hother, hdistinct⟩ :=
    (hbases entry hentry node hnode).2 base hbase
  rw [typeText_of_class hlookup halias hnamed hown hother, hasOwnSymbol, hlookup]
  simp only [Except.ok.injEq, beq_iff_eq, hown, Option.some.injEq]
  refine ⟨hdistinct, ?_⟩
  rintro rfl
  exact congrArg Symbol.fullName (Except.ok.inj (hother.symm.trans hclass))

end TypeGraph

/-! ## The index of subtypes -/

namespace Catalog

variable {catalog : Catalog} {graph : TypeGraph} {options : Options} {modules : Modules}

/-- The names that the catalog lists under the text. -/
def subtypeNames (catalog : Catalog) (text : String) : List String :=
  (Dict.get? catalog.subtypes text).getD []

theorem getD_foldl_addSubtype (bases : List String) (subtypes : Dict (List String))
    (name text : String) :
    (Dict.get? (bases.foldl (fun subtypes printed => addSubtype subtypes printed name) subtypes)
        text).getD [] =
      (Dict.get? subtypes text).getD [] ++ List.replicate (bases.count text) name := by
  induction bases generalizing subtypes with
  | nil => simp
  | cons printed rest ih =>
    rw [List.foldl_cons, ih, addSubtype, Dict.get?_insert, List.count_cons]
    by_cases heq : printed = text
    · subst heq
      simp [List.replicate_succ]
    · simp [heq]

/-- What is printed as the text is counted in the texts. -/
theorem countP_eq_of_mapM {α ε β : Type} [DecidableEq ε] [DecidableEq β] {f : α → Except ε β}
    {l : List α} {bs : List β} (h : l.mapM f = .ok bs) (b : β) :
    (l.countP fun a => decide (f a = .ok b)) = bs.count b := by
  rw [mapM_eq_ok_iff] at h
  induction h with
  | nil => rfl
  | cons hfirst _ ih =>
    rw [List.countP_cons, ih, List.count_cons, hfirst]
    simp

/-- What entering declarations adds to a catalog: their types by their names, and under every text the
names of those that have bases printed so, once for each of these. -/
structure Enters (start : Catalog) (entries : List (String × TypeId)) (last : Catalog) : Prop where
  declared : last.declared = Dict.extend start.declared
    (entries.map fun entry => (start.graph.selectedName start.options entry, entry.2))
  names : ∀ text, last.subtypeNames text = start.subtypeNames text ++ entries.flatMap fun entry =>
    List.replicate (start.graph.countBases text entry.2) (start.graph.selectedName start.options entry)

theorem enters_foldlM {entries : List (String × TypeId)} {last : Catalog}
    (hlast : entries.foldlM addDeclaration catalog = .ok last) : catalog.Enters entries last := by
  induction entries generalizing catalog with
  | nil =>
    cases hlast
    exact ⟨rfl, fun text => by simp⟩
  | cons entry rest ih =>
    rw [List.foldlM_cons] at hlast
    obtain ⟨next, hnext, hlast⟩ := bind_eq_ok_iff.1 hlast
    obtain ⟨node, symbol, bases, hnode, hsymbol, hbases, rfl⟩ := exists_of_addDeclaration hnext
    have hname : catalog.graph.selectedName catalog.options entry =
        declaredName catalog.options entry.1 symbol := by
      simp [TypeGraph.selectedName, hnode, hsymbol, Except.bind, Except.toOption]
    have hcount : ∀ text, catalog.graph.countBases text entry.2 = bases.count text := fun text => by
      rw [TypeGraph.countBases, hnode]
      exact countP_eq_of_mapM hbases text
    obtain ⟨hdeclared, hlisted⟩ := ih hlast
    refine ⟨?_, fun text => ?_⟩
    · rw [hdeclared, List.map_cons, hname]
      rfl
    · rw [hlisted, List.flatMap_cons, hname, hcount, ← List.append_assoc]
      exact congrArg (· ++ _) (getD_foldl_addSubtype bases catalog.subtypes _ text)

/-- The catalog of a graph has its declarations. -/
theorem enters_of_ofGraph (h : ofGraph graph options modules = .ok catalog) :
    Enters { graph, options, modules } graph.declarations catalog :=
  enters_foldlM (foldlM_of_ofGraph h)

/-- The names under the text are those of the declarations that have bases printed so. -/
theorem subtypeNames_eq (h : ofGraph graph options modules = .ok catalog) (text : String) :
    catalog.subtypeNames text = graph.declarations.flatMap fun entry =>
      List.replicate (graph.countBases text entry.2) (graph.selectedName options entry) :=
  (enters_of_ofGraph h).names text

/-- A declaration whose name no other has is found by it. -/
theorem get?_declared (h : ofGraph graph options modules = .ok catalog)
    (hnames : (graph.declarations.map (graph.selectedName options)).Nodup)
    {entry : String × TypeId} (hentry : entry ∈ graph.declarations) :
    Dict.get? catalog.declared (graph.selectedName options entry) = some entry.2 := by
  have hkeys : (Dict.keys (graph.declarations.map fun entry =>
      (graph.selectedName options entry, entry.2))).Nodup := by
    rw [Dict.keys, List.map_map]
    exact hnames
  rw [(enters_of_ofGraph h).declared]
  refine Dict.get?_of_mem (Dict.nodup_keys_ofEntries _) ?_
  rw [show Dict.extend [] _ = _ from Dict.ofEntries_of_nodup hkeys]
  exact List.mem_map_of_mem hentry

/-- The types that a class printed as the text is described by. -/
def subtypeIds (catalog : Catalog) (text : String) : List TypeId :=
  (catalog.subtypeNames text).filterMap (Dict.get? catalog.declared)

/-- Where a class is told from others and declarations have names of their own, it is described by the
types that are declared to extend it. -/
theorem subtypeIds_eq {symbol : SymbolId} {text : String}
    (h : ofGraph graph options modules = .ok catalog) (hapart : graph.TellsApart symbol text)
    (hnames : (graph.declarations.map (graph.selectedName options)).Nodup) :
    catalog.subtypeIds text =
      (graph.declarations.filter fun entry => graph.extendsClass symbol entry.2).map Prod.snd := by
  have hfound : ∀ entry ∈ graph.declarations,
      (List.replicate (graph.countBases text entry.2) (graph.selectedName options entry)).filterMap
          (Dict.get? catalog.declared) =
        if graph.extendsClass symbol entry.2 then [entry.2] else [] := by
    intro entry hentry
    rw [hapart.countBases_eq hentry]
    split
    · simp [get?_declared h hnames hentry]
    · rfl
  rw [subtypeIds, subtypeNames_eq h, List.filterMap_flatMap]
  clear hapart hnames h
  generalize graph.declarations = entries at hfound ⊢
  induction entries with
  | nil => rfl
  | cons entry rest ih =>
    obtain ⟨hfirst, hrest⟩ := List.forall_mem_cons.1 hfound
    rw [List.flatMap_cons, hfirst, ih hrest, List.filter_cons]
    split
    · rfl
    · rfl

/-! ## Abstract classes -/

variable {id : TypeId} {node : TypeNode} {p q : Progress}

/-- Enters the choice of the types. -/
def choiceOf (catalog : Catalog) (build : Builder) (subtypes : List TypeId)
    (definition : Definition) : BuildM Definition := do
  let branches ← subtypes.mapM fun subtype => build (catalog.member subtype)
  return definition.insert "oneOf" (.array (branches.map Definition.toJson))

/-- Where the graph has all its types, the properties that schemas know of are told without further
ado. -/
theorem exec_visibleProperties (hrange : catalog.graph.NodeInRange node) (p : Progress) :
    (catalog.visibleProperties node).exec p =
      (.ok (node.properties.filter catalog.isVisible), p) := by
  have hpost : (catalog.visibleProperties node).Post p
      (fun properties q => properties = node.properties.filter catalog.isVisible ∧ q = p)
      fun _ _ => False := by
    rw [visibleProperties]
    refine Post.filterM (J := (· = p)) _ _ rfl fun property hproperty q hq => ?_
    obtain ⟨type, htype⟩ := TypeGraph.found_type (hrange.property hproperty).type
    split
    · rename_i hprivate
      exact ⟨by simp [isVisible, hprivate], hq⟩
    · rename_i hpublic
      rw [Catalog.type, htype]
      exact ⟨by simp [isVisible, hpublic, htype], hq⟩
  rw [Post] at hpost
  generalize (catalog.visibleProperties node).exec p = done at hpost ⊢
  obtain ⟨e | properties, q⟩ := done
  · cases hpost
  · obtain ⟨rfl, rfl⟩ := hpost
    rfl

/-- An abstract class for which a name is listed is described by the choice of the types listed. -/
theorem exec_objectSchema_of_listed (hrange : catalog.graph.NodeInRange node) {symbol : SymbolId}
    {base : Symbol} {text : String} (hsymbol : node.symbol = some symbol)
    (hbase : catalog.graph.lookupSymbol symbol = .ok base) (habstract : base.isAbstract = true)
    (htext : catalog.graph.typeText id = .ok text) (hlisted : catalog.subtypeNames text ≠ [])
    (build : Builder) (definition : Definition) (p : Progress) :
    (catalog.objectSchema build id node definition).exec p =
      (catalog.choiceOf build (catalog.subtypeIds text) definition).exec p := by
  have hsubtypes : (catalog.subtypesOf id node).exec p = (.ok (catalog.subtypeNames text), p) := by
    rw [subtypesOf, hsymbol]
    simp only [Catalog.symbol, hbase, Catalog.printed, htext, BuildM.find, pure_bind, habstract, if_true]
    rfl
  rw [objectSchema, exec_bind, exec_visibleProperties hrange]
  dsimp only
  rw [exec_bind, hsubtypes]
  dsimp only
  rw [if_pos hlisted]
  rfl

/-- **An abstract class is described by what its text lists.**  For every base of a declaration that is
printed as the class, it has the schema of the declared type as a branch, in the order of the
declarations.  Where the text tells the class from all others and declarations have names of their own,
these are the types that are declared to extend the class, each of them once. -/
theorem lists_subtypes (hvalid : graph.validate = .ok ())
    (hcatalog : ofGraph graph options modules = .ok catalog)
    (hnode : graph.lookupType id = .ok node) {symbol : SymbolId} (hsymbol : node.symbol = some symbol)
    {base : Symbol} (hbase : graph.lookupSymbol symbol = .ok base)
    (habstract : base.isAbstract = true) :
    ∃ text, graph.typeText id = .ok text ∧
      (catalog.subtypeNames text = graph.declarations.flatMap fun entry =>
        List.replicate (graph.countBases text entry.2) (graph.selectedName options entry)) ∧
      (catalog.subtypeNames text ≠ [] → ∀ build definition p,
        (catalog.objectSchema build id node definition).exec p =
          (catalog.choiceOf build (catalog.subtypeIds text) definition).exec p) ∧
      (graph.TellsApart symbol text → (graph.declarations.map (graph.selectedName options)).Nodup →
        (∃ entry ∈ graph.declarations, graph.extendsClass symbol entry.2 = true) →
        ∀ build definition p, (catalog.objectSchema build id node definition).exec p =
          (catalog.choiceOf build ((graph.declarations.filter fun entry =>
            graph.extendsClass symbol entry.2).map Prod.snd) definition).exec p) := by
  have hrange : graph.InRange := TypeGraph.validate_eq_ok_iff.1 hvalid
  have hsame : catalog.graph = graph := by
    rcases ofGraph_of_inRange hrange options modules with ⟨_, _, hrefused⟩ | ⟨made, hmade, _, hgraph, _⟩
    · rw [hrefused] at hcatalog
      cases hcatalog
    · obtain rfl := Except.ok.inj (hmade.symm.trans hcatalog)
      exact hgraph
  obtain ⟨text, htext⟩ := hrange.found_typeText (TypeGraph.hasType_of_lookupType hnode)
  have hdescribed : catalog.subtypeNames text ≠ [] → ∀ build definition p,
      (catalog.objectSchema build id node definition).exec p =
        (catalog.choiceOf build (catalog.subtypeIds text) definition).exec p := fun hlisted =>
    exec_objectSchema_of_listed (hsame ▸ hrange.nodeInRange hnode) hsymbol (hsame ▸ hbase) habstract
      (hsame ▸ htext) hlisted
  refine ⟨text, htext, subtypeNames_eq hcatalog text, hdescribed, fun hapart hnames hextended => ?_⟩
  obtain ⟨entry, hentry, hextends⟩ := hextended
  have hlisted : catalog.subtypeNames text ≠ [] := by
    rw [subtypeNames_eq hcatalog]
    refine List.ne_nil_of_mem (a := graph.selectedName options entry)
      (List.mem_flatMap.2 ⟨entry, hentry, ?_⟩)
    rw [hapart.countBases_eq hentry, if_pos hextends]
    exact List.mem_singleton_self _
  rw [← subtypeIds_eq hcatalog hapart hnames]
  exact hdescribed hlisted

/-- Where an abstract class is declared in the file. -/
def abstractPlace (file : String) : Declaration :=
  { file, position := 1, kind := .classType, isAbstract := true }

/-- The type of a class with a property, and what it extends. -/
def classNode (property symbol : SymbolId) (bases : List TypeId) : TypeNode :=
  { kind := .object [{ symbol := property, type := ⟨0⟩ }] false none, symbol := some symbol
    baseTypes := bases }

/-- Two abstract classes, of which two declarations extend the one and a declaration between them the
other. -/
def creatures : Catalog where
  graph :=
    { types := #[{ kind := .string }, classNode ⟨5⟩ ⟨0⟩ [], classNode ⟨5⟩ ⟨1⟩ [],
        classNode ⟨6⟩ ⟨2⟩ [⟨1⟩], classNode ⟨7⟩ ⟨3⟩ [⟨2⟩], classNode ⟨8⟩ ⟨4⟩ [⟨1⟩]]
      symbols := #[{ name := "Animal", declaration := some (abstractPlace "animals.ts") },
        { name := "Plant", declaration := some (abstractPlace "plants.ts") }, { name := "Dog" },
        { name := "Fern" }, { name := "Cat" }, { name := "name" }, { name := "bark" },
        { name := "frond" }, { name := "meow" }]
      declarations := [("Dog", ⟨3⟩), ("Fern", ⟨4⟩), ("Cat", ⟨5⟩)] }
  options := { uniqueNames := true }
  declared := [("Dog", ⟨3⟩), ("Fern", ⟨4⟩), ("Cat", ⟨5⟩)]
  subtypes := [("Animal", ["Dog", "Cat"]), ("Plant", ["Fern"])]

theorem tellsApart_creatures : creatures.graph.TellsApart ⟨0⟩ "Animal" := by
  have hcounts : ∀ entry ∈ creatures.graph.declarations, ∀ node,
      creatures.graph.lookupType entry.2 = .ok node →
      (∀ base ∈ node.baseTypes, creatures.graph.typeText base = .ok "Animal" ↔
        creatures.graph.hasOwnSymbol ⟨0⟩ base = true) ∧
      node.baseTypes.countP (creatures.graph.hasOwnSymbol ⟨0⟩) ≤ 1 := by
    simp only [creatures, List.forall_mem_cons]
    refine ⟨?_, ?_, ?_, List.forall_mem_nil _⟩
    · rintro node ⟨⟩
      decide +kernel
    · rintro node ⟨⟩
      decide +kernel
    · rintro node ⟨⟩
      decide +kernel
  exact ⟨fun entry hentry node hnode => (hcounts entry hentry node hnode).1,
    fun entry hentry node hnode => (hcounts entry hentry node hnode).2⟩

/-- An animal is a dog or a cat. -/
theorem lists_subtypes_creatures :
    (creatures.objectSchema creatures.build ⟨1⟩ (classNode ⟨5⟩ ⟨0⟩ []) Definition.empty).exec
        (Contract.fresh creatures .definitions) =
      (creatures.choiceOf creatures.build [⟨3⟩, ⟨5⟩] Definition.empty).exec
        (Contract.fresh creatures .definitions) := by
  have hcatalog : ofGraph creatures.graph creatures.options Modules.none = .ok creatures := rfl
  have hanimal : creatures.graph.lookupType ⟨1⟩ = .ok (classNode ⟨5⟩ ⟨0⟩ []) := rfl
  obtain ⟨text, htext, _, _, hsubtypes⟩ := lists_subtypes rfl hcatalog hanimal rfl rfl rfl
  obtain rfl : text = "Animal" := (Except.ok.inj (htext.symm.trans (by decide +kernel)))
  exact hsubtypes tellsApart_creatures (by decide +kernel) (by decide +kernel) _ _ _

/-- Two abstract classes of one name in different files, each extended by a declaration, and an object
with a property of the first. -/
def shapes : Catalog where
  graph :=
    { types := #[{ kind := .string }, classNode ⟨5⟩ ⟨0⟩ [], classNode ⟨5⟩ ⟨1⟩ [],
        classNode ⟨6⟩ ⟨2⟩ [⟨1⟩], classNode ⟨7⟩ ⟨3⟩ [⟨2⟩],
        { kind := .object [{ symbol := ⟨8⟩, type := ⟨1⟩ }] false none, symbol := some ⟨4⟩ }]
      symbols := #[{ name := "Shape", declaration := some (abstractPlace "round.ts") },
        { name := "Shape", declaration := some (abstractPlace "angular.ts") }, { name := "Circle" },
        { name := "Square" }, { name := "Drawing" }, { name := "name" }, { name := "radius" },
        { name := "side" }, { name := "shape" }]
      declarations := [("Circle", ⟨3⟩), ("Square", ⟨4⟩), ("Drawing", ⟨5⟩)] }
  options := { uniqueNames := true }
  declared := [("Circle", ⟨3⟩), ("Square", ⟨4⟩), ("Drawing", ⟨5⟩)]
  subtypes := [("Shape", ["Circle", "Square"])]

/-- The schema is a choice between two. -/
def isChoiceOfTwo (schema : Definition) : Bool :=
  match schema.get? "oneOf" with
  | some (.array [_, _]) => true
  | _ => false

/-- **A subtype of another class is listed.**  Only the circle is declared to extend the first class, but
the square is a branch as well, as it extends a class of that name. -/
theorem exists_foreign_subtype :
    shapes.graph.validate = .ok () ∧
    ofGraph shapes.graph shapes.options Modules.none = .ok shapes ∧
    shapes.options.uniqueNames = true ∧ (shapes.schemas [.exact "Drawing"]).result.toOption.isSome ∧
    (shapes.graph.declarations.filter fun entry => shapes.graph.extendsClass ⟨0⟩ entry.2) =
      [("Circle", ⟨3⟩)] ∧
    (∀ build definition p,
      (shapes.objectSchema build ⟨1⟩ (classNode ⟨5⟩ ⟨0⟩ []) definition).exec p =
        (shapes.choiceOf build [⟨3⟩, ⟨4⟩] definition).exec p) ∧
    ∃ listing, .listed listing ∈ (shapes.schemas [.exact "Drawing"]).journal ∧
      ∃ kept ∈ listing.kept, kept.name = "shape" ∧
        ∃ circle square, kept.schema.get? "oneOf" = some (.array [circle, square]) := by
  have hevent : ((shapes.schemas [.exact "Drawing"]).journal.any fun
      | .listed listing => listing.kept.any fun kept =>
          kept.name == "shape" && isChoiceOfTwo kept.schema
      | _ => false) = true := by decide +kernel
  have hvalid : shapes.graph.validate = .ok () := rfl
  have hshape : shapes.graph.lookupType ⟨1⟩ = .ok (classNode ⟨5⟩ ⟨0⟩ []) := rfl
  have htext : shapes.graph.typeText ⟨1⟩ = .ok "Shape" := by decide +kernel
  refine ⟨hvalid, rfl, rfl, by decide +kernel, by decide +kernel, ?_, ?_⟩
  · exact exec_objectSchema_of_listed ((TypeGraph.validate_eq_ok_iff.1 hvalid).nodeInRange hshape) rfl
      rfl rfl htext (by decide +kernel)
  · obtain ⟨event, hmem, hevent⟩ := List.any_eq_true.1 hevent
    cases event with
    | listed listing =>
      obtain ⟨kept, hkept, hshape⟩ := List.any_eq_true.1 hevent
      obtain ⟨hname, hchoice⟩ := Bool.and_eq_true_iff.1 hshape
      refine ⟨listing, hmem, kept, hkept, eq_of_beq hname, ?_⟩
      rw [isChoiceOfTwo] at hchoice
      split at hchoice
      · rename_i circle square hget
        exact ⟨circle, square, hget⟩
      · cases hchoice
    | _ => cases hevent

end Catalog

end TypeSchema
