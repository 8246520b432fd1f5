import Mathlib.Algebra.Group.Nat.Defs
import TypeSchema.Proofs.Graph.Failures
import TypeSchema.Proofs.Merging.Transport

/-!
# Documents of merged graphs

Each of two graphs is placed within the graph that they are merged into: the first one where it was,
the second one behind it (`TypeGraph.placed_merge_left`, `TypeGraph.placed_merge_right`).  So what is
built from one of them alone is built from the merged graph too, as far as the declarations are the
same under the names by which they are selected.

**`Catalog.schemas_merge`** says so of documents of definitions.  The result is the same document, or a
failure of the same kind at the type moved.  The bound on the depth is computed from the size of the
graph and differs, so there are two statements: down to one depth both come to the same, running out
of depth included; and if the one graph alone has a result, the merged graph has it.

With hashes a name may mean two things: the name `A` with a hash, and a name that reads like that.
Where the two graphs have one declaration of each, the merged graph keeps the one of the second graph
(`Catalog.exists_merge_replaced`).
-/

set_option autoImplicit false

namespace TypeSchema

/-! ## Outcomes -/

namespace Shift

variable {shift : Shift}

/-- The first result is the second one, or both are failures of one kind, the second at the type
moved. -/
inductive SameResult {α : Type} (shift : Shift) : Except Error α → Except Error α → Prop
  | ok (a : α) : SameResult shift (.ok a) (.ok a)
  | error {e e' : Error} (h : e.Moved shift e') : SameResult shift (.error e) (.error e')

/-- Both leave the same result, and the same was logged. -/
structure SameOutcome {α : Type} (shift : Shift) (outcome outcome' : Outcome α) : Prop where
  result : shift.SameResult outcome.result outcome'.result
  log : outcome'.log = outcome.log

theorem Carries.run {α : Type} {deeper : Prop} {m m' : BuildM α} {start : Context}
    (h : shift.Carries deeper Same m m') (hstart : shift.context start = start) :
    (∃ e, (m.run start).result = .error e ∧ e.IsOpen deeper) ∨
      shift.SameOutcome (m.run start) (m'.run start) := by
  have hrun := h { context := start } { context := start } ⟨hstart.symm, rfl⟩
  have hfirst : m.run start = ⟨(m.exec { context := start }).1,
      (m.exec { context := start }).2.log, (m.exec { context := start }).2.journal⟩ := rfl
  have hsecond : m'.run start = ⟨(m'.exec { context := start }).1,
      (m'.exec { context := start }).2.log, (m'.exec { context := start }).2.journal⟩ := rfl
  rw [BuildM.Post] at hrun
  rw [hfirst, hsecond]
  generalize m.exec { context := start } = done at hrun ⊢
  obtain ⟨e | a, p⟩ := done
  · rcases hrun with hopen | ⟨e', q, hdone, herror, hmoved⟩
    · exact .inl ⟨e, rfl, hopen⟩
    · rw [hdone]
      exact .inr ⟨.error herror, hmoved.log⟩
  · obtain ⟨_, q, hdone, rfl, hmoved⟩ := hrun
    rw [hdone]
    exact .inr ⟨.ok _, hmoved.log⟩

/-- A declaration at its new place. -/
def entry (shift : Shift) (entry : String × TypeId) : String × TypeId :=
  (entry.1, shift.type entry.2)

@[simp] theorem entry_zero : zero.entry = id := by
  funext entry
  simp [Shift.entry]

end Shift

namespace Catalog.Placed

variable {shift : Shift} {deeper : Prop} {catalog larger : Catalog}
  (h : catalog.Placed shift larger)

include h

theorem carries_definitionsWithin {depth more : Nat} (hle : depth ≤ more)
    (hdeeper : depth < more → deeper) (selected : List (String × TypeId)) :
    shift.Carries deeper Same (catalog.definitionsWithin depth selected)
      (larger.definitionsWithin more (selected.map shift.entry)) := by
  refine .foldlM selected [] fun done entry => ?_
  refine (h.carries_buildWithin hle hdeeper (h.member_moved entry.2 none)).map ?_
  rintro _ schema rfl
  rfl

/-- **Documents are the same at both places**, unless the depth runs out and the second document is
built deeper. -/
theorem sameOutcome_documentWithin (hwhole : catalog.Whole) {depth more : Nat} (hle : depth ≤ more)
    {patterns : List NamePattern} (hselect : patterns.isEmpty = false →
      larger.select patterns = (catalog.select patterns).map shift.entry) :
    (depth < more ∧
      ∃ id, (catalog.documentWithin depth patterns).result = .error (.endlessType id)) ∨
    shift.SameOutcome (catalog.documentWithin depth patterns)
      (larger.documentWithin more patterns) := by
  cases hpatterns : patterns.isEmpty with
  | true =>
    rw [documentWithin, documentWithin, if_pos hpatterns, if_pos hpatterns]
    exact .inr ⟨.ok [], rfl⟩
  | false =>
    have hcarries : shift.Carries (depth < more) Same
        (do
          let roots ← catalog.definitionsWithin depth (catalog.select patterns)
          return Dict.extend roots (← BuildM.context).reffed)
        (do
          let roots ← larger.definitionsWithin more (larger.select patterns)
          return Dict.extend roots (← BuildM.context).reffed) := by
      rw [hselect hpatterns]
      refine (h.carries_definitionsWithin hle id _).bind ?_
      rintro _ roots rfl
      exact .context fun c => .pure rfl
    have hrun := hcarries.run
      (show shift.context (Context.start .definitions catalog.overrides) = _ from rfl)
    have hraises : ∀ error, (catalog.documentWithin depth patterns).result = .error error →
        catalog.Raises error := fun _ => raises_of_documentWithin hwhole
    rw [documentWithin, documentWithin, hpatterns, h.overrides] at *
    rcases hrun with ⟨e, herror, hopen⟩ | hsame
    · cases hraises e herror with
      | endless id => exact .inl ⟨hopen, id, herror⟩
      | unsupported htype htext => exact hopen.elim
      | require fault hsymbol htag hrequire => exact hopen.elim
    · exact .inr hsame

theorem depthBound_le : catalog.depthBound ≤ larger.depthBound := by
  have htypes : catalog.graph.types.size + 1 ≤ larger.graph.types.size + 1 :=
    Nat.succ_le_succ h.graph.types_le
  have hnames : (catalog.graph.types.size + 1) * (catalog.graph.symbols.size + 2) ≤
      (larger.graph.types.size + 1) * (larger.graph.symbols.size + 2) :=
    Nat.mul_le_mul htypes (Nat.add_le_add_right h.graph.symbols_le 2)
  exact Nat.mul_le_mul (by omega) htypes

end Catalog.Placed

/-- The documents that the patterns select are the same at both places: down to any depth that is
given, and, if the first one has an end, as they are built by calls. -/
structure Catalog.DocumentsAgree (shift : Shift) (catalog larger : Catalog)
    (patterns : List NamePattern) : Prop where
  within : ∀ depth, shift.SameOutcome (catalog.documentWithin depth patterns)
    (larger.documentWithin depth patterns)
  schemas : (∀ id, (catalog.schemas patterns).result ≠ .error (.endlessType id)) →
    shift.SameOutcome (catalog.schemas patterns) (larger.schemas patterns)

/-- A document is the same document at the other place. -/
theorem Catalog.DocumentsAgree.schemas_eq_ok {shift : Shift} {catalog larger : Catalog}
    {patterns : List NamePattern} (h : catalog.DocumentsAgree shift larger patterns)
    {document : Dict Definition} (hdocument : (catalog.schemas patterns).result = .ok document) :
    (larger.schemas patterns).result = .ok document := by
  have hsame := (h.schemas fun id hendless => by rw [hdocument] at hendless; cases hendless).result
  rw [hdocument] at hsame
  generalize (larger.schemas patterns).result = result at hsame
  cases hsame
  rfl

theorem Catalog.Placed.documentsAgree {shift : Shift} {catalog larger : Catalog}
    (h : catalog.Placed shift larger) (hwhole : catalog.Whole) {patterns : List NamePattern}
    (hselect : patterns.isEmpty = false →
      larger.select patterns = (catalog.select patterns).map shift.entry) :
    catalog.DocumentsAgree shift larger patterns where
  within depth := by
    rcases h.sameOutcome_documentWithin hwhole (le_refl depth) hselect with ⟨hlt, _⟩ | hsame
    · exact absurd hlt (lt_irrefl depth)
    · exact hsame
  schemas hends := by
    rcases h.sameOutcome_documentWithin hwhole h.depthBound_le hselect with
      ⟨_, id, hendless⟩ | hsame
    · exact absurd hendless (hends id)
    · exact hsame

/-! ## Merged graphs -/

namespace TypeGraph

variable {a b graph larger : TypeGraph} {shift : Shift}

/-- A graph is placed where it was. -/
theorem placed_merge_left (a b : TypeGraph) : a.Placed .zero (a.merge b) where
  type {id node} h := by
    rw [lookupType_eq_ok_iff] at h ⊢
    obtain ⟨hlt, _⟩ := Array.getElem?_eq_some_iff.1 h
    rw [Shift.type_zero, Shift.node_zero, merge, id_eq, Array.getElem?_append_left hlt, h]
  symbol {id symbol} h := by
    rw [lookupSymbol_eq_ok_iff] at h ⊢
    obtain ⟨hlt, _⟩ := Array.getElem?_eq_some_iff.1 h
    rw [Shift.symbol_zero, merge, id_eq, Array.getElem?_append_left hlt, h]
  types_le := by simp [merge]
  symbols_le := by simp [merge]

/-- The position behind `size` others, where there is room for it. -/
theorem toNat_add_ofNat {size others : Nat} {index : UInt32} (hindex : index.toNat < size)
    (hroom : others + size < 2 ^ 32) :
    (index + UInt32.ofNat others).toNat = others + index.toNat := by
  rw [UInt32.toNat_add, UInt32.toNat_ofNat']
  omega

/-- The other graph is placed behind it. -/
theorem placed_merge_right (htypes : a.types.size + b.types.size < 2 ^ 32)
    (hsymbols : a.symbols.size + b.symbols.size < 2 ^ 32) : b.Placed a.shift (a.merge b) where
  type {id node} h := by
    rw [lookupType_eq_ok_iff] at h ⊢
    obtain ⟨hlt, _⟩ := Array.getElem?_eq_some_iff.1 h
    have hindex : (a.shift.type id).index.toNat = a.types.size + id.index.toNat :=
      toNat_add_ofNat hlt htypes
    rw [hindex, merge, Array.getElem?_append_right (by omega), Nat.add_sub_cancel_left,
      Array.getElem?_map, h]
    rfl
  symbol {id symbol} h := by
    rw [lookupSymbol_eq_ok_iff] at h ⊢
    obtain ⟨hlt, _⟩ := Array.getElem?_eq_some_iff.1 h
    have hindex : (a.shift.symbol id).index.toNat = a.symbols.size + id.index.toNat :=
      toNat_add_ofNat hlt hsymbols
    rw [hindex, merge, Array.getElem?_append_right (by omega), Nat.add_sub_cancel_left, h]
  types_le := by simp [merge]
  symbols_le := by simp [merge]

/-- No type extends another one. -/
def Baseless (graph : TypeGraph) : Prop :=
  ∀ node ∈ graph.types.toList, node.baseTypes = []

instance : Decidable graph.Baseless :=
  inferInstanceAs (Decidable (∀ node ∈ graph.types.toList, node.baseTypes = []))

theorem Baseless.baseTypes (h : graph.Baseless) {id : TypeId} {node : TypeNode}
    (hnode : graph.lookupType id = .ok node) : node.baseTypes = [] :=
  h node (mem_types hnode)

/-- What two graphs must have in common, and what they must not, for the merged graph to be both of
them: they are valid, there is room for both, no problem is reported, nothing extends anything, and
no name is declared twice. -/
structure Mergeable (a b : TypeGraph) : Prop where
  left : a.validate = .ok ()
  right : b.validate = .ok ()
  types : a.types.size + b.types.size < 2 ^ 32
  symbols : a.symbols.size + b.symbols.size < 2 ^ 32
  reports : a.diagnostics = [] ∧ b.diagnostics = []
  baseless : a.Baseless ∧ b.Baseless
  nodup : (Dict.keys b.declarations).Nodup
  disjoint : ∀ name ∈ Dict.keys b.declarations, name ∉ Dict.keys a.declarations

namespace Mergeable

variable (h : a.Mergeable b)

include h

theorem declarations :
    (a.merge b).declarations = a.declarations ++ b.declarations.map a.shift.entry := by
  have hkeys : Dict.keys (b.declarations.map a.shift.entry) = Dict.keys b.declarations := by
    simp [Dict.keys, Function.comp_def, Shift.entry]
  show Dict.extend a.declarations (b.declarations.map a.shift.entry) = _
  refine Dict.extend_of_disjoint (hkeys ▸ h.nodup) fun name hname => ?_
  rw [Dict.contains_iff_mem_keys]
  exact h.disjoint name (hkeys ▸ hname)

end Mergeable

end TypeGraph

/-! ## Catalogs of merged graphs -/

namespace Catalog

open TypeGraph

/-- Declarations are entered alike at both places, under the same names; and without hashes under
their own ones. -/
theorem foldlM_addDeclaration {graph larger : TypeGraph} {shift : Shift}
    (hplaced : graph.Placed shift larger) (hrange : graph.InRange) (hbaseless : graph.Baseless)
    (options : Options) {entries : List (String × TypeId)}
    (hentries : ∀ entry ∈ entries, graph.HasType entry.2) :
    ∃ added : Dict TypeId,
      (options.uniqueNames = false → Dict.keys added = Dict.keys entries) ∧
      (∀ catalog : Catalog, catalog.graph = graph → catalog.options = options →
        entries.foldlM addDeclaration catalog =
          .ok { catalog with declared := Dict.extend catalog.declared added }) ∧
      ∀ catalog : Catalog, catalog.graph = larger → catalog.options = options →
        (entries.map shift.entry).foldlM addDeclaration catalog =
          .ok { catalog with
            declared := Dict.extend catalog.declared (added.map shift.entry) } := by
  induction entries with
  | nil => exact ⟨[], fun _ => rfl, fun _ _ _ => rfl, fun _ _ _ => rfl⟩
  | cons entry rest ih =>
    obtain ⟨hfirst, hrest⟩ := List.forall_mem_cons.1 hentries
    obtain ⟨added, hkeys, halone, hmerged⟩ := ih hrest
    obtain ⟨node, hnode⟩ := found_type hfirst
    obtain ⟨symbol, hsymbol⟩ := (hrange.nodeInRange hnode).found_declaringSymbol
    have hbases : node.baseTypes.mapM graph.typeText = .ok [] := by
      rw [hbaseless.baseTypes hnode]
      rfl
    have hmovedBases : (shift.node node).baseTypes.mapM larger.typeText = .ok [] := by
      rw [Shift.node, hbaseless.baseTypes hnode]
      rfl
    refine ⟨(declaredName options entry.1 symbol, entry.2) :: added, ?_, ?_, ?_⟩
    · intro hplain
      have hname : declaredName options entry.1 symbol = entry.1 := by
        rw [declaredName, hplain]
        rfl
      exact congrArg₂ List.cons hname (hkeys hplain)
    · rintro catalog rfl rfl
      rw [List.foldlM_cons, addDeclaration_eq hnode hsymbol hbases]
      exact halone _ rfl rfl
    · rintro catalog rfl rfl
      obtain ⟨_, hdeclaring, rfl⟩ := hplaced.refound_declaringSymbol node symbol hsymbol
      rw [List.map_cons, List.foldlM_cons,
        addDeclaration_eq (hplaced.type hnode) hdeclaring hmovedBases]
      exact hmerged _ rfl rfl

/-- A graph of which no problem is reported is the catalog of its declarations. -/
theorem ofGraph_eq_foldlM {graph : TypeGraph} (hreports : graph.diagnostics = [])
    (options : Options) (modules : Modules) :
    ofGraph graph options modules =
      (graph.declarations.foldlM addDeclaration { graph, options, modules }).mapError
        Error.missing := by
  rw [ofGraph, hreports]
  simp

/-- The catalogs of two graphs and of the merged one: in the latter the declarations of the second
graph come after those of the first, and count where the names they are selected by are the same. -/
theorem ofGraph_merge {a b : TypeGraph} (h : a.Mergeable b) (options : Options)
    (modules : Modules) :
    ∃ first second : Dict TypeId,
      (options.uniqueNames = false → Dict.keys first = Dict.keys a.declarations ∧
        Dict.keys second = Dict.keys b.declarations) ∧
      ofGraph a options modules =
        .ok { graph := a, options, modules, declared := Dict.ofEntries first } ∧
      ofGraph b options modules =
        .ok { graph := b, options, modules, declared := Dict.ofEntries second } ∧
      ofGraph (a.merge b) options modules =
        .ok { graph := a.merge b, options, modules,
              declared := Dict.extend (Dict.ofEntries first) (second.map a.shift.entry) } := by
  have hleft := validate_eq_ok_iff.1 h.left
  have hright := validate_eq_ok_iff.1 h.right
  obtain ⟨first, hfirst, halone, hmerged⟩ := foldlM_addDeclaration (placed_merge_left a b) hleft
    h.baseless.1 options hleft.declarations
  obtain ⟨second, hsecond, halone', hmerged'⟩ := foldlM_addDeclaration
    (placed_merge_right h.types h.symbols) hright h.baseless.2 options hright.declarations
  have hreports : (a.merge b).diagnostics = [] := by
    rw [merge, h.reports.1, h.reports.2]
    rfl
  rw [ofGraph_eq_foldlM h.reports.1, ofGraph_eq_foldlM h.reports.2, ofGraph_eq_foldlM hreports,
    halone _ rfl rfl, halone' _ rfl rfl, h.declarations, List.foldlM_append]
  rw [Shift.entry_zero, List.map_id] at hmerged
  rw [hmerged _ rfl rfl]
  refine ⟨first, second, fun hplain => ⟨hfirst hplain, hsecond hplain⟩, rfl, rfl, ?_⟩
  show Except.mapError _ (List.foldlM _ _ _) = _
  rw [hmerged' _ rfl rfl]
  simp only [List.map_id]
  rfl

/-- Patterns that are names select alike at both places, if the names are declared alike. -/
theorem select_moved {catalog larger : Catalog} {shift : Shift}
    (hnodup : (Dict.keys catalog.declared).Nodup) (hnodup' : (Dict.keys larger.declared).Nodup)
    {patterns : List NamePattern} (hpatterns : patterns.isEmpty = false)
    (hexact : ∀ pattern ∈ patterns, ∃ name, pattern = .exact name ∧
      Dict.get? larger.declared name = (Dict.get? catalog.declared name).map shift.type) :
    larger.select patterns = (catalog.select patterns).map shift.entry := by
  rw [select, select, hpatterns]
  simp only [Bool.false_eq_true, if_false, List.map_flatMap]
  refine List.flatMap_congr fun pattern hpattern => ?_
  obtain ⟨name, rfl, hget⟩ := hexact pattern hpattern
  show larger.declared.filter (fun entry => name == entry.1) =
    (catalog.declared.filter fun entry => name == entry.1).map shift.entry
  rw [Dict.filter_key hnodup, Dict.filter_key hnodup', hget]
  cases Dict.get? catalog.declared name <;> rfl

/-- What the second graph declares is looked up first. -/
theorem get?_extend_moved (first second : Dict TypeId) (shift : Shift) (name : String) :
    Dict.get? (Dict.extend (Dict.ofEntries first) (second.map shift.entry)) name =
      ((Dict.get? (Dict.ofEntries second) name).map shift.type).or
        (Dict.get? (Dict.ofEntries first) name) := by
  have hmoved : Dict.ofEntries (second.map shift.entry) =
      (Dict.ofEntries second).map fun entry => (entry.1, shift.type entry.2) :=
    Dict.ofEntries_map shift.type second
  rw [Dict.get?_extend, hmoved, Dict.get?_map]

/-- The catalog of a valid graph is whole, whatever the definitions that are given and the hook. -/
theorem whole_of_ofGraph {graph : TypeGraph} (hvalid : graph.validate = .ok ()) {options : Options}
    {modules : Modules} {base : Catalog} (hbase : ofGraph graph options modules = .ok base)
    (overrides : Dict Definition) (hook : Definition → Definition) :
    Whole { base with overrides, hook } :=
  (IsOf.whole ⟨options, modules, base, hbase, rfl⟩ hvalid).1

/-- **Documents do not change when graphs are merged.**  Whatever the options, the definitions that
are given and the hook, a document of declarations of the second graph is built from the merged graph
as from the second graph alone, and one of declarations of the first graph as from the first graph
alone.  Where names carry hashes, a declaration of the first graph has to be one whose name, with the
hash, is not that of a declaration of the second graph. -/
theorem schemas_merge {a b : TypeGraph} (h : a.Mergeable b) (options : Options)
    (modules : Modules) :
    ∃ first second both : Catalog,
      ofGraph a options modules = .ok first ∧ ofGraph b options modules = .ok second ∧
      ofGraph (a.merge b) options modules = .ok both ∧
      ∀ (overrides : Dict Definition) (hook : Definition → Definition)
        (patterns : List NamePattern),
        ((∀ pattern ∈ patterns, ∃ name, pattern = .exact name ∧
            Dict.contains second.declared name = true) →
          DocumentsAgree a.shift { second with overrides, hook } { both with overrides, hook }
            patterns) ∧
        ((∀ pattern ∈ patterns, ∃ name, pattern = .exact name ∧
            Dict.contains first.declared name = true ∧
            (options.uniqueNames = true → ¬Dict.contains second.declared name = true)) →
          DocumentsAgree .zero { first with overrides, hook } { both with overrides, hook }
            patterns) := by
  obtain ⟨first, second, hkeys, hfirst, hsecond, hboth⟩ := ofGraph_merge h options modules
  refine ⟨_, _, _, hfirst, hsecond, hboth, fun overrides hook patterns => ⟨fun hpatterns => ?_,
    fun hpatterns => ?_⟩⟩
  · have hplaced : Placed a.shift
        { graph := b, options, modules, declared := Dict.ofEntries second, overrides, hook }
        { graph := a.merge b, options, modules,
          declared := Dict.extend (Dict.ofEntries first) (second.map a.shift.entry),
          overrides, hook } :=
      { graph := placed_merge_right h.types h.symbols, options := rfl, modules := rfl,
        overrides := rfl, hook := rfl, subtypes := rfl, declared := fun h => nomatch h }
    refine hplaced.documentsAgree (whole_of_ofGraph h.right hsecond overrides hook) fun hne =>
      select_moved (Dict.nodup_keys_ofEntries second) (Dict.nodup_keys_extend (Dict.nodup_keys_ofEntries first))
        hne fun pattern hpattern => ?_
    obtain ⟨name, rfl, hname⟩ := hpatterns pattern hpattern
    obtain ⟨id, hid⟩ := Option.isSome_iff_exists.1 hname
    exact ⟨name, rfl, by rw [get?_extend_moved, hid]; rfl⟩
  · have hplaced : Placed .zero
        { graph := a, options, modules, declared := Dict.ofEntries first, overrides, hook }
        { graph := a.merge b, options, modules,
          declared := Dict.extend (Dict.ofEntries first) (second.map a.shift.entry),
          overrides, hook } :=
      { graph := placed_merge_left a b, options := rfl, modules := rfl,
        overrides := rfl, hook := rfl, subtypes := rfl, declared := fun h => nomatch h }
    refine hplaced.documentsAgree (whole_of_ofGraph h.left hfirst overrides hook) fun hne =>
      select_moved (Dict.nodup_keys_ofEntries first) (Dict.nodup_keys_extend (Dict.nodup_keys_ofEntries first))
        hne fun pattern hpattern => ?_
    obtain ⟨name, rfl, hname, hhash⟩ := hpatterns pattern hpattern
    have hother : ¬Dict.contains (Dict.ofEntries second) name = true := by
      cases hunique : options.uniqueNames with
      | true => exact hhash hunique
      | false =>
        obtain ⟨hfirstKeys, hsecondKeys⟩ := hkeys hunique
        rw [Dict.contains_ofEntries_iff, hfirstKeys] at hname
        rw [Dict.contains_ofEntries_iff, hsecondKeys]
        exact fun hmem => h.disjoint name hmem hname
    refine ⟨name, rfl, ?_⟩
    rw [get?_extend_moved, Dict.get?_eq_none_of_not_contains hother]
    simp

/-- A declared author, with a name. -/
def authors : TypeGraph where
  types := #[{ kind := .string },
    { kind := .object [{ symbol := ⟨1⟩, type := ⟨0⟩ }] false none, symbol := some ⟨0⟩ }]
  symbols := #[{ name := "Author" }, { name := "name" }]
  declarations := [("Author", ⟨1⟩)]

/-- A declared book, with a sequel that may be missing. -/
def books : TypeGraph where
  types := #[{ kind := .undefined }, { kind := .union [⟨2⟩, ⟨0⟩] },
    { kind := .object [{ symbol := ⟨1⟩, type := ⟨1⟩ }] false none, symbol := some ⟨0⟩ }]
  symbols := #[{ name := "Book" }, { name := "sequel" }]
  declarations := [("Book", ⟨2⟩)]

theorem mergeable_authors_books : authors.Mergeable books where
  left := by decide +kernel
  right := by decide +kernel
  types := by decide
  symbols := by decide
  reports := ⟨rfl, rfl⟩
  baseless := ⟨by decide, by decide⟩
  nodup := by decide
  disjoint := by decide

/-- A hook that leaves a trace. -/
def markSeen (definition : Definition) : Definition :=
  definition.insert "x-seen" (.bool true)

/-- The book and the author are described by the merged graph as each is by its own, the hook
included. -/
theorem schemas_merge_authors_books :
    authors.Mergeable books ∧
    ∃ both : Catalog, ofGraph (authors.merge books) {} Modules.none = .ok both ∧
      (∃ document,
        (schemas { graph := books, declared := books.declarations, hook := markSeen }
          [.exact "Book"]).result = .ok document ∧
        (schemas { both with overrides := [], hook := markSeen } [.exact "Book"]).result =
          .ok document) ∧
      ∃ document,
        (schemas { graph := authors, declared := authors.declarations, hook := markSeen }
          [.exact "Author"]).result = .ok document ∧
        (schemas { both with overrides := [], hook := markSeen } [.exact "Author"]).result =
          .ok document := by
  obtain ⟨first, second, both, hfirst, hsecond, hboth, hagree⟩ :=
    schemas_merge mergeable_authors_books {} Modules.none
  refine ⟨mergeable_authors_books, both, hboth, ?_, ?_⟩
  · obtain rfl : second = { graph := books, declared := books.declarations } :=
      Except.ok.inj (hsecond.symm.trans rfl)
    have hbook := (hagree [] markSeen [.exact "Book"]).1 fun pattern hpattern =>
      ⟨"Book", List.mem_singleton.1 hpattern, by decide⟩
    have hends : (schemas { graph := books, declared := books.declarations, hook := markSeen }
        [.exact "Book"]).result.toOption.isSome = true := by decide +kernel
    obtain ⟨document, hdocument⟩ := exists_eq_ok hends
    exact ⟨document, hdocument, hbook.schemas_eq_ok hdocument⟩
  · obtain rfl : first = { graph := authors, declared := authors.declarations } :=
      Except.ok.inj (hfirst.symm.trans rfl)
    have hauthor := (hagree [] markSeen [.exact "Author"]).2 fun pattern hpattern =>
      ⟨"Author", List.mem_singleton.1 hpattern, by decide, fun h => nomatch h⟩
    have hends : (schemas { graph := authors, declared := authors.declarations, hook := markSeen }
        [.exact "Author"]).result.toOption.isSome = true := by decide +kernel
    obtain ⟨document, hdocument⟩ := exists_eq_ok hends
    exact ⟨document, hdocument, hauthor.schemas_eq_ok hdocument⟩

/-- Where an interface is declared. -/
def hashedPlace : Declaration where
  file := "a.ts"
  position := 1
  kind := .interface
  isAbstract := false

/-- A declared interface, with the place of its declaration. -/
def hashed : TypeGraph where
  types := #[{ kind := .object [] false none, symbol := some ⟨0⟩ }]
  symbols := #[{ name := "A", declaration := some hashedPlace }]
  declarations := [("A", ⟨0⟩)]

/-- A declared number, under the name of the interface with the hash of its place. -/
def hashLike : TypeGraph where
  types := #[{ kind := .number }]
  declarations := [("A" ++ "." ++ hashedPlace.hash, ⟨0⟩)]

/-- The `type` of the definition that a call gives under a name that carries a hash. -/
def hashedType? (graph : TypeGraph) (name : String) : Option String := do
  let catalog ← (ofGraph graph { uniqueNames := true } Modules.none).toOption
  let document ← (catalog.schemas [.exact name]).result.toOption
  (← Dict.get? document name).typeName?

/-- Where names carry hashes, the merged graph may have another declaration under the name by which
one of the first graph is selected: here the document is that of a number, and not of the interface. -/
theorem exists_merge_replaced :
    hashed.Mergeable hashLike ∧
    hashedType? hashed ("A" ++ "." ++ hashedPlace.hash) = some "object" ∧
    hashedType? (hashed.merge hashLike) ("A" ++ "." ++ hashedPlace.hash) = some "number" := by
  refine ⟨⟨by decide +kernel, by decide +kernel, by decide, by decide, ⟨rfl, rfl⟩,
    ⟨by decide, by decide⟩, by decide +kernel, by decide +kernel⟩, ?_, ?_⟩
  · decide +kernel
  · decide +kernel

end Catalog

end TypeSchema
