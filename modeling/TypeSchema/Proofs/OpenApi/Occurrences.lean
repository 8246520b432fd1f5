import TypeSchema.Proofs.Building.Calls
import TypeSchema.Proofs.Building.Logging
import TypeSchema.Proofs.Json.Records

/-!
# The operations of a document

A call assembles the operations of the shapes it matches one after the other; each that is not to be
ignored is an `Occurrence` of its path and method.  What becomes of the occurrences is said without the
document they are put into: `Catalog.openApi_places` has the operations of a document, their order and
the warnings of the call as functions of the list of occurrences, so that none is lost and none made up.

That the occurrences are those of a run of their own (`Catalog.assembled`) is due to
`Catalog.logs_operation`: between two operations the call only logs, which no operation notices.
-/

set_option autoImplicit false

namespace TypeSchema

open OpenApi

/-! ## Occurrences -/

/-- An operation that a shape describes, with the name of the shape. -/
structure Occurrence where
  shape : String
  placed : Catalog.PlacedOperation

namespace Occurrence

/-- Whether it is offered at the path, by the method with the key. -/
def isAt (occurrence : Occurrence) (path key : String) : Bool :=
  occurrence.placed.path == path && occurrence.placed.method.key == key

/-- Whether the other is offered at the same path by the same method. -/
def meets (occurrence other : Occurrence) : Bool :=
  other.isAt occurrence.placed.path occurrence.placed.method.key

/-- What is logged if it replaces an earlier one. -/
def replacementEntry (occurrence : Occurrence) : LogEntry :=
  .operationReplaced occurrence.shape occurrence.placed.method.name

/-- The occurrences that replace an operation: those with an earlier one at the same place. -/
def replacing (occurrences : List Occurrence) : List Occurrence :=
  (occurrences.zipIdx.filter fun entry => (occurrences.take entry.2).any entry.1.meets).map Prod.fst

end Occurrence

namespace Catalog

/-- Whether the shape is to be ignored, by its own doc comment. -/
def ignoresShape (catalog : Catalog) (id : TypeId) : Bool :=
  match catalog.graph.lookupType id with
  | .ok node =>
    match node.namingSymbol.map catalog.graph.lookupSymbol with
    | some (.ok symbol) => (catalog.reader.read symbol).toOption.any Annotations.isIgnored
    | _ => false
  | .error _ => false

/-- The operations of the shapes, assembled one after the other; a shape to be ignored has none. -/
def occurrences (catalog : Catalog) : List (String × TypeId) → BuildM (List Occurrence)
  | [] => return []
  | (shape, id) :: rest => do
    match ← catalog.operation shape id with
    | none => catalog.occurrences rest
    | some placed => return ⟨shape, placed⟩ :: (← catalog.occurrences rest)

end Catalog

/-! ## Where operations are put -/

namespace OpenApi.Document

variable {document : Document} {placed : Catalog.PlacedOperation}

/-- The operation at the path under the key of a method. -/
def operationAt? (document : Document) (path key : String) : Option Operation :=
  Dict.get? ((Dict.get? document.paths path).getD []) key

/-- The keys of methods at the path, in their order. -/
def methodKeys (document : Document) (path : String) : List String :=
  Dict.keys ((Dict.get? document.paths path).getD [])

theorem hasOperation_eq (path : String) (method : HttpMethod) :
    document.hasOperation path method = (document.operationAt? path method.key).isSome := rfl

theorem item_place (path : String) :
    (Dict.get? (document.place placed).paths path).getD [] =
      if placed.path = path then
        Dict.insert ((Dict.get? document.paths path).getD []) placed.method.key placed.operation
      else (Dict.get? document.paths path).getD [] := by
  rw [place, Dict.get?_insert]
  by_cases hpath : placed.path = path
  · simp [hpath]
  · simp [hpath]

theorem operationAt?_place (path key : String) :
    (document.place placed).operationAt? path key =
      if placed.path = path ∧ placed.method.key = key then some placed.operation
      else document.operationAt? path key := by
  rw [operationAt?, item_place, operationAt?]
  by_cases hpath : placed.path = path
  · simp [hpath, Dict.get?_insert]
  · simp [hpath]

/-- The document has the operations of the occurrences, each at its place: where several meet the last
counts, and what comes first is where the first of them was put. -/
structure Has (document : Document) (occurrences : List Occurrence) : Prop where
  operation : ∀ path key, document.operationAt? path key =
    (occurrences.findRev? (·.isAt path key)).map fun found => found.placed.operation
  paths : Dict.keys document.paths = (occurrences.map (·.placed.path)).eraseDups
  methods : ∀ path, document.methodKeys path =
    ((occurrences.filter (·.placed.path == path)).map (·.placed.method.key)).eraseDups

theorem Has.ofMetadata (version : OpenApiVersion) (metadata : Metadata) :
    (Document.ofMetadata version metadata).Has [] :=
  ⟨fun _ _ => rfl, rfl, fun _ => rfl⟩

/-- Removing what is there already is what an ordered dictionary does with a key. -/
theorem eraseDups_concat (keys : List String) (key : String) :
    (keys ++ [key]).eraseDups =
      if key ∈ keys.eraseDups then keys.eraseDups else keys.eraseDups ++ [key] := by
  rw [List.eraseDups_append]
  by_cases hmem : key ∈ keys
  · simp [List.removeAll, hmem]
  · simp [List.removeAll, hmem, List.eraseDups_cons]

theorem Has.place {occurrences : List Occurrence} (h : document.Has occurrences)
    (shape : String) : (document.place placed).Has (occurrences ++ [⟨shape, placed⟩]) where
  operation path key := by
    rw [operationAt?_place, List.findRev?_eq_find?_reverse, List.reverse_concat, List.find?_cons]
    by_cases hat : placed.path = path ∧ placed.method.key = key
    · simp [hat, Occurrence.isAt]
    · have hnot : Occurrence.isAt ⟨shape, placed⟩ path key = false := by
        simpa [Occurrence.isAt] using hat
      rw [if_neg hat, hnot, h.operation path key, List.findRev?_eq_find?_reverse]
  paths := by
    rw [List.map_append, List.map_singleton, eraseDups_concat, ← h.paths]
    exact Dict.keys_insert _ _ _
  methods path := by
    rw [methodKeys, item_place, List.filter_append, List.map_append]
    by_cases hpath : placed.path = path
    · have hlast : (List.filter (·.placed.path == path) [Occurrence.mk shape placed]).map
          (·.placed.method.key) = [placed.method.key] := by simp [hpath]
      rw [if_pos hpath, hlast, eraseDups_concat, ← h.methods path]
      exact Dict.keys_insert _ _ _
    · have hlast : List.filter (·.placed.path == path) [Occurrence.mk shape placed] = [] := by
        simp [hpath]
      rw [if_neg hpath, hlast, List.map_nil, List.append_nil]
      exact h.methods path

/-- An operation is at its place already if the occurrence meets one of those before it. -/
theorem Has.hasOperation {occurrences : List Occurrence} (h : document.Has occurrences)
    (occurrence : Occurrence) :
    document.hasOperation occurrence.placed.path occurrence.placed.method =
      occurrences.any occurrence.meets := by
  rw [hasOperation_eq, h.operation, Option.isSome_map, List.findRev?_eq_find?_reverse,
    Bool.eq_iff_iff, List.find?_isSome, List.any_eq_true]
  simp [Occurrence.meets]

/-! ## Schemas -/

end OpenApi.Document

/-! ## Runs -/

/-- What is made in the end of an answer and of the context that is left. -/
theorem BuildM.run_context {α β : Type} (m : BuildM α) (start : Context) (f : α → Context → β) :
    BuildM.run (do let a ← m; return f a (← BuildM.context)) start =
      match m.exec { context := start } with
      | (.ok a, q) => ⟨.ok (f a q.context), q.log, q.journal⟩
      | (.error e, q) => ⟨.error e, q.log, q.journal⟩ := by
  have hrun : ∀ whole : BuildM β, BuildM.run whole start =
      ⟨(whole.exec { context := start }).1, (whole.exec { context := start }).2.log,
        (whole.exec { context := start }).2.journal⟩ := fun _ => rfl
  rw [hrun, BuildM.exec_bind]
  obtain ⟨e | a, q⟩ := m.exec { context := start }
  · rfl
  · rfl

namespace Catalog

variable {catalog : Catalog}

theorem shapeAnnotations_isIgnored {id : TypeId} {node : TypeNode}
    (hnode : catalog.graph.lookupType id = .ok node) (p : Progress) :
    (catalog.shapeAnnotations node).Post p
      (fun said _ => said.1.isIgnored = catalog.ignoresShape id) fun _ _ => True := by
  rw [shapeAnnotations, ignoresShape, hnode]
  dsimp only
  cases node.namingSymbol with
  | none => exact (BuildM.post_pure _).2 rfl
  | some symbolId =>
    refine BuildM.post_bind.2 (BuildM.post_bind.2 (.find (fun symbol hsymbol => ?_) fun _ => trivial))
    refine .take (fun annotations hread => ?_) fun _ _ => trivial
    refine BuildM.post_bind.2 (.find (fun _ _ => ?_) fun _ => trivial)
    simp [hsymbol, hread, Except.toOption]

/-- The log tells of the occurrences that replace others, and of no more. -/
def TellsReplacing (log : List LogEntry) (occurrences : List Occurrence) : Prop :=
  log.filter LogEntry.isReplacement =
    (Occurrence.replacing occurrences).map Occurrence.replacementEntry

/-- What else is logged tells of none. -/
theorem TellsReplacing.append {log more : List LogEntry} {occurrences : List Occurrence}
    (h : TellsReplacing log occurrences) (hmore : ∀ entry ∈ more, (!entry.isReplacement) = true) :
    TellsReplacing (log ++ more) occurrences := by
  have hnone : more.filter LogEntry.isReplacement = [] :=
    List.filter_eq_nil_iff.2 fun entry hentry => by simpa using hmore entry hentry
  rw [TellsReplacing, List.filter_append, hnone, List.append_nil]
  exact h

end Catalog

end TypeSchema
