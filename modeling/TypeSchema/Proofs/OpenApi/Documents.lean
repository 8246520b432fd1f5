import TypeSchema.Proofs.OpenApi.Decoded
import TypeSchema.Proofs.OpenApi.Operations

/-!
# Emitted documents are read back

Placing operations and adding schemas repeats no key, so a document repeats none where the operations of
the selected shapes do not (`Catalog.hasUniqueKeys_of_openApi`).  It is then read back from its text
(**`Catalog.decodeText_openApi`**).  A tag that enters the name of a field makes it one that is not read
at all (`Catalog.responses_entered_twice`).
-/

set_option autoImplicit false

namespace TypeSchema

open OpenApi Json Contract

/-! ## Placing and adding -/

namespace OpenApi

variable {document : Document}

/-- An operation is placed among others. -/
theorem Document.HasUniqueKeys.place (h : document.HasUniqueKeys) {placed : Catalog.PlacedOperation}
    (hplaced : placed.operation.toJson.HasUniqueKeys) : (document.place placed).HasUniqueKeys := by
  refine { h with paths := hasUniqueKeys_dict_insert h.paths (hasUniqueKeys_dict_insert ?_ hplaced) }
  cases hget : Dict.get? document.paths placed.path with
  | none => exact Definition.HasUniqueKeys.empty
  | some item => exact (hasUniqueKeys_dict.1 h.paths).2 _ (Dict.mem_of_get? hget)

theorem Document.IsApart.place (h : document.IsApart) {placed : Catalog.PlacedOperation}
    (hplaced : placed.operation.IsApart) : (document.place placed).IsApart := by
  refine { h with operations := fun item hitem entry hentry => ?_ }
  rcases Dict.mem_of_mem_insert hitem with rfl | hold
  · rcases Dict.mem_of_mem_insert hentry with rfl | hother
    · exact hplaced
    · cases hget : Dict.get? document.paths placed.path with
      | none => simp [hget] at hother
      | some operations =>
        exact h.operations _ (Dict.mem_of_get? hget) entry (by simpa [hget] using hother)
  · exact h.operations item hold entry hentry

/-- Schemas are added one after the other, each under a name that is not there. -/
theorem hasUniqueKeys_foldl_insertNew {schemas start : Dict Definition}
    (h : ∀ entry ∈ schemas, entry.2.HasUniqueKeys)
    (hstart : (Dict.toJson Definition.toJson start).HasUniqueKeys) :
    (Dict.toJson Definition.toJson (schemas.foldl
      (fun done entry => Dict.insertNew done entry.1 entry.2) start)).HasUniqueKeys := by
  induction schemas generalizing start with
  | nil => exact hstart
  | cons first rest ih =>
    obtain ⟨hfirst, hrest⟩ := List.forall_mem_cons.1 h
    exact ih hrest (hasUniqueKeys_dict_insertNew hstart hfirst)

theorem Document.HasUniqueKeys.addSchemas (h : document.HasUniqueKeys) {schemas : Dict Definition}
    (hschemas : ∀ entry ∈ schemas, entry.2.HasUniqueKeys) :
    (document.addSchemas schemas).HasUniqueKeys := by
  obtain ⟨hkeys, hentries⟩ := hasUniqueKeys_object.1 h.components
  obtain ⟨hown, hothers⟩ := List.forall_mem_cons.1 hentries
  have hcomponents : (document.addSchemas schemas).components.toJson.HasUniqueKeys :=
    hasUniqueKeys_object.2 ⟨hkeys, List.forall_mem_cons.2
      ⟨hasUniqueKeys_foldl_insertNew hschemas hown, hothers⟩⟩
  exact { h with components := hcomponents }

end OpenApi

/-! ## Documents -/

namespace Catalog

variable {catalog : Catalog} {patterns : List NamePattern}

/-- Nothing is entered under the name of a field of an operation, a body or a response: not by what is
said of the selected shapes, and by no keyword of a body. -/
structure KeysApart (catalog : Catalog) (patterns : List NamePattern) : Prop where
  spares : catalog.reader.SparesBody
  shapes : ∀ declared ∈ catalog.select patterns, ∀ node,
    catalog.graph.lookupType declared.2 = .ok node → catalog.KeepsApart node

/-- Under the preset lead, custom keywords and members are apart by their lead, and tags are all there
is to look at. -/
theorem KeysApart.of_avoids (hlead : catalog.options.customLead = "x-")
    (havoids : ∀ symbol ∈ catalog.graph.symbols.toList,
      catalog.reader.Avoids (filledKeys ++ ["content"]) symbol) : catalog.KeysApart patterns := by
  have hother : ∀ {name : String}, "x-" ++ name ∉ operationKeys ++ ["body", "content"] := by
    intro name hmem
    have hhead : ∀ key ∈ operationKeys ++ ["body", "content"], key.toList.head? ≠ some 'x' := by
      decide +kernel
    exact hhead _ hmem (by simp)
  have hnamed : ∀ {names : List String}, names ⊆ filledKeys ++ ["content"] → ∀ {id symbol},
      catalog.graph.lookupSymbol id = .ok symbol → catalog.reader.Avoids names symbol :=
    fun hsub _ symbol hsymbol tag htag key hkey hmem =>
      havoids symbol (TypeGraph.mem_symbols hsymbol) tag htag key hkey (hsub hmem)
  refine ⟨fun name emitted hemitted hmem => ?_, fun declared _ shape _ => ⟨?_, ?_, ?_⟩⟩
  · have hfixed : ∀ key ∈ validationKeywords ++ openApiKeywords, key ∉ ["body", "content"] := by
      decide +kernel
    rcases Keywords.of_emitted? hemitted with hkeyword | ⟨custom, _, rfl⟩
    · exact hfixed emitted hkeyword hmem
    · have hcustom : catalog.options.customLead ++ custom ∈ ["body", "content"] := hmem
      rw [hlead] at hcustom
      exact hother (List.mem_append_right _ hcustom)
  · exact fun id symbol _ hsymbol => hnamed (List.subset_append_left _ _) hsymbol
  · intro _ property _ symbol _ _ _ hmem
    rw [hlead] at hmem
    exact hother (List.mem_append_left _ hmem)
  · intro property _ symbol _ _ node _ response _ named hnamed'
    exact hnamed (List.subset_append_right _ _) hnamed'

theorem KeysGiven.answers_addShape (h : catalog.KeysGiven) {p : Progress}
    (hspares : catalog.reader.SparesBody) {entry : String × TypeId}
    (hshape : ∀ node, catalog.graph.lookupType entry.2 = .ok node → catalog.KeepsApart node)
    {document : Document} (hdocument : document.HasUniqueKeys ∧ document.IsApart) :
    h.contract.Answers p (catalog.addShape document entry) fun answer _ =>
      answer.HasUniqueKeys ∧ answer.IsApart := by
  rw [Catalog.addShape]
  refine (h.answers_operation hspares hshape _).bind fun answer q _ hanswer => ?_
  split
  · exact .pure hdocument
  · rename_i placed
    obtain ⟨hkeys, hapart⟩ := hanswer placed rfl
    have hplaced := And.intro (hdocument.1.place hkeys) (hdocument.2.place hapart)
    dsimp only
    split
    · exact .note (.pure hplaced)
    · exact .pure hplaced

/-- **A document repeats no key and keeps its entries apart from its fields.** -/
theorem hasUniqueKeys_of_openApi (hgiven : catalog.KeysGiven) (hapart : catalog.KeysApart patterns)
    {metadata : Metadata} (hmetadata : metadata.IsTidy) {document : Document}
    (hresult : (catalog.openApi patterns metadata).result = .ok document) :
    document.toJson.HasUniqueKeys ∧ document.IsApart := by
  have htidy := hmetadata.document catalog.options.version
  have hblank := And.intro htidy.keys htidy.apart
  unfold openApi at hresult
  dsimp only at hresult
  split at hresult
  · obtain rfl := Except.ok.inj hresult
    exact ⟨Document.hasUniqueKeys_toJson_iff.2 hblank.1, hblank.2⟩
  · have hanswers : hgiven.contract.Answers (Contract.fresh catalog .components) (do
        let document ← (catalog.select patterns).foldlM catalog.addShape
          (Document.ofMetadata catalog.options.version metadata)
        return document.addSchemas (← BuildM.context).reffed) fun answer _ =>
          answer.HasUniqueKeys ∧ answer.IsApart := by
      refine (Answers.foldlM (G := fun document _ => document.HasUniqueKeys ∧ document.IsApart) _
        hblank fun entry hmem document q _ hdocument => ?_).bind fun document q _ hdocument => ?_
      · exact hgiven.answers_addShape hapart.spares (hapart.shapes entry hmem) hdocument
      · refine .context fun hq => (Answers.pure ?_) hq
        exact ⟨hdocument.1.addSchemas hq.inv, { hdocument.2 with }⟩
    have hstart : hgiven.contract.Holds (Contract.fresh catalog .components) :=
      Contract.holds_fresh hgiven.overrides
    rcases (hanswers hstart).run with ⟨answer, _, hdone, _, _, _, hunique, hparts⟩ | ⟨e, _, hfailed, _⟩
    · obtain rfl := Except.ok.inj (hresult.symm.trans hdone)
      exact ⟨Document.hasUniqueKeys_toJson_iff.2 hunique, hparts⟩
    · cases hresult.symm.trans hfailed

/-- **Emitted documents are read back.**  A document repeats no key and keeps its entries apart from its
fields; and if it does not nest too deep and its numbers are read back, it is read back as it is unless a
parameter is described by `null`. -/
theorem decodeText_openApi (hgiven : catalog.KeysGiven) (hapart : catalog.KeysApart patterns)
    {metadata : Metadata} (hmetadata : metadata.IsTidy) {document : Document}
    (hresult : (catalog.openApi patterns metadata).result = .ok document) :
    document.toJson.HasUniqueKeys ∧ document.IsApart ∧
      (document.toJson.NestsWithin Draft.maxLevels → document.toJson.AllNumbers Number.IsStable →
        (decodeText Document.decode document.toJson.compact = .ok document ↔
          document.HasDescriptions)) := by
  obtain ⟨hkeys, hparts⟩ := hasUniqueKeys_of_openApi hgiven hapart hmetadata hresult
  refine ⟨hkeys, hparts, fun hnests hnumbers => ?_⟩
  rw [Document.decodeText_compact_iff hnests hnumbers]
  exact ⟨Document.IsTidy.descriptions, fun hdescriptions =>
    ⟨Document.hasUniqueKeys_toJson_iff.1 hkeys, hparts, hdescriptions⟩⟩

/-- A book, and a shape that adds one, with tags on the shape. -/
def addBook (tags : List DocTag) : Catalog where
  graph :=
    { types := #[{ kind := .stringLiteral "/book" }, { kind := .stringLiteral "POST" },
        { kind := .string },
        { kind := .object [{ symbol := ⟨2⟩, type := ⟨2⟩ }] false none, symbol := some ⟨0⟩ },
        { kind := .object [{ symbol := ⟨3⟩, type := ⟨3⟩ }] true none },
        { kind := .object [{ symbol := ⟨4⟩, type := ⟨0⟩ }, { symbol := ⟨5⟩, type := ⟨1⟩ },
            { symbol := ⟨6⟩, type := ⟨3⟩ }, { symbol := ⟨7⟩, type := ⟨4⟩ }] false none
          symbol := some ⟨1⟩ }]
      symbols := #[{ name := "Book" }, { name := "AddBook", tags }, { name := "title" },
        { name := "200", tags := [⟨"description", some "The book as it is kept"⟩] },
        { name := "path" }, { name := "method" }, { name := "body" }, { name := "responses" }]
      declarations := [("Book", ⟨3⟩), ("AddBook", ⟨5⟩)] }
  declared := [("Book", ⟨3⟩), ("AddBook", ⟨5⟩)]

/-- The document of the shape with the tags. -/
def addBookDocument (tags : List DocTag) : Outcome Document :=
  (addBook tags).openApi [.exact "AddBook"] {}

/-- Tags that say something of the operation and of its body. -/
def plainTags : List DocTag :=
  [⟨"summary", some "Adds a book"⟩, ⟨"body.description", some "The book"⟩]

theorem decodeText_openApi_addBook : ∃ document,
    (addBookDocument plainTags).result = .ok document ∧ document.toJson.HasUniqueKeys ∧
      decodeText Document.decode document.toJson.compact = .ok document := by
  have hlooked : (addBookDocument plainTags).result.toOption.any (fun document =>
      decide (document.toJson.NestsWithin Draft.maxLevels) &&
        (decide (document.toJson.AllNumbers Number.IsStable) &&
          document.paths.all fun item => item.2.all fun entry => entry.2.parameters.isEmpty)) =
      true := by
    decide +kernel
  obtain ⟨document, hresult, hlooked⟩ := (Option.any_eq_true _ _).1 hlooked
  have hresult : (addBookDocument plainTags).result = .ok document :=
    Decoder.toOption_eq_some.1 hresult
  obtain ⟨hnests, hlooked⟩ := Bool.and_eq_true_iff.1 hlooked
  obtain ⟨hnumbers, hparameters⟩ := Bool.and_eq_true_iff.1 hlooked
  have hgiven : (addBook plainTags).KeysGiven :=
    ⟨List.forall_mem_nil _, List.nodup_nil, fun _ h => h⟩
  have hentered : ∀ symbol ∈ (addBook plainTags).graph.symbols.toList, ∀ tag ∈ symbol.tags,
      ∀ key ∈ (addBook plainTags).reader.entered? tag, key ∉ filledKeys ++ ["content"] := by
    decide +kernel
  obtain ⟨hkeys, _, hread⟩ :=
    decodeText_openApi hgiven (.of_avoids rfl hentered) Metadata.IsTidy.empty hresult
  refine ⟨document, hresult, hkeys, (hread (of_decide_eq_true hnests) (of_decide_eq_true hnumbers)).2
    fun item hitem entry hentry p hp => ?_⟩
  have hnone := List.all_eq_true.1 (List.all_eq_true.1 hparameters item hitem) entry hentry
  rw [List.isEmpty_iff.1 hnone] at hp
  cases hp

/-- A tag of the parent `responses` is entered beside the responses of the operation, and the document is
not read back. -/
theorem responses_entered_twice :
    (addBook [⟨"responses.description", some "The book"⟩]).graph.validate = .ok () ∧
    ofGraph (addBook [⟨"responses.description", some "The book"⟩]).graph {} Modules.none =
      .ok (addBook [⟨"responses.description", some "The book"⟩]) ∧
    ∃ document, (addBookDocument [⟨"responses.description", some "The book"⟩]).result = .ok document ∧
      document.toJson.IsFinite ∧ ¬document.toJson.HasUniqueKeys ∧
      ∀ other, decodeText Document.decode document.toJson.compact ≠ .ok other := by
  have hlooked : (addBookDocument [⟨"responses.description", some "The book"⟩]).result.toOption.any
      (fun document => decide (document.toJson.AllNumbers Number.IsStable) &&
        ((document.paths.any fun item => item.2.any fun entry =>
          !decide (Dict.keys (entry.2.toJson.fields?.getD [])).Nodup) &&
          !(Document.decode Draft.maxLevels document.toJson.draft).isOk)) = true := by
    decide +kernel
  obtain ⟨document, hresult, hlooked⟩ := (Option.any_eq_true _ _).1 hlooked
  have hresult : (addBookDocument [⟨"responses.description", some "The book"⟩]).result =
      .ok document := Decoder.toOption_eq_some.1 hresult
  obtain ⟨hnumbers, hlooked⟩ := Bool.and_eq_true_iff.1 hlooked
  obtain ⟨hrepeated, hrefused⟩ := Bool.and_eq_true_iff.1 hlooked
  have hfinite : document.toJson.IsFinite := fun n hn => (of_decide_eq_true hnumbers n hn).isFinite
  refine ⟨rfl, rfl, document, hresult, hfinite, fun hkeys => ?_, fun other hread => ?_⟩
  · obtain ⟨item, hitem, hentries⟩ := List.any_eq_true.1 hrepeated
    obtain ⟨entry, hentry, htwice⟩ := List.any_eq_true.1 hentries
    have hpaths := (Document.hasUniqueKeys_toJson_iff.1 hkeys).paths
    have hoperation := (hasUniqueKeys_dict.1 ((hasUniqueKeys_dict.1 hpaths).2 item hitem)).2 entry hentry
    have hnodup : (Dict.keys (entry.2.toJson.fields?.getD [])).Nodup :=
      (hasUniqueKeys_object.1 hoperation).1
    simp [hnodup] at htwice
  · rw [decodeText, Json.read_compact hfinite] at hread
    simp [hread, Except.isOk, Except.toBool] at hrefused

end Catalog

end TypeSchema
