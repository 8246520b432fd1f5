import TypeSchema.Proofs.Context.Integrity
import TypeSchema.Proofs.Objects.Hook

/-!
# The properties of listed objects

An object is described by the properties it keeps, each with a schema.  The journal of a call names
every object that is described so, and what is said of the schemas of properties is said of these.
`Catalog.keeping_of_listed` has what is known of each: its schema is what the builder answered in a
context of the call, with the title and the default value that a property adds.
`Catalog.exists_made` says what was made for the request, unless the doc comment of the property
settles it.
-/

set_option autoImplicit false

namespace TypeSchema

/-- What keeps every property that is listed with the answer for it. -/
def listings (catalog : Catalog) : Contract catalog :=
  .ofInvariant
    (fun p => Reached catalog p ∧ ∀ listing, .listed listing ∈ p.journal → ∀ kept ∈ listing.kept,
      catalog.Keeping (catalog.Answered (Reached catalog) p) kept.property (some kept))
    (fun ⟨hreached, h⟩ hstep horigin => by
      have hgrows := hstep.grows
      refine ⟨hreached.step hstep, fun listing hmem kept hkept => ?_⟩
      rcases horigin.listed_mem hstep hmem with hold | hnew
      · exact (h listing hold kept hkept).mono fun _ _ hanswer => hanswer.grows hgrows
      · refine (hnew.keeping hkept).mono fun _ _ hanswer => ?_
        exact (hanswer.mono fun _ hinv => hinv.1).grows hgrows)
    (fun ⟨hreached, h⟩ hpromoted _ hhollow =>
      ⟨hreached.completed hpromoted hhollow, fun listing hmem kept hkept =>
        (h listing (Progress.mem_of_mem_act hmem nofun) kept hkept).mono
          fun _ _ hanswer => hanswer.grows (.completed _ _ _)⟩)
    fun ⟨hreached, h⟩ => ⟨hreached.applied _, fun listing hmem kept hkept =>
      (h listing (Progress.mem_of_mem_act hmem nofun) kept hkept).mono
        fun _ _ hanswer => hanswer.grows (Settles.act _ ⟨_, rfl⟩ rfl).toGrows⟩

namespace Catalog

variable {catalog : Catalog} {journal : List Event} {listing : Listing} {kept : KeptProperty}
  {annotations : Annotations}

/-- What the builder has answered can be derived. -/
theorem Answered.yields {inv : Progress → Prop} {p : Progress} {request : Request}
    {answer : Definition} (h : catalog.Answered inv p request answer) :
    catalog.Yields p request answer := by
  obtain ⟨_, above, _, _, hsound, _, hrun, hgrows⟩ := h.run
  have hdescribed : catalog.Described { request with above } := h.described
  exact (yields_of_answer hsound hdescribed hrun).of_above.grows hgrows

/-- A property that an object lists is kept with the answer for it. -/
theorem keeping_of_listed (hjournal : catalog.Journals journal)
    (hlisted : .listed listing ∈ journal) (hkept : kept ∈ listing.kept) :
    ∃ q : Progress, q.journal = journal ∧
      catalog.Keeping (catalog.Answered (Reached catalog) q) kept.property (some kept) := by
  obtain ⟨q, rfl, _, hinv⟩ := (listings catalog).journals_kept
    (fun root => ⟨.fresh root, fun _ hmem => absurd hmem List.not_mem_nil⟩) (fun _ => trivial)
    (fun _ _ _ => trivial) hjournal
  exact ⟨q, rfl, hinv listing hlisted kept hkept⟩

/-- The request for the schema of a property. -/
abbrev requestFor (catalog : Catalog) (property : Property) (annotations : Annotations) : Request :=
  { catalog.member property.type property.referenced with
    owner := some ⟨property.symbol, annotations⟩ }

/-- What the builder answered for a property whose doc comment leaves it to its type. -/
theorem exists_answered (hjournal : catalog.Journals journal)
    (hlisted : .listed listing ∈ journal) (hkept : kept ∈ listing.kept)
    (hown : catalog.Describes ⟨kept.property.symbol, annotations⟩)
    (htype : annotations.definition.contains "type" = false) :
    ∃ q answer, q.journal = journal ∧
      settled? (catalog.requestFor kept.property annotations).owner = none ∧
      catalog.Answered (Reached catalog) q (catalog.requestFor kept.property annotations) answer ∧
      kept.schema = catalog.propertyDefinition kept.property kept.name answer := by
  obtain ⟨q, hq, hkeeping⟩ := keeping_of_listed hjournal hlisted hkept
  obtain ⟨property, name, schema⟩ := kept
  dsimp only at hkeeping hown
  cases hkeeping with
  | @kept other symbol schema _ hdescribes hignored _ hanswered _ =>
    obtain rfl := hown.unique hdescribes
    exact ⟨q, schema, hq, by simp [settled?, hignored, htype], hanswered, rfl⟩

/-- What was made for it. -/
theorem exists_made (hjournal : catalog.Journals journal)
    (hlisted : .listed listing ∈ journal) (hkept : kept ∈ listing.kept)
    (hown : catalog.Describes ⟨kept.property.symbol, annotations⟩)
    (htype : annotations.definition.contains "type" = false) :
    ∃ q made, q.journal = journal ∧
      catalog.Makes q (catalog.requestFor kept.property annotations) made ∧
      kept.schema = catalog.propertyDefinition kept.property kept.name (catalog.hook made) := by
  obtain ⟨q, answer, hq, hunsettled, hanswered, hschema⟩ :=
    exists_answered hjournal hlisted hkept hown htype
  obtain ⟨made, hmade, rfl⟩ := hanswered.yields.hooked hunsettled
  exact ⟨q, made, hq, hmade, hschema⟩

end Catalog

end TypeSchema
