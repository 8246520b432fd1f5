import TypeSchema.Proofs.Building.Calls

/-!
# Names of different types

A reference is only as good as its name: if two types went by one name, a reference to the one would
point to the definition of the other.  The registry gives no name to two types, and while it alone
makes the names all is well.

With unique names it does not.  The place of a declaration is added to a name after it was handed out,
and the alias of a union of string literals is named without asking the registry at all.  A name of the
first kind may read like one the registry gave to another type, and the alias may be that of a type
around the union: the values of an index signature are asked for by the symbol of the type that has the
signature (`Catalog.exists_name_shared`).  **`Catalog.names_distinct`** says that there is no third way.
-/

set_option autoImplicit false

namespace TypeSchema

/-! ## Hashes -/

theorem Sha256.exists_take_digest (message : List UInt8) :
    ∃ word, (Sha256.digest message).take 4 = Sha256.bigEndian word 4 :=
  ⟨_, rfl⟩

theorem Declaration.length_hash (declaration : Declaration) : declaration.hash.length = 8 := by
  obtain ⟨word, hword⟩ := Sha256.exists_take_digest declaration.hashedBytes
  rw [hash, hword, String.length_ofList]
  rfl

/-- What a hash was added to can be read off. -/
theorem Declaration.append_hash_inj {first second : String} {d e : Declaration}
    (h : first ++ "." ++ d.hash = second ++ "." ++ e.hash) : first = second := by
  have hlists := congrArg String.toList h
  simp only [String.toList_append] at hlists
  have hlength : d.hash.toList.length = e.hash.toList.length := by
    rw [String.length_toList, String.length_toList, length_hash, length_hash]
  have hmarked := (List.append_inj' hlists hlength).1
  exact String.toList_inj.1 (List.append_inj' hmarked rfl).1

/-! ## Frames that name definitions -/

/-- A reference is made to the frame's definition, or its place is taken in the table. -/
def Frame.NamedIn (frame : Frame) (journal : List Event) : Prop :=
  .referred frame ∈ journal ∨ .promoted frame ∈ journal

namespace Catalog

variable {catalog : Catalog}

/-- The first frame bears the name of the second one by chance, which is of another type. -/
inductive Clashes (catalog : Catalog) (f g : Frame) : Prop
  /-- The first is named by an alias, which the registry knows nothing of. -/
  | aliased {id : SymbolId} {symbol : Symbol} {declaration : Declaration}
      (hother : f.subject.id ≠ g.subject.id) (hsource : f.plan.source = .aliasDeclaration)
      (hnamed : f.subject.named = some id) (hsymbol : catalog.graph.lookupSymbol id = .ok symbol)
      (hdeclaration : symbol.declaration = some declaration)
      (hname : f.plan.name = canonicalName symbol.fullName ++ "." ++ declaration.hash) :
      Clashes catalog f g
  /-- The registry gave the first a name that reads like that of the second, whose declaration was
  added. -/
  | hashed {name : String} {symbol : Symbol} {declaration : Declaration}
      (hother : f.subject.id ≠ g.subject.id) (hsource : f.plan.source = .registry)
      (hsymbol : catalog.graph.declaringSymbol g.subject.node = .ok (some symbol))
      (hdeclaration : symbol.declaration = some declaration)
      (hname : f.plan.name = name ++ "." ++ declaration.hash) : Clashes catalog f g

theorem Clashes.ne {f g : Frame} (h : catalog.Clashes f g) : f.subject.id ≠ g.subject.id := by
  cases h with
  | aliased hother _ _ _ _ _ => exact hother
  | hashed hother _ _ _ _ => exact hother

/-- Two types of one name, which have come by it with one registry, clash. -/
theorem Named.clashes {names : NameRegistry} {f g : Frame} (hoverrides : catalog.overrides = [])
    (hf : catalog.Named names f.subject f.sourcedName)
    (hg : catalog.Named names g.subject g.sourcedName) (hname : f.plan.name = g.plan.name)
    (hother : f.subject.id ≠ g.subject.id) :
    catalog.options.uniqueNames = true ∧ (catalog.Clashes f g ∨ catalog.Clashes g f) := by
  have hnone : ∀ name, ¬Dict.contains catalog.overrides name = true := by
    simp [hoverrides, Dict.contains]
  generalize hsource : f.sourcedName = a at hf
  generalize hsource' : g.sourcedName = b at hg
  have hfname := congrArg SourcedName.text hsource
  have hgname := congrArg SourcedName.text hsource'
  cases hf with
  | override _ _ hoverride => exact absurd hoverride (hnone _)
  | aliasDeclaration hunique hnamed hsymbol hdeclaration =>
    exact ⟨hunique, .inl (.aliased hother (congrArg SourcedName.source hsource) hnamed hsymbol
      hdeclaration hfname)⟩
  | registry hheld =>
    cases hg with
    | override _ _ hoverride => exact absurd hoverride (hnone _)
    | aliasDeclaration hunique hnamed hsymbol hdeclaration =>
      exact ⟨hunique, .inr (.aliased hother.symm (congrArg SourcedName.source hsource') hnamed
        hsymbol hdeclaration hgname)⟩
    | registry hheld' =>
      obtain rfl := hfname.symm.trans (hname.trans hgname)
      exact absurd (Option.some.inj (hheld.symm.trans hheld')) hother
    | declaration hunique hsymbol hdeclaration hheld' =>
      exact ⟨hunique, .inl (.hashed hother (congrArg SourcedName.source hsource) hsymbol
        hdeclaration (hname.trans hgname))⟩
  | declaration hunique hsymbol hdeclaration hheld =>
    cases hg with
    | override _ _ hoverride => exact absurd hoverride (hnone _)
    | aliasDeclaration hunique hnamed hsymbol hdeclaration =>
      exact ⟨hunique, .inr (.aliased hother.symm (congrArg SourcedName.source hsource') hnamed
        hsymbol hdeclaration hgname)⟩
    | registry hheld' =>
      exact ⟨hunique, .inr (.hashed hother.symm (congrArg SourcedName.source hsource') hsymbol
        hdeclaration (hname.symm.trans hfname))⟩
    | declaration _ _ _ hheld' =>
      obtain rfl := Declaration.append_hash_inj (hfname.symm.trans (hname.trans hgname))
      exact absurd (Option.some.inj (hheld.symm.trans hheld')) hother

end Catalog

/-! ## The names of a call -/

/-- Every frame that names a definition comes by its name in one of the four ways. -/
def NamesKnown (catalog : Catalog) (p : Progress) : Prop :=
  ∀ frame : Frame, frame.NamedIn p.journal →
    catalog.Named p.context.names frame.subject frame.sourcedName

namespace NamesKnown

variable {catalog : Catalog} {p q : Progress}

/-- A change that names no definition. -/
theorem of_grows (h : NamesKnown catalog p) (hpq : Grows p q)
    (hsame : ∀ frame : Frame, frame.NamedIn q.journal → frame.NamedIn p.journal) :
    NamesKnown catalog q :=
  fun frame hframe => (h frame (hsame frame hframe)).grows hpq

/-- An event that names no definition. -/
theorem act (h : NamesKnown catalog p) {event : Event} (hpq : Grows p (p.act event))
    (hreferred : ∀ frame, .referred frame ≠ event) (hpromoted : ∀ frame, .promoted frame ≠ event) :
    NamesKnown catalog (p.act event) := by
  refine h.of_grows hpq fun frame hframe => ?_
  rcases hframe with hmem | hmem
  · exact .inl (Progress.mem_of_mem_act hmem (hreferred frame))
  · exact .inr (Progress.mem_of_mem_act hmem (hpromoted frame))

theorem step (h : NamesKnown catalog p) (hstep : catalog.Step p q) : NamesKnown catalog q := by
  have hgrows := hstep.grows
  cases hstep with
  | noted entry => exact h.of_grows hgrows fun _ hframe => hframe
  | named htype hbase hfresh => exact h.of_grows hgrows fun _ hframe => hframe
  | entered name => exact h.of_grows hgrows fun _ hframe => hframe
  | left name token => exact h.of_grows hgrows fun _ hframe => hframe
  | dropped _ => exact h.act hgrows (by simp) (by simp)
  | listed _ => exact h.act hgrows (by simp) (by simp)
  | referred hnamed =>
    rintro frame (hmem | hmem)
    · rcases List.mem_cons.1 hmem with heq | hold
      · cases heq
        exact hnamed
      · exact h frame (.inl hold)
    · exact h frame (.inr (Progress.mem_of_mem_act hmem (by simp)))
  | promoted hnamed _ =>
    rintro frame (hmem | hmem)
    · exact h frame (.inl (Progress.mem_of_mem_act hmem (by simp)))
    · rcases List.mem_cons.1 hmem with heq | hold
      · cases heq
        exact hnamed
      · exact h frame (.inr hold)

theorem complete {frame : Frame} {definition : Definition} (h : NamesKnown catalog p) :
    NamesKnown catalog (p.act (.completed frame definition)) := by
  rintro other (hmem | hmem)
  · exact h other (.inl (Progress.mem_of_mem_act hmem (by simp)))
  · exact h other (.inr (Progress.mem_of_mem_act hmem (by simp)))

end NamesKnown

/-- Names are kept. -/
def naming (catalog : Catalog) : Contract catalog :=
  .ofInvariant (NamesKnown catalog) (fun h hstep _ => h.step hstep) (fun h _ _ _ => h.complete)
    fun h => h.act (Settles.act _ ⟨_, rfl⟩ rfl).toGrows (by simp) (by simp)

namespace Catalog

/-- **Names of different types.**  Where no definition is given, two references that a call makes by one
name, or a reference and an entry of the table, are of different types if and only if names are unique
and the two clash: one is named by an alias, or one reads like the other with the place of its
declaration. -/
theorem names_distinct (catalog : Catalog) (hoverrides : catalog.overrides = [])
    {journal : List Event} (hjournal : catalog.Journals journal) {f g : Frame}
    (hf : f.NamedIn journal) (hg : g.NamedIn journal) (hname : f.plan.name = g.plan.name) :
    f.subject.id ≠ g.subject.id ↔
      catalog.options.uniqueNames = true ∧ (catalog.Clashes f g ∨ catalog.Clashes g f) := by
  have hfresh : ∀ root, NamesKnown catalog (Contract.fresh catalog root) :=
    fun _ _ h => h.elim (fun h => absurd h List.not_mem_nil) fun h => absurd h List.not_mem_nil
  obtain ⟨q, rfl, hinv⟩ := (naming catalog).journals_kept hfresh (fun _ => trivial)
    (fun _ _ _ => trivial) hjournal
  constructor
  · exact (hinv f hf).clashes hoverrides (hinv g hg) hname
  · rintro ⟨_, hclash | hclash⟩
    · exact hclash.ne
    · exact hclash.ne.symm

/-- Where `Dict` is declared, a type with an index signature. -/
def dictionaryPlace : Declaration :=
  { file := "m.ts", position := 1, kind := .typeAlias, isAbstract := false }

/-- Where `Root` is declared, which has a dictionary. -/
def rootPlace : Declaration :=
  { file := "m.ts", position := 50, kind := .interface, isAbstract := false }

/-- A catalog with unique names and a dictionary whose values are a union of string literals. -/
def literalDictionary : Catalog where
  graph :=
    { types := #[{ kind := .stringLiteral "a" }, { kind := .stringLiteral "b" },
        { kind := .union [⟨0⟩, ⟨1⟩] },
        { kind := .object [] true (some ⟨2⟩), aliasSymbol := some ⟨0⟩ },
        { kind := .object [{ symbol := ⟨2⟩, type := ⟨3⟩, referenced := some ⟨0⟩ }] false none
          symbol := some ⟨1⟩ }]
      symbols := #[{ name := "Dict", declaration := some dictionaryPlace },
        { name := "Root", declaration := some rootPlace }, { name := "d" }]
      declarations := [("Root", ⟨4⟩)] }
  options := { reference := true, uniqueNames := true }
  declared := [("Root" ++ "." ++ rootPlace.hash, ⟨4⟩)]

/-- What a call comes to that selects the declaration with the dictionary. -/
def literalDictionaryOutcome : Outcome (Dict Definition) :=
  literalDictionary.schemas [.exact ("Root" ++ "." ++ rootPlace.hash)]

theorem literalDictionaryOutcome_shares : ∃ f g,
    .referred f ∈ literalDictionaryOutcome.journal ∧
      .promoted g ∈ literalDictionaryOutcome.journal ∧
      f.plan.name = g.plan.name ∧ f.subject.id ≠ g.subject.id := by
  have hevents : (literalDictionaryOutcome.journal.any fun first =>
      literalDictionaryOutcome.journal.any fun second => match first, second with
        | .referred f, .promoted g =>
          f.plan.name == g.plan.name && f.subject.id != g.subject.id
        | _, _ => false) = true := by decide +kernel
  obtain ⟨first, hfirst, hsome⟩ := List.any_eq_true.1 hevents
  obtain ⟨second, hsecond, hshares⟩ := List.any_eq_true.1 hsome
  split at hshares
  · rename_i f g
    obtain ⟨hname, hid⟩ := Bool.and_eq_true_iff.1 hshares
    exact ⟨f, g, hfirst, hsecond, eq_of_beq hname, bne_iff_ne.1 hid⟩
  · cases hshares

/-- A reference to the values of the dictionary and the definition of the dictionary itself go by one
name. -/
theorem exists_name_shared :
    literalDictionary.graph.validate = .ok () ∧
    ofGraph literalDictionary.graph literalDictionary.options Modules.none = .ok literalDictionary ∧
    literalDictionary.overrides = [] ∧ literalDictionaryOutcome.result.toOption.isSome ∧
    ∃ f g, .referred f ∈ literalDictionaryOutcome.journal ∧
      .promoted g ∈ literalDictionaryOutcome.journal ∧
      f.plan.name = g.plan.name ∧ f.subject.id ≠ g.subject.id :=
  ⟨rfl, rfl, rfl, by decide +kernel, literalDictionaryOutcome_shares⟩

/-- The two frames that share a name clash: the union is named by an alias. -/
theorem names_distinct_literalDictionary : ∃ f g,
    f.NamedIn literalDictionaryOutcome.journal ∧ g.NamedIn literalDictionaryOutcome.journal ∧
    f.plan.name = g.plan.name ∧ literalDictionary.options.uniqueNames = true ∧
      (literalDictionary.Clashes f g ∨ literalDictionary.Clashes g f) := by
  obtain ⟨f, g, hf, hg, hname, hid⟩ := literalDictionaryOutcome_shares
  exact ⟨f, g, .inl hf, .inr hg, hname,
    (names_distinct literalDictionary rfl (.schemas _) (.inl hf) (.inr hg) hname).1 hid⟩

end Catalog

end TypeSchema
