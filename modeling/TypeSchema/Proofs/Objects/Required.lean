import Mathlib.Data.List.Sort
import TypeSchema.Proofs.Objects.Keys

/-!
# The properties that have to be there

An object lists the properties that are neither optional nor possibly `undefined`.  Which ones are
possibly `undefined` is not read off their types: a union that is built for a property and leaves out a
member marks the symbol of the property, and the list leaves out what is marked by then.

So the list is as good as the marks.  **`Catalog.required_iff`** says exactly when it is right, for every
object of every call: by name, the properties without a mark have to be those whose type does not admit
`undefined`.  They need not be.  A union that is known by an alias is built once and referred to
afterwards, and then it marks the first property of its type and no other one
(`Catalog.exists_required_wrong`); and the values of an index signature mark the property that has the
signature.
-/

set_option autoImplicit false

namespace TypeSchema

/-! ## Lists of names -/

theorem pairwise_insertName {name : String} {names : List String}
    (h : names.Pairwise (· < ·)) : (insertName name names).Pairwise (· < ·) := by
  induction names with
  | nil => exact List.pairwise_singleton _ _
  | cons first rest ih =>
    obtain ⟨hfirst, hrest⟩ := List.pairwise_cons.1 h
    rw [insertName]
    split
    · rename_i hlt
      refine List.pairwise_cons.2 ⟨fun other hother => ?_, h⟩
      rcases List.mem_cons.1 hother with rfl | hmem
      · exact hlt
      · exact String.lt_trans hlt (hfirst other hmem)
    · rename_i hnot
      split
      · exact h
      · rename_i hne
        refine List.pairwise_cons.2 ⟨fun other hother => ?_, ih hrest⟩
        rcases mem_insertName.1 hother with rfl | hmem
        · -- Neither before the first name nor equal to it: after it.
          rcases String.le_total first other with hle | hle
          · exact String.not_le.1 fun hge => hne (String.le_antisymm hge hle)
          · exact absurd (String.not_le.1 fun hge => hne (String.le_antisymm hle hge)) hnot
        · exact hfirst other hmem

theorem foldl_insertName (names : List String) {sorted : List String} (h : sorted.Pairwise (· < ·)) :
    (names.foldl (fun sorted name => insertName name sorted) sorted).Pairwise (· < ·) ∧
      ∀ name, name ∈ names.foldl (fun sorted name => insertName name sorted) sorted ↔
        name ∈ names ∨ name ∈ sorted := by
  induction names generalizing sorted with
  | nil => exact ⟨h, fun name => (or_iff_right List.not_mem_nil).symm⟩
  | cons first rest ih =>
    obtain ⟨hpairwise, hmem⟩ := ih (@pairwise_insertName first sorted h)
    refine ⟨hpairwise, fun name => ?_⟩
    rw [List.foldl_cons, hmem, mem_insertName, List.mem_cons, or_assoc, or_left_comm]

/-! ## What is required -/

namespace Definition

/-- The schema requires the names with the property, in order and without repetition; there is no list
where there is no such name. -/
def Requires (definition : Definition) (P : String → Prop) : Prop :=
  ∃ names : List String, names.Pairwise (· < ·) ∧ (∀ name, name ∈ names ↔ P name) ∧
    definition.get? "required" = if names = [] then none else some (Json.strings names)

variable {definition : Definition} {P Q : String → Prop}

/-- A schema requires one set of names only. -/
theorem Requires.iff (h : definition.Requires P) :
    definition.Requires Q ↔ ∀ name, P name ↔ Q name := by
  obtain ⟨names, hsorted, hmem, hget⟩ := h
  constructor
  · rintro ⟨others, _, hmem', hget'⟩ name
    have hsame : names = others := by
      rw [hget] at hget'
      split at hget' <;> split at hget'
      · simp_all
      · cases hget'
      · cases hget'
      · have hinj : Function.Injective Json.string := fun a b h => by cases h; rfl
        exact hinj.list_map (by simpa [Json.strings] using hget')
    rw [← hmem, ← hmem', hsame]
  · exact fun hPQ => ⟨names, hsorted, fun name => (hmem name).trans (hPQ name), hget⟩

theorem requires_setRequired {names : List String} (h : names ≠ []) :
    (definition.setRequired names).Requires (· ∈ names) := by
  obtain ⟨hsorted, hmem⟩ := foldl_insertName names List.Pairwise.nil
  have hmem' : ∀ name, _ ↔ name ∈ names := fun name => (hmem name).trans (by simp)
  refine ⟨_, hsorted, hmem', ?_⟩
  obtain ⟨name, hname⟩ := List.exists_mem_of_ne_nil names h
  rw [if_neg (List.ne_nil_of_mem ((hmem' name).2 hname)), setRequired]
  split
  · rename_i hnil
    exact absurd (hnil ▸ (hmem' name).2 hname) List.not_mem_nil
  · exact (Dict.get?_insert _ _ _ _).trans (if_pos rfl)

end Definition

/-- The names of the properties that the object keeps, that are not optional and that satisfy `P`. -/
def Listing.Names (listing : Listing) (P : Property → Prop) (name : String) : Prop :=
  ∃ kept ∈ listing.kept, kept.property.isOptional = false ∧ P kept.property ∧ kept.name = name

/-- What the object keeps that is not optional and that no union has marked in the events. -/
def Listing.Unmarked (listing : Listing) (events : List Event) : String → Prop :=
  listing.Names fun property => .dropped property.symbol ∉ events

namespace Catalog

variable {catalog : Catalog} {absent : List SymbolId} {listing : Listing}

theorem mem_listedNames {name : String} :
    name ∈ (listing.kept.filter fun p =>
        !p.property.isOptional && !absent.contains p.property.symbol).map KeptProperty.name ↔
      listing.Names (fun property => property.symbol ∉ absent) name := by
  simp [Listing.Names, and_assoc]

/-- An object requires its properties without a mark, if there are any. -/
theorem Lists.requires (h : catalog.Lists absent listing)
    (hignore : catalog.options.ignoreRequired = false) {name : String}
    (hname : listing.Names (fun property => property.symbol ∉ absent) name) :
    listing.schema.Requires (listing.Names fun property => property.symbol ∉ absent) := by
  rw [h.schema, listProperties, hignore]
  have hrequires := @Definition.requires_setRequired (listing.start.setProperties listing.kept) _
    (List.ne_nil_of_mem (mem_listedNames.2 hname))
  obtain ⟨names, hsorted, hmem, hget⟩ := hrequires
  exact ⟨names, hsorted, fun name => (hmem name).trans mem_listedNames, hget⟩

/-- Otherwise it requires what its annotations say, which is nothing as a rule. -/
theorem Lists.requires_start (h : catalog.Lists absent listing)
    (hignore : catalog.options.ignoreRequired = false)
    (hnone : ¬∃ name, listing.Names (fun property => property.symbol ∉ absent) name) :
    listing.schema.get? "required" = listing.start.get? "required" := by
  have hnil : (listing.kept.filter fun p =>
      !p.property.isOptional && !absent.contains p.property.symbol).map KeptProperty.name = [] :=
    List.eq_nil_iff_forall_not_mem.2 fun name hname => hnone ⟨name, mem_listedNames.1 hname⟩
  rw [h.schema, listProperties, hignore, hnil]
  exact (Definition.get?_setProperties _ (by decide)).trans
    (Definition.get?_insertNew_of_ne (by decide))

end Catalog

/-! ## What is marked -/

/-- The marked symbols are those for which a union left out a member, all of them own unions, and every
object was listed with the marks of its time. -/
structure Marked (catalog : Catalog) (p : Progress) : Prop where
  absent : ∀ symbol, symbol ∈ p.context.absent ↔ .dropped symbol ∈ p.journal
  owned : ∀ symbol, .dropped symbol ∈ p.journal → catalog.OwnsUnion symbol
  listed : ∀ later listing earlier, p.journal = later ++ .listed listing :: earlier →
    ∃ absent, (∀ symbol, symbol ∈ absent ↔ .dropped symbol ∈ earlier) ∧
      catalog.Lists absent listing

namespace Marked

variable {catalog : Catalog} {p q : Progress}

theorem of_same (h : Marked catalog p) (habsent : q.context.absent = p.context.absent)
    (hjournal : q.journal = p.journal) : Marked catalog q where
  absent symbol := by rw [habsent, hjournal, h.absent]
  owned symbol hmem := h.owned symbol (hjournal ▸ hmem)
  listed later listing earlier heq := h.listed later listing earlier (hjournal ▸ heq)

/-- An event marks what it says, and lists with the marks that there are. -/
theorem act (h : Marked catalog p) (event : Event)
    (habsent : ∀ symbol, symbol ∈ (event.effect p.context).absent ↔
      .dropped symbol = event ∨ symbol ∈ p.context.absent)
    (howned : ∀ symbol, .dropped symbol = event → catalog.OwnsUnion symbol)
    (hlisted : ∀ listing, event = .listed listing → catalog.Lists p.context.absent listing) :
    Marked catalog (p.act event) where
  absent symbol := by
    rw [Progress.act_context, habsent, h.absent, Progress.act_journal, List.mem_cons]
  owned symbol hmem := (List.mem_cons.1 hmem).elim (howned symbol) (h.owned symbol)
  listed later listing earlier heq := by
    rw [Progress.act_journal] at heq
    cases later with
    | nil =>
      obtain ⟨rfl, rfl⟩ := List.cons.inj heq
      exact ⟨p.context.absent, h.absent, hlisted listing rfl⟩
    | cons latest later =>
      obtain ⟨rfl, hearlier⟩ := List.cons.inj heq
      exact h.listed later listing earlier hearlier

/-- An event that neither marks nor lists. -/
theorem act_other (h : Marked catalog p) (event : Event)
    (hsame : (event.effect p.context).absent = p.context.absent)
    (hdropped : ∀ symbol, .dropped symbol ≠ event) (hlisted : ∀ listing, event ≠ .listed listing) :
    Marked catalog (p.act event) := by
  refine h.act event (fun symbol => ?_) (fun symbol heq => absurd heq (hdropped symbol))
    fun listing heq => absurd heq (hlisted listing)
  rw [hsame, or_iff_right (hdropped symbol)]

theorem step (h : Marked catalog p) (hstep : catalog.Step p q) : Marked catalog q := by
  cases hstep with
  | noted entry => exact h.of_same rfl rfl
  | named htype hbase hfresh => exact h.of_same rfl rfl
  | entered name => exact h.of_same rfl rfl
  | left name token =>
    obtain ⟨guard, hleave⟩ := p.context.leave_eq name token
    exact h.of_same (by rw [hleave]; rfl) rfl
  | dropped howned =>
    refine h.act _ (fun symbol => ?_) (fun symbol heq => ?_) (by simp)
    · rw [Event.effect, Context.mem_markAbsent, Event.dropped.injEq]
    · cases heq
      exact howned
  | listed hlists =>
    refine h.act _ (by simp [Event.effect]) (by simp) fun listing heq => ?_
    cases heq
    exact hlists
  | referred _ => exact h.act_other _ rfl (by simp) (by simp)
  | promoted _ _ => exact h.act_other _ rfl (by simp) (by simp)

end Marked

/-- The marks are kept. -/
def marks (catalog : Catalog) : Contract catalog :=
  .ofInvariant (Marked catalog) (fun h hstep _ => h.step hstep)
    (fun h _ _ _ => h.act_other _ rfl (by simp) (by simp))
    fun h => h.act_other _ rfl (by simp) (by simp)

/-! ## The list of an object -/

namespace Catalog

variable (catalog : Catalog)

/-- Whether the type, with wrappers looked through, is a union with a member `undefined` or `void`. -/
def isAbsentable (id : TypeId) : Bool :=
  match catalog.graph.unwrap (catalog.graph.types.size + 1) id none with
  | .error _ => false
  | .ok subject => match subject.node.kind with
    | .union members => members.any fun member =>
        match catalog.graph.type? member with
        | some node => node.kind == .undefined || node.kind == .void
        | none => false
    | _ => false

/-- Whether annotations of the symbol say what its type is. -/
def isTyped (symbol : SymbolId) : Bool :=
  match catalog.graph.symbol? symbol with
  | none => false
  | some found => match catalog.reader.read found with
    | .ok annotations => annotations.definition.contains "type"
    | .error _ => false

/-- Whether the value of the property may be `undefined`: by its type, unless its annotations say
what its type is. -/
def admitsUndefined (property : Property) : Bool :=
  !catalog.isTyped property.symbol && catalog.isAbsentable property.type

/-- What the object should require: what it keeps that is neither optional nor may be `undefined`. -/
def Wanted (listing : Listing) : String → Prop :=
  listing.Names fun property => catalog.admitsUndefined property = false

/-- **When the list is right.**  An object that is listed in a call requires exactly what it should if
and only if this is, by name, what no union has marked by then; where all is marked, it keeps the list
that its annotations give.  And what is marked owns a union. -/
theorem required_iff (hignore : catalog.options.ignoreRequired = false) {journal : List Event}
    (hjournal : catalog.Journals journal) (later earlier : List Event) (listing : Listing)
    (hsplit : journal = later ++ .listed listing :: earlier) :
    (listing.schema.Requires (catalog.Wanted listing) ↔
      ((∃ name, listing.Unmarked earlier name) ∧
        ∀ name, listing.Unmarked earlier name ↔ catalog.Wanted listing name) ∨
      ((¬∃ name, listing.Unmarked earlier name) ∧
        listing.start.Requires (catalog.Wanted listing))) ∧
    ∀ symbol, .dropped symbol ∈ earlier → catalog.OwnsUnion symbol := by
  have hfresh : ∀ root, (marks catalog).inv (Contract.fresh catalog root) := fun root =>
    ⟨by simp [Contract.fresh, Context.start], by simp [Contract.fresh],
      fun later _ _ heq => by cases later <;> cases heq⟩
  obtain ⟨q, hq, hinv⟩ := (marks catalog).journals_kept hfresh (fun _ => trivial)
    (fun _ _ _ => trivial) hjournal
  have howned : ∀ symbol, .dropped symbol ∈ earlier → catalog.OwnsUnion symbol := by
    intro symbol hmem
    refine hinv.owned symbol ?_
    rw [← hq, hsplit]
    exact List.mem_append_right _ (List.mem_cons_of_mem _ hmem)
  refine ⟨?_, howned⟩
  obtain ⟨absent, habsent, hlists⟩ := hinv.listed later listing earlier (hq ▸ hsplit)
  rw [Listing.Unmarked]
  simp only [← habsent]
  by_cases hsome : ∃ name, listing.Names (fun property => property.symbol ∉ absent) name
  · rw [or_iff_left fun h => h.1 hsome, and_iff_right hsome]
    obtain ⟨name, hname⟩ := hsome
    exact (hlists.requires hignore hname).iff
  · rw [or_iff_right fun h => hsome h.1, and_iff_right hsome]
    simp only [Definition.Requires]
    rw [hlists.requires_start hignore hsome]

/-- A catalog of one declaration with two properties, whose type is the same alias of a union with
`undefined`. -/
def sharedUnion : Catalog where
  graph :=
    { types := #[{ kind := .string }, { kind := .undefined },
        { kind := .union [⟨0⟩, ⟨1⟩], aliasSymbol := some ⟨0⟩ },
        { kind := .object [{ symbol := ⟨2⟩, type := ⟨2⟩ }, { symbol := ⟨3⟩, type := ⟨2⟩ }] false none
          symbol := some ⟨1⟩ }]
      symbols := #[{ name := "MaybeText" }, { name := "Pair" }, { name := "a" }, { name := "b" }]
      declarations := [("Pair", ⟨3⟩)] }
  options := { reference := true }
  declared := [("Pair", ⟨3⟩)]

/-- The union is built for the property `a` and referred to from the property `b`, which is required
although it may be `undefined`. -/
theorem exists_required_wrong :
    sharedUnion.graph.validate = .ok () ∧
    ofGraph sharedUnion.graph sharedUnion.options Modules.none = .ok sharedUnion ∧
    sharedUnion.options.ignoreRequired = false ∧
    (sharedUnion.schemas [.exact "Pair"]).result.toOption.isSome ∧
    ∃ listing, .listed listing ∈ (sharedUnion.schemas [.exact "Pair"]).journal ∧
      ¬listing.schema.Requires (sharedUnion.Wanted listing) := by
  refine ⟨rfl, rfl, rfl, by decide +kernel, ?_⟩
  have hevent : ((sharedUnion.schemas [.exact "Pair"]).journal.any fun
      | .listed listing => (listing.schema.get? "required").isSome &&
          listing.kept.all fun kept => sharedUnion.admitsUndefined kept.property
      | _ => false) = true := by decide +kernel
  obtain ⟨event, hmem, hevent⟩ := List.any_eq_true.1 hevent
  cases event with
  | listed listing =>
    obtain ⟨hsome, hall⟩ := Bool.and_eq_true_iff.1 hevent
    refine ⟨listing, hmem, ?_⟩
    rintro ⟨names, _, hnames, hget⟩
    have hnil : names = [] := List.eq_nil_iff_forall_not_mem.2 fun name hname => by
      obtain ⟨kept, hkept, _, hfalse, _⟩ := (hnames name).1 hname
      rw [List.all_eq_true.1 hall kept hkept] at hfalse
      cases hfalse
    rw [hget, hnil] at hsome
    cases hsome
  | _ => cases hevent

/-- The one object of the call is the one whose list is wrong. -/
theorem required_iff_sharedUnion : ∃ later listing earlier,
    (sharedUnion.schemas [.exact "Pair"]).journal = later ++ .listed listing :: earlier ∧
    (listing.schema.Requires (sharedUnion.Wanted listing) ↔
      ((∃ name, listing.Unmarked earlier name) ∧
        ∀ name, listing.Unmarked earlier name ↔ sharedUnion.Wanted listing name) ∨
      ((¬∃ name, listing.Unmarked earlier name) ∧
        listing.start.Requires (sharedUnion.Wanted listing))) ∧
    ∀ symbol, .dropped symbol ∈ earlier → sharedUnion.OwnsUnion symbol := by
  have hevent : ((sharedUnion.schemas [.exact "Pair"]).journal.any fun
      | .listed _ => true
      | _ => false) = true := by decide +kernel
  obtain ⟨event, hmem, hevent⟩ := List.any_eq_true.1 hevent
  cases event with
  | listed listing =>
    obtain ⟨later, earlier, hsplit⟩ := List.append_of_mem hmem
    exact ⟨later, listing, earlier, hsplit,
      required_iff sharedUnion rfl (.schemas _) later earlier listing hsplit⟩
  | _ => cases hevent

end Catalog

end TypeSchema
