import TypeSchema.Proofs.Building.Derivations
import TypeSchema.Proofs.Building.Pairs
import TypeSchema.Proofs.Building.Rules

/-!
# The rules keep runs together

One lemma for each rule: if two builders answer alike whatever the rule can ask for, the rule
answers alike with either of them, in every accord.  What may differ between the two runs is what a
definition starts from and whom it is built for.  A rule hands what it starts from on to its answer
and, with one exception, to nothing else: the rule for an array builds no items where there are
some, so the two must agree on whether there are (`agree_literalOrArray`).  For whom a type is built
is handed on to the values of an index signature, so these requests have to be answered alike too
(`agree_emptyObjectSchema`); and a union leaves a mark on the property that it is built for, which
has to keep the accord (`agree_unionSchema`).

The same goes for what is asked about a type before its rule is applied: how it is named, and how it
is described.
-/

set_option autoImplicit false

namespace TypeSchema

/-- The progress after a member of a union that is built for the owner was left out. -/
def Progress.dropFor (p : Progress) : Option Owner → Progress
  | some owner => p.act (.dropped owner.symbol)
  | none => p

/-- What the values of an index signature are asked for with: they are built for whom the object
is. -/
def Catalog.valueRequest (catalog : Catalog) (request : Request) (subject : Subject)
    (value : TypeId) : Request :=
  { catalog.member value subject.named with
    unionKeyword := request.unionKeyword
    owner := request.owner }

/-- The types that the rule for arrays is applied to. -/
inductive Catalog.IsArray (catalog : Catalog) (node : TypeNode) : Prop
  | object {properties : List Property} {anonymous : Bool} {index : Option TypeId}
      {element : TypeId} (hkind : node.kind = .object properties anonymous index)
      (hindex : node.numberIndex = some element)
      (hdate : ∀ id, node.symbol = some id →
        ∃ symbol, catalog.graph.lookupSymbol id = .ok symbol ∧ symbol.fullName ≠ "Date") :
      IsArray catalog node
  | never {element : TypeId} (hkind : node.kind = .never)
      (hindex : node.numberIndex = some element) : IsArray catalog node
  | typeParameter {element : TypeId} (hkind : node.kind = .typeParameter)
      (hindex : node.numberIndex = some element) : IsArray catalog node

namespace Accord

variable {catalog : Catalog} {A : Accord} {build build' : Builder} {request : Request}
  {subject : Subject} {definition definition' : Definition} {same : Prop} {β : Type}
  {S : β → β → Prop}

/-- The two builders answer alike whatever the rule for the subject can ask for. -/
def Serves (A : Accord) (catalog : Catalog) (request : Request) (subject : Subject)
    (build build' : Builder) : Prop :=
  ∀ part, catalog.Asks request subject part → A.Agree catalog (build part) (build' part) Eq

/-! ## Looking things up -/

theorem Agree.symbol {id : SymbolId} {f f' : Symbol → BuildM β} (hid : catalog.graph.HasSymbol id)
    (hf : ∀ symbol, catalog.graph.lookupSymbol id = .ok symbol →
      A.Agree catalog (f symbol) (f' symbol) S) :
    A.Agree catalog (catalog.symbol id >>= f) (catalog.symbol id >>= f') S :=
  .find (TypeGraph.found_symbol hid) hf

theorem Agree.type {id : TypeId} {f f' : TypeNode → BuildM β} (hid : catalog.graph.HasType id)
    (hf : ∀ node, catalog.graph.lookupType id = .ok node →
      A.Agree catalog (f node) (f' node) S) :
    A.Agree catalog (catalog.type id >>= f) (catalog.type id >>= f') S :=
  .find (TypeGraph.found_type hid) hf

theorem Agree.printed {id : TypeId} {f f' : String → BuildM β} (hwhole : catalog.Whole)
    (hid : catalog.graph.HasType id)
    (hf : ∀ text, catalog.graph.typeText id = .ok text →
      A.Agree catalog (f text) (f' text) S) :
    A.Agree catalog (catalog.printed id >>= f) (catalog.printed id >>= f') S :=
  .find (hwhole.graph.found_typeText hid) hf

/-- A doc comment that cannot be read asks for a module. -/
theorem raises_of_extend {id : SymbolId} {symbol : Symbol} {annotations : Annotations}
    {error : Error} (hsymbol : catalog.graph.lookupSymbol id = .ok symbol)
    (h : catalog.reader.extend annotations symbol = .error error) : catalog.Raises error := by
  obtain ⟨tag, htag, require, fault, hrequire, rfl⟩ := AnnotationReader.extend_error h
  exact .require fault (TypeGraph.mem_symbols hsymbol) htag hrequire

theorem Agree.annotations {id : SymbolId} {f f' : Annotations → BuildM β}
    (hid : catalog.graph.HasSymbol id)
    (hf : ∀ annotations, catalog.Describes ⟨id, annotations⟩ →
      A.Agree catalog (f annotations) (f' annotations) S) :
    A.Agree catalog (catalog.annotations id >>= f) (catalog.annotations id >>= f') S := by
  rw [Catalog.annotations, bind_assoc, bind_assoc]
  refine .symbol hid fun symbol hsymbol => ?_
  exact .take (fun _ hfault => raises_of_extend hsymbol hfault)
    fun annotations hread => hf annotations ⟨symbol, hsymbol, hread⟩

section Rules

variable (hwhole : catalog.Whole)
  (hnode : catalog.graph.lookupType subject.id = .ok subject.node)
  (hbuild : A.Serves catalog request subject build build')

include hbuild in
/-- Types whose schemas are asked for one after the other. -/
theorem agree_schemas {types : List TypeId}
    (hparts : ∀ id ∈ types, catalog.Asks request subject (catalog.member id)) :
    A.Agree catalog (types.mapM fun id => build (catalog.member id))
      (types.mapM fun id => build' (catalog.member id)) Eq := by
  have heach : ∀ id ∈ types, A.Agree catalog (build (catalog.member id))
      (build' (catalog.member id)) fun schema schema' => schema = schema' ∧ True :=
    fun id hid => (hbuild _ (hparts id hid)).imp fun _ _ h => ⟨h, trivial⟩
  exact (Agree.each types heach).imp fun _ _ h => h.1

/-! ## Unions -/

include hwhole

theorem agree_memberOwner {id : TypeId} {node : TypeNode}
    (hmember : catalog.graph.lookupType id = .ok node) :
    A.Agree catalog (catalog.memberOwner node) (catalog.memberOwner node) fun owner owner' =>
      owner = owner' ∧ catalog.OwnsMember node owner := by
  rw [Catalog.memberOwner]
  cases halias : node.aliasSymbol with
  | some symbol =>
    have hsymbol := (hwhole.graph.nodeInRange hmember).aliasSymbol symbol halias
    refine .annotations hsymbol fun annotations h => .pure ⟨rfl, ?_, fun o ho => ?_⟩
    · exact halias.symm
    · exact Option.some.inj ho ▸ h
  | none => exact .pure ⟨rfl, halias.symm, fun o ho => by cases ho⟩

include hnode

theorem agree_addBranch {owner owner' : Option Owner} {branches : Branches}
    {members : List TypeId} {id : TypeId} (hbuild : A.Serves catalog request subject build build')
    (hmarks : ∀ p q, A.rel p q → A.rel (p.dropFor owner) (q.dropFor owner'))
    (hkind : subject.node.kind = .union members) (hmem : id ∈ members) :
    A.Agree catalog (catalog.addBranch build owner branches id)
      (catalog.addBranch build' owner' branches id) Eq := by
  have hid := (hwhole.graph.nodeInRange hnode).member hkind hmem
  rw [Catalog.addBranch, Catalog.addBranch]
  refine .type hid fun node hmember => ?_
  cases node.kind.literal? with
  | some value => exact .pure rfl
  | none =>
    refine (agree_memberOwner hwhole hmember).bind ?_
    rintro memberOwner _ ⟨rfl, howner⟩
    refine (hbuild _ (.member hkind hmem hmember howner)).bind ?_
    rintro schema _ rfl
    dsimp only
    split
    · cases owner with
      | none =>
        cases owner' with
        | none => exact .pure rfl
        | some owner' => exact fun p q hpq => ⟨hmarks p q hpq, rfl⟩
      | some owner =>
        cases owner' with
        | none => exact fun p q hpq => ⟨hmarks p q hpq, rfl⟩
        | some owner' => exact fun p q hpq => ⟨hmarks p q hpq, rfl⟩
    · exact .pure rfl
    · exact .pure rfl

theorem agree_unionSchema {owner owner' : Option Owner} {keyword : UnionKeyword}
    {members : List TypeId} (hbuild : A.Serves catalog request subject build build')
    (hmarks : ∀ p q, A.rel p q → A.rel (p.dropFor owner) (q.dropFor owner'))
    (hkind : subject.node.kind = .union members) (hstart : same → definition = definition') :
    A.Agree catalog (catalog.unionSchema build owner keyword members definition)
      (catalog.unionSchema build' owner' keyword members definition')
      fun schema schema' => same → schema = schema' := by
  rw [Catalog.unionSchema, Catalog.unionSchema]
  refine (Agree.foldlM (S := Eq) members rfl ?_).map ?_
  · rintro id hid branches _ rfl
    exact agree_addBranch hwhole hnode hbuild hmarks hkind hid
  · rintro branches _ rfl hsame
    rw [hstart hsame]

/-! ## Intersections -/

theorem agree_addFactor {members : List TypeId} {id : TypeId} {factors : Factors}
    (hbuild : A.Serves catalog request subject build build')
    (hkind : subject.node.kind = .intersection members) (hmem : id ∈ members) :
    A.Agree catalog (catalog.addFactor build factors id) (catalog.addFactor build' factors id)
      Eq := by
  have hid := (hwhole.graph.nodeInRange hnode).factor hkind hmem
  rw [Catalog.addFactor, Catalog.addFactor]
  refine (hbuild _ (.factor hkind hmem)).bind ?_
  rintro schema _ rfl
  split
  · exact .printed hwhole hid fun text _ => (agree_note _).bind fun _ _ _ => .pure rfl
  · split
    · split
      · exact .pure rfl
      · exact .printed hwhole hid fun text _ => (agree_note _).bind fun _ _ _ => .pure rfl
    · exact .pure rfl

theorem agree_intersectionSchema {members : List TypeId}
    (hbuild : A.Serves catalog request subject build build')
    (hkind : subject.node.kind = .intersection members)
    (hstart : same → definition = definition') :
    A.Agree catalog (catalog.intersectionSchema build members definition)
      (catalog.intersectionSchema build' members definition')
      fun schema schema' => same → schema = schema' := by
  rw [Catalog.intersectionSchema, Catalog.intersectionSchema]
  refine (Agree.foldlM (S := Eq) members rfl ?_).map ?_
  · rintro id hid factors _ rfl
    exact agree_addFactor hwhole hnode hbuild hkind hid
  · rintro factors _ rfl hsame
    rw [hstart hsame]

/-! ## Plain types -/

omit hwhole hnode

theorem agree_namesInteger {id : Option SymbolId}
    (hid : ∀ symbol, id = some symbol → catalog.graph.HasSymbol symbol) :
    A.Agree catalog (catalog.namesInteger id) (catalog.namesInteger id) Eq := by
  cases id with
  | some symbol => exact .symbol (hid symbol rfl) fun _ _ => .pure rfl
  | none => exact .pure rfl

theorem agree_isDate {id : Option SymbolId}
    (hid : ∀ symbol, id = some symbol → catalog.graph.HasSymbol symbol) :
    A.Agree catalog (catalog.isDate id) (catalog.isDate id) fun isDate isDate' =>
      isDate = isDate' ∧ (isDate = false → ∀ symbolId, id = some symbolId →
        ∃ symbol, catalog.graph.lookupSymbol symbolId = .ok symbol ∧ symbol.fullName ≠ "Date") := by
  cases id with
  | some symbolId =>
    refine .symbol (hid symbolId rfl) fun symbol hsymbol => .pure ⟨rfl, fun hdate other hother => ?_⟩
    obtain rfl := Option.some.inj hother
    exact ⟨symbol, hsymbol, by simpa using hdate⟩
  | none => exact .pure ⟨rfl, fun _ _ h => by cases h⟩

/-- A definition without `type` has no name of a type. -/
theorem typeName?_eq_none (h : definition.contains "type" = false) :
    definition.typeName? = none := by
  rw [Definition.typeName?, Definition.get?_eq_none_of_not_contains h]
  rfl

include hwhole hnode

theorem agree_isInteger (hnamed : ∀ id, subject.named = some id → catalog.graph.HasSymbol id)
    (htype : definition.contains "type" = false) (htype' : definition'.contains "type" = false) :
    A.Agree catalog (catalog.isInteger subject.node subject.named definition)
      (catalog.isInteger subject.node subject.named definition') Eq := by
  have hrange := hwhole.graph.nodeInRange hnode
  rw [Catalog.isInteger, Catalog.isInteger, typeName?_eq_none htype, typeName?_eq_none htype']
  refine (Agree.anyM _ fun id hid => agree_namesInteger fun symbol hsymbol => ?_).map
    fun byName _ hbyName => by rw [hbyName]
  simp only [List.mem_cons, List.not_mem_nil, or_false] at hid
  rcases hid with rfl | rfl | rfl
  · exact hnamed symbol hsymbol
  · exact hrange.symbol symbol hsymbol
  · exact hrange.aliasSymbol symbol hsymbol

/-- An array needs its items built unless there are some. -/
theorem agree_literalOrArray (hbuild : A.Serves catalog request subject build build')
    (hstart : same → definition = definition')
    (hitems : ∀ element, subject.node.kind.literal? = none →
      subject.node.numberIndex = some element →
        definition.contains "items" = definition'.contains "items")
    (hfault : subject.node.kind.literal? = none → subject.node.numberIndex = none →
      catalog.graph.Unsupported subject.id) :
    A.Agree catalog (catalog.literalOrArray build subject.id subject.node definition)
      (catalog.literalOrArray build' subject.id subject.node definition')
      fun schema schema' => same → schema = schema' := by
  have hentered : ∀ d : Definition, (d.setType "array").contains "items" = d.contains "items" := by
    intro d
    rw [Definition.contains, Definition.setType, Definition.insert, Dict.contains_insert]
    rfl
  rw [Catalog.literalOrArray.eq_def, Catalog.literalOrArray.eq_def]
  cases hliteral : subject.node.kind.literal? with
  | some value =>
    refine .pure fun hsame => ?_
    rw [hstart hsame]
  | none =>
    cases hindex : subject.node.numberIndex with
    | some element =>
      have hsome := hitems element hliteral hindex
      dsimp only
      rw [hentered, hentered, ← hsome]
      split
      · refine .pure fun hsame => ?_
        rw [hstart hsame]
      · refine (hbuild _ (.item hindex)).map ?_
        rintro schema _ rfl hsame
        rw [hstart hsame]
    | none =>
      have htype := TypeGraph.hasType_of_lookupType hnode
      exact .printed hwhole htype fun text htext =>
        .throw (.unsupported (hfault hliteral hindex) htext)

omit hwhole in
/-- An object that is raw without being an array or a date has the name of the integers. -/
theorem unsupported_of_isRaw {properties : List Property} {anonymous : Bool}
    {index : Option TypeId} (hkind : subject.node.kind = .object properties anonymous index)
    (hraw : catalog.graph.isRaw subject.node = .ok true)
    (hindex : subject.node.numberIndex = none)
    (hdate : ∀ symbolId, subject.node.symbol = some symbolId →
      ∃ symbol, catalog.graph.lookupSymbol symbolId = .ok symbol ∧ symbol.fullName ≠ "Date") :
    catalog.graph.Unsupported subject.id := by
  rw [TypeGraph.isRaw.eq_def, hkind] at hraw
  simp only [hindex, Option.isSome_none, Bool.false_eq_true, if_false] at hraw
  cases hsymbol : subject.node.symbol with
  | none =>
    rw [hsymbol] at hraw
    cases hraw
  | some symbolId =>
    obtain ⟨symbol, hlookup, hname⟩ := hdate symbolId hsymbol
    have hbranded : catalog.graph.isBranded symbolId = .ok true := by simpa [hsymbol] using hraw
    rw [TypeGraph.isBranded, hlookup] at hbranded
    have hinteger : (symbol.fullName == "Date" || symbol.name == "integer") = true :=
      Except.ok.inj hbranded
    simp only [Bool.or_eq_true, beq_iff_eq] at hinteger
    exact .integer hnode hindex hkind hsymbol hlookup (hinteger.resolve_left hname) hname

theorem agree_plainSchema (hnamed : ∀ id, subject.named = some id → catalog.graph.HasSymbol id)
    (hbuild : A.Serves catalog request subject build build')
    (hstart : same → definition = definition')
    (htype : definition.contains "type" = false) (htype' : definition'.contains "type" = false)
    (hitems : catalog.IsArray subject.node →
      definition.contains "items" = definition'.contains "items")
    (hunion : ∀ members, subject.node.kind ≠ .union members)
    (hintersection : ∀ members, subject.node.kind ≠ .intersection members)
    (henum : ∀ members, subject.node.kind ≠ .enum members)
    (hobject : ∀ properties anonymous index,
      subject.node.kind = .object properties anonymous index →
        catalog.graph.isRaw subject.node = .ok true) :
    A.Agree catalog (catalog.plainSchema build subject.id subject.node subject.named definition)
      (catalog.plainSchema build' subject.id subject.node subject.named definition')
      fun schema schema' => same → schema = schema' := by
  rw [Catalog.plainSchema.eq_def, Catalog.plainSchema.eq_def]
  split
  · rename_i elements minLength hasRest hkind
    refine (agree_schemas hbuild fun element helement => .element hkind helement).map ?_
    rintro items _ rfl hsame
    rw [hstart hsame]
  · exact .pure fun hsame => by rw [hstart hsame]
  · refine (agree_isInteger hwhole hnode hnamed htype htype').map ?_
    rintro isInteger _ rfl hsame
    rw [hstart hsame]
  · exact .pure fun hsame => by rw [hstart hsame]
  · exact .pure fun hsame => by rw [hstart hsame]
  · exact .pure fun hsame => by rw [hstart hsame]
  · exact .pure fun hsame => by rw [hstart hsame]
  · exact .pure fun hsame => by rw [hstart hsame]
  · exact .pure fun hsame => by rw [hstart hsame]
  · exact .pure fun hsame => by rw [hstart hsame]
  · rename_i hkind
    have hsymbols := (hwhole.graph.nodeInRange hnode).symbol
    refine (agree_isDate hsymbols).bind ?_
    rintro isDate _ ⟨rfl, hdate⟩
    cases isDate with
    | true => exact .pure fun hsame => by rw [hstart hsame]
    | false =>
      refine agree_literalOrArray hwhole hnode hbuild hstart (fun element _ hindex => ?_)
        fun _ hindex => ?_
      · exact hitems (.object hkind hindex (hdate rfl))
      · exact unsupported_of_isRaw hnode hkind (hobject _ _ _ hkind) hindex (hdate rfl)
  · have hkinds : subject.node.kind.literal? = none →
        subject.node.kind = .never ∨ subject.node.kind = .typeParameter := by
      intro hliteral
      cases hkind : subject.node.kind with
      | never => exact .inl rfl
      | typeParameter => exact .inr rfl
      | enumLiteral label =>
        exact absurd (hkind ▸ hliteral) Contract.enumLiteral_literal?_ne_none
      | union members => exact absurd hkind (hunion members)
      | intersection members => exact absurd hkind (hintersection members)
      | enum members => exact absurd hkind (henum members)
      | _ => simp_all [TypeKind.literal?]
    refine agree_literalOrArray hwhole hnode hbuild hstart (fun element hliteral hindex => ?_)
      fun hliteral hindex => ?_
    · rcases hkinds hliteral with hkind | hkind
      · exact hitems (.never hkind hindex)
      · exact hitems (.typeParameter hkind hindex)
    · rcases hkinds hliteral with hkind | hkind
      · exact .never hnode hindex hkind
      · exact .typeParameter hnode hindex hkind

/-! ## Objects -/

theorem agree_visibleProperties :
    A.Agree catalog (catalog.visibleProperties subject.node)
      (catalog.visibleProperties subject.node) fun properties properties' =>
        properties = subject.node.properties.filter catalog.isVisible ∧
          properties' = subject.node.properties.filter catalog.isVisible := by
  rw [Catalog.visibleProperties]
  refine .filterM _ _ fun property hproperty => ?_
  split
  · rename_i hprivate
    exact .pure (by simp [Catalog.isVisible, hprivate])
  · rename_i hprivate
    have htype := ((hwhole.graph.nodeInRange hnode).property hproperty).type
    exact .type htype fun type htype => .pure (by simp [Catalog.isVisible, hprivate, htype])

theorem agree_propertySchema {property : Property} {annotations : Annotations}
    (hbuild : A.Serves catalog request subject build build')
    (hmem : property ∈ subject.node.properties)
    (howner : catalog.Describes ⟨property.symbol, annotations⟩) :
    A.Agree catalog (catalog.propertySchema build property annotations)
      (catalog.propertySchema build' property annotations) Eq := by
  have hproperty := (hwhole.graph.nodeInRange hnode).property hmem
  rw [Catalog.propertySchema, Catalog.propertySchema]
  refine .symbol hproperty.symbol fun symbol hsymbol => ?_
  refine (hbuild _ (.property hmem howner)).bind ?_
  rintro schema _ rfl
  split
  · exact .pure rfl
  · dsimp only
    split
    · exact .pure rfl
    · exact (Agree.forM _ fun entry _ => agree_note entry).bind fun _ _ _ => .pure rfl

theorem agree_keptProperty {property : Property}
    (hbuild : A.Serves catalog request subject build build')
    (hmem : property ∈ subject.node.properties) :
    A.Agree catalog (catalog.keptProperty build property) (catalog.keptProperty build' property)
      fun kept kept' => kept = kept' ∧ ∀ k, kept = some k → k.property = property := by
  have hproperty := (hwhole.graph.nodeInRange hnode).property hmem
  rw [Catalog.keptProperty, Catalog.keptProperty]
  split
  · exact .pure ⟨rfl, fun _ h => by cases h⟩
  · refine .annotations hproperty.symbol fun annotations howner => ?_
    split
    · exact .pure ⟨rfl, fun _ h => by cases h⟩
    · refine (agree_propertySchema hwhole hnode hbuild hmem howner).bind ?_
      rintro answer _ rfl
      cases answer with
      | none => exact .pure ⟨rfl, fun _ h => by cases h⟩
      | some schema =>
        refine .symbol hproperty.symbol fun symbol _ => .pure ⟨rfl, fun k hk => ?_⟩
        obtain rfl := Option.some.inj hk
        rfl

/-- The subtypes that are described in place of an object are those of an abstract class. -/
theorem agree_subtypesOf :
    A.Agree catalog (catalog.subtypesOf subject.id subject.node)
      (catalog.subtypesOf subject.id subject.node) fun names names' => names = names' ∧
        (names ≠ [] → ∃ symbol base printed, subject.node.symbol = some symbol ∧
          catalog.graph.lookupSymbol symbol = .ok base ∧ base.isAbstract = true ∧
          catalog.graph.typeText subject.id = .ok printed ∧
          Dict.get? catalog.subtypes printed = some names) := by
  rw [Catalog.subtypesOf]
  cases hsymbol : subject.node.symbol with
  | none => exact .pure ⟨rfl, fun h => absurd rfl h⟩
  | some symbol =>
    refine .symbol ((hwhole.graph.nodeInRange hnode).symbol symbol hsymbol) fun base hbase => ?_
    split
    · rename_i habstract
      have htype := TypeGraph.hasType_of_lookupType hnode
      refine .printed hwhole htype fun printed hprinted => .pure ⟨rfl, fun hsome => ?_⟩
      cases hknown : Dict.get? catalog.subtypes printed with
      | none => simp [hknown] at hsome
      | some known => exact ⟨symbol, base, printed, rfl, hbase, habstract, hprinted, hknown⟩
    · exact .pure ⟨rfl, fun h => absurd rfl h⟩

omit hwhole hnode

/-- Objects are listed alike where the marks of their properties agree. -/
theorem listProperties_congr {kept : List KeptProperty} {absent absent' : List SymbolId}
    (h : catalog.options.ignoreRequired = false → ∀ k ∈ kept, k.property.isOptional = false →
      (k.property.symbol ∈ absent ↔ k.property.symbol ∈ absent')) :
    catalog.listProperties definition kept absent =
      catalog.listProperties definition kept absent' := by
  rw [Catalog.listProperties, Catalog.listProperties]
  split
  · rfl
  · rename_i hrequired
    have hfilter : (kept.filter fun k =>
        !k.property.isOptional && !absent.contains k.property.symbol) =
        kept.filter fun k => !k.property.isOptional && !absent'.contains k.property.symbol := by
      refine List.filter_congr fun k hk => ?_
      cases hoptional : k.property.isOptional with
      | true => rfl
      | false =>
        have hmarks := h (by simpa using hrequired) k hk hoptional
        simp [hmarks]
    rw [hfilter]

include hwhole hnode

/-- The same properties are kept for the object, and the marks agree on those that are listed as
required unless they are marked. -/
def KeepsAlike (A : Accord) (catalog : Catalog) (node : TypeNode) (build build' : Builder) : Prop :=
  ∀ p q, A.rel p q →
    ((node.properties.filter catalog.isVisible).mapM (catalog.keptProperty build)).Post₂
      ((node.properties.filter catalog.isVisible).mapM (catalog.keptProperty build')) p q
      (fun kept kept' r s => A.rel r s ∧ kept = kept' ∧
        (catalog.options.ignoreRequired = false → ∀ k, some k ∈ kept → k.property.isOptional = false →
          (k.property.symbol ∈ r.context.absent ↔ k.property.symbol ∈ s.context.absent)))
      catalog.Raises

/-- That is so in an accord of progresses that agree on these marks. -/
theorem keepsAlike_of_marks (hbuild : A.Serves catalog request subject build build')
    (hmarks : catalog.options.ignoreRequired = false → ∀ property ∈ subject.node.properties,
      property.isOptional = false → ∀ p q, A.rel p q →
        (property.symbol ∈ p.context.absent ↔ property.symbol ∈ q.context.absent)) :
    A.KeepsAlike catalog subject.node build build' := by
  intro p q hpq
  refine (Agree.each _ (fun property hproperty => agree_keptProperty hwhole hnode hbuild
    (List.mem_filter.1 hproperty).1) p q hpq).imp ?_
  rintro kept _ r s ⟨hrs, rfl, hkept⟩
  refine ⟨hrs, rfl, fun hrequired k hk hoptional => ?_⟩
  obtain ⟨property, hproperty, hsame⟩ := exists_left_of_forall₂ hkept hk
  obtain rfl := hsame k rfl
  exact hmarks hrequired _ (List.mem_filter.1 hproperty).1 hoptional r s hrs

theorem agree_objectSchema (hbuild : A.Serves catalog request subject build build')
    (hkept : A.KeepsAlike catalog subject.node build build')
    (hstart : same → definition = definition') :
    A.Agree catalog (catalog.objectSchema build subject.id subject.node definition)
      (catalog.objectSchema build' subject.id subject.node definition')
      fun schema schema' => same → schema = schema' := by
  rw [Catalog.objectSchema, Catalog.objectSchema]
  refine (agree_visibleProperties hwhole hnode).bind ?_
  rintro _ _ ⟨rfl, rfl⟩
  refine (agree_subtypesOf hwhole hnode).bind ?_
  rintro names _ ⟨rfl, hnames⟩
  split
  · rename_i hsome
    obtain ⟨symbol, base, printed, hsymbol, hbase, habstract, hprinted, hknown⟩ := hnames hsome
    refine (agree_schemas hbuild fun subtype hsubtype => ?_).map ?_
    · obtain ⟨name, hname, hdeclared⟩ := List.mem_filterMap.1 hsubtype
      exact .subtype hsymbol hbase habstract hprinted hknown hname hdeclared
    · rintro branches _ rfl hsame
      rw [hstart hsame]
  · intro p q hpq
    refine (hkept p q hpq).bind ?_
    rintro kept _ r s ⟨hrs, rfl, hmarks⟩
    have hschemas : same →
        catalog.listProperties definition kept.reduceOption r.context.absent =
          catalog.listProperties definition' kept.reduceOption s.context.absent := by
      intro hsame
      rw [hstart hsame]
      exact listProperties_congr fun hrequired k hk =>
        hmarks hrequired k (List.reduceOption_mem_iff.1 hk)
    exact ⟨A.listed hrs _ _, hschemas⟩

/-! ## All structures -/

omit hwhole hnode in
theorem agree_emptyObjectSchema {request' : Request} {index : Option TypeId}
    (hvalue : ∀ value, index = some value →
      A.Agree catalog (build (catalog.valueRequest request subject value))
        (build' (catalog.valueRequest request' subject value)) Eq)
    (hstart : same → definition = definition') :
    A.Agree catalog (catalog.emptyObjectSchema build request subject.named index definition)
      (catalog.emptyObjectSchema build' request' subject.named index definition')
      fun schema schema' => same → schema = schema' := by
  unfold Catalog.emptyObjectSchema
  dsimp only
  cases index with
  | none =>
    refine .pure fun hsame => ?_
    rw [hstart hsame]
  | some value =>
    refine (hvalue value rfl).map ?_
    rintro schema _ rfl hsame
    rw [hstart hsame]

/-- **Every rule keeps runs together.** -/
theorem agree_structureSchema {request' : Request} {isRaw : Bool}
    (hnamed : ∀ id, subject.named = some id → catalog.graph.HasSymbol id)
    (hbuild : A.Serves catalog request subject build build')
    (hraw : catalog.graph.isRaw subject.node = .ok isRaw)
    (hkeyword : request'.unionKeyword = request.unionKeyword)
    (hvalue : ∀ value, isRaw = false → subject.node.kind = .object [] true (some value) →
      A.Agree catalog (build (catalog.valueRequest request subject value))
        (build' (catalog.valueRequest request' subject value)) Eq)
    (hmarks : ∀ members, subject.node.kind = .union members → ∀ p q, A.rel p q →
      A.rel (p.dropFor request.owner) (q.dropFor request'.owner))
    (hkept : A.KeepsAlike catalog subject.node build build')
    (hstart : same → definition = definition')
    (htype : definition.contains "type" = false) (htype' : definition'.contains "type" = false)
    (hitems : catalog.IsArray subject.node →
      definition.contains "items" = definition'.contains "items") :
    A.Agree catalog (catalog.structureSchema build request subject isRaw definition)
      (catalog.structureSchema build' request' subject isRaw definition')
      fun schema schema' => same → schema = schema' := by
  unfold Catalog.structureSchema
  dsimp only
  split
  · rename_i members hkind
    rw [hkeyword]
    exact agree_unionSchema hwhole hnode hbuild (hmarks members hkind) hkind hstart
  · rename_i members hkind
    exact agree_intersectionSchema hwhole hnode hbuild hkind hstart
  · rename_i hunion hintersection
    split
    · rename_i hisRaw
      subst hisRaw
      refine agree_plainSchema hwhole hnode hnamed hbuild hstart htype htype' hitems hunion
        hintersection ?_ fun _ _ _ _ => hraw
      intro members hkind
      rw [TypeGraph.isRaw.eq_def, hkind] at hraw
      cases hraw
    · rename_i hinline
      split
      · rename_i members hkind
        refine .printed hwhole (TypeGraph.hasType_of_lookupType hnode) fun name _ => ?_
        refine (Agree.forM _ fun entry _ => agree_note entry).bind fun _ _ _ => .pure fun hsame => ?_
        rw [hstart hsame]
      · refine .pure fun hsame => ?_
        rw [hstart hsame]
      · rename_i index _ hkind
        refine agree_emptyObjectSchema (fun value hindex => ?_) hstart
        exact hvalue value (by simpa using hinline) (hindex ▸ hkind)
      · exact agree_objectSchema hwhole hnode hbuild hkept hstart
      · rename_i henum _ _ hobject
        refine agree_plainSchema hwhole hnode hnamed hbuild hstart htype htype' hitems hunion
          hintersection henum fun properties anonymous index hkind => ?_
        exact absurd hkind (hobject properties anonymous index)

/-! ## Naming and describing -/

omit hwhole hnode

/-- The name of a type that has none is made, and a name that is there stays. -/
theorem agree_nameOf (N : NamingAccord) (id : TypeId) (base : String) :
    N.Agree catalog
      (BuildM.answer fun context =>
        ((context.names.nameOf id base).1,
          { context with names := (context.names.nameOf id base).2 }))
      (BuildM.answer fun context =>
        ((context.names.nameOf id base).1,
          { context with names := (context.names.nameOf id base).2 })) Eq := by
  intro p q hpq
  have hnames := N.names hpq
  have hanswer : (p.context.names.nameOf id base).1 = (q.context.names.nameOf id base).1 := by
    rw [hnames]
  refine ⟨?_, hanswer⟩
  cases hname : p.context.names.name? id with
  | some name =>
    have hname' : q.context.names.name? id = some name := by rw [hnames, hname]
    simp only [NameRegistry.nameOf, hname, hname']
    exact hpq
  | none =>
    have hname' : q.context.names.name? id = none := by rw [hnames, hname]
    simp only [NameRegistry.nameOf, hname, hname']
    exact N.named hpq id base

include hwhole

theorem agree_ownName (N : NamingAccord) {id : TypeId} (hid : catalog.graph.HasType id) :
    N.Agree catalog (catalog.ownName id) (catalog.ownName id) Eq := by
  intro p q hpq
  rw [Catalog.ownName]
  refine BuildM.post₂_context_bind.2 ?_
  rw [N.names hpq]
  cases p.context.names.name? id with
  | some name => exact ⟨hpq, rfl⟩
  | none =>
    exact Agree.printed hwhole hid (fun text _ => agree_nameOf N id (canonicalName text)) p q hpq

omit hwhole in
theorem agree_aliasName (N : NamingAccord) (id : TypeId) (symbol : Symbol) :
    N.Agree catalog (catalog.aliasName id symbol) (catalog.aliasName id symbol) Eq := by
  rw [Catalog.aliasName]
  dsimp only
  split
  · exact .pure rfl
  · intro p q hpq
    refine ⟨N.named hpq id _, ?_⟩
    rw [N.names hpq]

omit hwhole in
theorem agree_overrideName? {named : Option SymbolId}
    (hnamed : ∀ id, named = some id → catalog.graph.HasSymbol id) :
    A.Agree catalog (catalog.overrideName? named) (catalog.overrideName? named) Eq := by
  cases named with
  | none => exact .pure rfl
  | some id => exact .symbol (hnamed id rfl) fun _ _ => .pure rfl

include hnode

theorem agree_subjectName (N : NamingAccord)
    (hnamed : ∀ id, subject.named = some id → catalog.graph.HasSymbol id)
    (aliasReference : Bool) :
    N.Agree catalog (catalog.subjectName subject aliasReference)
      (catalog.subjectName subject aliasReference) Eq := by
  have hid := TypeGraph.hasType_of_lookupType hnode
  rw [Catalog.subjectName]
  split
  · rename_i id halias
    have hsymbol : catalog.graph.HasSymbol id := by
      split at halias
      · exact hnamed id halias
      · cases halias
    exact .symbol hsymbol fun symbol _ => agree_aliasName N subject.id symbol
  · refine .find (hwhole.graph.nodeInRange hnode).found_declaringSymbol fun declaring _ => ?_
    split
    · refine (agree_ownName hwhole N hid).map ?_
      rintro name _ rfl
      rfl
    · refine (agree_overrideName? hnamed).bind ?_
      rintro override _ rfl
      cases override with
      | some name => exact .pure rfl
      | none =>
        refine (agree_ownName hwhole N hid).map ?_
        rintro name _ rfl
        rfl

theorem agree_annotate (hnamed : ∀ id, subject.named = some id → catalog.graph.HasSymbol id) :
    A.Agree catalog (catalog.annotate subject.describing) (catalog.annotate subject.describing)
      Eq := by
  have hrange := hwhole.graph.nodeInRange hnode
  have hsymbols : ∀ id ∈ subject.describing, catalog.graph.HasSymbol id := by
    intro id hid
    simp only [Subject.describing, List.mem_append, Option.mem_toList] at hid
    rcases hid with (hid | hid) | hid
    · exact hnamed id hid
    · exact hrange.symbol id hid
    · exact hrange.aliasSymbol id hid
  rw [Catalog.annotate]
  refine (Agree.foldlM (S := Eq) _ rfl ?_).map fun annotations _ h => by rw [h]
  rintro id hid annotations _ rfl
  refine .symbol (hsymbols id hid) fun symbol hsymbol => ?_
  have htake : A.Agree catalog (BuildM.take (catalog.reader.extend annotations symbol) >>= pure)
      (BuildM.take (catalog.reader.extend annotations symbol) >>= pure) Eq :=
    .take (fun _ hfault => raises_of_extend hsymbol hfault) fun _ _ => .pure rfl
  rwa [bind_pure] at htake

end Rules

end Accord

end TypeSchema
