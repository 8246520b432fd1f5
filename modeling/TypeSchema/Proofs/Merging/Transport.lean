import Mathlib.Data.List.ReduceOption
import TypeSchema.Proofs.Annotations
import TypeSchema.Proofs.Merging.Runs

/-!
# Building in a larger graph

A catalog that is placed within a larger one has its types and symbols there, at other positions, and
all else in common with it (`Catalog.Placed`).  There is one lemma for each rule: if two builders
answer alike, the one a request and the other the request moved, the rule answers alike with either of
them.  The constructions a request is made in are not compared, as they are written down and never
read.

**`Catalog.Placed.carries_buildWithin`** ties the rules together: requests are answered alike at both
places.
-/

set_option autoImplicit false

namespace TypeSchema

/-! ## Placed catalogs -/

/-- The catalog is placed within the larger one: its graph is, and in all else that is built from the
two agree. -/
structure Catalog.Placed (shift : Shift) (catalog larger : Catalog) : Prop where
  graph : catalog.graph.Placed shift larger.graph
  options : larger.options = catalog.options
  modules : larger.modules = catalog.modules
  overrides : larger.overrides = catalog.overrides
  hook : larger.hook = catalog.hook
  subtypes : larger.subtypes = catalog.subtypes
  declared : ∀ {printed names}, Dict.get? catalog.subtypes printed = some names → ∀ name ∈ names,
    Dict.get? larger.declared name = (Dict.get? catalog.declared name).map shift.type

/-- The same request for a type that was moved, within any constructions. -/
structure Request.Moved (shift : Shift) (request request' : Request) : Prop where
  type : request'.type = shift.type request.type
  asReference : request'.asReference = request.asReference
  unionKeyword : request'.unionKeyword = request.unionKeyword
  owner : request'.owner = request.owner.map shift.owner
  named : request'.named = request.named.map shift.symbol

namespace Catalog.Placed

open Shift

variable {shift : Shift} {deeper : Prop} {catalog larger : Catalog}
  (h : catalog.Placed shift larger)

/-- A catalog is placed within itself. -/
theorem refl (catalog : Catalog) : catalog.Placed .zero catalog where
  graph := .refl catalog.graph
  options := rfl
  modules := rfl
  overrides := rfl
  hook := rfl
  subtypes := rfl
  declared _ _ _ := by simp

include h

/-! ### Looking things up -/

theorem reader : larger.reader = catalog.reader := by
  rw [Catalog.reader, Catalog.reader, h.options, h.modules]

theorem carries_type (id : TypeId) :
    shift.Carries deeper (fun node node' => node' = shift.node node) (catalog.type id)
      (larger.type (shift.type id)) :=
  .find (h.graph.refound_type id)

theorem carries_symbol (id : SymbolId) :
    shift.Carries deeper Same (catalog.symbol id) (larger.symbol (shift.symbol id)) :=
  .find (h.graph.refound_symbol id)

theorem carries_printed (id : TypeId) :
    shift.Carries deeper Same (catalog.printed id) (larger.printed (shift.type id)) :=
  .find (h.graph.refound_typeText id)

/-- Doc comments are read alike. -/
theorem carries_extend (annotations : Annotations) (symbol : Symbol) :
    shift.Carries deeper Same (BuildM.take (catalog.reader.extend annotations symbol))
      (BuildM.take (larger.reader.extend annotations symbol)) := by
  rw [h.reader]
  cases hread : catalog.reader.extend annotations symbol with
  | ok done => exact .pure rfl
  | error error =>
    obtain ⟨tag, _, require, fault, _, rfl⟩ := AnnotationReader.extend_error hread
    exact .throw (.inr (.require require.specifier fault))

theorem carries_annotations (id : SymbolId) :
    shift.Carries deeper Same (catalog.annotations id) (larger.annotations (shift.symbol id)) := by
  refine (h.carries_symbol id).bind ?_
  rintro _ symbol rfl
  exact h.carries_extend {} symbol

theorem member_moved (id : TypeId) (named : Option SymbolId) :
    (catalog.member id named).Moved shift
      (larger.member (shift.type id) (named.map shift.symbol)) where
  type := rfl
  asReference := by rw [Catalog.member, Catalog.member, h.options]
  unionKeyword := by rw [Catalog.member, Catalog.member, h.options]
  owner := rfl
  named := rfl

section Rules

variable {build build' : Builder}
  (hbuild : ∀ request request', request.Moved shift request' →
    shift.Carries deeper Same (build request) (build' request'))

include hbuild

/-- Types whose schemas are asked for one after the other. -/
theorem carries_schemas (types : List TypeId) :
    shift.Carries deeper Same (types.mapM fun id => build (catalog.member id))
      ((types.map shift.type).mapM fun id => build' (larger.member id)) := by
  have hall : shift.Carries deeper (fun schemas schemas' => schemas' = schemas.map id)
      (types.mapM fun id => build (catalog.member id))
      ((types.map shift.type).mapM fun id => build' (larger.member id)) :=
    .mapM types fun id => hbuild _ _ (h.member_moved id none)
  exact hall.imp fun schemas _ hschemas => hschemas.trans (List.map_id schemas)

/-! ### Unions -/

omit hbuild in
theorem carries_memberOwner (node : TypeNode) :
    shift.Carries deeper (fun owner owner' => owner' = owner.map shift.owner)
      (catalog.memberOwner node) (larger.memberOwner (shift.node node)) := by
  rw [Catalog.memberOwner, Catalog.memberOwner, aliasSymbol_node]
  cases node.aliasSymbol with
  | none => exact .pure rfl
  | some id =>
    refine (h.carries_annotations id).map ?_
    rintro _ annotations rfl
    rfl

theorem carries_addBranch (owner : Option Owner) (branches : Branches) (id : TypeId) :
    shift.Carries deeper Same (catalog.addBranch build owner branches id)
      (larger.addBranch build' (owner.map shift.owner) branches (shift.type id)) := by
  rw [Catalog.addBranch, Catalog.addBranch]
  refine (h.carries_type id).bind ?_
  rintro node _ rfl
  rw [kind_node, literal?_kind]
  cases node.kind.literal? with
  | some value => exact .pure rfl
  | none =>
    refine (h.carries_memberOwner node).bind ?_
    rintro memberOwner _ rfl
    have hpart : Request.Moved shift
        { catalog.member id node.aliasSymbol with owner := memberOwner }
        { larger.member (shift.type id) (shift.node node).aliasSymbol with
          owner := memberOwner.map shift.owner } :=
      { h.member_moved id node.aliasSymbol with owner := rfl }
    refine (hbuild _ _ hpart).bind ?_
    rintro _ schema rfl
    split
    · cases owner with
      | none => exact .pure rfl
      | some owner =>
        have hdrop : shift.Carries deeper Same (BuildM.act (.dropped owner.symbol))
            (BuildM.act (.dropped (shift.symbol owner.symbol))) :=
          .act fun c => shift.context_markAbsent c owner.symbol
        exact hdrop.bind fun _ _ _ => .pure rfl
    · rw [h.options]
      exact .pure rfl
    · exact .pure rfl

theorem carries_unionSchema (owner : Option Owner) (keyword : UnionKeyword) (members : List TypeId)
    (definition : Definition) :
    shift.Carries deeper Same (catalog.unionSchema build owner keyword members definition)
      (larger.unionSchema build' (owner.map shift.owner) keyword (members.map shift.type)
        definition) := by
  refine (Carries.foldlM members {} fun done id => h.carries_addBranch hbuild owner done id).map ?_
  rintro _ branches rfl
  rw [h.options]

/-! ### Intersections -/

theorem carries_addFactor (factors : Factors) (id : TypeId) :
    shift.Carries deeper Same (catalog.addFactor build factors id)
      (larger.addFactor build' factors (shift.type id)) := by
  rw [Catalog.addFactor, Catalog.addFactor]
  refine (hbuild _ _ (h.member_moved id none)).bind ?_
  rintro _ schema rfl
  split
  · refine (h.carries_printed id).bind ?_
    rintro _ text rfl
    exact (Carries.note _).bind fun _ _ _ => .pure rfl
  · split
    · split
      · exact .pure rfl
      · refine (h.carries_printed id).bind ?_
        rintro _ text rfl
        exact (Carries.note _).bind fun _ _ _ => .pure rfl
    · exact .pure rfl

theorem carries_intersectionSchema (members : List TypeId) (definition : Definition) :
    shift.Carries deeper Same (catalog.intersectionSchema build members definition)
      (larger.intersectionSchema build' (members.map shift.type) definition) := by
  refine (Carries.foldlM members {} fun done id => h.carries_addFactor hbuild done id).map ?_
  rintro _ factors rfl
  rfl

/-! ### Plain types -/

omit hbuild

theorem carries_namesInteger (id : Option SymbolId) :
    shift.Carries deeper Same (catalog.namesInteger id)
      (larger.namesInteger (id.map shift.symbol)) := by
  cases id with
  | none => exact .pure rfl
  | some id =>
    refine (h.carries_symbol id).map ?_
    rintro _ symbol rfl
    rfl

theorem carries_isInteger (node : TypeNode) (named : Option SymbolId) (definition : Definition) :
    shift.Carries deeper Same (catalog.isInteger node named definition)
      (larger.isInteger (shift.node node) (named.map shift.symbol) definition) := by
  refine (Carries.anyM [named, node.symbol, node.aliasSymbol] h.carries_namesInteger).map ?_
  rintro _ byName rfl
  rw [h.options]

theorem carries_isDate (id : Option SymbolId) :
    shift.Carries deeper Same (catalog.isDate id) (larger.isDate (id.map shift.symbol)) := by
  cases id with
  | none => exact .pure rfl
  | some id =>
    refine (h.carries_symbol id).map ?_
    rintro _ symbol rfl
    rfl

include hbuild

theorem carries_literalOrArray (id : TypeId) (node : TypeNode) (definition : Definition) :
    shift.Carries deeper Same (catalog.literalOrArray build id node definition)
      (larger.literalOrArray build' (shift.type id) (shift.node node) definition) := by
  rw [Catalog.literalOrArray.eq_def, Catalog.literalOrArray.eq_def, kind_node, literal?_kind,
    numberIndex_node]
  cases node.kind.literal? with
  | some value => exact .pure rfl
  | none =>
    cases node.numberIndex with
    | some element =>
      dsimp only [Option.map_some]
      split
      · exact .pure rfl
      · refine (hbuild _ _ (h.member_moved element none)).map ?_
        rintro _ schema rfl
        rfl
    | none =>
      refine (h.carries_printed id).bind ?_
      rintro _ text rfl
      exact .throw (.inr (.unsupportedType text id))

theorem carries_plainSchema (id : TypeId) (node : TypeNode) (named : Option SymbolId)
    (definition : Definition) :
    shift.Carries deeper Same (catalog.plainSchema build id node named definition)
      (larger.plainSchema build' (shift.type id) (shift.node node) (named.map shift.symbol)
        definition) := by
  have hrest := h.carries_literalOrArray hbuild id node definition
  rw [Catalog.plainSchema.eq_def, Catalog.plainSchema.eq_def, kind_node]
  cases node.kind with
  | tuple elements minLength hasRest =>
    refine (h.carries_schemas hbuild elements).map ?_
    rintro _ items rfl
    rfl
  | number =>
    refine (h.carries_isInteger node named definition).map ?_
    rintro _ isInteger rfl
    rfl
  | null =>
    dsimp only [Shift.kind]
    rw [h.options]
    exact .pure rfl
  | object properties anonymous index =>
    refine (h.carries_isDate node.symbol).bind ?_
    rintro _ isDate rfl
    split
    · exact .pure rfl
    · exact hrest
  | string | boolean | undefined | void | any | unknown | nonPrimitive => exact .pure rfl
  | _ => exact hrest

/-! ### Objects -/

omit hbuild

theorem carries_visibleProperties (node : TypeNode) :
    shift.Carries deeper (fun properties properties' => properties' = properties.map shift.property)
      (catalog.visibleProperties node) (larger.visibleProperties (shift.node node)) := by
  rw [Catalog.visibleProperties, Catalog.visibleProperties, properties_node]
  refine .filterM _ fun property => ?_
  rw [show (shift.property property).isPrivate = property.isPrivate from rfl]
  split
  · exact .pure rfl
  · refine (h.carries_type property.type).map ?_
    rintro type _ rfl
    obtain ⟨kind⟩ := type
    cases kind <;> rfl

theorem carries_subtypesOf (id : TypeId) (node : TypeNode) :
    shift.Carries deeper (fun names names' => names' = names ∧
        ∀ name ∈ names, Dict.get? larger.declared name =
          (Dict.get? catalog.declared name).map shift.type)
      (catalog.subtypesOf id node) (larger.subtypesOf (shift.type id) (shift.node node)) := by
  rw [Catalog.subtypesOf, Catalog.subtypesOf, symbol_node]
  cases node.symbol with
  | none => exact .pure ⟨rfl, List.forall_mem_nil _⟩
  | some symbol =>
    refine (h.carries_symbol symbol).bind ?_
    rintro _ base rfl
    split
    · refine (h.carries_printed id).map ?_
      rintro _ printed rfl
      rw [h.subtypes]
      refine ⟨rfl, ?_⟩
      cases hnames : Dict.get? catalog.subtypes printed with
      | none => exact List.forall_mem_nil _
      | some names => exact h.declared hnames
    · exact .pure ⟨rfl, List.forall_mem_nil _⟩

include hbuild

theorem carries_propertySchema (property : Property) (annotations : Annotations) :
    shift.Carries deeper Same (catalog.propertySchema build property annotations)
      (larger.propertySchema build' (shift.property property) annotations) := by
  rw [Catalog.propertySchema, Catalog.propertySchema]
  refine (h.carries_symbol property.symbol).bind ?_
  rintro _ symbol rfl
  have hpart : Request.Moved shift
      { catalog.member property.type property.referenced with
        owner := some ⟨property.symbol, annotations⟩ }
      { larger.member (shift.property property).type (shift.property property).referenced with
        owner := some ⟨(shift.property property).symbol, annotations⟩ } :=
    { h.member_moved property.type property.referenced with owner := rfl }
  refine (hbuild _ _ hpart).bind ?_
  rintro _ schema rfl
  rw [h.options]
  split
  · exact .pure rfl
  · dsimp only [Shift.property]
    split
    · exact .pure rfl
    · exact (Carries.forM _ fun entry => .note entry).bind fun _ _ _ => .pure rfl

theorem carries_keptProperty (property : Property) :
    shift.Carries deeper (fun kept kept' => kept' = kept.map shift.kept)
      (catalog.keptProperty build property)
      (larger.keptProperty build' (shift.property property)) := by
  rw [Catalog.keptProperty, Catalog.keptProperty]
  rw [show (shift.property property).isMethod = property.isMethod from rfl]
  split
  · exact .pure rfl
  · refine (h.carries_annotations property.symbol).bind ?_
    rintro _ annotations rfl
    split
    · exact .pure rfl
    · refine (h.carries_propertySchema hbuild property annotations).bind ?_
      rintro _ answer rfl
      cases answer with
      | none => exact .pure rfl
      | some schema =>
        refine (h.carries_symbol property.symbol).map ?_
        rintro _ symbol rfl
        rfl

omit hbuild in
/-- Objects are listed alike, as the marks are those of the properties moved. -/
theorem listProperties_eq (start : Definition) (kept : List KeptProperty) (c : Context) :
    larger.listProperties start (kept.map shift.kept) (shift.context c).absent =
      catalog.listProperties start kept c.absent := by
  have hset : start.setProperties (kept.map shift.kept) = start.setProperties kept := by
    simp [Definition.setProperties, Shift.kept, Function.comp_def]
  have hfilter : (kept.map shift.kept).filter (fun k =>
      !k.property.isOptional && !(shift.context c).absent.contains k.property.symbol) =
      (kept.filter fun k =>
        !k.property.isOptional && !c.absent.contains k.property.symbol).map shift.kept := by
    rw [List.filter_map]
    congr 1
    refine List.filter_congr fun k _ => ?_
    rw [Function.comp_apply, ← shift.contains_absent_context c k.property.symbol]
    rfl
  rw [Catalog.listProperties, Catalog.listProperties, hset, hfilter, h.options, List.map_map]
  rfl

theorem carries_objectSchema (id : TypeId) (node : TypeNode) (definition : Definition) :
    shift.Carries deeper Same (catalog.objectSchema build id node definition)
      (larger.objectSchema build' (shift.type id) (shift.node node) definition) := by
  rw [Catalog.objectSchema, Catalog.objectSchema]
  refine (h.carries_visibleProperties node).bind ?_
  rintro properties _ rfl
  refine (h.carries_subtypesOf id node).bind ?_
  rintro _ names ⟨rfl, hnames⟩
  split
  · have hdeclared : names.filterMap (Dict.get? larger.declared) =
        (names.filterMap (Dict.get? catalog.declared)).map shift.type := by
      rw [List.map_filterMap]
      exact List.filterMap_congr hnames
    rw [hdeclared]
    refine (h.carries_schemas hbuild _).map ?_
    rintro _ branches rfl
    rfl
  · refine (Carries.mapM (g := Option.map shift.kept) properties
      (h.carries_keptProperty hbuild)).bind ?_
    rintro kept _ rfl
    refine .context fun c => ?_
    rw [List.reduceOption_map, h.listProperties_eq]
    exact (Carries.act fun _ => rfl).bind fun _ _ _ => .pure rfl

/-! ### All structures -/

theorem carries_emptyObjectSchema {request request' : Request}
    (hrequest : request.Moved shift request') (named : Option SymbolId) (index : Option TypeId)
    (definition : Definition) :
    shift.Carries deeper Same (catalog.emptyObjectSchema build request named index definition)
      (larger.emptyObjectSchema build' request' (named.map shift.symbol) (index.map shift.type)
        definition) := by
  unfold Catalog.emptyObjectSchema
  dsimp only
  cases index with
  | none => exact .pure rfl
  | some value =>
    have hpart : Request.Moved shift
        { catalog.member value named with
          unionKeyword := request.unionKeyword
          owner := request.owner }
        { larger.member (shift.type value) (named.map shift.symbol) with
          unionKeyword := request'.unionKeyword
          owner := request'.owner } :=
      { h.member_moved value named with
        unionKeyword := hrequest.unionKeyword
        owner := hrequest.owner }
    refine (hbuild _ _ hpart).map ?_
    rintro _ schema rfl
    rfl

/-- **Every rule is applied alike at both places.** -/
theorem carries_structureSchema {request request' : Request}
    (hrequest : request.Moved shift request') (subject : Subject) (isRaw : Bool)
    (definition : Definition) :
    shift.Carries deeper Same (catalog.structureSchema build request subject isRaw definition)
      (larger.structureSchema build' request' (shift.subject subject) isRaw definition) := by
  have hplain := h.carries_plainSchema hbuild subject.id subject.node subject.named definition
  have hobject := h.carries_objectSchema hbuild subject.id subject.node definition
  unfold Catalog.structureSchema
  dsimp only [Shift.subject]
  rw [kind_node]
  cases hkind : subject.node.kind with
  | union members =>
    dsimp only [Shift.kind]
    rw [hrequest.owner, hrequest.unionKeyword]
    exact h.carries_unionSchema hbuild request.owner request.unionKeyword members definition
  | intersection members => exact h.carries_intersectionSchema hbuild members definition
  | enum members =>
    dsimp only [Shift.kind]
    split
    · exact hplain
    · refine (h.carries_printed subject.id).bind ?_
      rintro _ name rfl
      exact (Carries.forM _ fun entry => .note entry).bind fun _ _ _ => .pure rfl
  | enumLiteral label =>
    dsimp only [Shift.kind]
    split
    · exact hplain
    · exact .pure rfl
  | object properties anonymous index =>
    dsimp only [Shift.kind]
    split
    · exact hplain
    · cases properties with
      | nil =>
        cases anonymous with
        | true => exact h.carries_emptyObjectSchema hbuild hrequest subject.named index definition
        | false => exact hobject
      | cons first rest => exact hobject
  | _ =>
    dsimp only [Shift.kind]
    split <;> exact hplain

end Rules

/-! ### Naming and describing -/

theorem carries_ownName (id : TypeId) :
    shift.Carries deeper Same (catalog.ownName id) (larger.ownName (shift.type id)) := by
  rw [Catalog.ownName, Catalog.ownName]
  refine .context fun c => ?_
  rw [show (shift.context c).names.name? (shift.type id) = c.names.name? id from
    shift.name?_registry c.names id]
  cases c.names.name? id with
  | some name => exact .pure rfl
  | none =>
    refine (h.carries_printed id).bind ?_
    rintro _ text rfl
    refine .answer fun c => ?_
    rw [show (shift.context c).names.nameOf (shift.type id) (canonicalName text) = _ from
      shift.nameOf_registry c.names id (canonicalName text)]
    exact ⟨rfl, rfl⟩

theorem carries_aliasName (id : TypeId) (symbol : Symbol) :
    shift.Carries deeper Same (catalog.aliasName id symbol)
      (larger.aliasName (shift.type id) symbol) := by
  rw [Catalog.aliasName, Catalog.aliasName, h.options]
  dsimp only
  split
  · exact .pure rfl
  · refine .answer fun c => ?_
    rw [show (shift.context c).names.makeUnique (shift.type id) (canonicalName symbol.fullName) = _
      from shift.makeUnique_registry c.names id (canonicalName symbol.fullName)]
    exact ⟨rfl, rfl⟩

theorem carries_overrideName? (named : Option SymbolId) :
    shift.Carries deeper Same (catalog.overrideName? named)
      (larger.overrideName? (named.map shift.symbol)) := by
  cases named with
  | none => exact .pure rfl
  | some id =>
    refine (h.carries_symbol id).map ?_
    rintro _ symbol rfl
    rw [h.overrides]

theorem carries_subjectName (subject : Subject) (aliasReference : Bool) :
    shift.Carries deeper Same (catalog.subjectName subject aliasReference)
      (larger.subjectName (shift.subject subject) aliasReference) := by
  have hnamed : (if aliasReference = true then (shift.subject subject).named else none) =
      (if aliasReference = true then subject.named else none).map shift.symbol := by
    split <;> rfl
  rw [Catalog.subjectName, Catalog.subjectName, hnamed]
  cases if aliasReference = true then subject.named else none with
  | some id =>
    refine (h.carries_symbol id).bind ?_
    rintro _ symbol rfl
    exact h.carries_aliasName subject.id symbol
  | none =>
    refine (Carries.find (h.graph.refound_declaringSymbol subject.node)).bind ?_
    rintro _ declaring rfl
    rw [h.options]
    split
    · refine (h.carries_ownName subject.id).map ?_
      rintro _ name rfl
      rfl
    · refine (h.carries_overrideName? subject.named).bind ?_
      rintro _ override rfl
      cases override with
      | some name => exact .pure rfl
      | none =>
        refine (h.carries_ownName subject.id).map ?_
        rintro _ name rfl
        rfl

theorem carries_isPromoted (subject : Subject) (name : String) :
    shift.Carries deeper Same (catalog.isPromoted subject name)
      (larger.isPromoted (shift.subject subject) name) := by
  have harguments : (shift.subject subject).node.aliasArguments.isEmpty =
      subject.node.aliasArguments.isEmpty := List.isEmpty_map
  rw [Catalog.isPromoted, Catalog.isPromoted, h.options, harguments, isEnumReference_subject]
  cases hnamed : subject.named with
  | none =>
    rw [show (shift.subject subject).named = none by rw [Shift.subject, hnamed]; rfl]
    exact .pure rfl
  | some id =>
    rw [show (shift.subject subject).named = some (shift.symbol id) by
      rw [Shift.subject, hnamed]; rfl]
    refine (h.carries_symbol id).bind ?_
    rintro _ symbol rfl
    exact .pure rfl

theorem carries_takeUp (subject : Subject) (name : SourcedName) (isRaw asReference : Bool) :
    shift.Carries deeper Same (catalog.takeUp subject name isRaw asReference)
      (larger.takeUp (shift.subject subject) name isRaw asReference) := by
  rw [Catalog.takeUp, Catalog.takeUp, isGuarded_subject]
  split
  · exact .pure rfl
  · refine .context fun c => ?_
    rw [isBuilding_context]
    split
    · exact .pure rfl
    · have henter : shift.Carries deeper Same
          (BuildM.answer fun context => context.enter name.text)
          (BuildM.answer fun context => context.enter name.text) :=
        .answer fun c => ⟨rfl, rfl⟩
      refine henter.bind ?_
      rintro _ token rfl
      refine (h.carries_isPromoted subject name.text).map ?_
      rintro _ promoted rfl
      rfl

/-- **The same is planned at both places.** -/
theorem carries_plan (subject : Subject) (asReference : Bool) :
    shift.Carries deeper Same (catalog.plan subject asReference)
      (larger.plan (shift.subject subject) asReference) := by
  rw [Catalog.plan, Catalog.plan]
  refine (Carries.find (h.graph.refound_isRaw subject.node)).bind ?_
  rintro _ isRaw rfl
  refine (Carries.find (h.graph.refound_isStringUnion subject.node)).bind ?_
  rintro _ isStringUnion rfl
  have hnamed : (shift.subject subject).named.isSome = subject.named.isSome := Option.isSome_map
  have hanonymous : (shift.subject subject).node.isAnonymousObject =
      subject.node.isAnonymousObject := shift.isAnonymousObject_node subject.node
  have harguments : (shift.subject subject).node.aliasArguments.isEmpty =
      subject.node.aliasArguments.isEmpty := List.isEmpty_map
  rw [isEnumReference_subject, hnamed, hanonymous, harguments]
  refine (h.carries_subjectName subject _).bind ?_
  rintro _ name rfl
  exact h.carries_takeUp subject name isRaw _

theorem carries_annotate (symbols : List SymbolId) :
    shift.Carries deeper Same (catalog.annotate symbols)
      (larger.annotate (symbols.map shift.symbol)) := by
  rw [Catalog.annotate, Catalog.annotate]
  refine (Carries.foldlM symbols ({} : Annotations) fun annotations id => ?_).map ?_
  · refine (h.carries_symbol id).bind ?_
    rintro _ symbol rfl
    exact h.carries_extend annotations symbol
  · rintro _ annotations rfl
    rfl

/-! ### Answering requests -/

section Answers

variable {build build' : Builder} {request request' : Request}
  (hbuild : ∀ request request', request.Moved shift request' →
    shift.Carries deeper Same (build request) (build' request'))
  (hrequest : request.Moved shift request') (subject : Subject) (plan : Plan)

include hbuild hrequest

theorem carries_define (definition : Definition) :
    shift.Carries deeper Same (catalog.define build request ⟨subject, plan⟩ definition)
      (larger.define build' request' ⟨shift.subject subject, plan⟩ definition) := by
  rw [Catalog.define, Catalog.define]
  split
  · exact .pure rfl
  · refine (Carries.act fun _ => rfl).bind fun _ _ _ => ?_
    -- the constructions around a part are written down and not read
    have hparts : ∀ part part' : Request, part.Moved shift part' →
        shift.Carries deeper Same
          (build { part with above := ⟨subject, plan⟩ :: request.above })
          (build' { part' with above := ⟨shift.subject subject, plan⟩ :: request'.above }) :=
      fun _ _ hpart => hbuild _ _ { hpart with }
    exact h.carries_structureSchema hparts hrequest subject plan.isRaw definition

theorem carries_defineShared (definition : Definition) :
    shift.Carries deeper Same (catalog.defineShared build request ⟨subject, plan⟩ definition)
      (larger.defineShared build' request' ⟨shift.subject subject, plan⟩ definition) := by
  rw [Catalog.defineShared, Catalog.defineShared]
  refine .context fun c => ?_
  rw [isReffed_context]
  split
  · refine (Carries.act fun _ => rfl).bind fun _ _ _ => ?_
    rw [h.options]
    refine (h.carries_define hbuild hrequest subject plan _).bind ?_
    rintro _ done rfl
    exact .act fun _ => rfl
  · exact .pure rfl

omit h hbuild hrequest

theorem carries_refer :
    shift.Carries deeper Same (refer ⟨subject, plan⟩) (refer ⟨shift.subject subject, plan⟩) := by
  rw [refer, refer]
  refine (Carries.act fun _ => rfl).bind fun _ _ _ => ?_
  exact .context fun c => .pure rfl

theorem carries_finish (answer : Definition) :
    shift.Carries deeper Same (finish ⟨subject, plan⟩ answer)
      (finish ⟨shift.subject subject, plan⟩ answer) := by
  rw [finish, finish]
  dsimp only
  cases plan.token with
  | none => exact .pure rfl
  | some token =>
    have hleave : shift.Carries deeper Same
        (BuildM.answer fun context => context.leave plan.name token)
        (BuildM.answer fun context => context.leave plan.name token) := by
      refine .answer fun c => ?_
      rw [context_leave]
      exact ⟨rfl, rfl⟩
    refine hleave.bind ?_
    rintro _ isOwn rfl
    refine .context fun c => ?_
    rw [isReffed_context]
    split
    · refine (carries_refer subject plan).map ?_
      rintro _ reference rfl
      rfl
    · exact .pure rfl

include h hbuild hrequest

theorem carries_carryOut :
    shift.Carries deeper Same (catalog.carryOut build request ⟨subject, plan⟩)
      (larger.carryOut build' request' ⟨shift.subject subject, plan⟩) := by
  have hkeywords : ownerKeywords request'.owner = ownerKeywords request.owner := by
    rw [hrequest.owner]
    cases request.owner <;> rfl
  rw [Catalog.carryOut, Catalog.carryOut, describing_subject, hkeywords]
  refine (h.carries_annotate subject.describing).bind ?_
  rintro _ described rfl
  split
  · refine (carries_refer subject plan).bind ?_
    rintro _ reference rfl
    refine (h.carries_defineShared hbuild hrequest subject plan described).bind fun _ _ _ => ?_
    exact carries_finish subject plan _
  · refine (h.carries_define hbuild hrequest subject plan _).bind ?_
    rintro _ definition rfl
    exact carries_finish subject plan definition

omit subject plan in
theorem carries_respond :
    shift.Carries deeper Same (catalog.respond build request) (larger.respond build' request') := by
  have hsettled : settled? request'.owner = settled? request.owner := by
    rw [hrequest.owner]
    cases request.owner <;> rfl
  rw [Catalog.respond, Catalog.respond, hsettled, hrequest.type, hrequest.named,
    hrequest.asReference]
  have hsubject : shift.Carries deeper (fun subject subject' => subject' = shift.subject subject)
      (BuildM.take
        (catalog.graph.unwrap (catalog.graph.types.size + 1) request.type request.named))
      (BuildM.take (larger.graph.unwrap (larger.graph.types.size + 1) (shift.type request.type)
        (request.named.map shift.symbol))) := by
    cases hfound :
      catalog.graph.unwrap (catalog.graph.types.size + 1) request.type request.named with
    | ok subject =>
      rw [h.graph.unwrap_subject hfound (Nat.succ_le_succ h.graph.types_le)]
      exact .pure rfl
    | error error =>
      rcases TypeGraph.unwrap_error hfound with ⟨missing, rfl⟩ | ⟨last, rfl⟩
      · exact fun _ _ _ => .inl trivial
      · obtain ⟨last', hendless⟩ := h.graph.unwrap_endless hfound (request.named.map shift.symbol)
        rw [hendless]
        exact .throw (.inr (.endlessType last last'))
  refine hsubject.bind ?_
  rintro subject _ rfl
  split
  · exact .pure rfl
  · refine (h.carries_plan subject request.asReference).bind ?_
    rintro _ plan rfl
    refine (h.carries_carryOut hbuild hrequest subject plan).map ?_
    rintro _ answer rfl
    rw [h.hook]

end Answers

/-- **Requests are answered alike at both places**, to the same depth or to a greater one. -/
theorem carries_buildWithin {depth more : Nat} (hle : depth ≤ more) (hdeeper : depth < more → deeper)
    {request request' : Request} (hrequest : request.Moved shift request') :
    shift.Carries deeper Same (catalog.buildWithin depth request)
      (larger.buildWithin more request') := by
  induction depth generalizing more request request' with
  | zero =>
    cases more with
    | zero => exact .throw (.inr (.endlessType request.type request'.type))
    | succ more => exact .giveUp (hdeeper (Nat.succ_pos more))
  | succ depth ih =>
    obtain ⟨more, rfl⟩ := Nat.exists_eq_add_of_le' (Nat.one_le_of_lt hle)
    exact h.carries_respond (fun _ _ => ih (Nat.le_of_succ_le_succ hle)
      fun hlt => hdeeper (Nat.succ_lt_succ hlt)) hrequest

end Catalog.Placed

/-- A request that is answered does not depend on how deep the recursion may go beyond that. -/
theorem Catalog.exec_buildWithin_of_le {catalog : Catalog} {depth more : Nat} {request : Request}
    {p q : Progress} {schema : Definition} (hle : depth ≤ more)
    (hrun : (catalog.buildWithin depth request).exec p = (.ok schema, q)) :
    ∃ q', (catalog.buildWithin more request).exec p = (.ok schema, q') ∧ q'.context = q.context := by
  have howner : Shift.zero.owner = id := funext Shift.owner_zero
  have hrequest : request.Moved .zero request :=
    ⟨by simp, rfl, rfl, by simp [howner], by simp⟩
  have hcarries : Shift.zero.Carries True Same (catalog.buildWithin depth request)
      (catalog.buildWithin more request) :=
    (Placed.refl catalog).carries_buildWithin hle (fun _ => trivial) hrequest
  have hpost := hcarries p p ⟨by simp, rfl⟩
  rw [BuildM.Post, hrun] at hpost
  obtain ⟨_, q', hrun', rfl, hmoved⟩ := hpost
  exact ⟨q', hrun', by simpa using hmoved.context⟩

end TypeSchema
