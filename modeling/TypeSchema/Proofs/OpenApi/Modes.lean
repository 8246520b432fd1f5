import TypeSchema.Proofs.Graph.Failures
import TypeSchema.Proofs.OpenApi.Lookups
import TypeSchema.Proofs.OpenApi.Schemes

/-!
# References and schemas in place

Whether types become references is an option, and an OpenAPI document looks quite different with the
one choice and with the other.  But its parameters and security requirements, which the assembler
reads off schemas, should be the same: where a schema is a reference, it is looked up.

They are the same where the schemas tell what the graph tells (`Catalog.IsRegular`), since the graph
does not depend on the option.  **`Catalog.modes_agree`** says so of whole calls: with references
and in place they fail with one error, or yield documents that have parameters of the same names at
the same places, with the same ones required, and the same security requirements.  Only where a type
cannot be built nothing is said, as the two build types in a different order.

Where the schemas do not tell what the graph tells, the two may differ.
**`Catalog.exists_modes_apart`** is the smallest case: an alias of a union with `undefined` that two
parameters have as their type.  In place it is built for each of them and marks both, and as a
reference it is built once and marks the first.
-/

set_option autoImplicit false

namespace TypeSchema

namespace OpenApi

/-- The operations have the same parameters, by their outlines, and the same security requirements. -/
structure Operation.Agrees (operation operation' : Operation) : Prop where
  parameters : operation.parameters.map Parameter.outline =
    operation'.parameters.map Parameter.outline
  security : operation.security = operation'.security

/-- The documents have operations at the same paths with the same methods, and these agree. -/
def Document.Agrees (document document' : Document) : Prop :=
  Dict.Alike (Dict.Alike Operation.Agrees) document.paths document'.paths

end OpenApi

namespace Catalog

open OpenApi BuildM

/-! ## Documents that agree -/

/-- The operations are placed at the same path with the same method, and they agree. -/
structure PlacedOperation.Agrees (placed placed' : PlacedOperation) : Prop where
  path : placed.path = placed'.path
  method : placed.method = placed'.method
  operation : placed.operation.Agrees placed'.operation

/-- The operations that the two documents have at a path agree. -/
theorem agrees_item {document document' : Document} (h : document.Agrees document') (path : String) :
    Dict.Alike Operation.Agrees ((Dict.get? document.paths path).getD [])
      ((Dict.get? document'.paths path).getD []) := by
  have hget := h.get? path
  generalize Dict.get? document.paths path = found at hget ⊢
  generalize Dict.get? document'.paths path = found' at hget ⊢
  cases hget with
  | some hitem => exact hitem
  | none => exact .nil

theorem agrees_place {document document' : Document} (h : document.Agrees document')
    {placed placed' : PlacedOperation} (hplaced : placed.Agrees placed') :
    (document.place placed).Agrees (document'.place placed') := by
  obtain ⟨path, method, operation⟩ := placed
  obtain ⟨path', method', operation'⟩ := placed'
  obtain ⟨rfl, rfl, hoperation⟩ := hplaced
  exact h.insert path ((agrees_item h path).insert method.key hoperation)

theorem hasOperation_of_agrees {document document' : Document} (h : document.Agrees document')
    (path : String) (method : HttpMethod) :
    document.hasOperation path method = document'.hasOperation path method :=
  (agrees_item h path).contains method.key

/-! ## The two modes -/

/-- The catalog with types as references, or with types in place. -/
def inMode (catalog : Catalog) (reference : Bool) : Catalog :=
  { catalog with options := { catalog.options with reference } }

variable {catalog : Catalog} {α β : Type} {id : TypeId} {node inner : TypeNode} {p : Progress}
  {property : Property}

theorem addDeclaration_inMode (reference : Bool) (start : Catalog) (entry : String × TypeId) :
    (start.inMode reference).addDeclaration entry =
      (start.addDeclaration entry).map fun last => last.inMode reference := by
  rw [addDeclaration, addDeclaration]
  cases hnode : start.graph.lookupType entry.2 with
  | error e => simp [inMode, hnode, bind, Except.bind, Except.map]
  | ok node =>
    cases hsymbol : start.graph.declaringSymbol node with
    | error e => simp [inMode, hnode, hsymbol, bind, Except.bind, Except.map]
    | ok symbol =>
      cases hbases : node.baseTypes.mapM start.graph.typeText with
      | error e => simp [inMode, hnode, hsymbol, hbases, bind, Except.bind, Except.map]
      | ok bases =>
        simp only [inMode, hnode, hsymbol, hbases, bind, Except.bind, Except.map, pure, Except.pure]
        rfl

theorem foldlM_addDeclaration_inMode (reference : Bool) (entries : List (String × TypeId))
    (start : Catalog) :
    entries.foldlM addDeclaration (start.inMode reference) =
      (entries.foldlM addDeclaration start).map fun last => last.inMode reference := by
  induction entries generalizing start with
  | nil => rfl
  | cons entry rest ih =>
    rw [List.foldlM_cons, List.foldlM_cons, addDeclaration_inMode]
    cases start.addDeclaration entry with
    | error e => rfl
    | ok next => exact ih next

/-- The mode concerns neither which graphs are refused nor what is declared. -/
theorem ofGraph_inMode {graph : TypeGraph} {options : Options} {modules : Modules}
    (h : ofGraph graph options modules = .ok catalog) (reference : Bool) :
    ofGraph graph { options with reference } modules = .ok (catalog.inMode reference) := by
  rw [ofGraph] at h ⊢
  split at h
  · cases h
  · rename_i haccepted
    rw [if_neg haccepted]
    have hall := foldlM_addDeclaration_inMode reference graph.declarations { graph, options, modules }
    cases hlast : graph.declarations.foldlM addDeclaration { graph, options, modules } with
    | error e =>
      rw [hlast] at h
      cases h
    | ok last =>
      rw [hlast] at h hall
      obtain rfl := Except.ok.inj h
      exact congrArg (Except.mapError Error.missing) hall

theorem Whole.inMode (h : catalog.Whole) (reference : Bool) : (catalog.inMode reference).Whole :=
  ⟨h.graph, h.declared, h.subtypes⟩

theorem Raises.of_inMode {reference : Bool} {error : Error}
    (h : (catalog.inMode reference).Raises error) : catalog.Raises error := by
  cases h with
  | unsupported htype htext => exact .unsupported htype htext
  | endless id => exact .endless id
  | require fault hsymbol htag hrequire => exact .require fault hsymbol htag hrequire

theorem Raises.inMode {reference : Bool} {error : Error} (h : catalog.Raises error) :
    (catalog.inMode reference).Raises error := by
  cases h with
  | unsupported htype htext => exact .unsupported htype htext
  | endless id => exact .endless id
  | require fault hsymbol htag hrequire => exact .require fault hsymbol htag hrequire

/-! ## Shapes whose schemas tell what the graph tells -/

/-- What a member for parameters has as its type: one that says nothing, one that is refused, or one
that describes parameters. -/
inductive IsParameterMember (catalog : Catalog) (id : TypeId) : Prop
  | empty {node : TypeNode} (hnode : catalog.graph.lookupType id = .ok node)
      (hempty : node.isEmptyObject = true)
  | refused {node : TypeNode} (hnode : catalog.graph.lookupType id = .ok node)
      (hrefused : catalog.isPlain node = false)
  | parameters {node : TypeNode} (hnode : catalog.nodeOf? id = some node)
      (hparameters : catalog.IsParameters node)

/-- The members of the shape for parameters describe some, and the one for security describes
requirements. -/
structure IsRegular (catalog : Catalog) (node : TypeNode) : Prop where
  parameters : ∀ property ∈ node.properties, catalog.nameOf property ∈ ["params", "query"] →
    catalog.IsParameterMember property.type
  security : ∀ property ∈ node.properties, catalog.nameOf property = "security" →
    ∃ inner, catalog.nodeOf? property.type = some inner ∧ catalog.IsSecurity inner

/-! ## One run -/

theorem Stands.fresh (catalog : Catalog) : catalog.Stands (Contract.fresh catalog .components) :=
  ⟨.fresh catalog .components, .refl _⟩

theorem Stands.note (hp : catalog.Stands p) (entry : LogEntry) : catalog.Stands (p.note entry) :=
  ⟨hp.traced.step (.noted entry) (.of_same rfl rfl), hp.settled.trans (.note entry)⟩

/-- The assembler asks for a schema and gets an answer, or the type cannot be built. -/
theorem Stands.post_build (hp : catalog.Stands p) (hwhole : catalog.Whole)
    (hid : catalog.graph.HasType id) {named : Option SymbolId}
    (hnamed : ∀ symbol, named = some symbol → catalog.graph.HasSymbol symbol) :
    (catalog.build (catalog.member id named)).Post p (fun answer q => catalog.Stands q ∧
      catalog.Answered (fun _ => True) q (catalog.member id named) answer)
      fun e _ => catalog.Raises e := by
  have hsound := hp.traced.reached.sound
  have hroot : (traces catalog).root id := trivial
  have htraced := Contract.answers_build hroot hp.settled.guard named ⟨hsound, hp.traced⟩
  have hraises := post_buildWithin hwhole catalog.depthBound (catalog.member id named) hid hnamed p
  refine (htraced.exec.and hraises).mono ?_ fun _ _ h => h.2
  rintro answer q ⟨⟨⟨hq, hpq, _⟩, hrun⟩, _⟩
  refine ⟨⟨hq.inv, hp.settled.trans hpq⟩, by rintro _ ⟨⟩, ?_⟩
  exact ⟨catalog.depthBound, [], p, q, hsound, trivial, hrun, .refl q⟩

/-- The schema of a member is what an answer comes to when a reference is looked up. -/
theorem Stands.post_memberSchema (hp : catalog.Stands p) (hwhole : catalog.Whole)
    (hid : catalog.graph.HasType id) :
    (catalog.memberSchema id).Post p (fun schema q => catalog.Stands q ∧ ∃ request answer,
      request.type = id ∧ settled? request.owner = none ∧
      catalog.Answered (fun _ => True) q request answer ∧ schema = resolve q.context answer)
      fun e _ => catalog.Raises e := by
  obtain ⟨node, hnode⟩ := TypeGraph.found_type hid
  have hnamed := (hwhole.graph.nodeInRange hnode).symbol
  rw [memberSchema, Catalog.type, hnode]
  refine (hp.post_build hwhole hid hnamed).bind fun answer q hanswer => ?_
  obtain ⟨hq, hanswered⟩ := hanswer
  exact ⟨hq, _, answer, rfl, rfl, hanswered, rfl⟩

/-- The parameters that a member describes are those of its outline. -/
theorem Stands.post_parameters (hp : catalog.Stands p) (hwhole : catalog.Whole)
    (hreadable : catalog.Readable) (hid : catalog.graph.HasType id)
    (hnode : catalog.nodeOf? id = some node) (hparameters : catalog.IsParameters node)
    (location : ParameterLocation) :
    (do
      let schema ← catalog.memberSchema id
      return (parameterBranches (← BuildM.context) schema).flatMap (branchParameters location) :
        BuildM (List Parameter)).Post p
      (fun parameters q => catalog.Stands q ∧ parameters.map Parameter.outline =
        (catalog.parameterOutline node).map fun (name, isRequired) => (name, location, isRequired))
      fun e _ => catalog.Raises e := by
  refine (hp.post_memberSchema hwhole hid).bind ?_
  rintro _ q ⟨hq, request, answer, rfl, hunsettled, hanswered, rfl⟩
  obtain ⟨subject, schema, hsubject, hbuilt, hlead⟩ := hanswered.found hq hreadable hunsettled
  obtain rfl := Option.some.inj (hnode.symm.trans (nodeOf?_eq hsubject))
  obtain ⟨href, houtline⟩ := hbuilt.parameters hq hreadable (TypeGraph.unwrap_subject hsubject).1
    hparameters location
  refine ⟨hq, ?_⟩
  dsimp only
  rw [hlead.resolve_eq href]
  exact houtline

/-- The requirements that are read off the schema of a member are those that the graph says. -/
theorem Stands.post_security (hp : catalog.Stands p) (hwhole : catalog.Whole)
    (hreadable : catalog.Readable) (hid : catalog.graph.HasType id)
    (hnode : catalog.nodeOf? id = some node) (hsecurity : catalog.IsSecurity node) :
    (catalog.memberSchema id).Post p (fun schema q => catalog.Stands q ∧
      requirements? q.context schema = catalog.securityOutline node) fun e _ => catalog.Raises e := by
  refine (hp.post_memberSchema hwhole hid).imp ?_
  rintro _ q ⟨hq, request, answer, rfl, hunsettled, hanswered, rfl⟩
  obtain ⟨subject, schema, hsubject, hbuilt, hlead⟩ := hanswered.found hq hreadable hunsettled
  obtain rfl := Option.some.inj (hnode.symm.trans (nodeOf?_eq hsubject))
  obtain ⟨href, houtline⟩ :=
    hbuilt.security hq hreadable (TypeGraph.unwrap_subject hsubject).1 hsecurity
  rw [hlead.resolve_eq href]
  exact ⟨hq, houtline⟩

/-! ## Two runs -/

/-- The runs keep abreast in the two modes: wherever the calls stand, both answer, with `R` between
the answers, or both fail with one error, unless a type cannot be built in one of them. -/
def InStep (catalog : Catalog) (m m' : BuildM α) (R : α → α → Prop) : Prop :=
  ∀ p p', (catalog.inMode true).Stands p → (catalog.inMode false).Stands p' →
    m.Abreast m' p p' (fun a a' q q' => (catalog.inMode true).Stands q ∧
      (catalog.inMode false).Stands q' ∧ R a a') catalog.Raises

namespace InStep

variable {m m' : BuildM α} {R : α → α → Prop} {S : β → β → Prop}

theorem pure {a a' : α} (h : R a a') : catalog.InStep (pure a) (pure a') R :=
  fun _ _ hp hp' => .pure ⟨hp, hp', h⟩

theorem throw (error : Error) : catalog.InStep (throw error : BuildM α) (throw error) R :=
  fun _ _ _ _ => .throw error

theorem bind {f f' : α → BuildM β} (hm : catalog.InStep m m' R)
    (hf : ∀ a a', R a a' → catalog.InStep (f a) (f' a') S) :
    catalog.InStep (m >>= f) (m' >>= f') S :=
  fun p p' hp hp' => (hm p p' hp hp').bind fun a a' q q' ⟨hq, hq', ha⟩ => hf a a' ha q q' hq hq'

theorem idle_bind {f f' : α → BuildM β} (hm : m.Idle)
    (hf : ∀ a, (∀ q, m.exec q = (.ok a, q)) → catalog.InStep (f a) (f' a) S) :
    catalog.InStep (m >>= f) (m >>= f') S :=
  fun p p' hp hp' => .idle_bind hm fun a ha => hf a ha p p' hp hp'

/-- What fails in its own way only, in both modes. -/
theorem of_posts {P P' : α → Prop}
    (hleft : ∀ p, (catalog.inMode true).Stands p → m.Post p
      (fun a q => (catalog.inMode true).Stands q ∧ P a) fun e _ => (catalog.inMode true).Raises e)
    (hright : ∀ p, (catalog.inMode false).Stands p → m'.Post p
      (fun a q => (catalog.inMode false).Stands q ∧ P' a) fun e _ => (catalog.inMode false).Raises e)
    (h : ∀ a a', P a → P' a' → R a a') : catalog.InStep m m' R := by
  intro p p' hp hp'
  refine (Abreast.of_posts ((hleft p hp).mono (fun _ _ h => h) fun _ _ h => h.of_inMode)
    ((hright p' hp').mono (fun _ _ h => h) fun _ _ h => h.of_inMode)).imp ?_
  exact fun a a' q q' ⟨⟨hq, ha⟩, hq', ha'⟩ => ⟨hq, hq', h a a' ha ha'⟩

theorem note (entry : LogEntry) :
    catalog.InStep (BuildM.note entry) (BuildM.note entry) fun _ _ => True :=
  fun _ _ hp hp' => ⟨hp.note entry, hp'.note entry, trivial⟩

theorem mapM {f f' : α → BuildM β} (l : List α) (h : ∀ a ∈ l, catalog.InStep (f a) (f' a) S) :
    catalog.InStep (l.mapM f) (l.mapM f') (List.Forall₂ S) := by
  induction l with
  | nil =>
    rw [List.mapM_nil, List.mapM_nil]
    exact pure .nil
  | cons a rest ih =>
    obtain ⟨hfirst, hrest⟩ := List.forall_mem_cons.1 h
    rw [List.mapM_cons, List.mapM_cons]
    exact hfirst.bind fun b b' hb => (ih hrest).bind fun bs bs' hbs => pure (.cons hb hbs)

theorem foldlM {f f' : β → α → BuildM β} (l : List α) {b b' : β} (start : S b b')
    (h : ∀ a ∈ l, ∀ done done', S done done' → catalog.InStep (f done a) (f' done' a) S) :
    catalog.InStep (l.foldlM f b) (l.foldlM f' b') S := by
  induction l generalizing b b' with
  | nil => exact pure start
  | cons a rest ih =>
    rw [List.foldlM_cons, List.foldlM_cons]
    refine (h a List.mem_cons_self b b' start).bind fun done done' hdone => ?_
    exact ih hdone fun c hc => h c (List.mem_cons_of_mem _ hc)

end InStep

/-! ## The members of a shape -/

theorem IsParameterMember.exists_parameters (h : catalog.IsParameterMember id)
    (hnode : catalog.graph.lookupType id = .ok node) (hempty : node.isEmptyObject = false)
    (hplain : catalog.isPlain node = true) :
    ∃ inner, catalog.nodeOf? id = some inner ∧ catalog.IsParameters inner := by
  cases h with
  | empty hother hsays =>
    obtain rfl := Except.ok.inj (hnode.symm.trans hother)
    cases hempty.symm.trans hsays
  | refused hother hrefused =>
    obtain rfl := Except.ok.inj (hnode.symm.trans hother)
    cases hplain.symm.trans hrefused
  | parameters hinner hparameters => exact ⟨_, hinner, hparameters⟩

section Members

variable (hwhole : catalog.Whole)

include hwhole

theorem inStep_parameters (hreadable : ∀ reference, (catalog.inMode reference).Readable)
    (hid : catalog.graph.HasType id)
    (hmember : ∀ reference, (catalog.inMode reference).IsParameterMember id) (shape key : String)
    (location : ParameterLocation) :
    catalog.InStep ((catalog.inMode true).parameters shape key location id)
      ((catalog.inMode false).parameters shape key location id)
      fun parameters parameters' =>
        parameters.map Parameter.outline = parameters'.map Parameter.outline := by
  rw [Catalog.parameters, Catalog.parameters]
  refine .idle_bind (idle_type _ id) fun node hnode => ?_
  have hnode : catalog.graph.lookupType id = .ok node := lookupType_of_exec hnode
  split
  · exact .pure rfl
  rename_i hempty
  refine .idle_bind (idle_isPlainObject _ node) fun plain hplain => ?_
  cases plain with
  | false => exact .throw _
  | true =>
    have hmember reference := (hmember reference).exists_parameters hnode (Bool.eq_false_iff.2 hempty)
      (isPlain_of_exec hplain)
    obtain ⟨inner, hinner, hparameters⟩ := hmember true
    obtain ⟨same, hsame, hparameters'⟩ := hmember false
    obtain rfl : inner = same := Option.some.inj (hinner.symm.trans hsame)
    refine .of_posts (fun p hp => hp.post_parameters (hwhole.inMode true) (hreadable true) hid hinner
      hparameters location) (fun p hp => hp.post_parameters (hwhole.inMode false) (hreadable false) hid
      hsame hparameters' location) fun parameters parameters' houtline houtline' => ?_
    exact houtline.trans houtline'.symm

theorem inStep_build (hid : catalog.graph.HasType id) {named : Option SymbolId}
    (hnamed : ∀ symbol, named = some symbol → catalog.graph.HasSymbol symbol) :
    catalog.InStep ((catalog.inMode true).build ((catalog.inMode true).member id named))
      ((catalog.inMode false).build ((catalog.inMode false).member id named)) fun _ _ => True := by
  have hbuilt : ∀ reference p, (catalog.inMode reference).Stands p →
      ((catalog.inMode reference).build ((catalog.inMode reference).member id named)).Post p
        (fun _ q => (catalog.inMode reference).Stands q ∧ True)
        fun e _ => (catalog.inMode reference).Raises e := fun reference _ hp =>
    (hp.post_build (hwhole.inMode reference) hid hnamed).imp fun _ _ h => ⟨h.1, trivial⟩
  exact .of_posts (hbuilt true) (hbuilt false) fun _ _ _ _ => trivial

theorem inStep_requestBody (hid : catalog.graph.HasType id) (shape : String) (keywords : Dict Json) :
    catalog.InStep ((catalog.inMode true).requestBody shape keywords id)
      ((catalog.inMode false).requestBody shape keywords id) fun _ _ => True := by
  rw [requestBody, requestBody]
  refine .idle_bind (idle_type _ id) fun node hnode => ?_
  have hnode : catalog.graph.lookupType id = .ok node := lookupType_of_exec hnode
  split
  · exact .pure trivial
  refine .idle_bind (idle_isPlainObject _ node) fun plain _ => ?_
  cases plain with
  | false => exact .throw _
  | true =>
    exact (inStep_build hwhole hid (hwhole.graph.nodeInRange hnode).symbol).bind fun _ _ _ =>
      .pure trivial

theorem inStep_describeResponse (hproperty : catalog.graph.PropertyInRange property)
    (hnode : catalog.graph.NodeInRange node) :
    catalog.InStep ((catalog.inMode true).describeResponse property node)
      ((catalog.inMode false).describeResponse property node) fun _ _ => True := by
  rw [describeResponse, describeResponse]
  refine .idle_bind (idle_annotations _ _) fun annotations _ => ?_
  dsimp only
  split
  · exact .pure trivial
  · exact (inStep_build hwhole hproperty.type hnode.aliasSymbol).bind fun _ _ _ => .pure trivial

theorem inStep_response (hproperty : catalog.graph.PropertyInRange property) (shape : String) :
    catalog.InStep ((catalog.inMode true).response shape property)
      ((catalog.inMode false).response shape property) fun _ _ => True := by
  rw [response, response]
  refine .idle_bind (idle_symbol _ _) fun symbol _ => ?_
  dsimp only
  split
  · exact (InStep.throw _).bind fun _ _ h => h
  · refine .idle_bind (idle_type _ _) fun node hnode => ?_
    have hnode : catalog.graph.lookupType property.type = .ok node := lookupType_of_exec hnode
    refine .idle_bind (idle_checkResponse _ shape _ node) fun _ _ => ?_
    exact (inStep_describeResponse hwhole hproperty (hwhole.graph.nodeInRange hnode)).bind
      fun _ _ _ => .pure trivial

theorem inStep_responses (id : TypeId) (shape : String) :
    catalog.InStep ((catalog.inMode true).responses shape id)
      ((catalog.inMode false).responses shape id) fun _ _ => True := by
  rw [responses, responses]
  refine .idle_bind (idle_type _ id) fun node hnode => ?_
  have hnode : catalog.graph.lookupType id = .ok node := lookupType_of_exec hnode
  refine .idle_bind (idle_isPlainObject _ node) fun plain _ => ?_
  split
  · exact (InStep.throw _).bind fun _ _ h => h
  · exact (InStep.mapM node.properties fun property hmem => inStep_response hwhole
      ((hwhole.graph.nodeInRange hnode).property hmem) shape).bind fun _ _ _ => .pure trivial

theorem inStep_securityRequirements (hreadable : ∀ reference, (catalog.inMode reference).Readable)
    (hid : catalog.graph.HasType id) (hnode : catalog.nodeOf? id = some node)
    (hsecurity : ∀ reference, (catalog.inMode reference).IsSecurity node) (shape : String) :
    catalog.InStep ((catalog.inMode true).securityRequirements shape id)
      ((catalog.inMode false).securityRequirements shape id) Eq := by
  intro p p' hp hp'
  have hleft := hp.post_security (hwhole.inMode true) (hreadable true) hid hnode (hsecurity true)
  have hright := hp'.post_security (hwhole.inMode false) (hreadable false) hid hnode (hsecurity false)
  rw [securityRequirements, securityRequirements]
  refine (Abreast.of_posts (hleft.mono (fun _ _ h => h) fun _ _ h => h.of_inMode)
    (hright.mono (fun _ _ h => h) fun _ _ h => h.of_inMode)).bind ?_
  rintro schema schema' q q' ⟨⟨hq, houtline⟩, hq', houtline'⟩
  refine .context_bind ?_
  rw [show _ = catalog.securityOutline node from houtline,
    show _ = catalog.securityOutline node from houtline']
  cases catalog.securityOutline node with
  | none => exact .throw _
  | some requirements => exact .pure ⟨hq, hq', rfl⟩

omit hwhole in
/-- What is done with a member is done with one of the shape that has the name. -/
theorem inStep_withMember (hnode : catalog.graph.NodeInRange node) {key : String} {absent : α}
    {work work' : TypeId → BuildM α} {R : α → α → Prop} (habsent : R absent absent)
    (hwork : ∀ property ∈ node.properties, catalog.nameOf property = key →
      catalog.graph.HasType property.type →
      catalog.InStep (work property.type) (work' property.type) R) :
    catalog.InStep ((catalog.inMode true).withMember node key absent work)
      ((catalog.inMode false).withMember node key absent work') R := by
  rw [withMember, withMember]
  refine .idle_bind (idle_shapeMember? _ node key) fun member hmember => ?_
  cases member with
  | none => exact .pure habsent
  | some property =>
    obtain ⟨hmem, hname⟩ := mem_of_shapeMember? hmember
    exact hwork property hmem hname (hnode.property hmem).type

/-! ## Operations -/

theorem inStep_memberParameters (hreadable : ∀ reference, (catalog.inMode reference).Readable)
    (hnode : catalog.graph.NodeInRange node)
    (hregular : ∀ reference, (catalog.inMode reference).IsRegular node) (shape : String) {key : String}
    (hkey : key ∈ ["params", "query"]) (location : ParameterLocation) :
    catalog.InStep
      ((catalog.inMode true).withMember node key [] ((catalog.inMode true).parameters shape key location))
      ((catalog.inMode false).withMember node key []
        ((catalog.inMode false).parameters shape key location))
      fun parameters parameters' =>
        parameters.map Parameter.outline = parameters'.map Parameter.outline :=
  inStep_withMember hnode rfl fun property hmem hname hid => inStep_parameters hwhole hreadable hid
    (fun reference => (hregular reference).parameters property hmem (hname ▸ hkey)) shape key location

theorem inStep_memberSecurity (hreadable : ∀ reference, (catalog.inMode reference).Readable)
    (hnode : catalog.graph.NodeInRange node)
    (hregular : ∀ reference, (catalog.inMode reference).IsRegular node) (shape : String) :
    catalog.InStep
      ((catalog.inMode true).withMember node "security" none fun id => do
        return some (← (catalog.inMode true).securityRequirements shape id))
      ((catalog.inMode false).withMember node "security" none fun id => do
        return some (← (catalog.inMode false).securityRequirements shape id)) Eq := by
  refine inStep_withMember hnode rfl fun property hmem hname hid => ?_
  have hmember reference := (hregular reference).security property hmem hname
  obtain ⟨inner, hinner, hinnerTrue⟩ := hmember true
  obtain ⟨same, hsame, hinnerFalse⟩ := hmember false
  obtain rfl : inner = same := Option.some.inj (hinner.symm.trans hsame)
  have hboth := inStep_securityRequirements hwhole hreadable hid hinner
    (Bool.forall_bool.2 ⟨hinnerFalse, hinnerTrue⟩) shape
  exact hboth.bind fun _ _ heq => .pure (congrArg some heq)

theorem inStep_operation (hreadable : ∀ reference, (catalog.inMode reference).Readable)
    (shape : String) (id : TypeId)
    (hregular : catalog.ignoresShape id = false → ∀ reference, ∀ node,
      catalog.graph.lookupType id = .ok node → (catalog.inMode reference).IsRegular node) :
    catalog.InStep ((catalog.inMode true).operation shape id)
      ((catalog.inMode false).operation shape id) (Option.Rel PlacedOperation.Agrees) := by
  rw [operation, operation]
  refine .idle_bind (idle_type _ id) fun node hnode => ?_
  have hnode : catalog.graph.lookupType id = .ok node := lookupType_of_exec hnode
  have hrange := hwhole.graph.nodeInRange hnode
  refine .idle_bind (idle_shapeAnnotations _ node) fun said hsaid => ?_
  have hignored : said.1.isIgnored = catalog.ignoresShape id :=
    ((catalog.inMode true).shapeAnnotations_isIgnored hnode (Contract.fresh catalog .components)).of_exec
      (hsaid _)
  obtain ⟨annotations, symbolName⟩ := said
  dsimp only at hignored ⊢
  split
  · exact .pure .none
  rename_i hkept
  have hregular reference :=
    hregular (hignored.symm.trans (Bool.eq_false_iff.2 hkept)) reference node hnode
  refine .idle_bind (idle_requiredMember _ shape node "path") fun pathMember _ => ?_
  refine .idle_bind (idle_requiredMember _ shape node "method") fun methodMember _ => ?_
  refine .idle_bind (idle_requiredMember _ shape node "responses") fun responsesMember _ => ?_
  refine .idle_bind (idle_literalMember _ shape "path" pathMember) fun path _ => ?_
  refine .idle_bind (idle_shapeMethod _ shape methodMember) fun method _ => ?_
  have hparameters (key : String) (hkey : key ∈ ["params", "query"]) (location : ParameterLocation) :=
    inStep_memberParameters hwhole hreadable hrange hregular shape hkey location
  refine (hparameters "params" (by decide) .path).bind fun inPath inPath' hinPath => ?_
  refine (hparameters "query" (by decide) .query).bind fun inQuery inQuery' hinQuery => ?_
  refine (inStep_withMember hrange trivial fun property _ _ hid =>
    inStep_requestBody hwhole hid shape _).bind fun body body' _ => ?_
  refine (inStep_responses hwhole responsesMember.type shape).bind fun responses responses' _ => ?_
  refine (inStep_memberSecurity hwhole hreadable hrange hregular shape).bind
    fun security security' hsecurity => ?_
  refine .idle_bind (idle_customEntries _ node) fun custom _ => .pure (.some ⟨rfl, rfl, ⟨?_, hsecurity⟩⟩)
  rw [List.map_append, List.map_append, hinPath, hinQuery]

theorem inStep_addShape (hreadable : ∀ reference, (catalog.inMode reference).Readable)
    (entry : String × TypeId)
    (hregular : catalog.ignoresShape entry.2 = false → ∀ reference, ∀ node,
      catalog.graph.lookupType entry.2 = .ok node → (catalog.inMode reference).IsRegular node)
    {document document' : Document} (h : document.Agrees document') :
    catalog.InStep ((catalog.inMode true).addShape document entry)
      ((catalog.inMode false).addShape document' entry) Document.Agrees := by
  rw [addShape, addShape]
  refine (inStep_operation hwhole hreadable entry.1 entry.2 hregular).bind ?_
  rintro _ _ (@⟨placed, placed', hplaced⟩ | -)
  · have hplace : catalog.InStep (Pure.pure (document.place placed)) (Pure.pure (document'.place placed'))
        Document.Agrees := .pure (agrees_place h hplaced)
    dsimp only
    rw [← hasOperation_of_agrees h, ← hplaced.path, ← hplaced.method]
    split
    · exact (InStep.note _).bind fun _ _ _ => hplace
    · exact hplace
  · exact .pure h

/-! ## Calls -/

/-- The document before what references point to is added to it. -/
def drafted (catalog : Catalog) (patterns : List NamePattern) (metadata : Metadata) : BuildM Document :=
  (catalog.select patterns).foldlM catalog.addShape
    (Document.ofMetadata catalog.options.version metadata)

omit hwhole in
theorem result_openApi {patterns : List NamePattern} (hpatterns : patterns.isEmpty = false)
    (metadata : Metadata) :
    (catalog.openApi patterns metadata).result =
      match (catalog.drafted patterns metadata).exec (Contract.fresh catalog .components) with
      | (.ok document, q) => .ok (document.addSchemas q.context.reffed)
      | (.error e, _) => .error e := by
  have hrun := BuildM.run_context (catalog.drafted patterns metadata)
    (Context.start .components catalog.overrides)
    fun document context => document.addSchemas context.reffed
  have hcall : catalog.openApi patterns metadata = _ := Eq.trans
    (by rw [openApi, hpatterns]; rfl) hrun
  rw [hcall, Contract.fresh]
  generalize BuildM.exec _ _ = done
  obtain ⟨e | document, q⟩ := done
  · rfl
  · rfl

theorem inStep_drafted (hreadable : ∀ reference, (catalog.inMode reference).Readable)
    {patterns : List NamePattern} (hregular : ∀ entry ∈ catalog.select patterns,
      catalog.ignoresShape entry.2 = false → ∀ reference, ∀ node,
        catalog.graph.lookupType entry.2 = .ok node → (catalog.inMode reference).IsRegular node)
    (metadata : Metadata) :
    catalog.InStep ((catalog.inMode true).drafted patterns metadata)
      ((catalog.inMode false).drafted patterns metadata) Document.Agrees := by
  have hblank : (Document.ofMetadata catalog.options.version metadata).Agrees
      (Document.ofMetadata catalog.options.version metadata) := .nil
  exact InStep.foldlM (catalog.select patterns) hblank fun entry hentry _ _ hagrees =>
    inStep_addShape hwhole hreadable entry (hregular entry hentry) hagrees

/-- What becomes of a call in the two modes. -/
theorem Whole.openApi_inMode (hreadable : ∀ reference, (catalog.inMode reference).Readable)
    (patterns : List NamePattern) (hregular : ∀ entry ∈ catalog.select patterns,
      catalog.ignoresShape entry.2 = false → ∀ reference, ∀ node,
        catalog.graph.lookupType entry.2 = .ok node → (catalog.inMode reference).IsRegular node)
    (metadata : Metadata) :
    (∃ reference error, ((catalog.inMode reference).openApi patterns metadata).result = .error error ∧
      catalog.Raises error) ∨
    (∃ error, ∀ reference,
      ((catalog.inMode reference).openApi patterns metadata).result = .error error) ∨
    ∃ documents : Bool → Document, (∀ reference,
        ((catalog.inMode reference).openApi patterns metadata).result = .ok (documents reference)) ∧
      (documents true).Agrees (documents false) := by
  cases hpatterns : patterns.isEmpty with
  | true =>
    have hblank : ∀ reference, ((catalog.inMode reference).openApi patterns metadata).result =
        .ok (Document.ofMetadata catalog.options.version metadata) := fun reference => by
      rw [openApi, if_pos hpatterns]
      rfl
    exact .inr (.inr ⟨fun _ => _, hblank, .nil⟩)
  | false =>
    have hcall reference := (catalog.inMode reference).result_openApi hpatterns metadata
    have hleft := hcall true
    have hright := hcall false
    have hdrafted := inStep_drafted hwhole hreadable hregular metadata _ _
      (.fresh (catalog.inMode true)) (.fresh (catalog.inMode false))
    rw [Abreast] at hdrafted
    generalize ((catalog.inMode true).drafted patterns metadata).exec _ = done at hleft hdrafted
    generalize ((catalog.inMode false).drafted patterns metadata).exec _ = done' at hright hdrafted
    obtain ⟨e | document, q⟩ := done <;> obtain ⟨e' | document', q'⟩ := done'
    · rcases hdrafted with hraises | hraises | rfl
      · exact .inl ⟨true, e, hleft, hraises⟩
      · exact .inl ⟨false, e', hright, hraises⟩
      · exact .inr (.inl ⟨e', Bool.forall_bool.2 ⟨hright, hleft⟩⟩)
    · exact .inl ⟨true, e, hleft, hdrafted⟩
    · exact .inl ⟨false, e', hright, hdrafted⟩
    · refine .inr (.inr ⟨fun reference => if reference then document.addSchemas q.context.reffed else
        document'.addSchemas q'.context.reffed, Bool.forall_bool.2 ⟨hright, hleft⟩, ?_⟩)
      exact hdrafted.2.2

end Members

/-- **References and schemas in place agree on parameters and security.** For every validated graph
and all options, a call that assembles regular shapes fails with one error in both modes, or yields
documents whose operations have the same parameters, by name, location and whether they are
required, in the same order, and the same security requirements.  Otherwise a type cannot be built.
-/
theorem modes_agree {graph : TypeGraph} {options : Options} {modules : Modules}
    {modes : Bool → Catalog} (hvalid : graph.validate = .ok ())
    (hmodes : ∀ reference, ofGraph graph { options with reference } modules = .ok (modes reference))
    (hreadable : ∀ reference, (modes reference).Readable) (patterns : List NamePattern)
    (hregular : ∀ reference, ∀ entry ∈ (modes reference).select patterns,
      (modes reference).ignoresShape entry.2 = false → ∀ node,
        (modes reference).graph.lookupType entry.2 = .ok node → (modes reference).IsRegular node)
    (metadata : Metadata) :
    (∃ reference error, ((modes reference).openApi patterns metadata).result = .error error ∧
      (modes reference).Raises error) ∨
    (∃ error, ∀ reference, ((modes reference).openApi patterns metadata).result = .error error) ∨
    ∃ documents : Bool → Document,
      (∀ reference, ((modes reference).openApi patterns metadata).result = .ok (documents reference)) ∧
      (documents true).Agrees (documents false) := by
  obtain ⟨catalog, rfl⟩ : ∃ catalog : Catalog, modes = catalog.inMode :=
    ⟨modes false, funext fun reference =>
      Except.ok.inj ((hmodes reference).symm.trans (ofGraph_inMode (hmodes false) reference))⟩
  have hof : (catalog.inMode false).IsOf graph := ⟨_, modules, _, hmodes false, rfl⟩
  have hwhole : catalog.Whole :=
    ⟨(hof.whole hvalid).1.graph, (hof.whole hvalid).1.declared, (hof.whole hvalid).1.subtypes⟩
  rcases hwhole.openApi_inMode hreadable patterns (fun entry hentry hkept reference =>
    hregular reference entry hentry hkept) metadata with ⟨reference, error, herror, hraises⟩ | hrest
  · exact .inl ⟨reference, error, herror, hraises.inMode⟩
  · exact .inr hrest

/-- A shape whose parameters, query and security are described by types of their own. -/
def library : Catalog where
  graph :=
    { types := #[{ kind := .string }, { kind := .undefined }, { kind := .union [⟨0⟩, ⟨1⟩] },
        { kind := .object [{ symbol := ⟨8⟩, type := ⟨2⟩ },
            { symbol := ⟨9⟩, type := ⟨0⟩, isOptional := true }] false none, symbol := some ⟨0⟩ },
        { kind := .object [{ symbol := ⟨10⟩, type := ⟨0⟩ }] false none, symbol := some ⟨1⟩ },
        { kind := .intersection [⟨3⟩, ⟨4⟩] },
        { kind := .object [{ symbol := ⟨11⟩, type := ⟨0⟩ }] false none, symbol := some ⟨2⟩ },
        { kind := .stringLiteral "/books" }, { kind := .stringLiteral "GET" },
        { kind := .never }, { kind := .object [{ symbol := ⟨12⟩, type := ⟨9⟩ }] true none },
        { kind := .stringLiteral "read", aliasSymbol := some ⟨3⟩ },
        { kind := .object [] false none, numberIndex := some ⟨11⟩ },
        { kind := .object [{ symbol := ⟨13⟩, type := ⟨12⟩ }] false none, symbol := some ⟨4⟩ },
        { kind := .object [] false none, numberIndex := some ⟨13⟩ },
        { kind := .object [{ symbol := ⟨6⟩, type := ⟨7⟩ }, { symbol := ⟨7⟩, type := ⟨8⟩ },
            { symbol := ⟨14⟩, type := ⟨6⟩ }, { symbol := ⟨15⟩, type := ⟨5⟩ },
            { symbol := ⟨16⟩, type := ⟨14⟩ }, { symbol := ⟨17⟩, type := ⟨10⟩ }] false none
          symbol := some ⟨5⟩ }]
      symbols := #[{ name := "Filter" }, { name := "Paging" }, { name := "BookKey" },
        { name := "Scope" }, { name := "Login" }, { name := "ListBooks" }, { name := "path" },
        { name := "method" }, { name := "author" }, { name := "title" }, { name := "page" },
        { name := "id" }, { name := "204" }, { name := "oauth" }, { name := "params" },
        { name := "query" }, { name := "security" }, { name := "responses" }]
      declarations := [("ListBooks", ⟨15⟩)] }
  declared := [("ListBooks", ⟨15⟩)]

theorem ofGraph_library (reference : Bool) :
    ofGraph library.graph { library.options with reference } Modules.none =
      .ok (library.inMode reference) := by
  have hmade : ofGraph library.graph library.options Modules.none = .ok library := rfl
  exact ofGraph_inMode hmade reference

theorem readable_library (reference : Bool) : (library.inMode reference).Readable where
  given := rfl
  hook := rfl
  comments := by
    rintro key hkey (rfl | ⟨symbol, hsymbol, tag, htag, _⟩)
    · exact absurd hkey (by decide)
    · have hnone : ∀ symbol ∈ library.graph.symbols.toList, symbol.tags = [] := by decide +kernel
      rw [hnone symbol hsymbol] at htag
      exact absurd htag List.not_mem_nil
  findable := by
    refine findable_of_registry rfl rfl fun id node hnode hplace base hbase => ?_
    have hall : ∀ n < 16, n = 7 ∨ ∀ base ∈ library.bases ⟨UInt32.ofNat n⟩, '/' ∉ base.toList := by
      decide +kernel
    have hid := TypeGraph.hasType_of_lookupType hnode
    obtain ⟨index⟩ := id
    rcases hall index.toNat hid with hpath | hnone
    · obtain rfl : index = 7 := UInt32.toNat_inj.1 hpath
      obtain rfl := Except.ok.inj hnode
      exact absurd ⟨rfl, rfl, fun h => by cases h⟩ hplace
    · rw [UInt32.ofNat_toNat] at hnone
      exact hnone base hbase

/-- A union with `undefined` is built for one of the properties only. -/
theorem eq_of_owns_library {reference : Bool} {symbol : SymbolId} {id : TypeId}
    (h : (library.inMode reference).Owns symbol id) (hleaves : library.leavesOut id = true) :
    symbol = ⟨8⟩ := by
  have hparts : ∀ node ∈ library.graph.types.toList, node.properties = [] →
      ∀ part ∈ node.kind.typeRefs, library.leavesOut part = false := by decide +kernel
  cases h with
  | property hnode hmem =>
    have hall : ∀ node ∈ library.graph.types.toList, ∀ property ∈ node.properties,
        library.leavesOut property.type = true → property.symbol = ⟨8⟩ := by decide +kernel
    exact hall _ (TypeGraph.mem_types hnode) _ hmem hleaves
  | @member _ _ _ _ members _ hnode hkind hmem _ _ =>
    have hnone := hparts _ (TypeGraph.mem_types hnode) (by rw [TypeNode.properties, hkind]) _
      (by rw [hkind]; exact hmem)
    cases hnone.symm.trans hleaves
  | value _ hsubject hkind =>
    have hnone := hparts _ (TypeGraph.mem_types (TypeGraph.unwrap_subject hsubject).1)
      (by rw [TypeNode.properties, hkind]) _ (by rw [hkind]; exact List.mem_singleton_self _)
    cases hnone.symm.trans hleaves

theorem isRecord_library (reference : Bool) {node : TypeNode} (hmem : node ∈ library.graph.types.toList)
    {own : List Property} (hkind : node.kind = .object own false none)
    (hraw : library.graph.isRaw node = .ok false) : (library.inMode reference).IsRecord node where
  object := ⟨own, false, none, hkind, fun _ => rfl⟩
  unbranded := hraw
  concrete := by
    intro id symbol _ hsymbol
    have hall : ∀ symbol ∈ library.graph.symbols.toList, symbol.isAbstract = false := by
      decide +kernel
    exact hall symbol (TypeGraph.mem_symbols hsymbol)
  undefined := by
    intro property hproperty inner hinner hundefined
    have hall : ∀ node ∈ library.graph.types.toList, ∀ property ∈ node.properties,
        library.isUndefined property.type = false := by decide +kernel
    have hdefined : library.isUndefined property.type = true :=
      (Option.any_eq_true _ _).2 ⟨inner, hinner, hundefined⟩
    cases (hall node hmem property hproperty).symm.trans hdefined
  absent := by
    rintro property hproperty _ ⟨id, howns, hleaves⟩
    have hall : ∀ node ∈ library.graph.types.toList, ∀ property ∈ node.properties,
        property.symbol = ⟨8⟩ → property.type = ⟨2⟩ := by decide +kernel
    rw [hall node hmem property hproperty (eq_of_owns_library howns hleaves)]
    exact ⟨_, _, ⟨1⟩, _, rfl, ⟨rfl, rfl, fun h => by cases h⟩, rfl, by simp, rfl, rfl,
      ⟨rfl, rfl, fun h => by cases h⟩⟩

theorem isRecordMember_library (reference : Bool) {id : TypeId} (h : id ∈ [⟨3⟩, ⟨4⟩, ⟨6⟩, ⟨13⟩]) :
    (library.inMode reference).IsRecordMember id := by
  have hall : ∀ id ∈ [⟨3⟩, ⟨4⟩, ⟨6⟩, ⟨13⟩], ∃ node ∈ library.graph.types.toList,
      library.nodeOf? id = some node ∧ node.kind = .object node.properties false none ∧
        library.graph.isRaw node = .ok false ∧ library.listed node ≠ [] := by decide +kernel
  obtain ⟨node, hmem, hnode, hkind, hraw, hlisted⟩ := hall id h
  exact ⟨node, hnode, isRecord_library reference hmem hkind hraw, hlisted⟩

theorem isRegular_library (reference : Bool) {node : TypeNode}
    (hnode : library.graph.lookupType ⟨15⟩ = .ok node) : (library.inMode reference).IsRegular node := by
  obtain rfl := Except.ok.inj hnode
  refine ⟨fun property hproperty hname => ?_, fun property hproperty hname => ?_⟩
  · have htype : property.type = ⟨6⟩ ∨ property.type = ⟨5⟩ :=
      (show ∀ property ∈ (library.graph.types[15]).properties,
        library.nameOf property ∈ ["params", "query"] → property.type = ⟨6⟩ ∨ property.type = ⟨5⟩ by
        decide +kernel) property hproperty hname
    rcases htype with htype | htype
    · rw [htype]
      obtain ⟨inner, hinner, hrecord, _⟩ := isRecordMember_library reference
        (show ⟨6⟩ ∈ [⟨3⟩, ⟨4⟩, ⟨6⟩, (⟨13⟩ : TypeId)] by decide)
      exact .parameters hinner (.record hrecord)
    · rw [htype]
      exact .parameters rfl (.records rfl (by decide) fun id hid => isRecordMember_library reference
        (List.mem_of_mem_take (i := 2) hid))
  · have htype : property.type = ⟨14⟩ :=
      (show ∀ property ∈ (library.graph.types[15]).properties,
        library.nameOf property = "security" → property.type = ⟨14⟩ by
        decide +kernel) property hproperty hname
    rw [htype]
    obtain ⟨inner, hinner, hrecord, _⟩ := isRecordMember_library reference
      (show ⟨13⟩ ∈ [⟨3⟩, ⟨4⟩, ⟨6⟩, (⟨13⟩ : TypeId)] by decide)
    refine ⟨_, rfl, .array ⟨rfl, rfl, rfl, by rintro _ _ ⟨⟩⟩ hinner (.one ⟨hrecord, ?_⟩)⟩
    intro property hproperty
    have hscopes : property.type = ⟨12⟩ :=
      (show ∀ node, library.nodeOf? ⟨13⟩ = some node → ∀ property ∈ library.listed node,
        property.type = ⟨12⟩ by
        rintro _ ⟨⟩
        decide +kernel) inner hinner property hproperty
    rw [hscopes]
    exact ⟨_, rfl, .array ⟨rfl, rfl, rfl, by rintro _ _ ⟨⟩⟩ rfl
      (.literal rfl)⟩

theorem modes_agree_library : ∃ documents : Bool → Document,
    (∀ reference, ((library.inMode reference).openApi [.exact "ListBooks"] {}).result =
      .ok (documents reference)) ∧
    (documents true).Agrees (documents false) ∧
    ∃ operation, (documents true).operationAt? "/books" "get" = some operation ∧
      operation.parameters.map Parameter.outline = [("id", .path, true), ("author", .query, false),
        ("title", .query, false), ("page", .query, true)] ∧
      operation.security = some [[("oauth", ["read"])]] := by
  have hregular : ∀ reference, ∀ entry ∈ (library.inMode reference).select [.exact "ListBooks"],
      (library.inMode reference).ignoresShape entry.2 = false → ∀ node,
        (library.inMode reference).graph.lookupType entry.2 = .ok node →
          (library.inMode reference).IsRegular node := by
    intro reference entry hentry _ node hnode
    have hselect : library.select [.exact "ListBooks"] = [("ListBooks", ⟨15⟩)] := by decide +kernel
    obtain rfl := List.mem_singleton.1 (hselect ▸ hentry)
    exact isRegular_library reference hnode
  have hsome : ∀ reference,
      ((library.inMode reference).openApi [.exact "ListBooks"] {}).result.toOption.isSome = true := by
    decide +kernel
  rcases modes_agree rfl ofGraph_library readable_library [.exact "ListBooks"] hregular {} with
    ⟨reference, error, herror, _⟩ | ⟨error, herror⟩ | ⟨documents, hdocuments, hagrees⟩
  · have hfailed := hsome reference
    rw [herror] at hfailed
    cases hfailed
  · have hfailed := hsome true
    rw [herror] at hfailed
    cases hfailed
  · have hoperation : (((library.inMode true).openApi [.exact "ListBooks"] {}).result.toOption.bind
        fun document => document.operationAt? "/books" "get").any (fun operation =>
          operation.parameters.map Parameter.outline == [("id", .path, true),
            ("author", .query, false), ("title", .query, false), ("page", .query, true)] &&
          operation.security == some [[("oauth", ["read"])]]) = true := by decide +kernel
    rw [hdocuments true] at hoperation
    obtain ⟨operation, hfound, hsame⟩ := (Option.any_eq_true _ _).1 hoperation
    obtain ⟨hparameters, hsecurity⟩ := Bool.and_eq_true_iff.1 hsame
    exact ⟨documents, hdocuments, hagrees, operation, hfound, eq_of_beq hparameters,
      eq_of_beq hsecurity⟩

/-- A shape with two parameters whose type is an alias of a union with `undefined`. -/
def maybeText : Catalog where
  graph :=
    { types := #[{ kind := .string }, { kind := .undefined },
        { kind := .union [⟨0⟩, ⟨1⟩], aliasSymbol := some ⟨0⟩ },
        { kind := .object [{ symbol := ⟨6⟩, type := ⟨2⟩ }, { symbol := ⟨7⟩, type := ⟨2⟩ }] true none },
        { kind := .stringLiteral "/books" }, { kind := .stringLiteral "GET" }, { kind := .never },
        { kind := .object [{ symbol := ⟨8⟩, type := ⟨6⟩ }] true none },
        { kind := .object [{ symbol := ⟨2⟩, type := ⟨4⟩ }, { symbol := ⟨3⟩, type := ⟨5⟩ },
            { symbol := ⟨4⟩, type := ⟨3⟩ }, { symbol := ⟨5⟩, type := ⟨7⟩ }] false none
          symbol := some ⟨1⟩ }]
      symbols := #[{ name := "MaybeText" }, { name := "ListBooks" }, { name := "path" },
        { name := "method" }, { name := "query" }, { name := "responses" }, { name := "author" },
        { name := "title" }, { name := "204" }]
      declarations := [("ListBooks", ⟨8⟩)] }
  declared := [("ListBooks", ⟨8⟩)]

/-- **A parameter is required in one mode only.** As a reference the union is built once, for the
first of the two. -/
theorem exists_modes_apart :
    maybeText.graph.validate = .ok () ∧
    (∀ reference, ofGraph maybeText.graph { maybeText.options with reference } Modules.none =
      .ok (maybeText.inMode reference)) ∧
    ∃ operations : Bool → Operation,
      (∀ reference, ∃ document,
        ((maybeText.inMode reference).openApi [.exact "ListBooks"] {}).result = .ok document ∧
        document.operationAt? "/books" "get" = some (operations reference)) ∧
      (operations true).parameters.map Parameter.outline =
        [("author", .query, false), ("title", .query, true)] ∧
      (operations false).parameters.map Parameter.outline =
        [("author", .query, false), ("title", .query, false)] := by
  have hparameters : ∀ reference, (((maybeText.inMode reference).openApi [.exact "ListBooks"]
      {}).result.toOption.any fun document => (document.operationAt? "/books" "get").any fun operation =>
        operation.parameters.map Parameter.outline ==
          [("author", .query, false), ("title", .query, reference)]) = true := by decide +kernel
  have hoperation : ∀ reference, ∃ operation, (∃ document,
      ((maybeText.inMode reference).openApi [.exact "ListBooks"] {}).result = .ok document ∧
      document.operationAt? "/books" "get" = some operation) ∧
      operation.parameters.map Parameter.outline =
        [("author", .query, false), ("title", .query, reference)] := by
    intro reference
    obtain ⟨document, hdocument, hany⟩ := (Option.any_eq_true _ _).1 (hparameters reference)
    obtain ⟨operation, hfound, hsame⟩ := (Option.any_eq_true _ _).1 hany
    exact ⟨operation, ⟨document, Decoder.toOption_eq_some.1 hdocument, hfound⟩, eq_of_beq hsame⟩
  choose operations hoperations using hoperation
  have hmade : ofGraph maybeText.graph maybeText.options Modules.none = .ok maybeText := rfl
  refine ⟨rfl, fun reference => ofGraph_inMode hmade reference, operations,
    fun reference => (hoperations reference).1, (hoperations true).2, (hoperations false).2⟩

end Catalog

end TypeSchema
