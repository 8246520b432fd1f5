import Mathlib.Data.List.Count
import TypeSchema.Proofs.OpenApi.Modes
import TypeSchema.Proofs.OpenApi.Operations

/-!
# The parameters of operations

The members `params` and `query` of a shape describe the parameters of its operation.  Each is answered
with a schema, and a parameter is made of each property of each branch of it: of the schema itself, or of
the objects of an intersection.  `Catalog.TakesParameters` says so of the operations of a document.

No branch lists a name twice, so a parameter is described twice only where two branches of one member
list its name.  Nothing keeps them from it: there is one parameter for each branch that lists the name
(`Catalog.TakesParameters.count`), required or not as that branch has it.  **`Catalog.openApi_parameters`**
says what follows: the parameters of an operation are unique exactly if the branches of each member have
no name in common, and then a parameter is required if a branch that lists it requires it.

Where the schemas tell what the graph tells, the names are those of the properties of the types
(`Catalog.DescribesBranches.names_of_types`).
-/

set_option autoImplicit false

namespace TypeSchema

namespace OpenApi

open Json

/-! ## Branches -/

/-- The member of a shape that describes the parameters at the location. -/
def ParameterLocation.member : ParameterLocation → String
  | .path => "params"
  | .query => "query"

/-- The names that a branch lists: those of its properties that are schemas. -/
def parameterNames (branch : Definition) : List String :=
  ((branch.properties?.getD []).filter fun entry => (Definition.ofJson? entry.2).isSome).map Prod.fst

variable {branch : Definition} {location : ParameterLocation} {parameter : Parameter} {name : String}

theorem map_name_branchParameters (location : ParameterLocation) (branch : Definition) :
    (branchParameters location branch).map Parameter.name = parameterNames branch := by
  rw [branchParameters, parameterNames]
  induction branch.properties?.getD [] with
  | nil => rfl
  | cons entry rest ih =>
    obtain ⟨name, value⟩ := entry
    cases hschema : Definition.ofJson? value <;> simp [hschema, ih]

/-- What a branch makes a parameter of is one of its properties. -/
theorem of_mem_branchParameters (h : parameter ∈ branchParameters location branch) :
    parameter.location = location ∧ parameter.name ∈ parameterNames branch ∧
      parameter.isRequired = branch.requires parameter.name := by
  have hname : parameter.name ∈ parameterNames branch :=
    map_name_branchParameters location branch ▸ List.mem_map_of_mem h
  obtain ⟨_, _, _, _, _, rfl⟩ := mem_branchParameters h
  exact ⟨rfl, hname, rfl⟩

/-- A branch lists each name once. -/
theorem nodup_parameterNames (h : branch.HasUniqueKeys) : (parameterNames branch).Nodup := by
  rw [parameterNames]
  cases hproperties : branch.properties? with
  | none => exact .nil
  | some properties =>
    have hkeys := (hasUniqueKeys_object.1 (h.get? (Definition.get?_of_properties? hproperties))).1
    exact hkeys.sublist (List.filter_sublist.map Prod.fst)

/-- The operation has each parameter once: no two have the same name and the same location. -/
def Operation.HasUniqueParameters (operation : Operation) : Prop :=
  (operation.parameters.map fun parameter => (parameter.name, parameter.location)).Nodup

instance (operation : Operation) : Decidable operation.HasUniqueParameters :=
  inferInstanceAs (Decidable (List.Nodup _))

end OpenApi

/-! ## Parts that are only looked up -/

namespace Contract

open BuildM

/-- What is only looked up is known by its answer, where every failure is allowed. -/
theorem Answers.idle_bind {catalog : Catalog} {C : Contract catalog} {α β : Type} {m : BuildM α}
    {f : α → BuildM β} {p : Progress} {G : β → Progress → Prop} (hm : m.Idle)
    (hfault : ∀ error, C.fault error)
    (hf : ∀ a, (∀ q, m.exec q = (.ok a, q)) → C.Answers p (f a) G) : C.Answers p (m >>= f) G := by
  intro hp
  obtain ⟨result, hresult⟩ := hm
  rw [BuildM.Post, exec_bind, hresult p]
  cases result with
  | error e => exact ⟨hfault e, hp.inv⟩
  | ok a => exact hf a hresult hp

end Contract

/-! ## Tables without repeated keys -/

/-- What stands in the table was given, or completed in the call, or is under construction. -/
theorem Reached.mem_reffed {catalog : Catalog} {p : Progress} (h : Reached catalog p)
    {entry : String × Definition} (hmem : entry ∈ p.context.reffed) :
    entry ∈ catalog.overrides ∨ entry.2 = Definition.empty ∨
      ∃ frame, .completed frame entry.2 ∈ p.journal := by
  induction h with
  | fresh root => exact .inl hmem
  | @step p q _ hstep ih =>
    have hkept (hold : entry ∈ p.context.reffed) := (ih hold).imp_right fun h =>
      h.imp_right fun ⟨frame, hframe⟩ =>
        (⟨frame, hstep.grows.mem_journal hframe⟩ : ∃ frame, Event.completed frame entry.2 ∈ q.journal)
    rcases hstep.table with htable | ⟨frame, _, rfl⟩
    · exact hkept (htable.reffed ▸ hmem)
    · rcases Dict.mem_of_mem_insert hmem with rfl | hold
      · exact .inr (.inl rfl)
      · exact hkept hold
  | applied _ chain ih =>
    exact (ih hmem).imp_right fun h => h.imp_right fun ⟨frame, hframe⟩ =>
      ⟨frame, List.mem_cons_of_mem _ hframe⟩
  | @completed p frame definition _ _ _ ih =>
    rcases Dict.mem_of_mem_insert hmem with rfl | hold
    · exact .inr (.inr ⟨frame, List.mem_cons_self⟩)
    · exact (ih hold).imp_right fun h => h.imp_right fun ⟨frame, hframe⟩ =>
        ⟨frame, List.mem_cons_of_mem _ hframe⟩

namespace Catalog

open OpenApi BuildM Contract

variable {catalog : Catalog} {p : Progress} {id : TypeId} {node : TypeNode} {key name : String}
  {branches : List Definition} {location : ParameterLocation} {parameter : Parameter}

/-- Wherever a call stands no definition in the table repeats a key. -/
theorem Stands.holds (hp : catalog.Stands p) (hgiven : catalog.KeysGiven) :
    hgiven.contract.Holds p := by
  refine ⟨hp.traced.reached.sound, fun entry hmem => ?_⟩
  rcases hp.traced.reached.mem_reffed hmem with hgave | hempty | ⟨frame, hframe⟩
  · exact hgiven.overrides entry hgave
  · exact hempty ▸ Definition.HasUniqueKeys.empty
  · exact (hp.traced.completed frame entry.2 hframe).2.hasUniqueKeys hgiven

/-! ## Members that describe parameters -/

/-- The branches of which parameters are made for a member with the type: none if it says nothing, and
else those of the schema that a call gets for it. -/
inductive DescribesBranches (catalog : Catalog) (id : TypeId) : List Definition → Prop
  | empty {node : TypeNode} (hnode : catalog.graph.lookupType id = .ok node)
      (hempty : node.isEmptyObject = true) : DescribesBranches catalog id []
  | answered {node : TypeNode} {p q : Progress} {schema : Definition}
      (hnode : catalog.graph.lookupType id = .ok node) (hnonempty : node.isEmptyObject = false)
      (hplain : catalog.isPlain node = true) (hp : catalog.Stands p)
      (hrun : (catalog.memberSchema id).exec p = (.ok schema, q)) :
      DescribesBranches catalog id (parameterBranches q.context schema)

/-- The first property of the shape with the name. -/
def memberOf? (catalog : Catalog) (node : TypeNode) (key : String) : Option Property :=
  node.properties.find? fun property => catalog.nameOf property == key

/-- The branches of which parameters are made for the member of the shape with the name; a member that is
not there has none. -/
inductive TakesBranches (catalog : Catalog) (node : TypeNode) (key : String) : List Definition → Prop
  | missing (hmember : catalog.memberOf? node key = none) : TakesBranches catalog node key []
  | described {property : Property} {branches : List Definition}
      (hmember : catalog.memberOf? node key = some property)
      (h : catalog.DescribesBranches property.type branches) : TakesBranches catalog node key branches

/-- The parameters are those that the shape describes, made of the branches of its members. -/
structure TakesParameters (catalog : Catalog) (id : TypeId)
    (branches : ParameterLocation → List Definition) (parameters : List Parameter) : Prop where
  members : ∃ node, catalog.graph.lookupType id = .ok node ∧
    ∀ location, catalog.TakesBranches node location.member (branches location)
  made : parameters = (branches .path).flatMap (branchParameters .path) ++
    (branches .query).flatMap (branchParameters .query)

theorem DescribesBranches.hasUniqueKeys (h : catalog.DescribesBranches id branches)
    (hgiven : catalog.KeysGiven) : ∀ branch ∈ branches, branch.HasUniqueKeys := by
  cases h with
  | empty _ _ => exact List.forall_mem_nil _
  | answered _ _ _ hp hrun =>
    obtain ⟨hq, _, hschema⟩ :=
      (hgiven.answers_memberSchema id (hp.holds hgiven)).of_exec hrun
    exact hschema.parameterBranches hq.inv

theorem TakesBranches.hasUniqueKeys (h : catalog.TakesBranches node key branches)
    (hgiven : catalog.KeysGiven) : ∀ branch ∈ branches, branch.HasUniqueKeys := by
  cases h with
  | missing _ => exact List.forall_mem_nil _
  | described _ h => exact h.hasUniqueKeys hgiven

/-- Where the schemas tell what the graph tells, the branches list the names of the properties of the
types, in their order. -/
theorem DescribesBranches.names_of_types (h : catalog.DescribesBranches id branches)
    (hwhole : catalog.Whole) (hreadable : catalog.Readable)
    (hnonempty : ∀ node, catalog.graph.lookupType id = .ok node → node.isEmptyObject = false)
    {inner : TypeNode} (hinner : catalog.nodeOf? id = some inner)
    (hparameters : catalog.IsParameters inner) :
    branches.flatMap parameterNames = (catalog.parameterOutline inner).map Prod.fst := by
  cases h with
  | empty hnode hempty => cases hempty.symm.trans (hnonempty _ hnode)
  | @answered _ p q schema hnode _ _ hp hrun =>
    have hall := hp.post_parameters hwhole hreadable (TypeGraph.hasType_of_lookupType hnode) hinner
      hparameters .path
    have houtline := (hall.of_exec (by rw [exec_bind, hrun]; rfl)).2
    have hnames := congrArg (List.map Prod.fst) houtline
    rw [List.map_map, List.map_map, List.map_flatMap] at hnames
    rw [show parameterNames = fun branch => (branchParameters .path branch).map Parameter.name from
      funext fun branch => (map_name_branchParameters .path branch).symm]
    simpa [Function.comp_def, Parameter.outline] using hnames

/-! ## Parameters of a shape -/

namespace TakesParameters

variable {branches : ParameterLocation → List Definition} {parameters : List Parameter}
  (h : catalog.TakesParameters id branches parameters)

include h

theorem hasUniqueKeys (hgiven : catalog.KeysGiven) (location : ParameterLocation) :
    ∀ branch ∈ branches location, branch.HasUniqueKeys := by
  obtain ⟨node, _, hmembers⟩ := h.members
  exact (hmembers location).hasUniqueKeys hgiven

theorem mem_iff : parameter ∈ parameters ↔ ∃ branch ∈ branches parameter.location,
    parameter ∈ branchParameters parameter.location branch := by
  have hlocation : ∀ location, parameter ∈ (branches location).flatMap (branchParameters location) ↔
      location = parameter.location ∧ ∃ branch ∈ branches parameter.location,
        parameter ∈ branchParameters parameter.location branch := by
    intro location
    rw [List.mem_flatMap]
    constructor
    · rintro ⟨branch, hbranch, hmem⟩
      obtain ⟨rfl, _⟩ := of_mem_branchParameters hmem
      exact ⟨rfl, branch, hbranch, hmem⟩
    · rintro ⟨rfl, hfound⟩
      exact hfound
  rw [h.made, List.mem_append, hlocation, hlocation]
  cases parameter.location <;> simp

/-- Each name that a branch lists gives a parameter. -/
theorem exists_parameter {branch : Definition} (hbranch : branch ∈ branches location)
    (hname : name ∈ parameterNames branch) : ∃ parameter ∈ parameters,
      parameter.name = name ∧ parameter.location = location ∧
        parameter.isRequired = branch.requires name := by
  rw [← map_name_branchParameters location branch] at hname
  obtain ⟨parameter, hmem, rfl⟩ := List.mem_map.1 hname
  obtain ⟨rfl, _, hrequired⟩ := of_mem_branchParameters hmem
  exact ⟨parameter, h.mem_iff.2 ⟨branch, hbranch, hmem⟩, rfl, rfl, hrequired⟩

theorem names_eq : parameters.map (fun parameter => (parameter.name, parameter.location)) =
    ((branches .path).flatMap parameterNames).map (·, .path) ++
      ((branches .query).flatMap parameterNames).map (·, .query) := by
  have hnames : ∀ location, ((branches location).flatMap (branchParameters location)).map
      (fun parameter => (parameter.name, parameter.location)) =
        ((branches location).flatMap parameterNames).map (·, location) := by
    intro location
    rw [List.map_flatMap, List.map_flatMap]
    refine List.flatMap_congr fun branch _ => ?_
    rw [← map_name_branchParameters location branch, List.map_map]
    refine List.map_congr_left fun parameter hmem => ?_
    rw [Function.comp_apply, (of_mem_branchParameters hmem).1]
  rw [h.made, List.map_append, hnames, hnames]

/-- There are as many parameters of a name at a location as the branches of the member list it. -/
theorem count (name : String) (location : ParameterLocation) :
    (parameters.map fun parameter => (parameter.name, parameter.location)).count (name, location) =
      ((branches location).flatMap parameterNames).count name := by
  have hown (names : List String) (location : ParameterLocation) :
      (names.map (·, location)).count (name, location) = names.count name :=
    List.count_map_of_injective names (·, location) (Prod.mk_left_injective location) name
  have hother {location other : ParameterLocation} (hne : other ≠ location) (names : List String) :
      (names.map (·, other)).count (name, location) = 0 :=
    List.count_eq_zero.2 fun hmem => hne (by
      obtain ⟨_, _, heq⟩ := List.mem_map.1 hmem
      exact congrArg Prod.snd heq)
  rw [h.names_eq, List.count_append]
  cases location with
  | path => rw [hown, hother (by decide), Nat.add_zero]
  | query => rw [hown, hother (by decide), Nat.zero_add]

/-- No two parameters are alike exactly if no two branches of one member list the same name. -/
theorem nodup_iff (hgiven : catalog.KeysGiven) :
    (parameters.map fun parameter => (parameter.name, parameter.location)).Nodup ↔
      ∀ location, (branches location).Pairwise fun branch other =>
        (parameterNames branch).Disjoint (parameterNames other) := by
  have hmember : ∀ location, ((branches location).flatMap parameterNames).Nodup ↔
      (branches location).Pairwise fun branch other =>
        (parameterNames branch).Disjoint (parameterNames other) := fun location => by
    rw [List.nodup_flatMap, and_iff_right fun branch hbranch =>
      nodup_parameterNames (h.hasUniqueKeys hgiven location branch hbranch)]
  have hapart : (((branches .path).flatMap parameterNames).map (·, ParameterLocation.path)).Disjoint
      (((branches .query).flatMap parameterNames).map (·, ParameterLocation.query)) := by
    intro entry hpath hquery
    obtain ⟨_, _, rfl⟩ := List.mem_map.1 hpath
    obtain ⟨_, _, heq⟩ := List.mem_map.1 hquery
    cases heq
  rw [h.names_eq, List.nodup_append', and_iff_left hapart,
    List.nodup_map_iff (Prod.mk_left_injective _), List.nodup_map_iff (Prod.mk_left_injective _),
    hmember, hmember]
  exact ⟨fun ⟨hpath, hquery⟩ location => by cases location <;> assumption,
    fun hall => ⟨hall .path, hall .query⟩⟩

/-- Where they are, a parameter is required if a branch that lists it requires it. -/
theorem isRequired_iff
    (hunique : (parameters.map fun parameter => (parameter.name, parameter.location)).Nodup)
    (hmem : parameter ∈ parameters) : parameter.isRequired = true ↔
      ∃ branch ∈ branches parameter.location, parameter.name ∈ parameterNames branch ∧
        branch.requires parameter.name = true := by
  constructor
  · intro hrequired
    obtain ⟨branch, hbranch, hmade⟩ := h.mem_iff.1 hmem
    obtain ⟨_, hname, hsame⟩ := of_mem_branchParameters hmade
    exact ⟨branch, hbranch, hname, hsame ▸ hrequired⟩
  · rintro ⟨branch, hbranch, hname, hrequires⟩
    obtain ⟨other, hother, hsame, hplace, hrequired⟩ := h.exists_parameter hbranch hname
    obtain rfl : other = parameter :=
      List.inj_on_of_nodup_map hunique hother hmem (Prod.ext hsame hplace)
    exact hrequired.trans hrequires

end TakesParameters

/-! ## Runs -/

theorem memberOf?_of_exec {answer : Option Property}
    (h : ∀ q, (catalog.shapeMember? node key).exec q = (.ok answer, q)) :
    catalog.memberOf? node key = answer := by
  have hpost : (Contract.free catalog).Answers (Contract.fresh catalog .components)
      (catalog.shapeMember? node key) fun answer _ => catalog.memberOf? node key = answer := by
    rw [shapeMember?]
    refine (Answers.each (R := fun _ property (entry : String × Property) =>
      entry = (catalog.nameOf property, property)) _ (fun _ _ _ _ _ h => h) fun property _ q _ =>
        .symbol fun symbol hsymbol => .pure (by rw [nameOf_eq hsymbol])).map fun named q hnamed => ?_
    have hall : named = node.properties.map fun property => (catalog.nameOf property, property) := by
      generalize node.properties = properties at hnamed ⊢
      induction hnamed with
      | nil => rfl
      | cons hfirst _ ih => rw [List.map_cons, hfirst, ih]
    rw [hall, List.find?_map, Option.map_map, memberOf?]
    exact (congrFun Option.map_id _).symm
  exact ((hpost (Contract.holds_fresh trivial)).of_exec (h _)).2.2

/-- The branches of a member are those of the schema that the call gets for its type. -/
theorem answers_branches (hp : Settles (Contract.fresh catalog .components) p) (shape key : String)
    (location : ParameterLocation) (id : TypeId) :
    (traces catalog).Answers p (catalog.parameters shape key location id) fun parameters _ =>
      ∃ branches, catalog.DescribesBranches id branches ∧
        parameters = branches.flatMap (branchParameters location) := by
  rw [Catalog.parameters]
  refine .type fun node hnode => ?_
  split
  · rename_i hempty
    exact .pure ⟨[], .empty hnode hempty, rfl⟩
  rename_i hnonempty
  refine .idle_bind (idle_isPlainObject _ node) (fun _ => trivial) fun plain hplain => ?_
  cases plain with
  | false => exact .throw fun _ h => by cases h
  | true =>
    intro hholds
    have hstands : catalog.Stands p := ⟨hholds.inv, hp⟩
    have hschema := answers_memberSchema (C := traces catalog) (fun _ => trivial) hp.guard id hholds
    refine post_bind.2 (hschema.exec.imp ?_)
    rintro schema q ⟨⟨hq, hpq, _⟩, hrun⟩
    exact ⟨hq, hpq, _, .answered hnode (Bool.eq_false_iff.2 hnonempty) (isPlain_of_exec hplain) hstands hrun,
      rfl⟩

theorem answers_memberBranches (hp : Settles (Contract.fresh catalog .components) p) (shape : String)
    (node : TypeNode) (location : ParameterLocation) :
    (traces catalog).Answers p (catalog.withMember node location.member []
      (catalog.parameters shape location.member location)) fun parameters _ =>
      ∃ branches, catalog.TakesBranches node location.member branches ∧
        parameters = branches.flatMap (branchParameters location) := by
  rw [withMember]
  refine .idle_bind (idle_shapeMember? _ node _) (fun _ => trivial) fun member hmember => ?_
  have hmember := memberOf?_of_exec hmember
  cases member with
  | none => exact .pure ⟨[], .missing hmember, rfl⟩
  | some property =>
    refine (answers_branches hp shape _ location property.type).imp ?_
    rintro parameters _ ⟨branches, hbranches, hmade⟩
    exact ⟨branches, .described hmember hbranches, hmade⟩

/-- The parameters of an operation are those that its shape describes. -/
theorem answers_takesParameters (hp : Settles (Contract.fresh catalog .components) p) (shape : String)
    (id : TypeId) :
    (traces catalog).Answers p (catalog.operation shape id) fun answer _ => ∀ placed,
      answer = some placed →
        ∃ branches, catalog.TakesParameters id branches placed.operation.parameters := by
  have hroots : ∀ id, (traces catalog).root id := fun _ => trivial
  rw [operation]
  refine .type fun node hnode => (answers_shapeAnnotations _).bind fun said q₁ h₁ hkeywords => ?_
  dsimp only
  split
  · exact .pure fun _ h => by cases h
  have hbody := fun q => (entriesOnly_shapeKeywords (hkeywords q)).1
  refine (answers_requiredMember _ _ _).bind fun pathMember q₂ h₂ _ => ?_
  refine (answers_requiredMember _ _ _).bind fun methodMember q₃ h₃ _ => ?_
  refine (answers_requiredMember _ _ _).bind fun responsesMember q₄ h₄ _ => ?_
  refine (answers_literalMember _ _ _).bind fun path q₅ h₅ _ => ?_
  refine (answers_shapeMethod _ _).bind fun method q₆ h₆ _ => ?_
  have h₆ := hp.trans (h₁.trans (h₂.trans (h₃.trans (h₄.trans (h₅.trans h₆)))))
  refine (answers_memberBranches h₆ shape node .path).bind fun inPath q₇ h₇ hinPath => ?_
  have h₇ := h₆.trans h₇
  refine (answers_memberBranches h₇ shape node .query).bind fun inQuery q₈ h₈ hinQuery => ?_
  have h₈ := h₇.trans h₈
  refine (answers_withMember (G := fun _ _ => True) (fun _ => trivial) fun id q hq =>
    (answers_requestBody hroots (h₈.trans hq).guard _ hbody id).imp fun _ _ _ => trivial).bind
      fun body q₉ h₉ _ => ?_
  have h₉ := h₈.trans h₉
  refine (answers_responses hroots h₉.guard _ _).bind fun responses q₁₀ h₁₀ _ => ?_
  have h₁₀ := h₉.trans h₁₀
  refine (answers_withMember (G := fun _ _ => True) (fun _ => trivial) fun id q hq =>
    (answers_securityRequirements hroots (h₁₀.trans hq).guard _ id).map fun _ _ _ =>
      trivial).bind fun security q₁₁ _ _ => ?_
  refine (answers_customEntries _ fun _ _ _ => trivial).bind fun custom _ _ _ => .pure ?_
  rintro placed hplaced
  cases hplaced
  obtain ⟨ofPath, hpath, rfl⟩ := hinPath
  obtain ⟨ofQuery, hquery, rfl⟩ := hinQuery
  refine ⟨fun location => location.casesOn ofPath ofQuery, ⟨node, hnode, fun location => ?_⟩, rfl⟩
  cases location with
  | path => exact hpath
  | query => exact hquery

/-- Every operation of the document is that of a shape, as far as its parameters go. -/
def DescribesOperations (catalog : Catalog) (patterns : List NamePattern) (document : Document) : Prop :=
  ∀ path key operation, document.operationAt? path key = some operation →
    ∃ entry ∈ catalog.select patterns, ∃ branches,
      catalog.TakesParameters entry.2 branches operation.parameters

theorem answers_describesOperations (hp : Settles (Contract.fresh catalog .components) p)
    {patterns : List NamePattern} {entry : String × TypeId} (hentry : entry ∈ catalog.select patterns)
    {document : Document} (hdocument : catalog.DescribesOperations patterns document) :
    (traces catalog).Answers p (catalog.addShape document entry) fun answer _ =>
      catalog.DescribesOperations patterns answer := by
  rw [addShape]
  refine (answers_takesParameters hp entry.1 entry.2).bind fun answer q _ hanswer => ?_
  split
  · exact .pure hdocument
  rename_i placed
  have hplace : catalog.DescribesOperations patterns (document.place placed) := by
    intro path key operation hoperation
    rw [Document.operationAt?_place] at hoperation
    split at hoperation
    · cases hoperation
      exact ⟨entry, hentry, hanswer placed rfl⟩
    · exact hdocument path key operation hoperation
  dsimp only
  split
  · exact .note (.pure hplace)
  · exact .pure hplace

theorem describesOperations_openApi {patterns : List NamePattern} {metadata : Metadata}
    {document : Document} (hresult : (catalog.openApi patterns metadata).result = .ok document) :
    catalog.DescribesOperations patterns document := by
  cases hpatterns : patterns.isEmpty with
  | true =>
    rw [openApi, if_pos hpatterns] at hresult
    obtain rfl := Except.ok.inj hresult
    exact fun _ _ _ h => by cases h
  | false =>
    have hdrafted : (traces catalog).Answers (Contract.fresh catalog .components)
        (catalog.drafted patterns metadata) fun document _ =>
          catalog.DescribesOperations patterns document :=
      .foldlM _ (fun _ _ _ h => by cases h) fun entry hentry done q hq hdone =>
        answers_describesOperations hq hentry hdone
    have hpost := hdrafted (Contract.holds_fresh (.fresh catalog .components))
    rw [result_openApi hpatterns] at hresult
    rw [BuildM.Post] at hpost
    generalize (catalog.drafted patterns metadata).exec _ = done at hresult hpost
    obtain ⟨e | drafted, q⟩ := done
    · cases hresult
    · obtain rfl := Except.ok.inj hresult
      exact hpost.2.2

/-- **The parameters of an operation** are those of the branches that the members of its shape are
answered with, one for each branch and each name that it lists.  So no two of them have the same name and
the same location exactly if the branches of each member have no name in common; and then a parameter is
required exactly if a branch that lists it requires it.  Where the schemas tell what the graph tells, the
names are those of the properties of the types. -/
theorem openApi_parameters {graph : TypeGraph} (hvalid : graph.validate = .ok ())
    (hcatalog : catalog.IsOf graph) (hgiven : catalog.KeysGiven) {patterns : List NamePattern}
    {metadata : Metadata} {document : Document}
    (hresult : (catalog.openApi patterns metadata).result = .ok document) {path key : String}
    {operation : Operation} (hoperation : document.operationAt? path key = some operation) :
    ∃ entry ∈ catalog.select patterns, ∃ branches : ParameterLocation → List Definition,
      catalog.TakesParameters entry.2 branches operation.parameters ∧
      (operation.HasUniqueParameters ↔ ∀ location, (branches location).Pairwise fun branch other =>
        (parameterNames branch).Disjoint (parameterNames other)) ∧
      (∀ name location, (operation.parameters.map fun parameter =>
          (parameter.name, parameter.location)).count (name, location) =
        ((branches location).flatMap parameterNames).count name) ∧
      (∀ location, ∀ branch ∈ branches location, ∀ name ∈ parameterNames branch,
        ∃ parameter ∈ operation.parameters, parameter.name = name ∧ parameter.location = location ∧
          parameter.isRequired = branch.requires name) ∧
      (operation.HasUniqueParameters → ∀ parameter ∈ operation.parameters,
        (parameter.isRequired = true ↔ ∃ branch ∈ branches parameter.location,
          parameter.name ∈ parameterNames branch ∧ branch.requires parameter.name = true)) ∧
      (catalog.Readable → ∀ node location property inner member,
        catalog.graph.lookupType entry.2 = .ok node →
        catalog.memberOf? node location.member = some property →
        catalog.graph.lookupType property.type = .ok member → member.isEmptyObject = false →
        catalog.nodeOf? property.type = some inner → catalog.IsParameters inner →
        (branches location).flatMap parameterNames = (catalog.parameterOutline inner).map Prod.fst) := by
  obtain ⟨hwhole, _⟩ := hcatalog.whole hvalid
  obtain ⟨entry, hentry, branches, h⟩ :=
    describesOperations_openApi hresult path key operation hoperation
  refine ⟨entry, hentry, branches, h, h.nodup_iff hgiven, h.count, fun location branch hbranch name =>
    h.exists_parameter hbranch, fun hunique parameter hmem => h.isRequired_iff hunique hmem, ?_⟩
  intro hreadable node location property inner member hnode hproperty hmember hnonempty hinner hparameters
  obtain ⟨same, hsame, hmembers⟩ := h.members
  obtain rfl := Except.ok.inj (hnode.symm.trans hsame)
  have hlocation := hmembers location
  generalize branches location = listed at hlocation ⊢
  cases hlocation with
  | missing hmissing => cases hmissing.symm.trans hproperty
  | described hfound hdescribes =>
    obtain rfl := Option.some.inj (hproperty.symm.trans hfound)
    refine hdescribes.names_of_types hwhole hreadable (fun other hother => ?_) hinner hparameters
    obtain rfl := Except.ok.inj (hmember.symm.trans hother)
    exact hnonempty

/-- A shape whose query is an intersection of two objects: the page that is asked for, which may be left
out, and another property, which may not. -/
def searching (other : String) : Catalog where
  graph :=
    { types := #[{ kind := .stringLiteral "/search" }, { kind := .stringLiteral "GET" },
        { kind := .never }, { kind := .object [{ symbol := ⟨5⟩, type := ⟨2⟩ }] true none },
        { kind := .string },
        { kind := .object [{ symbol := ⟨6⟩, type := ⟨4⟩, isOptional := true }] true none },
        { kind := .object [{ symbol := ⟨7⟩, type := ⟨4⟩ }] true none },
        { kind := .intersection [⟨5⟩, ⟨6⟩] },
        { kind := .object [{ symbol := ⟨1⟩, type := ⟨0⟩ }, { symbol := ⟨2⟩, type := ⟨1⟩ },
            { symbol := ⟨3⟩, type := ⟨7⟩ }, { symbol := ⟨4⟩, type := ⟨3⟩ }] false none
          symbol := some ⟨0⟩ }]
      symbols := #[{ name := "Search" }, { name := "path" }, { name := "method" }, { name := "query" },
        { name := "responses" }, { name := "200" }, { name := "page" }, { name := other }]
      declarations := [("Search", ⟨8⟩)] }
  declared := [("Search", ⟨8⟩)]

/-- The operation of the shape, if the call succeeds. -/
def searchOperation? (other : String) : Option Operation := do
  let document ← ((searching other).openApi [.exact "Search"] {}).result.toOption
  document.operationAt? "/search" "get"

/-- With another name each parameter is there once, required as its object has it. -/
theorem openApi_parameters_searching : ∃ operation, searchOperation? "size" = some operation ∧
    operation.parameters.map Parameter.outline = [("page", .query, false), ("size", .query, true)] ∧
    ∃ branches : ParameterLocation → List Definition,
      (searching "size").TakesParameters ⟨8⟩ branches operation.parameters ∧
      (branches .query).Pairwise fun branch other =>
        (parameterNames branch).Disjoint (parameterNames other) := by
  have hlooked : (searchOperation? "size").any (fun operation => decide operation.HasUniqueParameters &&
      decide (operation.parameters.map Parameter.outline =
        [("page", .query, false), ("size", .query, true)])) = true := by
    decide +kernel
  obtain ⟨operation, hoperation, hlooked⟩ := (Option.any_eq_true _ _).1 hlooked
  obtain ⟨hunique, houtline⟩ := Bool.and_eq_true_iff.1 hlooked
  have hfound := hoperation
  rw [searchOperation?] at hfound
  obtain ⟨document, hresult, hplaced⟩ := Option.bind_eq_some_iff.1 hfound
  have hcatalog : (searching "size").IsOf (searching "size").graph :=
    ⟨{}, Modules.none, searching "size", rfl, rfl⟩
  have hgiven : (searching "size").KeysGiven := ⟨List.forall_mem_nil _, List.nodup_nil, fun _ h => h⟩
  obtain ⟨entry, hentry, branches, htakes, hdisjoint, _⟩ :=
    openApi_parameters (by decide +kernel) hcatalog hgiven (Decoder.toOption_eq_some.1 hresult) hplaced
  have hselect : (searching "size").select [.exact "Search"] = [("Search", ⟨8⟩)] := by decide +kernel
  obtain rfl := List.mem_singleton.1 (hselect ▸ hentry)
  exact ⟨operation, hoperation, of_decide_eq_true houtline, branches, htakes,
    hdisjoint.1 (of_decide_eq_true hunique) .query⟩

/-- With the same name there are two parameters, and only one of them is required. -/
theorem exists_parameter_twice :
    (searching "page").graph.validate = .ok () ∧
    ofGraph (searching "page").graph {} Modules.none = .ok (searching "page") ∧
    ∃ operation, searchOperation? "page" = some operation ∧ ¬operation.HasUniqueParameters ∧
      operation.parameters.map Parameter.outline =
        [("page", .query, false), ("page", .query, true)] := by
  have hlooked : (searchOperation? "page").any (fun operation =>
      decide (operation.parameters.map Parameter.outline =
        [("page", .query, false), ("page", .query, true)]) &&
      !decide operation.HasUniqueParameters) = true := by
    decide +kernel
  obtain ⟨operation, hoperation, hlooked⟩ := (Option.any_eq_true _ _).1 hlooked
  obtain ⟨houtline, htwice⟩ := Bool.and_eq_true_iff.1 hlooked
  refine ⟨by decide +kernel, rfl, operation, hoperation, fun hunique => ?_, of_decide_eq_true houtline⟩
  simp [hunique] at htwice

end Catalog

end TypeSchema
