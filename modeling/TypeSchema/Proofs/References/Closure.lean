import TypeSchema.Proofs.Building.Calls
import TypeSchema.Proofs.References.Documents

/-!
# References resolve

A reference is made before the definition it points to is complete: in the middle of a cycle, or while
the definition is built that refers to itself.  What makes up for that is the table of definitions.
Whoever makes a reference either finds the name in the table or puts it there at once, with an empty
definition that holds the place; and whoever took the place completes the definition before answering.
So at all times what is in the table refers to names in the table (`Closed.known`), and when a call is
over every place that was taken is filled (`Settles.made`).

**`Catalog.references_resolve`** says this of documents: every reference in a document points to a
definition of that document, and the definition is a given one or one that was completed, which is
empty only where the structure of its type yields no keyword (`Catalog.HollowSubject`).
-/

set_option autoImplicit false

namespace TypeSchema

open OpenApi

/-! ## What is given -/

/-- Neither the definitions that are given nor any tag of a doc comment refer to anything. -/
structure Catalog.RefersToNothing (catalog : Catalog) : Prop where
  overrides : ∀ entry ∈ catalog.overrides, ∀ target, ¬entry.2.toJson.Refers target
  tags : ∀ symbol ∈ catalog.graph.symbols.toList, ∀ tag ∈ symbol.tags, ∀ annotations,
    catalog.reader.addTag symbol {} tag = .ok annotations →
      ∀ target, ¬annotations.definition.toJson.Refers target

/-- Nor do the annotations that are read from doc comments refer to anything else. -/
theorem Catalog.RefersToNothing.extend {catalog : Catalog} {P : String → Prop} {id : SymbolId}
    {symbol : Symbol} {annotations extended : Annotations} (h : catalog.RefersToNothing)
    (hsymbol : catalog.graph.lookupSymbol id = .ok symbol)
    (hannotations : annotations.definition.RefersOnly P)
    (hextend : catalog.reader.extend annotations symbol = .ok extended) :
    extended.definition.RefersOnly P := by
  refine AnnotationReader.refersOnly_extend hannotations (fun tag htag alone halone target ht => ?_)
    hextend
  exact absurd ht (h.tags _ (TypeGraph.mem_symbols hsymbol) tag htag alone halone target)

/-- The definition of the name is not a place that is only taken: it is given, or it was completed, and
then it says something unless the structure of its type yields no keyword. -/
def Catalog.Finished (catalog : Catalog) (journal : List Event) (name : String)
    (definition : Definition) : Prop :=
  (name, definition) ∈ catalog.overrides ∨
    ∃ frame, frame.plan.name = name ∧ .completed frame definition ∈ journal ∧
      (definition = [] → catalog.HollowSubject frame.subject)

/-! ## The invariant -/

/-- The target is a name of the table, behind the path to the table. -/
def Context.Knows (context : Context) (target : String) : Prop :=
  ∃ name, context.isReffed name = true ∧ target = context.root.path ++ name

theorem Grows.knows {p q : Progress} {target : String} (h : Grows p q)
    (hknown : p.context.Knows target) : q.context.Knows target := by
  obtain ⟨name, hreffed, rfl⟩ := hknown
  exact ⟨name, h.reffed name hreffed, by rw [h.root]⟩

/-- What is in the table refers to what is in the table.  The given definitions stand first in it and
stay what they are; every other name stands in it once. -/
structure Closed (catalog : Catalog) (p : Progress) : Prop where
  known : ∀ name definition, Dict.get? p.context.reffed name = some definition →
    definition.RefersOnly p.context.Knows
  table : ∃ built, p.context.reffed = catalog.overrides ++ built ∧ (Dict.keys built).Nodup ∧
    ∀ name ∈ Dict.keys built, ¬Dict.contains catalog.overrides name = true
  promoted : ∀ frame, .promoted frame ∈ p.journal →
    ¬Dict.contains catalog.overrides frame.plan.name = true
  completed : ∀ frame definition, .completed frame definition ∈ p.journal → definition = [] →
    catalog.HollowSubject frame.subject

namespace Closed

variable {catalog : Catalog} {p q : Progress} {frame : Frame} {definition : Definition}

/-- A change that leaves the table and adds no event about it. -/
theorem of_same (h : Closed catalog p) (hpq : Grows p q)
    (hreffed : q.context.reffed = p.context.reffed)
    (hpromoted : ∀ frame, .promoted frame ∈ q.journal → .promoted frame ∈ p.journal)
    (hcompleted : ∀ frame definition, .completed frame definition ∈ q.journal →
      .completed frame definition ∈ p.journal) : Closed catalog q where
  known name definition hget :=
    (h.known name definition (hreffed ▸ hget)).mono fun _ hknown => hpq.knows hknown
  table := hreffed ▸ h.table
  promoted frame hmem := h.promoted frame (hpromoted frame hmem)
  completed frame definition hmem := h.completed frame definition (hcompleted frame definition hmem)

/-- A name that is not given is written into the table. -/
theorem table_insert (h : Closed catalog p) {name : String}
    (hname : ¬Dict.contains catalog.overrides name = true) (definition : Definition) :
    ∃ built, Dict.insert p.context.reffed name definition = catalog.overrides ++ built ∧
      (Dict.keys built).Nodup ∧
      ∀ name ∈ Dict.keys built, ¬Dict.contains catalog.overrides name = true := by
  obtain ⟨built, hbuilt, hnodup, hnew⟩ := h.table
  refine ⟨Dict.insert built name definition, ?_, Dict.nodup_keys_insert hnodup, ?_⟩
  · rw [hbuilt, Dict.insert_append hname]
  · intro other hother
    rw [Dict.keys_insert] at hother
    split at hother
    · exact hnew other hother
    · rcases List.mem_append.1 hother with hold | hadded
      · exact hnew other hold
      · exact List.mem_singleton.1 hadded ▸ hname

/-- What stands in the table after a definition is written refers to what may be referred to. -/
theorem known_insert (h : Closed catalog p) (hpq : Grows p q) {name : String}
    (hreffed : q.context.reffed = Dict.insert p.context.reffed name definition)
    (hdefinition : definition.RefersOnly q.context.Knows) (other : String) (found : Definition)
    (hget : Dict.get? q.context.reffed other = some found) : found.RefersOnly q.context.Knows := by
  rw [hreffed, Dict.get?_insert] at hget
  split at hget
  · exact Option.some.inj hget ▸ hdefinition
  · exact (h.known other found hget).mono fun _ hknown => hpq.knows hknown

/-- The place of a name that is not known is taken. -/
theorem promote (h : Closed catalog p)
    (hnamed : catalog.Named p.context.names frame.subject frame.sourcedName)
    (hnew : p.context.isReffed frame.plan.name = false) :
    Closed catalog (p.act (.promoted frame)) := by
  have hgiven : ¬Dict.contains catalog.overrides frame.plan.name = true := by
    obtain ⟨built, hbuilt, _, _⟩ := h.table
    intro hcontains
    obtain ⟨given, hgiven⟩ := Option.isSome_iff_exists.1 hcontains
    simp [Context.isReffed, Dict.contains, hbuilt, Dict.get?_append, hgiven] at hnew
  have hpq : Grows p (p.act (.promoted frame)) := (Catalog.Step.promoted hnamed hnew).grows
  refine ⟨h.known_insert hpq rfl Definition.refersOnly_empty, h.table_insert hgiven _, ?_, ?_⟩
  · intro other hmem
    rcases List.mem_cons.1 hmem with heq | hold
    · cases heq
      exact hgiven
    · exact h.promoted other hold
  · intro other definition hmem
    rcases List.mem_cons.1 hmem with heq | hold
    · cases heq
    · exact h.completed other definition hold

/-- A definition is completed. -/
theorem complete (h : Closed catalog p)
    (hpromoted : .promoted frame ∈ p.journal) (hdefinition : definition.RefersOnly p.context.Knows)
    (hhollow : definition = [] → catalog.HollowSubject frame.subject) :
    Closed catalog (p.act (.completed frame definition)) := by
  have hpq : Grows p (p.act (.completed frame definition)) := .completed p frame definition
  have hdefinition' := hdefinition.mono fun _ hknown => hpq.knows hknown
  refine ⟨h.known_insert hpq rfl hdefinition', h.table_insert (h.promoted frame hpromoted) _, ?_, ?_⟩
  · intro other hmem
    rcases List.mem_cons.1 hmem with heq | hold
    · cases heq
    · exact h.promoted other hold
  · intro other found hmem
    rcases List.mem_cons.1 hmem with heq | hold
    · cases heq
      exact hhollow
    · exact h.completed other found hold

/-- Every step keeps the table closed. -/
theorem step (h : Closed catalog p) (hstep : catalog.Step p q) : Closed catalog q := by
  have hgrows := hstep.grows
  cases hstep with
  | noted entry => exact h.of_same hgrows rfl (fun _ hm => hm) fun _ _ hm => hm
  | named htype hbase hfresh => exact h.of_same hgrows rfl (fun _ hm => hm) fun _ _ hm => hm
  | entered name => exact h.of_same hgrows rfl (fun _ hm => hm) fun _ _ hm => hm
  | left name token =>
    obtain ⟨guard, hleave⟩ := p.context.leave_eq name token
    rw [hleave] at hgrows ⊢
    exact h.of_same hgrows rfl (fun _ hm => hm) fun _ _ hm => hm
  | @dropped owner _ =>
    obtain ⟨absent, hmark⟩ := p.context.markAbsent_eq owner
    refine h.of_same hgrows (by simp [Event.effect, hmark]) (fun _ hm => ?_) fun _ _ hm => ?_
    · exact Progress.mem_of_mem_act hm (by simp)
    · exact Progress.mem_of_mem_act hm (by simp)
  | listed _ =>
    refine h.of_same hgrows rfl (fun _ hm => ?_) fun _ _ hm => ?_
    · exact Progress.mem_of_mem_act hm (by simp)
    · exact Progress.mem_of_mem_act hm (by simp)
  | referred _ =>
    refine h.of_same hgrows rfl (fun _ hm => ?_) fun _ _ hm => ?_
    · exact Progress.mem_of_mem_act hm (by simp)
    · exact Progress.mem_of_mem_act hm (by simp)
  | promoted hnamed hnew => exact h.promote hnamed hnew

theorem apply (h : Closed catalog p) (chain : List Frame) :
    Closed catalog (p.act (.applied chain)) := by
  refine h.of_same (Settles.act _ ⟨_, rfl⟩ rfl).toGrows rfl (fun _ hm => ?_) fun _ _ hm => ?_
  · exact Progress.mem_of_mem_act hm (by simp)
  · exact Progress.mem_of_mem_act hm (by simp)

end Closed

/-- So does an entry of the table that is hidden by one before it: it is a given one. -/
theorem Closed.known_of_mem {catalog : Catalog} {p : Progress} (h : Closed catalog p)
    (hgiven : catalog.RefersToNothing) {entry : String × Definition}
    (hmem : entry ∈ p.context.reffed) : entry.2.RefersOnly p.context.Knows := by
  obtain ⟨built, hbuilt, hnodup, hnew⟩ := h.table
  rcases List.mem_append.1 (hbuilt ▸ hmem) with hgiven' | hmem'
  · exact fun target ht => absurd ht (hgiven.overrides entry hgiven' target)
  · have hname := hnew entry.1 (List.mem_map.2 ⟨_, hmem', rfl⟩)
    refine h.known entry.1 entry.2 ?_
    rw [hbuilt, Dict.get?_append, Dict.get?_eq_none_of_not_contains hname, Option.none_or]
    exact Dict.get?_of_mem hnodup hmem'

/-! ## The contract -/

/-- What is kept where nothing that is given refers to anything: references point to names of the
table. -/
def closure (catalog : Catalog) (hhook : catalog.hook = id) (hgiven : catalog.RefersToNothing) :
    Contract catalog where
  inv := Closed catalog
  root _ := True
  ask _ _ _ := True
  target text p := p.context.Knows text
  fault _ := True
  inv_step _ h hstep _ _ := h.step hstep
  inv_promoted _ _ _ h hstep := h.step hstep
  inv_completed h hpromoted _ hdefinition hhollow := h.complete hpromoted hdefinition hhollow
  inv_known h hget := h.known _ _ hget
  inv_applied _ _ h := h.apply _
  ask_root _ _ := trivial
  ask_settles _ _ := trivial
  ask_part _ _ _ _ := trivial
  target_grows h hpq := hpq.knows h
  target_reffed h := ⟨_, h, rfl⟩
  extend hsymbol h hextend := hgiven.extend hsymbol h hextend
  hook h := by
    rw [hhook]
    exact h
  fault_unwrap _ _ := trivial
  fault_exhausted _ _ := trivial
  fault_other _ := trivial

theorem closed_fresh {catalog : Catalog} (hgiven : catalog.RefersToNothing) (root : ReferenceRoot) :
    Closed catalog (Contract.fresh catalog root) := by
  refine ⟨fun name definition hget target ht => ?_, ⟨[], ?_, List.nodup_nil, ?_⟩, ?_, ?_⟩
  · exact absurd ht (hgiven.overrides _ (Dict.mem_of_get? hget) target)
  · exact (List.append_nil _).symm
  · exact List.forall_mem_nil _
  · exact fun _ h => absurd h List.not_mem_nil
  · exact fun _ _ h => absurd h List.not_mem_nil

/-- Every entry of the table is finished once everything has settled. -/
theorem Closed.finished {catalog : Catalog} {root : ReferenceRoot} {q : Progress}
    (h : Closed catalog q) (hsettles : Settles (Contract.fresh catalog root) q) {name : String}
    {definition : Definition} (hmem : (name, definition) ∈ q.context.reffed) :
    catalog.Finished q.journal name definition := by
  obtain ⟨built, hbuilt, hnodup, hnew⟩ := h.table
  rw [hbuilt] at hmem
  rcases List.mem_append.1 hmem with hmem | hmem
  · exact .inl hmem
  · have hname : ¬Dict.contains catalog.overrides name = true :=
      hnew name (List.mem_map.2 ⟨_, hmem, rfl⟩)
    have hget : Dict.get? q.context.reffed name = some definition := by
      rw [hbuilt, Dict.get?_append, Dict.get?_eq_none_of_not_contains hname, Option.none_or]
      exact Dict.get?_of_mem hnodup hmem
    have hfresh : (Contract.fresh catalog root).context.isReffed name = false := by
      simpa [Contract.fresh, Context.start, Context.isReffed] using hname
    obtain ⟨frame, hframe, hcompleted⟩ := hsettles.made hfresh hget
    exact .inr ⟨frame, hframe, hcompleted, h.completed frame definition hcompleted⟩

/-! ## Documents -/

namespace Catalog

variable {catalog : Catalog} {patterns : List NamePattern} {target : String}

/-- A document refers to what its definitions refer to. -/
theorem refersOnly_schemasJson {P : String → Prop} {definitions : Dict Definition}
    (h : ∀ entry ∈ definitions, entry.2.RefersOnly P) : (schemasJson definitions).RefersOnly P :=
  Json.refersOnly_object.2 (Json.entriesOnly_single (by decide)
    (Json.refersOnly_dict (fun _ => ⟨_, rfl⟩) h))

/-- References in a document of definitions point to its definitions. -/
theorem schemas_resolve (hhook : catalog.hook = id) (hgiven : catalog.RefersToNothing)
    {definitions : Dict Definition} (hresult : (catalog.schemas patterns).result = .ok definitions)
    (htarget : (schemasJson definitions).Refers target) :
    ∃ name definition, target = "#/definitions/" ++ name ∧
      Dict.get? definitions name = some definition ∧
      catalog.Finished (catalog.schemas patterns).journal name definition := by
  cases hpatterns : patterns.isEmpty with
  | true =>
    rw [schemas, if_pos hpatterns] at hresult
    obtain rfl := Except.ok.inj hresult
    exact absurd htarget (refersOnly_schemasJson (P := fun _ => False) (List.forall_mem_nil _) target)
  | false =>
    obtain ⟨q, hjournal, hclosed, ⟨e, he, _⟩ | ⟨roots, hdone, hsettles, hroots⟩⟩ :=
      (closure catalog hhook hgiven).schemas_kept (closed_fresh hgiven _) (fun _ _ => trivial)
        hpatterns
    · rw [hresult] at he
      cases he
    · obtain rfl := Except.ok.inj (hresult.symm.trans hdone)
      have hall : (schemasJson (Dict.extend (Dict.ofEntries roots) q.context.reffed)).RefersOnly
          q.context.Knows := by
        refine refersOnly_schemasJson fun entry hentry => ?_
        rcases Dict.mem_of_mem_extend hentry with hroot | hshared
        · obtain ⟨_, _, hroot⟩ := exists_left_of_forall₂ hroots (Dict.mem_of_mem_ofEntries hroot)
          exact hroot.good
        · exact hclosed.known_of_mem hgiven hshared
      obtain ⟨name, hreffed, rfl⟩ := hall target htarget
      obtain ⟨definition, hget, hmem⟩ :=
        Dict.get?_extend_of_contains (d := Dict.ofEntries roots) hreffed
      refine ⟨name, definition, ?_, hget, hjournal ▸ hclosed.finished hsettles hmem⟩
      rw [hsettles.root]
      rfl

/-- A name of the table has a schema among the components, the caller's own or that of the table. -/
theorem exists_component {blank : Document} {table : Dict Definition} {name : String}
    (h : Dict.contains table name = true) :
    ∃ definition, Dict.get? (blank.addSchemas table).components.schemas name = some definition ∧
      ((name, definition) ∈ blank.components.schemas ∨ (name, definition) ∈ table) := by
  obtain ⟨shared, hshared⟩ := Option.isSome_iff_exists.1 h
  have hget : Dict.get? (blank.addSchemas table).components.schemas name =
      (Dict.get? blank.components.schemas name).or (some shared) :=
    (Dict.get?_foldl_insertNew _).trans (by rw [hshared])
  cases hcallers : Dict.get? blank.components.schemas name with
  | some definition =>
    refine ⟨definition, ?_, .inl (Dict.mem_of_get? hcallers)⟩
    rw [hget, hcallers, Option.some_or]
  | none =>
    refine ⟨shared, ?_, .inr (Dict.mem_of_get? hshared)⟩
    rw [hget, hcallers, Option.none_or]

/-- References in an OpenAPI document point to the schemas of its components. -/
theorem openApi_resolve (hhook : catalog.hook = id)
    (hcustom : catalog.options.customOperationEntries = false) (hgiven : catalog.RefersToNothing)
    {metadata : Metadata} (hmetadata : ∀ target, ¬metadata.toJson.Refers target)
    {document : Document} (hresult : (catalog.openApi patterns metadata).result = .ok document)
    (htarget : document.toJson.Refers target) :
    ∃ name definition, target = "#/components/schemas/" ++ name ∧
      Dict.get? document.components.schemas name = some definition ∧
      ((name, definition) ∈ (metadata.components.getD {}).schemas ∨
        catalog.Finished (catalog.openApi patterns metadata).journal name definition) := by
  have hcaller : ∀ {P : String → Prop}, metadata.toJson.RefersOnly P :=
    fun target ht => absurd ht (hmetadata target)
  cases hpatterns : patterns.isEmpty with
  | true =>
    simp only [openApi, hpatterns, if_true] at hresult
    obtain rfl := Except.ok.inj hresult
    have hnone := refersOnly_document (P := fun _ => False) catalog.options.version hcaller
      (List.forall_mem_nil _) (refersOnly_callerComponents hcaller).1
    exact absurd htarget (hnone target)
  | false =>
    have hoff : catalog.options.customOperationEntries = true →
        ∀ text q, (closure catalog hhook hgiven).target text q := by
      intro hon
      rw [hcustom] at hon
      cases hon
    obtain ⟨q, hjournal, hclosed, ⟨e, he, _⟩ | ⟨shapes, hdone, hsettles, paths, rfl, hpaths⟩⟩ :=
      (closure catalog hhook hgiven).openApi_kept (closed_fresh hgiven _) (fun _ => trivial) hoff
        hpatterns metadata
    · rw [hresult] at he
      cases he
    · obtain rfl := Except.ok.inj (hresult.symm.trans hdone)
      have hschemas : ∀ entry ∈ q.context.reffed.foldl
          (fun done entry => Dict.insertNew done entry.1 entry.2)
          (metadata.components.getD {}).schemas, entry.2.RefersOnly q.context.Knows := by
        intro entry hentry
        rcases Dict.mem_of_mem_foldl_insertNew hentry with hcallers | hshared
        · exact (refersOnly_callerComponents hcaller).1 entry hcallers
        · exact hclosed.known_of_mem hgiven hshared
      obtain ⟨name, hreffed, rfl⟩ :=
        refersOnly_document catalog.options.version hcaller hpaths hschemas target htarget
      obtain ⟨definition, hget, hmem⟩ := exists_component hreffed
      rw [hsettles.root]
      exact ⟨name, definition, rfl, hget,
        hmem.imp_right fun hshared => hjournal ▸ hclosed.finished hsettles hshared⟩

/-- **References resolve**: what a document refers to are definitions of the document, behind the path
to them, and no definition that is referred to is a place that was only taken. -/
theorem references_resolve (catalog : Catalog) (patterns : List NamePattern)
    (hhook : catalog.hook = id) (hcustom : catalog.options.customOperationEntries = false)
    (hgiven : catalog.RefersToNothing) :
    (∀ definitions, (catalog.schemas patterns).result = .ok definitions →
      ∀ target, (schemasJson definitions).Refers target →
        ∃ name definition, target = "#/definitions/" ++ name ∧
          Dict.get? definitions name = some definition ∧
          catalog.Finished (catalog.schemas patterns).journal name definition) ∧
    ∀ metadata : Metadata, (∀ target, ¬metadata.toJson.Refers target) →
      ∀ document, (catalog.openApi patterns metadata).result = .ok document →
        ∀ target, document.toJson.Refers target →
          ∃ name definition, target = "#/components/schemas/" ++ name ∧
            Dict.get? document.components.schemas name = some definition ∧
            ((name, definition) ∈ (metadata.components.getD {}).schemas ∨
              catalog.Finished (catalog.openApi patterns metadata).journal name definition) :=
  ⟨fun _ hresult _ htarget => schemas_resolve hhook hgiven hresult htarget,
    fun _ hmetadata _ hresult _ htarget =>
      openApi_resolve hhook hcustom hgiven hmetadata hresult htarget⟩

/-- A catalog of one declaration that refers to itself. -/
def linkedNodes : Catalog where
  graph :=
    { types := #[{ kind := .object [{ symbol := ⟨1⟩, type := ⟨0⟩ }] false none, symbol := some ⟨0⟩ }]
      symbols := #[{ name := "Node" }, { name := "next" }]
      declarations := [("Node", ⟨0⟩)] }
  declared := [("Node", ⟨0⟩)]

theorem refersToNothing_linkedNodes : linkedNodes.RefersToNothing where
  overrides := List.forall_mem_nil _
  tags symbol hsymbol := by
    have hplain : ∀ symbol ∈ linkedNodes.graph.symbols.toList, symbol.tags = [] := by decide
    rw [hplain symbol hsymbol]
    exact List.forall_mem_nil _

/-- Where the property of the node refers to. -/
def linkedNodesTarget? (definitions : Dict Definition) : Option String :=
  (((((schemasJson definitions).get? "definitions").bind (·.get? "Node")).bind
    (·.get? "properties")).bind (·.get? "next")).bind (·.get? "$ref") |>.bind Json.text?

theorem refers_of_linkedNodesTarget? {definitions : Dict Definition} {target : String}
    (h : linkedNodesTarget? definitions = some target) : (schemasJson definitions).Refers target := by
  obtain ⟨reference, h, htext⟩ := Option.bind_eq_some_iff.1 h
  obtain ⟨next, h, hreference⟩ := Option.bind_eq_some_iff.1 h
  obtain ⟨properties, h, hnext⟩ := Option.bind_eq_some_iff.1 h
  obtain ⟨node, h, hproperties⟩ := Option.bind_eq_some_iff.1 h
  obtain ⟨all, hall, hnode⟩ := Option.bind_eq_some_iff.1 h
  exact ((((Json.Refers.of_get?_ref hreference htext).of_get? hnext).of_get? hproperties).of_get?
    hnode).of_get? hall

/-- The node refers to itself, and to a definition of its document. -/
theorem references_resolve_linkedNodes : ∃ definitions,
    (linkedNodes.schemas [.exact "Node"]).result = .ok definitions ∧
      (schemasJson definitions).Refers "#/definitions/Node" ∧
      ∃ name definition, "#/definitions/Node" = "#/definitions/" ++ name ∧
        Dict.get? definitions name = some definition ∧
        linkedNodes.Finished (linkedNodes.schemas [.exact "Node"]).journal name definition := by
  have htarget : (linkedNodes.schemas [.exact "Node"]).result.toOption.bind linkedNodesTarget? =
      some "#/definitions/Node" := by decide +kernel
  cases hresult : (linkedNodes.schemas [.exact "Node"]).result with
  | error error =>
    rw [hresult] at htarget
    cases htarget
  | ok definitions =>
    rw [hresult] at htarget
    have hrefers := refers_of_linkedNodesTarget? htarget
    exact ⟨definitions, rfl, hrefers,
      (references_resolve linkedNodes [.exact "Node"] rfl rfl refersToNothing_linkedNodes).1 _
        hresult _ hrefers⟩

end Catalog

end TypeSchema
