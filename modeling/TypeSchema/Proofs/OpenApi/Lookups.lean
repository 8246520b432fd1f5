import TypeSchema.Proofs.Building.Abreast
import TypeSchema.Proofs.Building.Operations
import TypeSchema.Proofs.OpenApi.Outlines

/-!
# What the assembler only looks up

To read a shape the assembler looks types and symbols up in the graph, and it builds something only
for the members that carry schemas.  All else it does is idle: it comes to the same from wherever it
starts and leaves everything as it is.  This file says so of each function, and what is known of
their answers.
-/

set_option autoImplicit false

namespace TypeSchema.Catalog

open OpenApi BuildM

variable {catalog : Catalog} {id : TypeId} {node : TypeNode} {property : Property}

/-! ## Idle parts -/

section Idle

variable (catalog)

theorem idle_type (id : TypeId) : (catalog.type id).Idle := .find _

theorem idle_symbol (id : SymbolId) : (catalog.symbol id).Idle := .find _

theorem idle_annotations (id : SymbolId) : (catalog.annotations id).Idle :=
  (catalog.idle_symbol id).bind fun _ => .take _

theorem idle_isPlainObject (node : TypeNode) : (catalog.isPlainObject node).Idle := by
  rw [isPlainObject]
  split
  · exact .pure true
  · exact (Idle.mapM catalog.idle_type _).bind fun _ => .pure _
  · exact .pure false

theorem idle_shapeMember? (node : TypeNode) (key : String) : (catalog.shapeMember? node key).Idle := by
  rw [shapeMember?]
  have heach : ∀ property : Property,
      (do return ((← catalog.symbol property.symbol).name, property) :
        BuildM (String × Property)).Idle := fun property =>
    (catalog.idle_symbol property.symbol).bind fun _ => .pure _
  exact (Idle.mapM heach _).bind fun _ => .pure _

theorem idle_requiredMember (shape : String) (node : TypeNode) (key : String) :
    (catalog.requiredMember shape node key).Idle := by
  rw [requiredMember]
  refine (catalog.idle_shapeMember? node key).bind fun member => ?_
  cases member with
  | some property => exact .pure property
  | none => exact .throw _

theorem idle_literalMember (shape key : String) (property : Property) :
    (catalog.literalMember shape key property).Idle := by
  rw [literalMember]
  refine (catalog.idle_type _).bind fun node => ?_
  split
  · exact .pure _
  · exact .throw _

theorem idle_shapeMethod (shape : String) (property : Property) :
    (catalog.shapeMethod shape property).Idle := by
  rw [shapeMethod]
  refine (catalog.idle_literalMember shape "method" property).bind fun text => ?_
  split
  · exact .pure _
  · exact .throw _

theorem idle_shapeAnnotations (node : TypeNode) : (catalog.shapeAnnotations node).Idle := by
  rw [shapeAnnotations]
  split
  · exact (catalog.idle_annotations _).bind fun _ => (catalog.idle_symbol _).bind fun _ => .pure _
  · exact .pure _

theorem idle_checkResponse (shape status : String) (node : TypeNode) :
    (catalog.checkResponse shape status node).Idle := by
  rw [checkResponse]
  split
  · exact .pure ()
  · refine (catalog.idle_isPlainObject node).bind fun isPlain => ?_
    split
    · exact .pure ()
    · exact .throw _

theorem idle_customEntry (property : Property) : (catalog.customEntry property).Idle := by
  rw [customEntry]
  refine (catalog.idle_symbol _).bind fun symbol => ?_
  dsimp only
  split
  · exact .pure none
  · exact (catalog.idle_type _).bind fun node => .pure _

theorem idle_customEntries (node : TypeNode) : (catalog.customEntries node).Idle := by
  rw [customEntries]
  split
  · exact (Idle.mapM catalog.idle_customEntry _).bind fun _ => .pure _
  · exact .pure []

end Idle

/-! ## What is found -/

/-- Whether the type is an object or an intersection of objects only. -/
def isPlain (catalog : Catalog) (node : TypeNode) : Bool :=
  match node.kind with
  | .object _ _ _ => true
  | .intersection members =>
    members.all fun id => (catalog.graph.lookupType id).toOption.any TypeNode.isObject
  | _ => false

theorem lookupType_of_exec (h : ∀ p, (catalog.type id).exec p = (.ok node, p)) :
    catalog.graph.lookupType id = .ok node := by
  have hpost : (catalog.type id).Post (Contract.fresh catalog .components)
      (fun answer _ => catalog.graph.lookupType id = .ok answer) fun _ _ => True :=
    .find (fun _ hnode => hnode) fun _ => trivial
  exact hpost.of_exec (h _)

theorem post_types (members : List TypeId) (p : Progress) :
    (members.mapM catalog.type).Post p (fun nodes _ => nodes.all TypeNode.isObject =
      members.all fun id => (catalog.graph.lookupType id).toOption.any TypeNode.isObject)
      fun _ _ => True := by
  induction members with
  | nil =>
    rw [List.mapM_nil]
    exact (post_pure _).2 rfl
  | cons id rest ih =>
    rw [List.mapM_cons]
    refine post_bind.2 (.find (fun node hnode => ?_) fun _ => trivial)
    refine ih.bind fun nodes q hnodes => (post_pure _).2 ?_
    rw [List.all_cons, List.all_cons, hnodes, hnode]
    rfl

theorem isPlain_of_exec {answer : Bool}
    (h : ∀ p, (catalog.isPlainObject node).exec p = (.ok answer, p)) :
    catalog.isPlain node = answer := by
  have hpost : (catalog.isPlainObject node).Post (Contract.fresh catalog .components)
      (fun answer _ => catalog.isPlain node = answer) fun _ _ => True := by
    rw [isPlainObject, isPlain]
    cases node.kind with
    | intersection members =>
      exact (post_types members _).bind fun nodes q hnodes => (post_pure _).2 hnodes.symm
    | _ => exact (post_pure _).2 rfl
  exact hpost.of_exec (h _)

/-- A member that is found is one of the shape, and it has the name. -/
theorem mem_of_shapeMember? {key : String}
    (h : ∀ p, (catalog.shapeMember? node key).exec p = (.ok (some property), p)) :
    property ∈ node.properties ∧ catalog.nameOf property = key := by
  have hfresh : (Contract.free catalog).Holds (Contract.fresh catalog .components) :=
    Contract.holds_fresh trivial
  have hpost := Contract.answers_shapeMember? node key hfresh
  obtain ⟨_, _, hfound⟩ := hpost.of_exec (h _)
  obtain ⟨hmem, symbol, hsymbol, hname⟩ := hfound property rfl
  exact ⟨hmem, (nameOf_eq hsymbol).trans hname⟩

end TypeSchema.Catalog
