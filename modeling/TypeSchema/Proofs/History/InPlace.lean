import TypeSchema.Proofs.Context.Alike
import TypeSchema.Proofs.References.Recursion

/-!
# Building in place

Where schemas are built in place and no type leads back to itself, no name is met while it is under
construction.  So no reference is made and nothing is put into the table of definitions, and `placing`
is the contract that keeps this along a call.

What the stages of a request come to can then be said in full.  A request is planned without fail, and
not as a reference (`Catalog.post_plan_inPlace`), and what it took up is ended with the answer there is
(`Catalog.post_finish_inPlace`).  Neither stage touches the marks of properties, which are all that is
left for one request to tell another.
-/

set_option autoImplicit false

namespace TypeSchema

/-- Building the schema of a type never leads back to the type. -/
def Catalog.Acyclic (catalog : Catalog) : Prop :=
  ∀ id, ¬catalog.IsRecursive id

/-- No type leads back to itself where each is made of types that come before it. -/
theorem Catalog.Acyclic.of_decreasing {catalog : Catalog} (rank : TypeId → Nat)
    (h : ∀ {id part}, catalog.LeadsTo id part → rank part < rank id) : catalog.Acyclic := by
  have hdown : ∀ {id part}, Relation.TransGen catalog.LeadsTo id part → rank part < rank id := by
    intro id part hway
    induction hway with
    | single hleads => exact h hleads
    | tail _ hleads ih => exact (h hleads).trans ih
  exact fun id hcycle => (hdown hcycle).false

/-- Nothing is in the table of definitions, and nothing was put there. -/
structure InPlace (p : Progress) : Prop where
  reffed : p.context.reffed = []
  unpromoted : ∀ frame, .promoted frame ∉ p.journal

namespace InPlace

variable {p q : Progress}

theorem isReffed (h : InPlace p) (name : String) : p.context.isReffed name = false := by
  rw [Context.isReffed, Dict.contains, h.reffed]
  rfl

theorem of_unwritten (h : InPlace p) (hpq : Unwritten p q) : InPlace q where
  reffed := hpq.reffed.trans h.reffed
  unpromoted frame hmem :=
    h.unpromoted frame (mem_of_mem_writings (hpq.writings _ ▸ mem_writings hmem rfl))

theorem fresh {catalog : Catalog} (hinlines : catalog.Inlines) (root : ReferenceRoot) :
    InPlace (Contract.fresh catalog root) :=
  ⟨hinlines.overrides, fun _ hmem => by cases hmem⟩

end InPlace

open Catalog

/-- What is kept where schemas are built in place and no type leads back to itself. -/
def placing (catalog : Catalog) (hinlines : catalog.Inlines) (hacyclic : catalog.Acyclic) :
    Contract catalog where
  inv := InPlace
  root _ := True
  ask _ := Enclosed catalog fun _ => True
  target _ _ := True
  fault _ := True
  inv_step _ h _ _ htable := h.of_unwritten htable
  inv_promoted hrequest hreference hopens _ _ :=
    (hacyclic _ (hrequest.isRecursive hinlines hopens hreference)).elim
  inv_completed h hpromoted _ _ _ := (h.unpromoted _ hpromoted).elim
  inv_known _ _ := fun _ _ => trivial
  inv_applied _ _ h := h.of_unwritten ⟨rfl, fun _ => writings_cons_of_none rfl⟩
  ask_root _ hguard := .root hinlines trivial hguard
  ask_settles h hpq := h.settles hpq
  ask_part h hopens _ hasks := h.ofPart hinlines hopens hasks
  target_grows _ _ := trivial
  target_reffed _ := trivial
  extend _ _ _ := fun _ _ => trivial
  hook _ := fun _ _ => trivial
  fault_unwrap _ _ := trivial
  fault_exhausted _ _ := trivial
  fault_other _ := trivial

namespace Catalog

variable {catalog : Catalog} {hinlines : catalog.Inlines} {hacyclic : catalog.Acyclic}
  {request : Request} {subject : Subject} {frame : Frame} {p q r : Progress}

/-! ## Planning -/

section Planning

variable (hwhole : catalog.Whole)
  (hnode : catalog.graph.lookupType subject.id = .ok subject.node)
  (hnamed : ∀ id, subject.named = some id → catalog.graph.HasSymbol id)

include hwhole in
/-- A type of the graph can be given its name. -/
theorem post_ownName_marks {id : TypeId} (hid : catalog.graph.HasType id) :
    (catalog.ownName id).Post p (fun _ q => q.context.absent = p.context.absent)
      fun _ _ => False := by
  rw [ownName]
  refine BuildM.post_bind.2 (BuildM.post_context.2 ?_)
  split
  · rfl
  · obtain ⟨text, htext⟩ := hwhole.graph.found_typeText hid
    rw [printed, htext]
    rfl

theorem post_aliasName_marks (id : TypeId) (symbol : Symbol) :
    (catalog.aliasName id symbol).Post p (fun _ q => q.context.absent = p.context.absent)
      fun _ _ => False := by
  rw [aliasName]
  dsimp only
  split
  · rfl
  · rfl

include hnamed

/-- Symbols that are there are found, and looking them up leaves the progress as it is. -/
theorem post_overrideName?_same :
    (catalog.overrideName? subject.named).Post p (fun _ q => q = p) fun _ _ => False := by
  cases hname : subject.named with
  | none => rfl
  | some id =>
    obtain ⟨symbol, hsymbol⟩ := TypeGraph.found_symbol (hnamed id hname)
    rw [overrideName?, Catalog.symbol, hsymbol]
    rfl

theorem post_isPromoted_same (name : String) :
    (catalog.isPromoted subject name).Post p (fun _ q => q = p) fun _ _ => False := by
  rw [isPromoted]
  cases hname : subject.named with
  | none => rfl
  | some id =>
    obtain ⟨symbol, hsymbol⟩ := TypeGraph.found_symbol (hnamed id hname)
    dsimp only
    rw [Catalog.symbol, hsymbol]
    rfl

include hwhole hnode

theorem post_subjectName_marks (aliasReference : Bool) :
    (catalog.subjectName subject aliasReference).Post p
      (fun _ q => q.context.absent = p.context.absent) fun _ _ => False := by
  have hid := TypeGraph.hasType_of_lookupType hnode
  rw [subjectName]
  split
  · rename_i id halias
    have hsymbol : catalog.graph.HasSymbol id := by
      split at halias
      · exact hnamed id halias
      · cases halias
    obtain ⟨symbol, hsymbol⟩ := TypeGraph.found_symbol hsymbol
    rw [Catalog.symbol, hsymbol]
    exact post_aliasName_marks subject.id symbol
  · obtain ⟨declaring, hdeclaring⟩ := (hwhole.graph.nodeInRange hnode).found_declaringSymbol
    rw [hdeclaring]
    refine BuildM.post_bind.2 ((BuildM.post_pure declaring).2 ?_)
    split
    · exact (post_ownName_marks hwhole hid).bind fun _ _ h => h
    · refine (post_overrideName?_same hnamed).bind ?_
      rintro override _ rfl
      cases override with
      | some name => rfl
      | none => exact (post_ownName_marks hwhole hid).bind fun _ _ h => h

theorem post_plan_marks (asReference : Bool) :
    (catalog.plan subject asReference).Post p (fun _ q => q.context.absent = p.context.absent)
      fun _ _ => False := by
  have hrange := hwhole.graph.nodeInRange hnode
  obtain ⟨isRaw, hraw⟩ := hrange.found_isRaw
  obtain ⟨isStringUnion, hliterals⟩ := hrange.found_isStringUnion
  rw [plan, hraw, hliterals]
  refine BuildM.post_bind.2 ((BuildM.post_pure isRaw).2 ?_)
  refine BuildM.post_bind.2 ((BuildM.post_pure isStringUnion).2 ?_)
  refine (post_subjectName_marks hwhole hnode hnamed _).bind fun name q hq => ?_
  rw [takeUp]
  split
  · exact hq
  · refine BuildM.post_bind.2 (BuildM.post_context.2 ?_)
    split
    · exact hq
    · refine BuildM.post_bind.2 (BuildM.post_answer.2 ?_)
      refine (post_isPromoted_same hnamed name.text).bind ?_
      rintro promoted _ rfl
      exact hq

/-- What a request is planned as: its schema, and not a reference. -/
theorem post_plan_inPlace (hp : (placing catalog hinlines hacyclic).Holds p)
    (hrequest : Enclosed catalog (fun _ => True) request p)
    (hsubject : catalog.graph.unwrap (catalog.graph.types.size + 1) request.type request.named =
      .ok subject) :
    (catalog.plan subject request.asReference).Post p
      (fun plan q => (placing catalog hinlines hacyclic).Holds q ∧
        catalog.Planned request p ⟨subject, plan⟩ q ∧ plan.isReference = false ∧
        q.context.absent = p.context.absent)
      fun _ _ => False := by
  refine ((Contract.post_plan hp request hnode).and
    (post_plan_marks hwhole hnode hnamed request.asReference)).mono ?_ fun _ _ h => h.2
  rintro plan q ⟨⟨hq, hplan⟩, hmarks⟩
  refine ⟨hq, hplan, ?_, hmarks⟩
  by_contra hreference
  have hreference : plan.isReference = true := by simpa using hreference
  have hopens := Opens.shared hsubject hplan hreference (hq.inv.isReffed plan.name)
  exact hacyclic subject.id (hrequest.isRecursive hinlines hopens hreference)

end Planning

/-! ## Ending -/

/-- What was taken up is ended with the answer there is. -/
theorem post_finish_inPlace {answer : Definition} (hplan : catalog.Planned request p frame q)
    (hqr : Settles q r) (hr : InPlace r) :
    (finish frame answer).Post r
      (fun done s => done = answer ∧ s.context.absent = r.context.absent) fun _ _ => False := by
  have hguard := hplan.guard
  rw [← hqr.guard] at hguard
  cases htoken : frame.plan.token with
  | none =>
    rw [finish, htoken]
    exact ⟨rfl, rfl⟩
  | some token =>
    rw [BuildM.Post, exec_finish answer htoken (hguard.leave htoken),
      if_neg (by simpa [Context.isReffed] using hr.isReffed frame.plan.name)]
    exact ⟨rfl, rfl⟩

end Catalog

end TypeSchema
