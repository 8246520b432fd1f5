import TypeSchema.Proofs.Building.Calls
import TypeSchema.Proofs.Termination.Chains

/-!
# Constructions end

The builder carries a bound on its depth.  Here is why it is never reached where every cycle of the
graph has a guard.  A chain of nested constructions consists of guarded ones and of runs of free ones
between them.  A name guards two of them at most, and there are only so many names; a run goes along
the graph without meeting a type twice.  So the chain is shorter than the bound, and there is depth
left for every request (`Ready.depth_pos`).

**`Catalog.calls_end`** puts it together for calls: each ends with a document or with an error of the
program, and on the way no name is dispatched more than twice within itself.
-/

set_option autoImplicit false

namespace TypeSchema

open Relation

/-! ## Runs of free constructions -/

/-- A construction of a type of the graph, under a name it has come by. -/
structure Known (catalog : Catalog) (p : Progress) (frame : Frame) : Prop where
  node : catalog.graph.lookupType frame.subject.id = .ok frame.subject.node
  raw : catalog.graph.isRaw frame.subject.node = .ok frame.plan.isRaw
  named : catalog.Named p.context.names frame.subject frame.sourcedName

namespace Known

variable {catalog : Catalog} {p q : Progress} {frame : Frame}

theorem grows (h : Known catalog p frame) (hpq : Grows p q) : Known catalog q frame :=
  ⟨h.node, h.raw, h.named.grows hpq⟩

/-- The type of a free construction has no guard. -/
theorem not_isGuarded (h : Known catalog p frame) (hfree : frame.isGuarded = false) :
    ¬catalog.IsGuarded frame.subject.id := by
  rintro ⟨node, hnode, hguard⟩
  obtain rfl := Except.ok.inj (h.node.symm.trans hnode)
  simp only [Frame.isGuarded, Subject.isGuarded, Bool.or_eq_false_iff, Bool.not_eq_false'] at hfree
  rcases hguard with hraw | halias
  · have := Except.ok.inj (h.raw.symm.trans hraw)
    rw [hfree.1] at this
    cases this
  · rw [hfree.2] at halias
    cases halias

end Known

namespace Catalog

variable {catalog : Catalog} {chain : List Frame} {p : Progress}

/-- The inner construction was reached from the outer one, freely if the outer is free. -/
def Under (catalog : Catalog) (inner outer : Frame) : Prop :=
  outer.isGuarded = false → TransGen catalog.LeadsFreely outer.subject.id inner.subject.id

/-- A chain is no longer than its guarded constructions, each with a run of free ones inside it, and the
run of free ones that the chain begins with. -/
theorem exists_run (hgrounded : catalog.Grounded) (hchain : chain.IsChain catalog.Under)
    (hids : ∀ frame ∈ chain, frame.subject.id ∈ catalog.graph.ids) :
    ∃ run : List TypeId, run.IsChain (Function.swap (TransGen catalog.LeadsFreely)) ∧
      (∀ id ∈ run, id ∈ catalog.graph.ids) ∧
      (∀ id ∈ run.head?, ∃ frame ∈ chain.head?, frame.isGuarded = false ∧ frame.subject.id = id) ∧
      chain.length ≤
        (chain.filter Frame.isGuarded).length * (catalog.graph.types.size + 1) + run.length := by
  induction chain with
  | nil => exact ⟨[], .nil, by simp, by simp, Nat.zero_le _⟩
  | cons frame rest ih =>
    obtain ⟨hunder, hrest⟩ := List.isChain_cons.1 hchain
    obtain ⟨hid, hids⟩ := List.forall_mem_cons.1 hids
    obtain ⟨run, hrun, hmem, hhead, hlength⟩ := ih hrest hids
    by_cases hguarded : frame.isGuarded = true
    · -- A new run begins inside a guarded construction; the old one has its full length at most.
      have hle : run.length ≤ catalog.graph.types.size :=
        TypeGraph.length_le_of_isChain (R := Function.swap (TransGen catalog.LeadsFreely))
          hgrounded hrun hmem
      refine ⟨[], .nil, by simp, by simp, ?_⟩
      rw [List.filter_cons_of_pos hguarded, List.length_cons, List.length_cons, Nat.succ_mul]
      simp only [List.length_nil]
      omega
    · rw [Bool.not_eq_true] at hguarded
      refine ⟨frame.subject.id :: run, ?_, List.forall_mem_cons.2 ⟨hid, hmem⟩, ?_, ?_⟩
      · refine List.isChain_cons.2 ⟨fun id hid => ?_, hrun⟩
        obtain ⟨outer, houter, hfree, rfl⟩ := hhead id hid
        exact hunder outer houter hfree
      · exact fun id hid => ⟨frame, rfl, hguarded, Option.some.inj hid⟩
      · rw [List.filter_cons_of_neg (by simp [hguarded]), List.length_cons, List.length_cons]
        omega

end Catalog

/-! ## Depth -/

/-- The request may be made with the depth: it is what the chain of constructions around it has left
of the bound, no name occurs too often in the chain, and the type was reached from its first
construction. -/
structure Ready (catalog : Catalog) (depth : Nat) (request : Request) (p : Progress) : Prop where
  depth : depth + request.above.length = catalog.depthBound
  tallied : Tallied request.above p
  known : ∀ frame ∈ request.above, Known catalog p frame
  chain : request.above.IsChain catalog.Under
  part : ∀ frame ∈ request.above.head?, frame.isGuarded = false →
    catalog.LeadsFreely frame.subject.id request.type

namespace Ready

variable {catalog : Catalog} {depth : Nat} {request part : Request} {p q : Progress} {frame : Frame}

/-- A request that a call makes itself has all of the depth. -/
theorem root (hguard : p.context.guard = []) (habove : request.above = []) :
    Ready catalog catalog.depthBound request p := by
  refine ⟨?_, ?_, ?_, ?_, ?_⟩ <;> rw [habove]
  · rfl
  · exact .nil hguard
  · exact List.forall_mem_nil _
  · exact .nil
  · simp

theorem settles (h : Ready catalog depth request p) (hpq : Settles p q) :
    Ready catalog depth request q where
  depth := h.depth
  tallied := h.tallied.settles hpq
  known frame hmem := (h.known frame hmem).grows hpq.toGrows
  chain := h.chain
  part := h.part

/-- A request for a part has one less. -/
theorem ofPart (h : Ready catalog (depth + 1) request p) (hopens : catalog.Opens request p frame q)
    (hasks : catalog.Asks request frame.subject part) :
    Ready catalog depth { part with above := frame :: request.above } q := by
  obtain ⟨hnode, -, hwraps⟩ := TypeGraph.unwrap_subject hopens.subject
  have hleads := Catalog.leadsTo_part hopens.subject hasks
  have hknown : Known catalog q frame := ⟨hnode, hopens.raw, hopens.named⟩
  refine ⟨?_, h.tallied.opens hopens, List.forall_mem_cons.2 ⟨hknown, fun outer hmem => ?_⟩,
    List.isChain_cons.2 ⟨fun outer hmem hfree => ?_, h.chain⟩, fun outer hmem hfree => ?_⟩
  · rw [List.length_cons, ← h.depth]
    omega
  · exact (h.known outer hmem).grows hopens.grows
  · exact Catalog.transGen_leadsFreely (h.part outer hmem hfree) hwraps
  · obtain rfl := Option.some.inj hmem
    exact ⟨hleads, fun hguarded => absurd hguarded (hknown.not_isGuarded hfree)⟩

/-- **There is depth left for every request.** -/
theorem depth_pos (h : Ready catalog depth request p) (hgrounded : catalog.Grounded)
    (hsupplied : Supplied catalog p.context.names) : 0 < depth := by
  obtain ⟨run, hrun, hids, _, hlength⟩ := Catalog.exists_run hgrounded h.chain
    fun frame hmem => TypeGraph.mem_ids (h.known frame hmem).node
  have hrun : run.length ≤ catalog.graph.types.size :=
    TypeGraph.length_le_of_isChain (R := Function.swap (TransGen catalog.LeadsFreely))
      hgrounded hrun hids
  have hguarded : (request.above.filter Frame.isGuarded).length ≤
      2 * (catalog.supply p.context.names).length := by
    refine length_le_two_mul (fun frame hmem => ?_) fun name => (h.tallied.twice name).length_le
    have hknown := h.known frame (List.mem_filter.1 hmem).1
    exact hknown.named.mem_supply hknown.node
  have hsupply := Catalog.length_supply_le hsupplied
  have hdepth := h.depth
  simp only [Catalog.depthBound] at hdepth
  generalize (catalog.graph.types.size + 1) * (catalog.graph.symbols.size + 2) = names at *
  have hbelow : (request.above.filter Frame.isGuarded).length * (catalog.graph.types.size + 1) ≤
      (4 * names) * (catalog.graph.types.size + 1) :=
    Nat.mul_le_mul_right _ (by omega)
  rw [Nat.add_mul] at hdepth
  omega

end Ready

/-! ## The contract -/

/-- Only the types of the graph were given names, and whatever rule was applied, the chain of
constructions around it has no name too often. -/
structure Bounded (catalog : Catalog) (p : Progress) : Prop where
  supplied : Supplied catalog p.context.names
  applied : ∀ chain, .applied chain ∈ p.journal → ∀ name, Dispatches p.journal (ofName chain name)

namespace Bounded

variable {catalog : Catalog} {p q : Progress} {request : Request} {frame : Frame} {depth : Nat}

theorem of_grows (h : Bounded catalog p) (hpq : Grows p q)
    (hsupplied : Supplied catalog q.context.names)
    (hsame : ∀ chain, .applied chain ∈ q.journal → .applied chain ∈ p.journal) :
    Bounded catalog q where
  supplied := hsupplied
  applied chain hmem name :=
    (h.applied chain (hsame chain hmem) name).mono fun _ hevent => hpq.mem_journal hevent

theorem step (h : Bounded catalog p) (hstep : catalog.Step p q) : Bounded catalog q :=
  h.of_grows hstep.grows (h.supplied.step hstep) fun _ hmem => hstep.mem_journal rfl hmem

theorem complete (h : Bounded catalog p) (definition : Definition) :
    Bounded catalog (p.act (.completed frame definition)) where
  supplied := h.supplied
  applied chain hmem name :=
    (h.applied chain (Progress.mem_of_mem_act hmem (by simp)) name).mono fun _ hevent =>
      List.mem_cons_of_mem _ hevent

theorem apply (h : Bounded catalog q) (hready : Ready catalog (depth + 1) request p)
    (hopens : catalog.Opens request p frame q) :
    Bounded catalog (q.act (.applied (frame :: request.above))) where
  supplied := h.supplied
  applied chain hmem name := by
    have hlater : ∀ event ∈ q.journal,
        event ∈ (q.act (.applied (frame :: request.above))).journal :=
      fun _ hevent => List.mem_cons_of_mem _ hevent
    rcases List.mem_cons.1 hmem with heq | hold
    · cases heq
      exact ((hready.tallied.opens hopens).twice name).mono hlater
    · exact (h.applied chain hold name).mono hlater

end Bounded

/-- What is kept where every cycle has a guard: requests are ready, and the depth suffices for them. -/
def termination (catalog : Catalog) (hgrounded : catalog.Grounded) : Contract catalog where
  inv := Bounded catalog
  root _ := True
  ask := Ready catalog
  target _ _ := True
  fault error := ∀ id, error ≠ .endlessType id
  inv_step _ h hstep _ _ := h.step hstep
  inv_promoted _ _ _ h hstep := h.step hstep
  inv_completed h _ _ _ _ := h.complete _
  inv_known _ _ := fun _ _ => trivial
  inv_applied hready hopens h := h.apply hready hopens
  ask_root _ hguard := .root hguard rfl
  ask_settles hready hpq := hready.settles hpq
  ask_part hready hopens _ hasks := hready.ofPart hopens hasks
  target_grows _ _ := trivial
  target_reffed _ := trivial
  extend _ _ _ := fun _ _ => trivial
  hook _ := fun _ _ => trivial
  fault_unwrap _ hfault _ heq := hgrounded.unwrap_ne_endless _ _ _ (heq ▸ hfault)
  fault_exhausted h hready := absurd (hready.depth_pos hgrounded h.supplied) (Nat.lt_irrefl 0)
  fault_other h := h

theorem bounded_fresh (catalog : Catalog) (root : ReferenceRoot) :
    Bounded catalog (Contract.fresh catalog root) :=
  ⟨.empty, fun _ h => absurd h List.not_mem_nil⟩

namespace Catalog

theorem schemas_ne_endless {catalog : Catalog} (hgrounded : catalog.Grounded)
    (patterns : List NamePattern) (id : TypeId) :
    (catalog.schemas patterns).result ≠ .error (.endlessType id) := by
  intro hendless
  cases hpatterns : patterns.isEmpty with
  | true => simp [schemas, hpatterns] at hendless
  | false =>
    obtain ⟨q, _, _, ⟨e, he, hfault⟩ | ⟨roots, hdone, _⟩⟩ :=
      (termination catalog hgrounded).schemas_kept (bounded_fresh catalog _) (fun _ _ => trivial)
        hpatterns
    · exact hfault id (Except.error.inj (he.symm.trans hendless))
    · cases hdone.symm.trans hendless

theorem openApi_ne_endless {catalog : Catalog} (hgrounded : catalog.Grounded)
    (patterns : List NamePattern) (metadata : OpenApi.Metadata) (id : TypeId) :
    (catalog.openApi patterns metadata).result ≠ .error (.endlessType id) := by
  intro hendless
  cases hpatterns : patterns.isEmpty with
  | true => simp [openApi, hpatterns] at hendless
  | false =>
    obtain ⟨q, _, _, ⟨e, he, hfault⟩ | ⟨document, hdone, _⟩⟩ :=
      (termination catalog hgrounded).openApi_kept (bounded_fresh catalog _) (fun _ => trivial)
        (fun _ _ _ => trivial) hpatterns metadata
    · exact hfault id (Except.error.inj (he.symm.trans hendless))
    · cases hdone.symm.trans hendless

/-- **Constructions end** where every cycle of the graph has a guard: no call runs into the bound on the
depth, so it has a document or an error of the program for an answer.  And in the chain of guarded
constructions around any rule that is applied no name occurs more than twice. -/
theorem calls_end (catalog : Catalog) (hgrounded : catalog.Grounded) :
    (∀ patterns id, (catalog.schemas patterns).result ≠ .error (.endlessType id)) ∧
    (∀ patterns metadata id,
      (catalog.openApi patterns metadata).result ≠ .error (.endlessType id)) ∧
    ∀ journal, catalog.Journals journal → ∀ chain, .applied chain ∈ journal →
      ∀ name, Dispatches journal (ofName chain name) := by
  refine ⟨schemas_ne_endless hgrounded, openApi_ne_endless hgrounded, fun journal hjournal => ?_⟩
  obtain ⟨q, rfl, hinv⟩ := (termination catalog hgrounded).journals_kept (bounded_fresh catalog)
    (fun _ => trivial) (fun _ _ _ => trivial) hjournal
  exact hinv.applied

/-- A catalog of one declaration that refers to itself. -/
def selfReference : Catalog where
  graph :=
    { types := #[{ kind := .object [{ symbol := ⟨1⟩, type := ⟨0⟩, isOptional := true }] false none
                   symbol := some ⟨0⟩ }]
      symbols := #[{ name := "T" }, { name := "next" }]
      declarations := [("T", ⟨0⟩)] }
  declared := [("T", ⟨0⟩)]

theorem grounded_selfReference : selfReference.Grounded := by
  have hids : ∀ id ∈ selfReference.graph.ids, id = ⟨0⟩ := by decide
  have hwraps : ∀ id inner, ¬selfReference.graph.Wraps id inner := by
    rintro id inner ⟨node, hnode, hwrapped⟩
    obtain rfl := hids id (TypeGraph.mem_ids hnode)
    cases hnode
    cases hwrapped
  intro id hcycle
  obtain ⟨part, ⟨hleads, hfree⟩, _⟩ := TransGen.head'_iff.1 hcycle
  rcases hleads with hwrap | ⟨node, hnode, _⟩
  · exact hwraps _ _ hwrap
  · obtain rfl := hids id (TypeGraph.mem_ids hnode)
    obtain ⟨inner, hwrap⟩ := hfree ⟨_, rfl, .inl rfl⟩
    exact hwraps _ _ hwrap

/-- The self reference is ended by the guard of its type. -/
theorem calls_end_selfReference :
    (∀ patterns id, (selfReference.schemas patterns).result ≠ .error (.endlessType id)) ∧
    (∀ patterns metadata id,
      (selfReference.openApi patterns metadata).result ≠ .error (.endlessType id)) ∧
    ∀ journal, selfReference.Journals journal → ∀ chain, .applied chain ∈ journal →
      ∀ name, Dispatches journal (ofName chain name) :=
  calls_end selfReference grounded_selfReference

/-- A catalog of one declaration: an array of a wrapper around the array. -/
def wrappedArray : Catalog where
  graph :=
    { types := #[{ kind := .object [] false none, numberIndex := some ⟨1⟩ },
        { kind := .any, aliasSymbol := some ⟨0⟩, aliasArguments := [⟨0⟩] }]
      symbols := #[{ name := "Readonly" }]
      declarations := [("A", ⟨0⟩)] }
  declared := [("A", ⟨0⟩)]

/-- Where a relation has one step only, which goes elsewhere, nothing comes back. -/
theorem not_transGen_of_step {R : TypeId → TypeId → Prop} {source target : TypeId}
    (hne : source ≠ target) (hstep : ∀ a b, R a b → a = source ∧ b = target) (id : TypeId) :
    ¬TransGen R id id := by
  intro hcycle
  obtain ⟨_, hfirst, _⟩ := TransGen.head'_iff.1 hcycle
  obtain ⟨_, _, hlast⟩ := TransGen.tail'_iff.1 hcycle
  exact hne ((hstep _ _ hfirst).1.symm.trans (hstep _ _ hlast).2)

theorem wraps_wrappedArray {id inner : TypeId} (h : wrappedArray.graph.Wraps id inner) :
    id = ⟨1⟩ ∧ inner = ⟨0⟩ := by
  have hids : ∀ id ∈ wrappedArray.graph.ids, id = ⟨0⟩ ∨ id = ⟨1⟩ := by decide
  obtain ⟨node, hnode, hwrapped⟩ := h
  rcases hids id (TypeGraph.mem_ids hnode) with rfl | rfl
  · cases hnode
    cases hwrapped
  · cases hnode
    cases hwrapped
    exact ⟨rfl, rfl⟩

theorem leadsTo_wrappedArray {id part : TypeId} (h : wrappedArray.LeadsTo id part)
    (hfree : ¬wrappedArray.IsGuarded id) : id = ⟨0⟩ ∧ part = ⟨1⟩ := by
  have hids : ∀ id ∈ wrappedArray.graph.ids, id = ⟨0⟩ ∨ id = ⟨1⟩ := by decide
  rcases h with hwraps | ⟨node, hnode, _, hpart⟩
  · obtain ⟨rfl, _⟩ := wraps_wrappedArray hwraps
    exact absurd ⟨_, rfl, .inr rfl⟩ hfree
  · rcases hids id (TypeGraph.mem_ids hnode) with rfl | rfl
    · cases hnode
      cases hpart with
      | item hindex =>
        cases hindex
        exact ⟨rfl, rfl⟩
      | property hmem => cases hmem
      | member hkind _ => cases hkind
      | factor hkind _ => cases hkind
      | element hkind _ => cases hkind
      | value hkind => cases hkind
      | subtype hsymbol => cases hsymbol
    · exact absurd ⟨_, rfl, .inr rfl⟩ hfree

/-- A guard that is looked through ends nothing: every cycle of this graph leads through a type with a
guard, which is the wrapper, and no chain of wrappers returns to itself; yet its constructions do not
end. -/
theorem exists_endless :
    wrappedArray.graph.validate = .ok () ∧
    ofGraph wrappedArray.graph wrappedArray.options Modules.none = .ok wrappedArray ∧
    (∀ id, ¬TransGen (fun a b => wrappedArray.LeadsTo a b ∧ ¬wrappedArray.IsGuarded a) id id) ∧
    (∀ id, ¬TransGen wrappedArray.graph.Wraps id id) ∧
    ∃ id, (wrappedArray.schemas [.exact "A"]).result = .error (.endlessType id) := by
  refine ⟨rfl, rfl, ?_, ?_, ?_⟩
  · exact not_transGen_of_step (by decide) fun _ _ h => leadsTo_wrappedArray h.1 h.2
  · exact not_transGen_of_step (by decide) fun _ _ h => wraps_wrappedArray h
  · have hendless : (match (wrappedArray.schemas [.exact "A"]).result with
        | .error (.endlessType _) => true
        | _ => false) = true := by decide +kernel
    split at hendless
    · rename_i id hresult
      exact ⟨id, hresult⟩
    · cases hendless

end Catalog

end TypeSchema
