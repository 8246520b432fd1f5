import Mathlib.Logic.Relation
import TypeSchema.Schema.Resolution

/-!
# Looking through wrappers

`TypeGraph.unwrap` follows the first arguments of the aliases that only concern mutability.  What it
finds is a type of the graph that is no such alias, at the end of a chain of them; and it fails where
something is missing or where the chain is longer than the number of levels allowed.
-/

set_option autoImplicit false

namespace TypeSchema.TypeGraph

variable {graph : TypeGraph}

/-- The type is a wrapper around the other one. -/
def Wraps (graph : TypeGraph) (id inner : TypeId) : Prop :=
  ∃ node, graph.lookupType id = .ok node ∧ graph.wrapped? node = .ok (some inner)

/-- What is no wrapper is found at once. -/
theorem unwrap_of_not_wrapped {id : TypeId} {node : TypeNode} (levels : Nat) (named : Option SymbolId)
    (hnode : graph.lookupType id = .ok node) (hwrapped : graph.wrapped? node = .ok none) :
    graph.unwrap (levels + 1) id named = .ok ⟨id, node, named⟩ := by
  rw [unwrap, hnode]
  show (graph.wrapped? node).mapError Error.missing >>= _ = _
  rw [hwrapped]
  rfl

/-- Inside a wrapper the search goes on. -/
theorem unwrap_of_wraps {id inner : TypeId} (levels : Nat) (named : Option SymbolId)
    (h : graph.Wraps id inner) :
    graph.unwrap (levels + 1) id named = graph.unwrap levels inner none := by
  obtain ⟨node, hnode, hwrapped⟩ := h
  rw [unwrap, hnode]
  show (graph.wrapped? node).mapError Error.missing >>= _ = _
  rw [hwrapped]
  rfl

/-- What looking through wrappers comes to, one wrapper at a time. -/
theorem unwrap_succ (levels : Nat) (id : TypeId) (named : Option SymbolId) :
    (∃ missing, graph.unwrap (levels + 1) id named = .error (.missing missing)) ∨
    (∃ inner, graph.Wraps id inner ∧
      graph.unwrap (levels + 1) id named = graph.unwrap levels inner none) ∨
    ∃ node, graph.lookupType id = .ok node ∧ graph.wrapped? node = .ok none ∧
      graph.unwrap (levels + 1) id named = .ok ⟨id, node, named⟩ := by
  cases hnode : graph.lookupType id with
  | error missing => exact .inl ⟨missing, by rw [unwrap, hnode]; rfl⟩
  | ok node =>
    cases hwrapped : graph.wrapped? node with
    | error missing =>
      refine .inl ⟨missing, ?_⟩
      rw [unwrap, hnode]
      show (graph.wrapped? node).mapError Error.missing >>= _ = _
      rw [hwrapped]
      rfl
    | ok found =>
      cases found with
      | some inner =>
        have hwraps : graph.Wraps id inner := ⟨node, hnode, hwrapped⟩
        exact .inr (.inl ⟨inner, hwraps, unwrap_of_wraps levels named hwraps⟩)
      | none =>
        exact .inr (.inr ⟨node, rfl, hwrapped, unwrap_of_not_wrapped levels named hnode hwrapped⟩)

/-- Which type is found does not depend on the name that was asked by. -/
theorem exists_unwrap {levels : Nat} {id : TypeId} {named : Option SymbolId} {subject : Subject}
    (h : graph.unwrap levels id named = .ok subject) (other : Option SymbolId) :
    ∃ same, graph.unwrap levels id other = .ok same ∧ same.id = subject.id ∧
      same.node = subject.node := by
  cases levels with
  | zero => cases h
  | succ levels =>
    rcases unwrap_succ levels id named with ⟨_, heq⟩ | ⟨inner, hwraps, heq⟩ |
      ⟨node, hnode, hwrapped, heq⟩
    · cases heq.symm.trans h
    · exact ⟨subject, (unwrap_of_wraps levels other hwraps).trans (heq.symm.trans h), rfl, rfl⟩
    · obtain rfl := Except.ok.inj (heq.symm.trans h)
      exact ⟨⟨id, node, other⟩, unwrap_of_not_wrapped levels other hnode hwrapped, rfl, rfl⟩

/-- What is found inside all wrappers is a type of the graph, and no wrapper itself. -/
theorem unwrap_subject {levels : Nat} {id : TypeId} {named : Option SymbolId} {subject : Subject}
    (h : graph.unwrap levels id named = .ok subject) :
    graph.lookupType subject.id = .ok subject.node ∧ graph.wrapped? subject.node = .ok none ∧
      Relation.ReflTransGen graph.Wraps id subject.id := by
  induction levels generalizing id named with
  | zero => simp [unwrap] at h
  | succ levels ih =>
    rcases unwrap_succ levels id named with ⟨missing, heq⟩ | ⟨inner, hwraps, heq⟩ |
      ⟨node, hnode, hwrapped, heq⟩
    · rw [heq] at h; cases h
    · rw [heq] at h
      obtain ⟨hlookup, hnone, hpath⟩ := ih h
      exact ⟨hlookup, hnone, hpath.head hwraps⟩
    · rw [heq] at h
      cases h
      exact ⟨hnode, hwrapped, .refl⟩

end TypeSchema.TypeGraph
