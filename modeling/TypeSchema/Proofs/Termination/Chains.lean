import TypeSchema.Proofs.Termination.Names

/-!
# Chains of constructions

Constructions are nested in each other, and each is guarded by its name or free.  Among those that are
guarded no name occurs more than twice (`Dispatches`): the outer one took up the construction of the
name; the inner one met the name under construction, found no definition in the table, and put one
there.  The third time the name is met there is a definition, and a reference is all that is made.

That this holds of the chain of every request, and which names are under construction, is `Tallied`: it
is kept by settling, and opening one more construction keeps it (`Tallied.opens`).
-/

set_option autoImplicit false

namespace TypeSchema

open Relation

/-- The guarded constructions of the name in the chain, the innermost first. -/
def ofName (chain : List Frame) (name : String) : List Frame :=
  (chain.filter Frame.isGuarded).filter fun frame => frame.plan.name == name

theorem ofName_cons {frame : Frame} {chain : List Frame} {name : String} :
    ofName (frame :: chain) name =
      if frame.isGuarded = true ∧ frame.plan.name = name then frame :: ofName chain name
      else ofName chain name := by
  by_cases hguarded : frame.isGuarded = true
  · simp [ofName, hguarded, List.filter_cons]
  · simp [ofName, hguarded]

/-- The constructions of a name that may be nested in each other: none; that which took it up; or that
one with the one inside that put the name into the table. -/
inductive Dispatches (journal : List Event) : List Frame → Prop
  | none : Dispatches journal []
  | owner {frame : Frame} {token : Nat} (htoken : frame.plan.token = some token) :
      Dispatches journal [frame]
  | promoter {frame outer : Frame} {token : Nat} (htoken : outer.plan.token = some token)
      (hagain : frame.plan.token = none) (hpromoted : .promoted frame ∈ journal) :
      Dispatches journal [frame, outer]

theorem Dispatches.mono {earlier later : List Event} {frames : List Frame}
    (h : Dispatches earlier frames) (hsub : ∀ event ∈ earlier, event ∈ later) :
    Dispatches later frames := by
  cases h with
  | none => exact .none
  | owner htoken => exact .owner htoken
  | promoter htoken hagain hpromoted => exact .promoter htoken hagain (hsub _ hpromoted)

theorem Dispatches.length_le {journal : List Event} {frames : List Frame}
    (h : Dispatches journal frames) : frames.length ≤ 2 := by
  cases h <;> simp

/-- Where no name occurs more than twice, there are at most two frames for each name. -/
theorem length_le_two_mul {frames : List Frame} {names : List String}
    (hmem : ∀ frame ∈ frames, frame.plan.name ∈ names)
    (htwice : ∀ name, (frames.filter fun frame => frame.plan.name == name).length ≤ 2) :
    frames.length ≤ 2 * names.length := by
  induction names generalizing frames with
  | nil => simp [List.eq_nil_iff_forall_not_mem.2 fun frame h => List.not_mem_nil (hmem frame h)]
  | cons name rest ih =>
    have hothers : (frames.filter fun frame => !(frame.plan.name == name)).length ≤
        2 * rest.length := by
      refine ih (fun frame hframe => ?_) fun other => ?_
      · obtain ⟨hframe, hne⟩ := List.mem_filter.1 hframe
        refine (List.mem_cons.1 (hmem frame hframe)).resolve_left fun heq => ?_
        simp [heq] at hne
      · exact ((List.filter_sublist).filter _).length_le.trans (htwice other)
    have hsplit := List.length_eq_length_filter_add (l := frames)
      fun frame : Frame => frame.plan.name == name
    have hname := htwice name
    rw [List.length_cons]
    omega

/-- The chain of constructions under way, and the names under construction. -/
structure Tallied (chain : List Frame) (p : Progress) : Prop where
  twice : ∀ name, Dispatches p.journal (ofName chain name)
  building : ∀ name, p.context.isBuilding name = true ↔ ofName chain name ≠ []
  reffed : ∀ frame ∈ chain, frame.isGuarded = true → frame.plan.token = none →
    p.context.isReffed frame.plan.name = true

namespace Tallied

variable {catalog : Catalog} {request : Request} {chain : List Frame} {p q : Progress}
  {frame : Frame}

theorem nil (h : p.context.guard = []) : Tallied [] p where
  twice _ := .none
  building name := by simp [Context.isBuilding, h, ofName, Dict.contains]
  reffed := List.forall_mem_nil _

/-- Nothing is under construction in the end that was not before. -/
theorem settles (h : Tallied chain p) (hpq : Settles p q) : Tallied chain q where
  twice name := (h.twice name).mono fun _ hmem => hpq.mem_journal hmem
  building name := by
    rw [← h.building, Context.isBuilding, hpq.guard, Context.isBuilding]
  reffed frame hmem hguarded hagain := hpq.reffed _ (h.reffed frame hmem hguarded hagain)

/-- What is opened and leaves the names under construction as they are, guarded or not. -/
theorem cons (h : Tallied chain p) (hpq : Grows p q) (hguard : q.context.guard = p.context.guard)
    (hfresh : frame.isGuarded = true → ∃ outer token, ofName chain frame.plan.name = [outer] ∧
      outer.plan.token = some token ∧ frame.plan.token = none ∧ .promoted frame ∈ q.journal)
    (hreffed : frame.isGuarded = true → q.context.isReffed frame.plan.name = true) :
    Tallied (frame :: chain) q where
  twice name := by
    rw [ofName_cons]
    split
    · rename_i hname
      obtain ⟨hguarded, rfl⟩ := hname
      obtain ⟨outer, token, heq, htoken, hagain, hpromoted⟩ := hfresh hguarded
      rw [heq]
      exact .promoter htoken hagain hpromoted
    · exact (h.twice name).mono fun _ hmem => hpq.mem_journal hmem
  building name := by
    rw [Context.isBuilding, hguard, ← Context.isBuilding, h.building, ofName_cons]
    split
    · rename_i hname
      obtain ⟨hguarded, rfl⟩ := hname
      obtain ⟨outer, token, heq, _⟩ := hfresh hguarded
      simp [heq]
    · rfl
  reffed other hmem hguarded hagain := by
    rcases List.mem_cons.1 hmem with rfl | hmem
    · exact hreffed hguarded
    · exact hpq.reffed _ (h.reffed other hmem hguarded hagain)

/-- A name that is under construction and not in the table was taken up, and not met again. -/
theorem eq_owner (h : Tallied chain p) {name : String} (hbuilding : p.context.isBuilding name = true)
    (hnew : p.context.isReffed name = false) :
    ∃ outer token, ofName chain name = [outer] ∧ outer.plan.token = some token := by
  have htwice := h.twice name
  have hsome := (h.building name).1 hbuilding
  generalize heq : ofName chain name = frames at htwice hsome
  cases htwice with
  | none => exact absurd rfl hsome
  | owner htoken => exact ⟨_, _, rfl, htoken⟩
  | @promoter inner outer token _ hagain _ =>
    have hmem : inner ∈ ofName chain name := heq ▸ List.mem_cons_self
    obtain ⟨hmem, hname⟩ := List.mem_filter.1 hmem
    obtain ⟨hchain, hguarded⟩ := List.mem_filter.1 hmem
    have hreffed := h.reffed inner hchain hguarded hagain
    rw [eq_of_beq hname, hnew] at hreffed
    cases hreffed

/-- One more construction is opened. -/
theorem opens (h : Tallied request.above p) (hopens : catalog.Opens request p frame q) :
    Tallied (frame :: request.above) q := by
  have hgrows := hopens.grows
  have hguard := hopens.guard
  generalize hafter : q.context.guard = after at hguard
  cases hguard with
  | unguarded hguarded _ =>
    exact h.cons hgrows hafter (by simp [hguarded]) (by simp [hguarded])
  | again hguarded hbuilding hagain hreference =>
    obtain ⟨hnew, hpromoted, hreffed⟩ := hopens.promotes hreference
    obtain ⟨outer, token, heq, htoken⟩ := h.eq_owner hbuilding hnew
    exact h.cons hgrows hafter (fun _ => ⟨outer, token, heq, htoken, hagain, hpromoted⟩)
      fun _ => hreffed
  | @first token hguarded hnew htoken =>
    have hnone : ofName request.above frame.plan.name = [] := by
      by_contra hsome
      exact hnew ((h.building _).2 hsome)
    refine ⟨fun name => ?_, fun name => ?_, fun other hmem hother hagain => ?_⟩
    · rw [ofName_cons]
      split
      · rename_i hname
        rw [← hname.2, hnone]
        exact .owner htoken
      · exact (h.twice name).mono fun _ hmem => hgrows.mem_journal hmem
    · rw [Context.isBuilding, hafter, Dict.contains_insert, Bool.or_eq_true, ofName_cons]
      by_cases hname : frame.plan.name = name
      · simp [hguarded, hname]
      · simpa [hname, Context.isBuilding] using h.building name
    · rcases List.mem_cons.1 hmem with rfl | hmem
      · rw [htoken] at hagain
        cases hagain
      · exact hgrows.reffed _ (h.reffed other hmem hother hagain)

end Tallied

end TypeSchema
