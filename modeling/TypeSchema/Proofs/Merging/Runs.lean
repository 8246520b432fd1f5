import TypeSchema.Proofs.Building.Runs
import TypeSchema.Proofs.Merging.Placement

/-!
# Runs in a larger graph

What is built from a graph is built from a larger one in which it is placed in the same way:
`Shift.Carries` says of two constructions that the second one, from a progress that is moved, comes to
what the first one comes to, the answer and the progress moved, or fails in the same way at the type
moved.  There is one lemma for each operation that a rule is written with.

Two failures of the first construction say nothing about the second.  One is a lookup that finds
nothing, which there is none of in a graph without dangling positions.  The other is that the depth
runs out, if the second construction may go deeper; so the same judgement says that a construction
that ends does not depend on how deep it may go.
-/

set_option autoImplicit false

namespace TypeSchema

/-! ## Failures and progress -/

/-- The failure says nothing about a construction in a larger graph, which may go `deeper` or not. -/
def Error.IsOpen (deeper : Prop) : Error → Prop
  | .missing _ => True
  | .endlessType _ => deeper
  | _ => False

/-- The failure at the type moved.  Which type it is that has no end does not matter. -/
inductive Error.Moved (shift : Shift) : Error → Error → Prop
  | unsupportedType (text : String) (id : TypeId) :
      Moved shift (.unsupportedType text id) (.unsupportedType text (shift.type id))
  | endlessType (id id' : TypeId) : Moved shift (.endlessType id) (.endlessType id')
  | require (specifier : String) (fault : RequireFault) :
      Moved shift (.require specifier fault) (.require specifier fault)

/-- The progress moved: the same was logged, and in the contexts the same was done. -/
structure Progress.Moved (shift : Shift) (p q : Progress) : Prop where
  context : q.context = shift.context p.context
  log : q.log = p.log

namespace Shift

variable {shift : Shift} {deeper : Prop} {α β γ δ : Type} {R : α → β → Prop} {S : γ → δ → Prop}
  {m : BuildM α} {m' : BuildM β}

/-- From a progress moved the second construction comes to what the first one comes to. -/
def Carries (shift : Shift) (deeper : Prop) (R : α → β → Prop) (m : BuildM α) (m' : BuildM β) :
    Prop :=
  ∀ p q : Progress, p.Moved shift q →
    m.Post p (fun a p' => ∃ b q', m'.exec q = (.ok b, q') ∧ R a b ∧ p'.Moved shift q')
      fun e p' => e.IsOpen deeper ∨
        ∃ e' q', m'.exec q = (.error e', q') ∧ e.Moved shift e' ∧ p'.Moved shift q'

namespace Carries

theorem imp {R' : α → β → Prop} (h : shift.Carries deeper R m m') (hR : ∀ a b, R a b → R' a b) :
    shift.Carries deeper R' m m' :=
  fun p q hpq => (h p q hpq).imp fun a _ ⟨b, q', hrun, hab, hmoved⟩ =>
    ⟨b, q', hrun, hR a b hab, hmoved⟩

theorem pure {a : α} {b : β} (h : R a b) :
    shift.Carries deeper R (Pure.pure a) (Pure.pure b) :=
  fun _ q hpq => ⟨b, q, rfl, h, hpq⟩

theorem throw {e e' : Error} (h : e.IsOpen deeper ∨ e.Moved shift e') :
    shift.Carries deeper R (throw e : BuildM α) (throw e' : BuildM β) :=
  fun _ q hpq => h.imp_right fun hmoved => ⟨e', q, rfl, hmoved, hpq⟩

/-- A failure that says nothing about the second construction. -/
theorem giveUp {e : Error} (h : e.IsOpen deeper) :
    shift.Carries deeper R (MonadExcept.throw e : BuildM α) m' :=
  fun _ _ _ => .inl h

theorem bind {f : α → BuildM γ} {f' : β → BuildM δ} (hm : shift.Carries deeper R m m')
    (hf : ∀ a b, R a b → shift.Carries deeper S (f a) (f' b)) :
    shift.Carries deeper S (m >>= f) (m' >>= f') := by
  intro p q hpq
  have hfirst := hm p q hpq
  rw [BuildM.Post] at hfirst
  rw [BuildM.Post, BuildM.exec_bind, BuildM.exec_bind]
  generalize m.exec p = done at hfirst ⊢
  obtain ⟨e | a, p'⟩ := done
  · refine hfirst.imp_right ?_
    rintro ⟨e', q', hrun, hmoved⟩
    rw [hrun]
    exact ⟨e', q', rfl, hmoved⟩
  · obtain ⟨b, q', hrun, hab, hmoved⟩ := hfirst
    rw [hrun]
    exact hf a b hab p' q' hmoved

theorem map {f : α → γ} {f' : β → δ} (hm : shift.Carries deeper R m m')
    (hf : ∀ a b, R a b → S (f a) (f' b)) :
    shift.Carries deeper S (do return f (← m)) (do return f' (← m')) :=
  hm.bind fun a b hab => .pure (hf a b hab)

/-! ## Operations -/

theorem find {lookup : Except Missing α} {lookup' : Except Missing β} (h : Refound R lookup lookup') :
    shift.Carries deeper R (BuildM.find lookup) (BuildM.find lookup') := by
  cases lookup with
  | error missing => exact fun _ _ _ => .inl trivial
  | ok a =>
    obtain ⟨b, rfl, hab⟩ := h a rfl
    exact .pure hab

theorem note (entry : LogEntry) :
    shift.Carries deeper Same (BuildM.note entry) (BuildM.note entry) :=
  fun _ q hpq => ⟨(), q.note entry, rfl, rfl, hpq.context,
    congrArg (· ++ [entry]) hpq.log⟩

/-- Two events with one effect, at places that differ by the shift. -/
theorem act {event event' : Event}
    (h : ∀ c, event'.effect (shift.context c) = shift.context (event.effect c)) :
    shift.Carries deeper Same (BuildM.act event) (BuildM.act event') :=
  fun p q hpq => ⟨(), q.act event', rfl, rfl,
    by rw [Progress.act, hpq.context]; exact h p.context, hpq.log⟩

theorem answer {update : Context → α × Context} {update' : Context → β × Context}
    (h : ∀ c, R (update c).1 (update' (shift.context c)).1 ∧
      (update' (shift.context c)).2 = shift.context (update c).2) :
    shift.Carries deeper R (BuildM.answer update) (BuildM.answer update') := by
  intro p q hpq
  refine ⟨(update' q.context).1, q.withContext (update' q.context).2, rfl, ?_, ?_, hpq.log⟩
  · rw [hpq.context]
    exact (h p.context).1
  · rw [hpq.context]
    exact (h p.context).2

/-- What is read off the context is read off the context moved. -/
theorem context {f : Context → BuildM γ} {f' : Context → BuildM δ}
    (h : ∀ c, shift.Carries deeper S (f c) (f' (shift.context c))) :
    shift.Carries deeper S (BuildM.context >>= f) (BuildM.context >>= f') := by
  intro p q hpq
  have hrest := h p.context p q hpq
  rw [← hpq.context] at hrest
  exact hrest

/-! ## Loops -/

theorem mapM {ε : Type} {f : α → BuildM γ} {f' : ε → BuildM δ} {move : α → ε} {g : γ → δ}
    (l : List α) (h : ∀ a, shift.Carries deeper (fun c d => d = g c) (f a) (f' (move a))) :
    shift.Carries deeper (fun cs ds => ds = cs.map g) (l.mapM f) ((l.map move).mapM f') := by
  induction l with
  | nil =>
    rw [List.map_nil, List.mapM_nil, List.mapM_nil]
    exact .pure rfl
  | cons a rest ih =>
    rw [List.map_cons, List.mapM_cons, List.mapM_cons]
    refine (h a).bind ?_
    rintro c _ rfl
    refine ih.map ?_
    rintro cs _ rfl
    rfl

theorem foldlM {ε : Type} {f : γ → α → BuildM γ} {f' : γ → ε → BuildM γ} {move : α → ε}
    (l : List α) (start : γ)
    (h : ∀ done a, shift.Carries deeper Same (f done a) (f' done (move a))) :
    shift.Carries deeper Same (l.foldlM f start) ((l.map move).foldlM f' start) := by
  induction l generalizing start with
  | nil => exact .pure rfl
  | cons a rest ih =>
    rw [List.map_cons, List.foldlM_cons, List.foldlM_cons]
    refine (h start a).bind ?_
    rintro _ done rfl
    exact ih done

theorem forM {f : α → BuildM PUnit} (l : List α)
    (h : ∀ a, shift.Carries deeper Same (f a) (f a)) :
    shift.Carries deeper Same (l.forM f) (l.forM f) := by
  induction l with
  | nil => exact .pure rfl
  | cons a rest ih => exact (h a).bind fun _ _ _ => ih

theorem anyM {ε : Type} {f : α → BuildM Bool} {f' : ε → BuildM Bool} {move : α → ε} (l : List α)
    (h : ∀ a, shift.Carries deeper Same (f a) (f' (move a))) :
    shift.Carries deeper Same (l.anyM f) ((l.map move).anyM f') := by
  induction l with
  | nil => exact .pure rfl
  | cons a rest ih =>
    rw [List.map_cons, List.anyM_cons, List.anyM_cons]
    refine (h a).bind ?_
    rintro _ found rfl
    cases found with
    | true => exact .pure rfl
    | false => exact ih

theorem filterM {ε : Type} {f : α → BuildM Bool} {f' : ε → BuildM Bool} {move : α → ε} (l : List α)
    (h : ∀ a, shift.Carries deeper Same (f a) (f' (move a))) :
    shift.Carries deeper (fun as bs => bs = as.map move) (l.filterM f) ((l.map move).filterM f') := by
  suffices hall : ∀ kept : List α, shift.Carries deeper (fun as bs => bs = as.map move)
      (l.filterAuxM f kept) ((l.map move).filterAuxM f' (kept.map move)) by
    refine (hall []).map ?_
    rintro as _ rfl
    exact (List.map_reverse).symm
  induction l with
  | nil => exact fun kept => .pure rfl
  | cons a rest ih =>
    intro kept
    refine (h a).bind ?_
    rintro _ keep rfl
    cases keep with
    | true => exact ih (a :: kept)
    | false => exact ih kept

end Carries

end Shift

end TypeSchema
