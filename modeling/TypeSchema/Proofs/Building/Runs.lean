import TypeSchema.Schema.Building

/-!
# What a construction comes to

A construction takes the progress of a call, answers or fails, and leaves a progress in both cases.
`BuildM.Post m p Q E` says what that comes to from the progress `p`: if `m` answers, `Q` holds of the
answer and of the progress it leaves, and if it fails, `E` holds of the error and of that progress.

There is one lemma for each operation a rule is written with, so that a statement about a rule is
proved along the rule: `post_bind` splits a sequence, `Post.find` and `Post.take` split off the ways to
fail, and the loops have an invariant that speaks of what was gathered so far.
-/

set_option autoImplicit false

namespace TypeSchema

/-- The progress with one more entry in the log. -/
def Progress.note (p : Progress) (entry : LogEntry) : Progress :=
  { p with log := p.log ++ [entry] }

/-- The progress with another context. -/
def Progress.withContext (p : Progress) (context : Context) : Progress :=
  { p with context }

namespace BuildM

variable {α β : Type}

/-- What a construction comes to from the progress `p`. -/
def exec (m : BuildM α) (p : Progress) : Except Error α × Progress :=
  StateT.run (ExceptT.run m) p

theorem exec_bind (m : BuildM α) (f : α → BuildM β) (p : Progress) :
    (m >>= f).exec p = match m.exec p with
      | (.ok a, q) => (f a).exec q
      | (.error e, q) => (.error e, q) := by
  simp only [exec, ExceptT.run_bind, StateT.run_bind]
  rcases StateT.run (ExceptT.run m) p with ⟨_ | a, q⟩ <;> rfl

/-- `Q` holds of what the construction answers and leaves, or `E` of how it fails. -/
def Post (m : BuildM α) (p : Progress) (Q : α → Progress → Prop)
    (E : Error → Progress → Prop) : Prop :=
  match m.exec p with
  | (.ok a, q) => Q a q
  | (.error e, q) => E e q

variable {m : BuildM α} {p : Progress} {Q Q' : α → Progress → Prop}
  {E E' : Error → Progress → Prop}

theorem Post.mono (h : m.Post p Q E) (hQ : ∀ a q, Q a q → Q' a q)
    (hE : ∀ e q, E e q → E' e q) : m.Post p Q' E' := by
  rw [Post] at h ⊢
  generalize m.exec p = done at h ⊢
  obtain ⟨e | a, q⟩ := done
  · exact hE e q h
  · exact hQ a q h

/-- What is shown of the answers alone. -/
theorem Post.imp (h : m.Post p Q E) (hQ : ∀ a q, Q a q → Q' a q) : m.Post p Q' E :=
  h.mono hQ fun _ _ he => he

/-- What holds of everything. -/
theorem Post.of_forall (hQ : ∀ a q, Q a q) (hE : ∀ e q, E e q) : m.Post p Q E := by
  rw [Post]
  generalize m.exec p = done
  obtain ⟨e | a, q⟩ := done
  · exact hE e q
  · exact hQ a q

/-- Of every run it is known that it was. -/
theorem Post.any (m : BuildM α) (p : Progress) : m.Post p (fun _ _ => True) fun _ _ => True :=
  .of_forall (fun _ _ => trivial) fun _ _ => trivial

/-- What the run comes to is the outcome. -/
theorem Post.exec (h : m.Post p Q E) : m.Post p (fun a q => Q a q ∧ m.exec p = (.ok a, q)) E := by
  rw [Post] at h ⊢
  generalize m.exec p = done at h ⊢
  obtain ⟨e | a, q⟩ := done
  · exact h
  · exact ⟨h, rfl⟩

/-- Two things that are known of one run. -/
theorem Post.and (h : m.Post p Q E) (h' : m.Post p Q' E') :
    m.Post p (fun a q => Q a q ∧ Q' a q) fun e q => E e q ∧ E' e q := by
  rw [Post] at h h' ⊢
  generalize m.exec p = done at h h' ⊢
  obtain ⟨e | a, q⟩ := done
  · exact ⟨h, h'⟩
  · exact ⟨h, h'⟩

@[simp] theorem post_pure (a : α) : (pure a : BuildM α).Post p Q E ↔ Q a p := Iff.rfl

@[simp] theorem post_throw (e : Error) : (throw e : BuildM α).Post p Q E ↔ E e p := Iff.rfl

theorem post_bind {f : α → BuildM β} {R : β → Progress → Prop} :
    (m >>= f).Post p R E ↔ m.Post p (fun a q => (f a).Post q R E) E := by
  simp only [Post]
  rw [exec_bind]
  rcases m.exec p with ⟨_ | a, q⟩ <;> rfl

/-- A sequence does what it should if its first part leaves what the rest needs. -/
theorem Post.bind {f : α → BuildM β} {R : β → Progress → Prop} (hm : m.Post p Q E)
    (hf : ∀ a q, Q a q → (f a).Post q R E) : (m >>= f).Post p R E :=
  post_bind.2 (hm.imp hf)

/-! ## Operations -/

@[simp] theorem post_context {Q : Context → Progress → Prop} :
    BuildM.context.Post p Q E ↔ Q p.context p := Iff.rfl

@[simp] theorem post_act {event : Event} {Q : Unit → Progress → Prop} :
    (BuildM.act event).Post p Q E ↔ Q () (p.act event) := Iff.rfl

@[simp] theorem post_note {entry : LogEntry} {Q : Unit → Progress → Prop} :
    (BuildM.note entry).Post p Q E ↔ Q () (p.note entry) := Iff.rfl

@[simp] theorem post_answer {update : Context → α × Context} :
    (BuildM.answer update).Post p Q E ↔
      Q (update p.context).1 (p.withContext (update p.context).2) := Iff.rfl

theorem Post.find {found : Except Missing α} (hQ : ∀ a, found = .ok a → Q a p)
    (hE : ∀ missing, E (.missing missing) p) : (BuildM.find found).Post p Q E := by
  cases found with
  | ok a => exact hQ a rfl
  | error missing => exact hE missing

theorem Post.take {result : Except Error α} (hQ : ∀ a, result = .ok a → Q a p)
    (hE : ∀ e, result = .error e → E e p) : (BuildM.take result).Post p Q E := by
  cases result with
  | ok a => exact hQ a rfl
  | error e => exact hE e rfl

/-! ## Loops -/

theorem Post.foldlM {f : β → α → BuildM β} {J : β → Progress → Prop} (l : List α) {b : β}
    (start : J b p)
    (step : ∀ a ∈ l, ∀ done q, J done q → (f done a).Post q J E) :
    (l.foldlM f b).Post p J E := by
  induction l generalizing b p with
  | nil => simpa using start
  | cons a rest ih =>
    rw [List.foldlM_cons]
    refine (step a List.mem_cons_self b p start).bind fun done q hq => ?_
    exact ih hq fun c hc => step c (List.mem_cons_of_mem _ hc)

/-- A filter whose test answers as a predicate does keeps what the predicate keeps. -/
theorem Post.filterM {f : α → BuildM Bool} (keep : α → Bool) {J : Progress → Prop} (l : List α)
    (start : J p) (step : ∀ a ∈ l, ∀ q, J q → (f a).Post q (fun b r => b = keep a ∧ J r) E) :
    (l.filterM f).Post p (fun as q => as = l.filter keep ∧ J q) E := by
  suffices h : ∀ (l kept : List α) (p : Progress), J p →
      (∀ a ∈ l, ∀ q, J q → (f a).Post q (fun b r => b = keep a ∧ J r) E) →
      (l.filterAuxM f kept).Post p (fun out q => out = (l.filter keep).reverse ++ kept ∧ J q) E by
    refine (h l [] p start step).bind fun out q ⟨hout, hq⟩ => ⟨?_, hq⟩
    rw [hout, List.append_nil, List.reverse_reverse]
  intro l
  induction l with
  | nil => exact fun kept p hJ _ => ⟨rfl, hJ⟩
  | cons a rest ih =>
    intro kept p hJ hstep
    refine (hstep a List.mem_cons_self p hJ).bind fun b q ⟨hb, hq⟩ => ?_
    have hrest := fun c hc => hstep c (List.mem_cons_of_mem a hc)
    subst hb
    cases hkeep : keep a with
    | true =>
      refine (ih (a :: kept) q hq hrest).imp fun out r ⟨hout, hr⟩ => ⟨?_, hr⟩
      simp [hout, hkeep]
    | false =>
      refine (ih kept q hq hrest).imp fun out r ⟨hout, hr⟩ => ⟨?_, hr⟩
      simp [hout, hkeep]

theorem Post.forM {f : α → BuildM PUnit} {J : Progress → Prop} (l : List α) (start : J p)
    (step : ∀ a ∈ l, ∀ q, J q → (f a).Post q (fun _ r => J r) E) :
    (forM l f).Post p (fun _ q => J q) E := by
  induction l generalizing p with
  | nil => exact start
  | cons a rest ih =>
    rw [List.forM_cons]
    refine (step a List.mem_cons_self p start).bind fun _ q hq => ?_
    exact ih hq fun c hc => step c (List.mem_cons_of_mem _ hc)

theorem Post.anyM {f : α → BuildM Bool} {J : Progress → Prop} (l : List α) (start : J p)
    (step : ∀ a ∈ l, ∀ q, J q → (f a).Post q (fun _ r => J r) E) :
    (l.anyM f).Post p (fun _ q => J q) E := by
  induction l generalizing p with
  | nil => simpa using start
  | cons a rest ih =>
    rw [List.anyM_cons]
    refine (step a List.mem_cons_self p start).bind fun found q hq => ?_
    cases found with
    | true => simpa using hq
    | false => exact ih hq fun c hc => step c (List.mem_cons_of_mem _ hc)

end BuildM

end TypeSchema
