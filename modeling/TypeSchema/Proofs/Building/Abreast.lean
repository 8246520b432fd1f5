import TypeSchema.Proofs.Building.Runs

/-!
# Runs that keep abreast

Two constructions that differ in what they build may still come to much the same.  `BuildM.Abreast`
says so of their runs: they answer alike or fail with one error, unless one of them fails in a way
that is not the concern of the comparison.  Such a failure ends the comparison, since what the other
run does after that is not known.

What only looks things up goes on alike from wherever it starts (`BuildM.Idle`).  So two runs part,
if at all, where something is built.
-/

set_option autoImplicit false

namespace TypeSchema.BuildM

variable {α β : Type}

/-! ## Constructions that look things up -/

/-- The construction answers or fails alike wherever it starts, and leaves everything as it is. -/
def Idle (m : BuildM α) : Prop :=
  ∃ result : Except Error α, ∀ p, m.exec p = (result, p)

namespace Idle

variable {m : BuildM α}

theorem pure (a : α) : (pure a : BuildM α).Idle := ⟨.ok a, fun _ => rfl⟩

theorem throw (error : Error) : (throw error : BuildM α).Idle := ⟨.error error, fun _ => rfl⟩

theorem find (found : Except Missing α) : (BuildM.find found).Idle := by
  cases found with
  | ok a => exact pure a
  | error missing => exact throw (.missing missing)

theorem take (result : Except Error α) : (BuildM.take result).Idle := by
  cases result with
  | ok a => exact pure a
  | error e => exact throw e

theorem bind {f : α → BuildM β} (hm : m.Idle) (hf : ∀ a, (f a).Idle) : (m >>= f).Idle := by
  obtain ⟨result, hresult⟩ := hm
  cases result with
  | ok a =>
    obtain ⟨last, hlast⟩ := hf a
    exact ⟨last, fun p => by rw [exec_bind, hresult p]; exact hlast p⟩
  | error e => exact ⟨.error e, fun p => by rw [exec_bind, hresult p]⟩

theorem mapM {f : α → BuildM β} (hf : ∀ a, (f a).Idle) (l : List α) : (l.mapM f).Idle := by
  induction l with
  | nil =>
    rw [List.mapM_nil]
    exact pure []
  | cons a rest ih =>
    rw [List.mapM_cons]
    exact (hf a).bind fun b => ih.bind fun bs => pure (b :: bs)

end Idle

/-- What is known of a run is known of its answer. -/
theorem Post.of_exec {m : BuildM α} {p q : Progress} {a : α} {Q : α → Progress → Prop}
    {E : Error → Progress → Prop} (h : m.Post p Q E) (hexec : m.exec p = (.ok a, q)) : Q a q := by
  rw [Post, hexec] at h
  exact h

/-! ## Pairs of runs -/

/-- Both constructions answer and `Q` holds of the answers and what they leave, or both fail with one
error, unless one of them fails with an error of which `B` holds. -/
def Abreast (m m' : BuildM α) (p p' : Progress) (Q : α → α → Progress → Progress → Prop)
    (B : Error → Prop) : Prop :=
  match m.exec p, m'.exec p' with
  | (.ok a, q), (.ok a', q') => Q a a' q q'
  | (.error e, _), (.error e', _) => B e ∨ B e' ∨ e' = e
  | (.error e, _), (.ok _, _) => B e
  | (.ok _, _), (.error e, _) => B e

namespace Abreast

variable {m m' : BuildM α} {p p' : Progress} {Q Q' : α → α → Progress → Progress → Prop}
  {R : β → β → Progress → Progress → Prop} {B : Error → Prop}

theorem imp (h : m.Abreast m' p p' Q B) (hQ : ∀ a a' q q', Q a a' q q' → Q' a a' q q') :
    m.Abreast m' p p' Q' B := by
  rw [Abreast] at h ⊢
  generalize m.exec p = done at h ⊢
  generalize m'.exec p' = done' at h ⊢
  obtain ⟨e | a, q⟩ := done <;> obtain ⟨e' | a', q'⟩ := done'
  · exact h
  · exact h
  · exact h
  · exact hQ a a' q q' h

theorem pure {a a' : α} (h : Q a a' p p') :
    (pure a : BuildM α).Abreast (pure a') p p' Q B := h

theorem throw (e : Error) : (throw e : BuildM α).Abreast (throw e) p p' Q B :=
  .inr (.inr rfl)

/-- Two sequences keep abreast if their first parts do and leave what the rest of both needs. -/
theorem bind {f f' : α → BuildM β} (hm : m.Abreast m' p p' Q B)
    (hf : ∀ a a' q q', Q a a' q q' → (f a).Abreast (f' a') q q' R B) :
    (m >>= f).Abreast (m' >>= f') p p' R B := by
  rw [Abreast] at hm ⊢
  rw [exec_bind, exec_bind]
  generalize m.exec p = done at hm ⊢
  generalize m'.exec p' = done' at hm ⊢
  obtain ⟨e | a, q⟩ := done <;> obtain ⟨e' | a', q'⟩ := done'
  · exact hm
  · -- The first run has failed in its own way, so it does not matter how the second one goes on.
    dsimp only at hm ⊢
    generalize (f' a').exec q' = last
    obtain ⟨e' | b', r'⟩ := last
    · exact .inl hm
    · exact hm
  · dsimp only at hm ⊢
    generalize (f a).exec q = last
    obtain ⟨e | b, r⟩ := last
    · exact .inr (.inl hm)
    · exact hm
  · exact hf a a' q q' hm

/-- What both look up is the same. -/
theorem idle_bind {f f' : α → BuildM β} (hm : m.Idle)
    (hf : ∀ a, (∀ q, m.exec q = (.ok a, q)) → (f a).Abreast (f' a) p p' R B) :
    (m >>= f).Abreast (m >>= f') p p' R B := by
  obtain ⟨result, hresult⟩ := hm
  rw [Abreast, exec_bind, exec_bind, hresult p, hresult p']
  cases result with
  | ok a => exact hf a hresult
  | error e => exact .inr (.inr rfl)

/-- Each of the two sees its own context. -/
theorem context_bind {f f' : Context → BuildM β} (h : (f p.context).Abreast (f' p'.context) p p' R B) :
    (BuildM.context >>= f).Abreast (BuildM.context >>= f') p p' R B := h

/-- What is known of each of two runs that fail in their own ways only is known of the two. -/
theorem of_posts {P P' : α → Progress → Prop} (hleft : m.Post p P fun e _ => B e)
    (hright : m'.Post p' P' fun e _ => B e) :
    m.Abreast m' p p' (fun a a' q q' => P a q ∧ P' a' q') B := by
  rw [Post] at hleft hright
  rw [Abreast]
  generalize m.exec p = done at hleft ⊢
  generalize m'.exec p' = done' at hright ⊢
  obtain ⟨e | a, q⟩ := done <;> obtain ⟨e' | a', q'⟩ := done'
  · exact .inl hleft
  · exact hleft
  · exact hright
  · exact ⟨hleft, hright⟩

end Abreast

end TypeSchema.BuildM
