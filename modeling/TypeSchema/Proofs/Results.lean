import Mathlib.Data.List.Forall2

/-!
# Results

What may fail gives a result or a fault (`Except`).  What is made of several results succeeds if each
of them does, whether they come one after the other, from the elements of a list, or each from an
element and the result before it.  So a success is taken apart along the steps that led to it, and what
holds at the start of a list and is kept by its elements holds at its end (`foldlM_induction`).
-/

set_option autoImplicit false

namespace TypeSchema

section Results

variable {ε α β : Type} {result : Except ε α}

/-- A function that goes on with another one succeeds if both do. -/
theorem bind_eq_ok_iff {f : α → Except ε β} {value : β} :
    result >>= f = .ok value ↔ ∃ found, result = .ok found ∧ f found = .ok value := by
  cases result with
  | error fault => exact ⟨nofun, fun ⟨_, h, _⟩ => nomatch h⟩
  | ok found => exact ⟨fun h => ⟨found, rfl, h⟩, fun ⟨_, h, hvalue⟩ => Except.ok.inj h ▸ hvalue⟩

theorem map_eq_ok_iff {f : α → β} {value : β} :
    result.map f = .ok value ↔ ∃ found, result = .ok found ∧ f found = value := by
  cases result with
  | error fault => exact ⟨nofun, fun ⟨_, h, _⟩ => nomatch h⟩
  | ok found =>
    exact ⟨fun h => ⟨found, rfl, Except.ok.inj h⟩, fun ⟨_, h, hvalue⟩ =>
      Except.ok.inj h ▸ congrArg Except.ok hvalue⟩

theorem map_eq_error_iff {f : α → β} {fault : ε} :
    result.map f = .error fault ↔ result = .error fault := by
  cases result with
  | ok value => exact ⟨nofun, nofun⟩
  | error other =>
    show Except.error other = Except.error fault ↔ _
    rw [Except.error.injEq, Except.error.injEq]

/-- Another way of telling faults makes no difference to what succeeds. -/
theorem mapError_eq_ok_iff {ε' : Type} {f : ε → ε'} {value : α} :
    result.mapError f = .ok value ↔ result = .ok value := by
  cases result with
  | error fault => exact ⟨nofun, nofun⟩
  | ok found =>
    show Except.ok found = Except.ok value ↔ _
    rw [Except.ok.injEq, Except.ok.injEq]

theorem exists_eq_ok (h : result.toOption.isSome = true) : ∃ found, result = .ok found := by
  cases result with
  | error fault => cases h
  | ok found => exact ⟨found, rfl⟩

end Results

section Lists

variable {ε α β : Type} {l : List α}

/-- The elements of a list have results if each of them has. -/
theorem mapM_eq_ok_iff {f : α → Except ε β} {values : List β} :
    l.mapM f = .ok values ↔ List.Forall₂ (fun a value => f a = .ok value) l values := by
  induction l generalizing values with
  | nil =>
    rw [List.mapM_nil, List.forall₂_nil_left_iff]
    exact ⟨fun h => (Except.ok.inj h).symm, fun h => h ▸ rfl⟩
  | cons a rest ih =>
    rw [List.mapM_cons, bind_eq_ok_iff]
    constructor
    · rintro ⟨first, hfirst, h⟩
      obtain ⟨others, hothers, heq⟩ := bind_eq_ok_iff.1 h
      cases heq
      exact .cons hfirst (ih.1 hothers)
    · rintro (_ | ⟨hfirst, hothers⟩)
      exact ⟨_, hfirst, bind_eq_ok_iff.2 ⟨_, ih.2 hothers, rfl⟩⟩

/-- What holds at the start, and is kept by every element, holds at the end. -/
theorem foldlM_induction {f : β → α → Except ε β} {P : β → Prop} {start last : β}
    (h : l.foldlM f start = .ok last) (hstart : P start)
    (hstep : ∀ done, P done → ∀ a ∈ l, ∀ next, f done a = .ok next → P next) : P last := by
  induction l generalizing start with
  | nil =>
    cases h
    exact hstart
  | cons a rest ih =>
    rw [List.foldlM_cons] at h
    obtain ⟨next, hnext, h⟩ := bind_eq_ok_iff.1 h
    exact ih h (hstep start hstart a List.mem_cons_self next hnext) fun done hdone b hmem =>
      hstep done hdone b (List.mem_cons_of_mem a hmem)

end Lists

end TypeSchema
