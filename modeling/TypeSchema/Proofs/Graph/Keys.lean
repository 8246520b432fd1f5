import TypeSchema.Graph.Builder

/-!
# The texts of shared types

Keyword and literal types are found by a text.  Texts tell apart what they are made of: a text between
quotes can be read back, since an escape begins with a backslash and shows where it ends
(`Text.quotation_injective`), and no keyword begins with a quote or a `#`.
-/

set_option autoImplicit false

namespace TypeSchema

/-- What is found in a table is an entry of it. -/
theorem mem_of_lookup {α β : Type} [DecidableEq α] {key : α} {value : β} {entries : List (α × β)}
    (h : entries.lookup key = some value) : (key, value) ∈ entries := by
  obtain ⟨before, after, rfl, _⟩ := List.lookup_eq_some_iff.1 h
  exact List.mem_append_right _ List.mem_cons_self

/-! ## Hexadecimal digits -/

namespace Text

theorem digitChar_injective {m n : Nat} (hm : m < 16) (hn : n < 16)
    (h : m.digitChar = n.digitChar) : m = n := by
  have hall : ∀ i j : Fin 16, i.val.digitChar = j.val.digitChar → i = j := by decide
  exact congrArg Fin.val (hall ⟨m, hm⟩ ⟨n, hn⟩ h)

/-- The last digit, and those before it. -/
theorem toDigits_eq_append (n : Nat) :
    Nat.toDigits 16 n = (if n < 16 then [] else Nat.toDigits 16 (n / 16)) ++ [(n % 16).digitChar] := by
  split
  · next hlt => rw [Nat.toDigits_of_lt_base hlt, Nat.mod_eq_of_lt hlt, List.nil_append]
  · next hge => exact Nat.toDigits_of_base_le (by decide) (Nat.le_of_not_lt hge)

theorem toDigits_injective {m n : Nat} (h : Nat.toDigits 16 m = Nat.toDigits 16 n) : m = n := by
  induction m using Nat.strongRecOn generalizing n with
  | ind m ih =>
    rw [toDigits_eq_append m, toDigits_eq_append n] at h
    obtain ⟨hfront, hlast⟩ := List.append_inj' h rfl
    have hdigit : m % 16 = n % 16 :=
      digitChar_injective (Nat.mod_lt m (by decide)) (Nat.mod_lt n (by decide)) (List.head_eq_of_cons_eq hlast)
    split at hfront <;> split at hfront
    · omega
    · exact absurd hfront.symm Nat.toDigits_ne_nil
    · exact absurd hfront Nat.toDigits_ne_nil
    · have hrest := ih (m / 16) (by omega) hfront
      omega

theorem not_mem_toDigits (n : Nat) : '\x7d' ∉ Nat.toDigits 16 n := by
  have hall : ∀ i : Fin 16, '\x7d' ≠ i.val.digitChar := by decide
  induction n using Nat.strongRecOn with
  | ind n ih =>
    rw [toDigits_eq_append, List.mem_append, List.mem_singleton, not_or]
    refine ⟨?_, hall ⟨n % 16, Nat.mod_lt n (by decide)⟩⟩
    split
    · exact List.not_mem_nil
    · exact ih (n / 16) (by omega)

/-! ## Quoted texts -/

/-- What is before the first mark, and what is behind it. -/
theorem append_mark_inj {mark : Char} {front front' rest rest' : List Char} (hfront : mark ∉ front)
    (hfront' : mark ∉ front') (h : front ++ mark :: rest = front' ++ mark :: rest') :
    front = front' ∧ rest = rest' := by
  induction front generalizing front' with
  | nil => cases front' with
    | nil => exact ⟨rfl, List.tail_eq_of_cons_eq h⟩
    | cons c front' => exact absurd (List.mem_cons.2 (.inl (List.head_eq_of_cons_eq h))) hfront'
  | cons c front ih => cases front' with
    | nil => exact absurd (List.mem_cons.2 (.inl (List.head_eq_of_cons_eq h).symm)) hfront
    | cons d front' =>
      obtain ⟨rfl, htail⟩ := List.cons.inj h
      obtain ⟨rfl, hrest⟩ := ih (fun hmem => hfront (List.mem_cons_of_mem _ hmem))
        (fun hmem => hfront' (List.mem_cons_of_mem _ hmem)) htail
      exact ⟨rfl, hrest⟩

/-- How a character stands between quotes: behind a backslash, by its code, or as it is. -/
theorem spelledOut_cases (c : Char) :
    (∃ mark, (c, mark) ∈ marks ∧ spelledOut c = ['\\', mark]) ∨
    spelledOut c = '\\' :: 'u' :: '\x7b' :: (Nat.toDigits 16 c.toNat ++ ['\x7d']) ∨
    spelledOut c = [c] ∧ c ≠ '\\' ∧ c ≠ '\x22' := by
  unfold spelledOut
  split
  · next mark hmark => exact .inl ⟨mark, mem_of_lookup hmark, rfl⟩
  · next hnone =>
    split
    · exact .inr (.inl rfl)
    · refine .inr (.inr ⟨rfl, ?_, ?_⟩)
      · rintro rfl
        cases hnone
      · rintro rfl
        cases hnone

/-- What stands for the first character of a quoted text shows where it ends. -/
theorem spelledOut_append_inj {c d : Char} {rest rest' : List Char}
    (h : spelledOut c ++ rest = spelledOut d ++ rest') : c = d ∧ rest = rest' := by
  have hmarks : ∀ p ∈ marks, ∀ q ∈ marks, p.2 = q.2 → p.1 = q.1 := by decide
  have hcode : ∀ p ∈ marks, p.2 ≠ 'u' := by decide
  rcases spelledOut_cases c with ⟨mark, hmem, hc⟩ | hc | ⟨hc, hplain, _⟩ <;>
    rcases spelledOut_cases d with ⟨mark', hmem', hd⟩ | hd | ⟨hd, hplain', _⟩ <;>
    rw [hc, hd] at h <;>
    simp only [List.cons_append, List.nil_append, List.cons.injEq, true_and] at h
  · exact ⟨hmarks _ hmem _ hmem' h.1, h.2⟩
  · exact absurd h.1 (hcode _ hmem)
  · exact absurd h.1.symm hplain'
  · exact absurd h.1.symm (hcode _ hmem')
  · rw [List.append_assoc, List.append_assoc] at h
    obtain ⟨hdigits, hrest⟩ := append_mark_inj (not_mem_toDigits _) (not_mem_toDigits _) h
    exact ⟨Char.toNat_inj.1 (toDigits_injective hdigits), hrest⟩
  · exact absurd h.1.symm hplain'
  · exact absurd h.1 hplain
  · exact absurd h.1 hplain
  · exact h

theorem spelledOut_ne_nil (c : Char) : spelledOut c ≠ [] := by
  rcases spelledOut_cases c with ⟨mark, _, hc⟩ | hc | ⟨hc, _⟩ <;> rw [hc] <;> exact List.cons_ne_nil _ _

/-- **Quoted texts can be read back.** -/
theorem quotation_injective {s t : String} (h : quotation s = quotation t) : s = t := by
  have hinner : ∀ cs ds : List Char, cs.flatMap spelledOut = ds.flatMap spelledOut → cs = ds := by
    intro cs
    induction cs with
    | nil =>
      intro ds h
      cases ds with
      | nil => rfl
      | cons d ds => exact absurd (List.append_eq_nil_iff.1 h.symm).1 (spelledOut_ne_nil d)
    | cons c cs ih =>
      intro ds h
      cases ds with
      | nil => exact absurd (List.append_eq_nil_iff.1 h).1 (spelledOut_ne_nil c)
      | cons d ds =>
        obtain ⟨rfl, hrest⟩ := spelledOut_append_inj h
        rw [ih ds hrest]
  have hlist := List.cons.inj (String.ofList_injective h)
  exact String.toList_inj.1 (hinner _ _ (List.append_cancel_right hlist.2))

theorem head?_quotation (s : String) : (quotation s).toList.head? = some '\x22' := by
  rw [quotation, String.toList_ofList]
  rfl

end Text

end TypeSchema
