import TypeSchema.Proofs.Initializers.Grammar

/-!
# Strings and templates

`stringBody_eq_ok_iff` and `templateBody_eq_ok_iff` say that what is read behind an opening quote is
exactly the inside of a string or template of the grammar and the closing quote.  A code in braces may
run to the end of the text for want of a closing brace; no string ends behind such a one.
-/

set_option autoImplicit false

namespace TypeSchema.Literal

open Text

variable {c d : Cursor} {x quote : Char} {code raw letters : List Char}

/-! ## Escapes -/

theorem hexEscape_eq_ok_iff {count : Nat} :
    hexEscape count c = .ok (x, d) ↔
      ∃ hex, hex.length = count ∧ hexCharacter? hex = some x ∧ c.Moves hex d := by
  constructor
  · intro h
    simp only [hexEscape] at h
    split at h
    · cases h
    · next hlength =>
      split at h
      · next value hvalue =>
        cases h
        refine ⟨_, ?_, hvalue, Cursor.moves_after (List.take_append_drop count c.rest).symm⟩
        rw [List.length_take] at hlength ⊢
        omega
      · cases h
  · rintro ⟨hex, rfl, hcode, hmoves⟩
    have hdrop : c.rest.drop hex.length = d.rest := by simp [hmoves.rest]
    have htake : c.rest.take hex.length = hex := by simp [hmoves.rest]
    simp only [hexEscape, htake, hdrop, hcode, Nat.lt_irrefl, if_false]
    rw [(Cursor.moves_after hmoves.rest).final_eq hmoves]

theorem bracedEscape_of_moves {hex : List Char} (hbrace : '\x7d' ∉ hex)
    (hcode : hexCharacter? hex = some x) (h : c.Moves (hex ++ ['\x7d']) d) :
    bracedEscape c = .ok (x, d) := by
  have hhex : ∀ y ∈ hex, decide (y ≠ '\x7d') = true :=
    fun y hy => decide_eq_true (ne_of_mem_of_not_mem hy hbrace)
  have hends : Halts (fun y => decide (y ≠ '\x7d')) ('\x7d' :: d.rest) := halts_cons.2 rfl
  have hrest : c.rest = hex ++ '\x7d' :: d.rest := by simp [h.rest]
  simp only [bracedEscape, hrest, takeWhile_append hhex hends, dropWhile_append hhex hends, hcode]
  show Except.ok (x, c.after (hex ++ ['\x7d']) d.rest) = _
  rw [(Cursor.moves_after h.rest).final_eq h]

/-- The code is closed, or the text ends with it. -/
theorem moves_of_bracedEscape (h : bracedEscape c = .ok (x, d)) :
    d.rest = [] ∨ ∃ hex, '\x7d' ∉ hex ∧ hexCharacter? hex = some x ∧
      c.Moves (hex ++ ['\x7d']) d := by
  have hsplit : c.rest = c.rest.takeWhile (· ≠ '\x7d') ++ c.rest.dropWhile (· ≠ '\x7d') :=
    List.takeWhile_append_dropWhile.symm
  have hhex : ∀ y ∈ c.rest.takeWhile (· ≠ '\x7d'), decide (y ≠ '\x7d') = true :=
    List.all_eq_true.1 List.all_takeWhile
  have hends := halts_dropWhile (p := fun y => decide (y ≠ '\x7d')) c.rest
  simp only [bracedEscape] at h
  generalize c.rest.takeWhile (· ≠ '\x7d') = hex at h hsplit hhex
  generalize c.rest.dropWhile (· ≠ '\x7d') = behind at h hsplit hends
  split at h
  · next value hvalue =>
    cases h
    cases behind with
    | nil => exact .inl rfl
    | cons brace rest =>
      obtain rfl : brace = '\x7d' := by simpa using halts_cons.1 hends
      refine .inr ⟨hex, fun hmem => ?_, hvalue, Cursor.moves_after ?_⟩
      · exact of_decide_eq_true (hhex _ hmem) rfl
      · rw [hsplit, List.append_assoc]
        rfl
  · cases h

theorem escape_of_moves (h : c.Moves [x] d) :
    escape c =
      if x = 'x' then hexEscape 2 d
      else if x = 'u' then
        match d.next? with
        | some ('\x7b', inner) => bracedEscape inner
        | _ => hexEscape 4 d
      else .ok (shortEscape x, d) := by
  rw [escape, Cursor.next?_eq_some_iff.2 h]
  dsimp only
  split <;> try rfl
  next hn ht hr hb hf hv h0 hx hu =>
    rw [if_neg hx, if_neg hu, shortEscape] <;> assumption

/-- An escape is read as what it stands for. -/
theorem Escapes.escape (h : Escapes code x) (hmoves : c.Moves code d) :
    Literal.escape c = .ok (x, d) := by
  cases h with
  | short hx hu => rw [escape_of_moves hmoves, if_neg hx, if_neg hu]
  | byte hlength hcode =>
    obtain ⟨behind, hfirst, hmoves⟩ := hmoves.uncons
    rw [escape_of_moves hfirst, if_pos rfl]
    exact hexEscape_eq_ok_iff.2 ⟨_, hlength, hcode, hmoves⟩
  | @unit hex _ hlength hbrace hcode =>
    obtain ⟨behind, hfirst, hmoves⟩ := hmoves.uncons
    rw [escape_of_moves hfirst, if_neg (by decide), if_pos rfl]
    obtain ⟨digit, digits, rfl⟩ := List.exists_cons_of_length_eq_add_one hlength
    obtain ⟨inner, hdigit, -⟩ := hmoves.uncons
    rw [Cursor.next?_eq_some_iff.2 hdigit]
    split
    · next hnext =>
      cases hnext
      exact absurd rfl hbrace
    · exact hexEscape_eq_ok_iff.2 ⟨_, hlength, hcode, hmoves⟩
  | braced hbrace hcode =>
    obtain ⟨behind, hfirst, hmoves⟩ := hmoves.uncons
    obtain ⟨inner, hopen, hmoves⟩ := hmoves.uncons
    rw [escape_of_moves hfirst, if_neg (by decide), if_pos rfl, Cursor.next?_eq_some_iff.2 hopen]
    exact bracedEscape_of_moves hbrace hcode hmoves

/-- What is read as an escape is one, unless the text ends with it. -/
theorem moves_of_escape (h : Literal.escape c = .ok (x, d)) :
    d.rest = [] ∨ ∃ code, Escapes code x ∧ c.Moves code d := by
  cases hnext : c.next? with
  | none =>
    rw [escape, hnext] at h
    cases h
  | some found =>
    obtain ⟨y, behind⟩ := found
    have hfirst := Cursor.next?_eq_some_iff.1 hnext
    rw [escape_of_moves hfirst] at h
    split at h
    · next hx =>
      subst hx
      obtain ⟨hex, hlength, hcode, hmoves⟩ := hexEscape_eq_ok_iff.1 h
      exact .inr ⟨_, .byte hlength hcode, hfirst.cons hmoves⟩
    · next hx =>
      split at h
      · next hu =>
        subst hu
        split at h
        · next inner hbrace =>
          have hopen := Cursor.next?_eq_some_iff.1 hbrace
          refine (moves_of_bracedEscape h).imp_right ?_
          rintro ⟨hex, hclose, hcode, hmoves⟩
          exact ⟨_, .braced hclose hcode, hfirst.cons (hopen.cons hmoves)⟩
        · next hbrace =>
          obtain ⟨hex, hlength, hcode, hmoves⟩ := hexEscape_eq_ok_iff.1 h
          refine .inr ⟨_, .unit hlength (fun hhead => ?_) hcode, hfirst.cons hmoves⟩
          obtain ⟨digits, rfl⟩ := List.head?_eq_some_iff.1 hhead
          obtain ⟨inner, hopen, -⟩ := hmoves.uncons
          exact hbrace inner (Cursor.next?_eq_some_iff.2 hopen)
      · next hu =>
        cases h
        exact .inr ⟨_, .short hx hu, hfirst⟩

/-! ## Strings -/

/-- The inside of a string is read up to the closing quote. -/
theorem Quoted.stringBody (hquote : quote ≠ '\\') (h : Quoted quote raw letters) {fuel : Nat}
    (hfuel : raw.length < fuel) (hmoves : c.Moves (raw ++ [quote]) d) :
    Literal.stringBody quote fuel c = .ok (letters, d) := by
  obtain ⟨fuel, rfl⟩ := Nat.exists_eq_add_one_of_ne_zero (Nat.ne_zero_of_lt hfuel)
  induction h generalizing c fuel with
  | nil =>
    rw [Literal.stringBody, Cursor.next?_eq_some_iff.2 hmoves]
    exact if_pos rfl
  | @escaped code raw letters x hcode _ ih =>
    rw [List.cons_append] at hmoves
    obtain ⟨behind, hslash, hmoves⟩ := hmoves.uncons
    rw [List.append_assoc] at hmoves
    obtain ⟨further, hescape, hmoves⟩ := hmoves.split
    rw [List.length_cons, List.length_append] at hfuel
    obtain ⟨fuel, rfl⟩ := Nat.exists_eq_add_one_of_ne_zero (n := fuel) (by omega)
    rw [Literal.stringBody, Cursor.next?_eq_some_iff.2 hslash]
    simp only [if_neg (Ne.symm hquote), if_pos]
    exact bind_eq_ok_iff.2 ⟨_, hcode.escape hescape,
      bind_eq_ok_iff.2 ⟨_, ih hmoves fuel (by omega), rfl⟩⟩
  | @letter x raw letters hx hslash _ ih =>
    rw [List.cons_append] at hmoves
    obtain ⟨behind, hfirst, hmoves⟩ := hmoves.uncons
    rw [List.length_cons] at hfuel
    obtain ⟨fuel, rfl⟩ := Nat.exists_eq_add_one_of_ne_zero (n := fuel) (by omega)
    rw [Literal.stringBody, Cursor.next?_eq_some_iff.2 hfirst]
    simp only [if_neg hx, if_neg hslash]
    exact bind_eq_ok_iff.2 ⟨_, ih hmoves fuel (by omega), rfl⟩

theorem moves_of_stringBody {fuel : Nat} (h : Literal.stringBody quote fuel c = .ok (letters, d)) :
    ∃ raw, Quoted quote raw letters ∧ c.Moves (raw ++ [quote]) d := by
  induction fuel generalizing c letters with
  | zero => cases h
  | succ fuel ih =>
    rw [Literal.stringBody] at h
    split at h
    · cases h
    next x behind hnext =>
    have hfirst := Cursor.next?_eq_some_iff.1 hnext
    split at h
    · next hx =>
      cases h
      exact ⟨[], .nil, hx ▸ hfirst⟩
    next hx =>
    split at h
    · next hslash =>
      subst hslash
      obtain ⟨⟨letter, further⟩, hescape, h⟩ := bind_eq_ok_iff.1 h
      obtain ⟨⟨more, final⟩, hmore, h⟩ := bind_eq_ok_iff.1 h
      cases h
      obtain ⟨raw, hraw, hmoves⟩ := ih hmore
      rcases moves_of_escape hescape with hend | ⟨code, hcode, hpassed⟩
      · simp [hmoves.rest] at hend
      · refine ⟨_, .escaped hcode hraw, ?_⟩
        rw [List.cons_append, List.append_assoc]
        exact hfirst.cons (hpassed.trans hmoves)
    · next hslash =>
      obtain ⟨⟨more, final⟩, hmore, h⟩ := bind_eq_ok_iff.1 h
      cases h
      obtain ⟨raw, hraw, hmoves⟩ := ih hmore
      exact ⟨_, .letter hx hslash hraw, hfirst.cons hmoves⟩

/-! ## Templates -/

/-- The inside of a template is read up to the closing quote. -/
theorem IsTemplate.templateBody (h : IsTemplate raw) {fuel : Nat} (hfuel : raw.length < fuel)
    (hmoves : c.Moves (raw ++ ['\x60']) d) : Literal.templateBody fuel c = .ok (raw, d) := by
  obtain ⟨fuel, rfl⟩ := Nat.exists_eq_add_one_of_ne_zero (Nat.ne_zero_of_lt hfuel)
  induction h generalizing c fuel with
  | nil =>
    rw [Literal.templateBody, Cursor.next?_eq_some_iff.2 hmoves]
    exact if_pos rfl
  | @escaped x raw _ ih =>
    rw [List.cons_append, List.cons_append] at hmoves
    obtain ⟨behind, hslash, hmoves⟩ := hmoves.uncons
    obtain ⟨further, hletter, hmoves⟩ := hmoves.uncons
    rw [List.length_cons, List.length_cons] at hfuel
    obtain ⟨fuel, rfl⟩ := Nat.exists_eq_add_one_of_ne_zero (n := fuel) (by omega)
    rw [Literal.templateBody, Cursor.next?_eq_some_iff.2 hslash]
    simp only [Cursor.next?_eq_some_iff.2 hletter]
    exact bind_eq_ok_iff.2 ⟨_, ih hmoves fuel (by omega), rfl⟩
  | @letter x raw hquote hslash hsubstitution _ ih =>
    rw [List.cons_append] at hmoves
    obtain ⟨behind, hfirst, hmoves⟩ := hmoves.uncons
    rw [List.length_cons] at hfuel
    obtain ⟨fuel, rfl⟩ := Nat.exists_eq_add_one_of_ne_zero (n := fuel) (by omega)
    have hplain : ¬(x = '$' ∧ behind.peek? = some '\x7b') := by
      rintro ⟨hx, hpeek⟩
      refine hsubstitution hx ?_
      rw [Cursor.peek?, hmoves.rest] at hpeek
      cases raw with
      | nil => cases hpeek
      | cons y raw => exact hpeek
    rw [Literal.templateBody, Cursor.next?_eq_some_iff.2 hfirst]
    simp only [if_neg hquote, if_neg hslash, if_neg hplain]
    exact bind_eq_ok_iff.2 ⟨_, ih hmoves fuel (by omega), rfl⟩

theorem moves_of_templateBody {fuel : Nat} (h : Literal.templateBody fuel c = .ok (letters, d)) :
    IsTemplate letters ∧ c.Moves (letters ++ ['\x60']) d := by
  induction fuel generalizing c letters with
  | zero => cases h
  | succ fuel ih =>
    rw [Literal.templateBody] at h
    split at h
    · cases h
    next x behind hnext =>
    have hfirst := Cursor.next?_eq_some_iff.1 hnext
    split at h
    · next hx =>
      cases h
      exact ⟨.nil, hx ▸ hfirst⟩
    next hx =>
    split at h
    · cases h
    next hplain =>
    split at h
    · next hslash =>
      subst hslash
      split at h
      · cases h
      next y further hnext =>
      obtain ⟨⟨more, final⟩, hmore, h⟩ := bind_eq_ok_iff.1 h
      cases h
      obtain ⟨hraw, hmoves⟩ := ih hmore
      exact ⟨.escaped hraw, hfirst.cons ((Cursor.next?_eq_some_iff.1 hnext).cons hmoves)⟩
    · next hslash =>
      obtain ⟨⟨more, final⟩, hmore, h⟩ := bind_eq_ok_iff.1 h
      cases h
      obtain ⟨hraw, hmoves⟩ := ih hmore
      refine ⟨.letter hx hslash (fun hdollar hhead => hplain ⟨hdollar, ?_⟩) hraw, hfirst.cons hmoves⟩
      obtain ⟨rest, rfl⟩ := List.head?_eq_some_iff.1 hhead
      exact Cursor.peek?_of_moves hmoves

end TypeSchema.Literal
