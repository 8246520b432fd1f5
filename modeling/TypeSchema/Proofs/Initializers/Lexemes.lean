import TypeSchema.Proofs.Initializers.Places
import TypeSchema.Proofs.Initializers.Strings
import TypeSchema.Proofs.Initializers.Types

/-!
# Scanning what literals are made of

The scanners that do not call themselves through others, each compared with its reader: blanks, words,
numbers, strings, templates and types.  A loop of a scanner passes a character in each round, so it ends
if it is given more steps than there are characters left, and the induction is on the steps.

Two steps might go below zero.  The offset of a character that may not stand where it was passed is
counted back over its bytes, and these were passed (`unexpectedBefore_agrees`); the count of brackets is
taken down by closing ones, and the first bracket that is met opens one (`skipBalanced_of_opened`).
-/

set_option autoImplicit false

namespace TypeSchema.Literal.Scanner

open Text

variable {source : String} {c d : Cursor} {x : Char} {steps : Nat}

/-- The value and the place behind it. -/
def passing (source : String) (asserted : Bool) {α : Type} (found : α × Cursor) : α × Place :=
  (found.1, .before source asserted found.2.rest)

/-- The place of a cursor. -/
def standing (source : String) (asserted : Bool) (behind : Cursor) : Unit × Place :=
  ((), .before source asserted behind.rest)

/-! ## Single characters -/

theorem bump_of_moves (h : c.Within source) (hmoves : c.Moves [x] d) (asserted : Bool) :
    (bump source).run (.before source asserted c.rest) =
      .ok (some x, .before source asserted d.rest) := by
  rw [bump, Scan.run_bind_of_ok (peek_of_within h asserted), Cursor.peek?_of_moves hmoves]
  exact Scan.run_bind_of_ok (advance_of_moves h hmoves asserted)

theorem bump_of_nil (h : c.Within source) (hrest : c.rest = []) (asserted : Bool) :
    (bump source).run (.before source asserted c.rest) =
      .ok (none, .before source asserted c.rest) := by
  rw [bump, Scan.run_bind_of_ok (peek_of_within h asserted), Cursor.peek?_of_nil hrest]
  rfl

theorem less_of_le {n k : Nat} (h : k ≤ n) (trap : Trap) (place : Place) :
    (less n k trap).run place = .ok (n - k, place) := by
  rw [less, if_pos h]
  rfl

section Faults

variable {α β : Type} {view : β → α × Place}

/-- The offset of a character that is next is looked up. -/
theorem unexpected_agrees (h : c.Within source) (hmoves : c.Moves [x] d) (asserted : Bool) :
    Agrees source (unexpected source x) (.before source asserted c.rest) view (.error c.fault) := by
  rw [unexpected, Cursor.fault_of_moves hmoves]
  exact agrees_bind_of_ok (offset_of_within h asserted) (agrees_fail (h.startsAt hmoves))

/-- The offset of a character that is passed is counted back from the place behind it. -/
theorem unexpectedBefore_agrees (h : c.Within source) (hmoves : c.Moves [x] d) (asserted : Bool) :
    Agrees source (unexpectedBefore source x) (.before source asserted d.rest) view
      (.error c.fault) := by
  have hoffset : d.offset = c.offset + x.utf8Size := by simpa using hmoves.offset
  rw [unexpectedBefore, Cursor.fault_of_moves hmoves]
  refine agrees_bind_of_ok (offset_of_within (hmoves.within h) asserted) ?_
  -- the bytes of the character are passed, so the offset does not go below zero
  refine agrees_bind_of_ok (less_of_le (hoffset ▸ Nat.le_add_left ..) _ _) ?_
  rw [hoffset, Nat.add_sub_cancel]
  exact agrees_fail (h.startsAt hmoves)

end Faults

theorem expect_agrees (h : c.Within source) (asserted : Bool) (want : Char) :
    Agrees source (expect source want) (.before source asserted c.rest) (standing source asserted)
      (c.expect want) := by
  rw [expect, Cursor.expect]
  rcases c.nil_or_moves with hrest | ⟨x, d, hmoves⟩
  · rw [Cursor.next?_eq_none_iff.2 hrest, Cursor.fault_of_nil hrest]
    exact agrees_bind_of_ok (bump_of_nil h hrest asserted) (agrees_fail trivial)
  · rw [Cursor.next?_eq_some_iff.2 hmoves]
    refine agrees_bind_of_ok (bump_of_moves h hmoves asserted) ?_
    dsimp only
    split
    · exact agrees_pure rfl
    · exact unexpectedBefore_agrees h hmoves asserted

/-- The character that is next may be expected. -/
theorem expect_of_moves (h : c.Within source) (hmoves : c.Moves [x] d) (asserted : Bool) :
    (expect source x).run (.before source asserted c.rest) =
      .ok ((), .before source asserted d.rest) := by
  have hexpect := (expect_agrees h asserted x).run
  rwa [Cursor.expect_eq_ok_iff.2 hmoves] at hexpect

/-! ## Blanks, words and numbers -/

theorem skipBlanks_of_within (h : c.Within source) (hsteps : c.rest.length < steps)
    (asserted : Bool) :
    (skipBlanks source steps).run (.before source asserted c.rest) =
      .ok (standing source asserted c.skipBlanks) := by
  induction steps generalizing c with
  | zero => exact absurd hsteps (Nat.not_lt_zero _)
  | succ steps ih =>
    rw [skipBlanks, Scan.run_bind_of_ok (peek_of_within h asserted)]
    rcases c.nil_or_moves with hrest | ⟨x, d, hmoves⟩
    · rw [Cursor.peek?_of_nil hrest, Cursor.skipBlanks, Cursor.skipWhile_of_nil hrest]
      rfl
    rw [Cursor.peek?_of_moves hmoves, Option.any_some, Cursor.skipBlanks]
    cases hx : isBlank x with
    | true =>
      rw [if_pos rfl, Scan.run_bind_of_ok (advance_of_moves h hmoves asserted),
        ih (hmoves.within h) (hmoves.length_lt_of_succ hsteps), Cursor.skipBlanks,
        Cursor.skipWhile_of_pos hmoves hx]
    | false =>
      rw [if_neg Bool.false_ne_true, Cursor.skipWhile_of_neg hmoves hx]
      rfl

theorem wordFrom_of_within (h : c.Within source) (hsteps : c.rest.length < steps)
    (asserted : Bool) (name : List Char) :
    (wordFrom source name steps).run (.before source asserted c.rest) =
      .ok (name ++ c.rest.takeWhile isIdentifierCharacter,
        .before source asserted (c.skipWhile isIdentifierCharacter).rest) := by
  induction steps generalizing c name with
  | zero => exact absurd hsteps (Nat.not_lt_zero _)
  | succ steps ih =>
    rw [wordFrom, Scan.run_bind_of_ok (peek_of_within h asserted)]
    rcases c.nil_or_moves with hrest | ⟨x, d, hmoves⟩
    · rw [Cursor.peek?_of_nil hrest, Cursor.skipWhile_of_nil hrest, hrest, List.takeWhile_nil,
        List.append_nil]
      rfl
    have hrest : c.rest = x :: d.rest := hmoves.rest
    rw [Cursor.peek?_of_moves hmoves]
    dsimp only
    split
    · next hx =>
      rw [Scan.run_bind_of_ok (advance_of_moves h hmoves asserted),
        ih (hmoves.within h) (hmoves.length_lt_of_succ hsteps), Cursor.skipWhile_of_pos hmoves hx, hrest,
        List.takeWhile_cons_of_pos hx, List.append_assoc]
      rfl
    · next hx =>
      rw [Cursor.skipWhile_of_neg hmoves (Bool.eq_false_iff.2 hx), hrest,
        List.takeWhile_cons_of_neg hx, List.append_nil]
      rfl

theorem word_of_within (h : c.Within source) (hsteps : c.rest.length < steps) (asserted : Bool) :
    (word source steps).run (.before source asserted c.rest) =
      .ok (passing source asserted (Literal.word c)) :=
  Scan.run_bind_of_ok (wordFrom_of_within h hsteps asserted [])

theorem numeralFrom_of_within (h : c.Within source) (hsteps : c.rest.length < steps)
    (asserted : Bool) (before : List Char) :
    (numeralFrom source before steps).run (.before source asserted c.rest) =
      .ok ((takeNumeral before.reverse c.rest).1,
        .before source asserted (takeNumeral before.reverse c.rest).2) := by
  induction steps generalizing c before with
  | zero => exact absurd hsteps (Nat.not_lt_zero _)
  | succ steps ih =>
    rw [numeralFrom, Scan.run_bind_of_ok (peek_of_within h asserted)]
    rcases c.nil_or_moves with hrest | ⟨x, d, hmoves⟩
    · rw [Cursor.peek?_of_nil hrest, hrest, takeNumeral, List.reverse_reverse]
      rfl
    have htaken := takeNumeral_cons before x d.rest
    rw [← List.singleton_append, ← hmoves.rest] at htaken
    rw [Cursor.peek?_of_moves hmoves, htaken]
    dsimp only
    split
    · rw [Scan.run_bind_of_ok (advance_of_moves h hmoves asserted),
        ih (hmoves.within h) (hmoves.length_lt_of_succ hsteps)]
    · rfl

theorem number_agrees (h : c.Within source) (hsteps : c.rest.length < steps) (asserted : Bool) :
    Agrees source (number source steps) (.before source asserted c.rest) (passing source asserted)
      (readNumber c) := by
  have hbehind := Nat.lt_of_le_of_lt c.length_skipBlanks_le hsteps
  rw [number]
  refine agrees_bind_of_ok (skipBlanks_of_within h hsteps asserted) ?_
  refine agrees_bind_of_ok (numeralFrom_of_within h.skipBlanks hbehind asserted []) ?_
  simp only [readNumber, List.reverse_nil, withoutUnderscores]
  cases numeralDouble? ((takeNumeral [] c.skipBlanks.rest).1.filter (· ≠ '_')) with
  | some value => exact agrees_pure rfl
  | none => exact agrees_fail trivial

/-! ## Escapes -/

/-- The digits that are scanned already stand before the ones the reader takes. -/
theorem hexFrom_agrees (h : c.Within source) (asserted : Bool) (hex : List Char) (count : Nat) :
    Agrees source (hexFrom source hex count) (.before source asserted c.rest)
      (passing source asserted)
      (if (c.rest.take count).length < count then .error .unexpectedEnd
      else match hexCharacter? (hex ++ c.rest.take count) with
        | some x => .ok (x, c.after (c.rest.take count) (c.rest.drop count))
        | none => .error (.notLiteral (.byteEscape (String.ofList (hex ++ c.rest.take count))))) := by
  induction count generalizing c hex with
  | zero =>
    rw [hexFrom, List.take_zero, List.append_nil, if_neg (Nat.not_lt_zero _)]
    cases hexCharacter? hex with
    | some code => exact agrees_pure rfl
    | none => exact agrees_fail trivial
  | succ count ih =>
    rw [hexFrom]
    rcases c.nil_or_moves with hrest | ⟨x, d, hmoves⟩
    · refine agrees_bind_of_ok (bump_of_nil h hrest asserted) ?_
      rw [hrest, List.take_nil, List.length_nil, if_pos (Nat.zero_lt_succ count)]
      exact agrees_fail trivial
    · have hafter : c.after (x :: d.rest.take count) (d.rest.drop count) =
          d.after (d.rest.take count) (d.rest.drop count) := by
        simp [Cursor.after, hmoves.offset, Nat.add_assoc]
      have hbehind := ih (hmoves.within h) (hex ++ [x])
      refine agrees_bind_of_ok (bump_of_moves h hmoves asserted) ?_
      simpa only [hmoves.rest, List.singleton_append, List.take_succ_cons, List.drop_succ_cons,
        List.length_cons, Nat.add_lt_add_iff_right, hafter, List.append_assoc] using hbehind

theorem hexEscape_agrees (h : c.Within source) (asserted : Bool) (count : Nat) :
    Agrees source (hexFrom source [] count) (.before source asserted c.rest)
      (passing source asserted) (hexEscape count c) :=
  hexFrom_agrees h asserted [] count

theorem bracedFrom_of_within (h : c.Within source) (hsteps : c.rest.length < steps)
    (asserted : Bool) (hex : List Char) :
    (bracedFrom source hex steps).run (.before source asserted c.rest) =
      .ok (hex ++ c.rest.takeWhile (· ≠ '\x7d'),
        .before source asserted ((c.rest.dropWhile (· ≠ '\x7d')).drop 1)) := by
  induction steps generalizing c hex with
  | zero => exact absurd hsteps (Nat.not_lt_zero _)
  | succ steps ih =>
    rw [bracedFrom]
    rcases c.nil_or_moves with hrest | ⟨x, d, hmoves⟩
    · rw [Scan.run_bind_of_ok (bump_of_nil h hrest asserted), hrest, List.takeWhile_nil,
        List.append_nil]
      rfl
    have hrest : c.rest = x :: d.rest := hmoves.rest
    rw [Scan.run_bind_of_ok (bump_of_moves h hmoves asserted)]
    dsimp only
    split
    · next hx =>
      subst hx
      rw [hrest, List.takeWhile_cons_of_neg (by simp), List.dropWhile_cons_of_neg (by simp),
        List.append_nil]
      rfl
    · next hx =>
      rw [ih (hmoves.within h) (hmoves.length_lt_of_succ hsteps), hrest,
        List.takeWhile_cons_of_pos (by simpa using hx),
        List.dropWhile_cons_of_pos (by simpa using hx), List.append_assoc]
      rfl

theorem bracedEscape_agrees (h : c.Within source) (hsteps : c.rest.length < steps)
    (asserted : Bool) :
    Agrees source (bracedEscape source steps) (.before source asserted c.rest)
      (passing source asserted) (Literal.bracedEscape c) := by
  rw [bracedEscape]
  refine agrees_bind_of_ok (bracedFrom_of_within h hsteps asserted []) ?_
  simp only [Literal.bracedEscape, List.nil_append]
  cases hexCharacter? (c.rest.takeWhile (· ≠ '\x7d')) with
  | some code => exact agrees_pure rfl
  | none => exact agrees_fail trivial

theorem escape_agrees (h : c.Within source) (hsteps : c.rest.length < steps) (asserted : Bool) :
    Agrees source (escape source steps) (.before source asserted c.rest) (passing source asserted)
      (Literal.escape c) := by
  rw [escape]
  rcases c.nil_or_moves with hrest | ⟨x, d, hmoves⟩
  · rw [Literal.escape, Cursor.next?_eq_none_iff.2 hrest]
    exact agrees_bind_of_ok (bump_of_nil h hrest asserted) (agrees_fail trivial)
  have hd := hmoves.within h
  rw [escape_of_moves hmoves]
  refine agrees_bind_of_ok (bump_of_moves h hmoves asserted) ?_
  dsimp only
  split
  · exact hexEscape_agrees hd asserted 2
  split
  · refine agrees_bind_of_ok (peek_of_within hd asserted) ?_
    split
    · next hbrace =>
      obtain ⟨rest, hrest⟩ := List.head?_eq_some_iff.1 hbrace
      have hopen : d.Moves ['\x7b'] ⟨d.offset + utf8Length ['\x7b'], rest⟩ := ⟨hrest, rfl⟩
      have hbehind := Nat.lt_trans hopen.length_lt (Nat.lt_trans hmoves.length_lt hsteps)
      rw [Cursor.next?_eq_some_iff.2 hopen]
      exact agrees_bind_of_ok (advance_of_moves hd hopen asserted)
        (bracedEscape_agrees (hopen.within hd) hbehind asserted)
    · next hbrace =>
      split
      · next inner hopen =>
        exact absurd (Cursor.peek?_of_moves (Cursor.next?_eq_some_iff.1 hopen)) hbrace
      · exact hexEscape_agrees hd asserted 4
  · exact agrees_pure rfl

theorem exists_moves_of_bracedEscape (h : Literal.bracedEscape c = .ok (x, d)) :
    ∃ text, c.Moves text d := by
  have hsplit : c.rest =
      (c.rest.takeWhile (· ≠ '\x7d') ++ (c.rest.dropWhile (· ≠ '\x7d')).take 1) ++
        (c.rest.dropWhile (· ≠ '\x7d')).drop 1 := by
    rw [List.append_assoc, List.take_append_drop, List.takeWhile_append_dropWhile]
  simp only [Literal.bracedEscape] at h
  split at h
  · cases h
    exact ⟨_, Cursor.moves_after hsplit⟩
  · cases h

/-- An escape moves on, also one without its closing brace. -/
theorem exists_moves_of_escape (h : Literal.escape c = .ok (x, d)) : ∃ text, c.Moves text d := by
  rcases c.nil_or_moves with hrest | ⟨y, behind, hfirst⟩
  · rw [Literal.escape, Cursor.next?_eq_none_iff.2 hrest] at h
    cases h
  have hhex : ∀ {count}, hexEscape count behind = .ok (x, d) → ∃ text, c.Moves text d := by
    intro count hread
    obtain ⟨hex, -, -, hmoves⟩ := hexEscape_eq_ok_iff.1 hread
    exact ⟨_, hfirst.cons hmoves⟩
  rw [escape_of_moves hfirst] at h
  split at h
  · exact hhex h
  split at h
  · split at h
    · next inner hopen =>
      obtain ⟨text, hmoves⟩ := exists_moves_of_bracedEscape h
      exact ⟨_, hfirst.cons ((Cursor.next?_eq_some_iff.1 hopen).cons hmoves)⟩
    · exact hhex h
  · cases h
    exact ⟨_, hfirst⟩

/-! ## Strings and templates -/

/-- The letters that are scanned already stand before the ones the reader reads. -/
theorem lettersFrom_agrees (h : c.Within source) (hsteps : c.rest.length < steps)
    (asserted : Bool) (quote : Char) {fuel : Nat} (hfuel : c.rest.length < fuel)
    (letters : List Char) :
    Agrees source (lettersFrom source quote letters steps) (.before source asserted c.rest)
      (fun found => passing source asserted (letters ++ found.1, found.2))
      (stringBody quote fuel c) := by
  induction steps generalizing c letters fuel with
  | zero => exact absurd hsteps (Nat.not_lt_zero _)
  | succ steps ih =>
    obtain ⟨fuel, rfl⟩ := Nat.exists_eq_add_one_of_ne_zero (Nat.ne_zero_of_lt hfuel)
    rw [lettersFrom, stringBody]
    rcases c.nil_or_moves with hrest | ⟨x, d, hmoves⟩
    · rw [Cursor.next?_eq_none_iff.2 hrest]
      exact agrees_bind_of_ok (bump_of_nil h hrest asserted) (agrees_fail trivial)
    have hd := hmoves.within h
    have hmore : ∀ {e : Cursor} (letter : Char), e.Within source → e.rest.length ≤ d.rest.length →
        Agrees source (lettersFrom source quote (letters ++ [letter]) steps)
          (.before source asserted e.rest)
          (fun found => passing source asserted (letters ++ found.1, found.2))
          (stringBody quote fuel e >>= fun found => .ok (letter :: found.1, found.2)) := by
      intro e letter he hlength
      have hbehind := Nat.lt_of_le_of_lt hlength (hmoves.length_lt_of_succ hsteps)
      have henough := Nat.lt_of_le_of_lt hlength (hmoves.length_lt_of_succ hfuel)
      refine (ih he hbehind henough (letters ++ [letter])).map fun found => ?_
      rw [List.append_assoc]
      rfl
    rw [Cursor.next?_eq_some_iff.2 hmoves]
    refine agrees_bind_of_ok (bump_of_moves h hmoves asserted) ?_
    dsimp only
    split
    · exact agrees_pure (by rw [List.append_nil]; rfl)
    split
    · refine (escape_agrees hd (hmoves.length_lt_of_succ hsteps) asserted).bind
        fun found hfound => ?_
      obtain ⟨text, hpassed⟩ := exists_moves_of_escape hfound
      exact hmore found.1 (hpassed.within hd) hpassed.length_rest_le
    · exact hmore x hd le_rfl

theorem string_agrees (h : c.Within source) (hmoves : c.Moves [x] d)
    (hsteps : c.rest.length < steps) (asserted : Bool) :
    Agrees source (string source steps) (.before source asserted c.rest)
      (fun found => passing source asserted (String.ofList found.1, found.2))
      (stringBody x d.rest.length.succ d) := by
  rw [string]
  refine agrees_bind_of_ok (bump_of_moves h hmoves asserted) ?_
  exact (lettersFrom_agrees (hmoves.within h) (Nat.lt_trans hmoves.length_lt hsteps) asserted x
    (Nat.lt_succ_self _) []).pure String.ofList

/-- The raw text that is scanned already stands before the one the reader reads. -/
theorem rawFrom_agrees (h : c.Within source) (hsteps : c.rest.length < steps) (asserted : Bool)
    {fuel : Nat} (hfuel : c.rest.length < fuel) (raw : List Char) :
    Agrees source (rawFrom source raw steps) (.before source asserted c.rest)
      (fun found => passing source asserted (raw ++ found.1, found.2)) (templateBody fuel c) := by
  induction steps generalizing c raw fuel with
  | zero => exact absurd hsteps (Nat.not_lt_zero _)
  | succ steps ih =>
    obtain ⟨fuel, rfl⟩ := Nat.exists_eq_add_one_of_ne_zero (Nat.ne_zero_of_lt hfuel)
    rw [rawFrom, templateBody]
    rcases c.nil_or_moves with hrest | ⟨x, d, hmoves⟩
    · rw [Cursor.next?_eq_none_iff.2 hrest]
      exact agrees_bind_of_ok (bump_of_nil h hrest asserted) (agrees_fail trivial)
    have hd := hmoves.within h
    have hbehind := hmoves.length_lt_of_succ hsteps
    have henough := hmoves.length_lt_of_succ hfuel
    rw [Cursor.next?_eq_some_iff.2 hmoves]
    refine agrees_bind_of_ok (bump_of_moves h hmoves asserted) ?_
    dsimp only
    split
    · exact agrees_pure (by rw [List.append_nil]; rfl)
    refine agrees_bind_of_ok (peek_of_within hd asserted) ?_
    split
    · exact agrees_fail trivial
    split
    · next hslash =>
      subst hslash
      rcases d.nil_or_moves with hrest | ⟨y, e, hescaped⟩
      · -- behind a backslash that the text ends with, the scan goes on to find the end
        obtain ⟨steps, rfl⟩ := Nat.exists_eq_add_one_of_ne_zero (Nat.ne_zero_of_lt hbehind)
        rw [Cursor.next?_eq_none_iff.2 hrest]
        refine agrees_bind_of_ok (bump_of_nil hd hrest asserted) ?_
        rw [rawFrom]
        exact agrees_bind_of_ok (bump_of_nil hd hrest asserted) (agrees_fail trivial)
      · have he := ih (hescaped.within hd) (Nat.lt_trans hescaped.length_lt hbehind)
          (Nat.lt_trans hescaped.length_lt henough) (raw ++ ['\\', y])
        rw [Cursor.next?_eq_some_iff.2 hescaped]
        refine agrees_bind_of_ok (bump_of_moves hd hescaped asserted) ?_
        refine he.map fun found => ?_
        rw [List.append_assoc]
        rfl
    · refine (ih hd hbehind henough (raw ++ [x])).map fun found => ?_
      rw [List.append_assoc]
      rfl

theorem template_agrees (h : c.Within source) (hmoves : c.Moves ['\x60'] d)
    (hsteps : c.rest.length < steps) (asserted : Bool) :
    Agrees source (template source steps) (.before source asserted c.rest)
      (fun found => passing source asserted (String.ofList found.1, found.2))
      (templateBody d.rest.length.succ d) := by
  rw [template]
  refine agrees_bind_of_ok (expect_of_moves h hmoves asserted) ?_
  exact (rawFrom_agrees (hmoves.within h) (Nat.lt_trans hmoves.length_lt hsteps) asserted
    (Nat.lt_succ_self _) []).pure String.ofList

/-! ## Types -/

/-- As long as a bracket is open, a closing one may be counted. -/
theorem skipBalanced_agrees (h : c.Within source) (hsteps : c.rest.length < steps)
    (asserted : Bool) {depth : Nat} (hdepth : 0 < depth) :
    Agrees source (skipBalanced source '<' '>' depth steps) (.before source asserted c.rest)
      (standing source asserted) (skipAngles depth c.offset c.rest) := by
  induction steps generalizing c depth with
  | zero => exact absurd hsteps (Nat.not_lt_zero _)
  | succ steps ih =>
    rw [skipBalanced]
    rcases c.nil_or_moves with hrest | ⟨x, d, hmoves⟩
    · refine agrees_bind_of_ok (bump_of_nil h hrest asserted) ?_
      rw [hrest]
      exact agrees_fail trivial
    have hd := hmoves.within h
    have hbehind := hmoves.length_lt_of_succ hsteps
    rw [skipAngles_of_moves hmoves]
    refine agrees_bind_of_ok (bump_of_moves h hmoves asserted) ?_
    dsimp only
    split
    · exact ih hd hbehind (Nat.succ_pos depth)
    split
    · refine agrees_bind_of_ok (less_of_le (Nat.succ_le_of_lt hdepth) _ _) ?_
      by_cases hclosed : depth ≤ 1
      · rw [if_pos (Nat.sub_eq_zero_of_le hclosed), if_pos hclosed]
        exact agrees_pure rfl
      · rw [if_neg (Nat.sub_ne_zero_of_lt (Nat.lt_of_not_le hclosed)), if_neg hclosed]
        exact ih hd hbehind (Nat.sub_pos_of_lt (Nat.lt_of_not_le hclosed))
    · exact ih hd hbehind hdepth

/-- The count begins before a bracket that opens. -/
theorem skipBalanced_of_opened (h : c.Within source) (hopen : c.Moves ['<'] d)
    (hsteps : c.rest.length < steps) (asserted : Bool) :
    Agrees source (skipBalanced source '<' '>' 0 steps) (.before source asserted c.rest)
      (standing source asserted) (skipAngles 0 c.offset c.rest) := by
  obtain ⟨steps, rfl⟩ := Nat.exists_eq_add_one_of_ne_zero (Nat.ne_zero_of_lt hsteps)
  rw [skipBalanced, skipAngles_of_moves hopen, if_pos rfl]
  exact agrees_bind_of_ok (bump_of_moves h hopen asserted)
    (skipBalanced_agrees (hopen.within h) (hopen.length_lt_of_succ hsteps) asserted Nat.one_pos)

theorem skipTypeFrom_of_within (h : c.Within source) (hsteps : c.rest.length < steps)
    (asserted : Bool) (depth : Int) :
    (skipTypeFrom source depth steps).run (.before source asserted c.rest) =
      .ok (standing source asserted (Literal.skipType depth c.offset c.rest)) := by
  induction steps generalizing c depth with
  | zero => exact absurd hsteps (Nat.not_lt_zero _)
  | succ steps ih =>
    rw [skipTypeFrom, Scan.run_bind_of_ok (peek_of_within h asserted)]
    rcases c.nil_or_moves with hrest | ⟨x, d, hmoves⟩
    · rw [Cursor.peek?_of_nil hrest, hrest]
      rfl
    have hpasses : ¬(IsStop x ∧ depth = 0) → ∀ behind, depth + bracketWeight x = behind →
        (advance >>= fun _ => skipTypeFrom source behind steps).run
            (.before source asserted c.rest) =
          .ok (standing source asserted (Literal.skipType depth c.offset c.rest)) := by
      rintro hstop behind rfl
      rw [Scan.run_bind_of_ok (advance_of_moves h hmoves asserted),
        ih (hmoves.within h) (hmoves.length_lt_of_succ hsteps), skipType_of_moves hmoves,
        if_neg hstop]
    have hstops : IsStop x → depth = 0 →
        (pure () : Scan Unit).run (.before source asserted c.rest) =
          .ok (standing source asserted (Literal.skipType depth c.offset c.rest)) := by
      intro hstop hdepth
      rw [skipType_of_moves hmoves, if_pos ⟨hstop, hdepth⟩]
      rfl
    rw [Cursor.peek?_of_moves hmoves]
    dsimp only
    split
    · next hx =>
      refine hpasses (fun hstop => ?_) _ (by rw [bracketWeight, if_pos hx])
      obtain ⟨hstop, -⟩ := hstop
      revert hstop
      rcases hx with rfl | rfl | rfl | rfl <;> decide
    split
    · next hx =>
      refine hpasses (fun hstop => ?_) _ (by rcases hx with rfl | rfl <;> rfl)
      obtain ⟨hstop, -⟩ := hstop
      revert hstop
      rcases hx with rfl | rfl <;> decide
    split
    · next hx => exact hstops (.inr hx.1) hx.2
    split
    · next hclosing hx =>
      exact hpasses (fun hstop => hclosing ⟨hx, hstop.2⟩) _ (by rcases hx with rfl | rfl <;> rfl)
    split
    · next hx => exact hstops (.inl hx.1) hx.2
    · next hopening hangle _ hclosing hcomma =>
      refine hpasses (fun hstop => ?_) _ ?_
      · exact hstop.1.elim (fun hx => hcomma ⟨hx, hstop.2⟩) hclosing
      · rw [bracketWeight, if_neg hopening, if_neg (by tauto), Int.add_zero]

/-! ## Assertions -/

/-- The type of an assertion is passed, and may not be missing. -/
def passType (c : Cursor) : Except ReadFault Cursor :=
  if c.skipBlanks.rest = [] then .error .unexpectedEnd
  else .ok (Literal.skipType 0 c.skipBlanks.offset c.skipBlanks.rest)

theorem exists_moves_of_passType (h : passType c = .ok d) : ∃ text, c.Moves text d := by
  rw [passType] at h
  split at h
  · cases h
  · cases h
    obtain ⟨type, -, hpassed, -⟩ := exists_type c.skipBlanks 0
    exact ⟨_, (Cursor.moves_skipWhile c isBlank).trans hpassed⟩

theorem skipAssertions_succ (fuel : Nat) (c : Cursor) :
    skipAssertions (fuel + 1) c =
      if ((Literal.word c.skipBlanks).1 = "as" ∨ (Literal.word c.skipBlanks).1 = "satisfies") ∧
          (Literal.word c.skipBlanks).2.peek?.any isBlank then
        passType (Literal.word c.skipBlanks).2 >>= fun target =>
          skipAssertions fuel target >>= fun found => .ok (true, found.2)
      else .ok (false, c.skipBlanks) := by
  rw [skipAssertions, passType]
  dsimp only
  split
  · split <;> rfl
  · rfl

theorem skipType_agrees (h : c.Within source) (hsteps : c.rest.length < steps) (asserted : Bool) :
    Agrees source (skipType source steps) (.before source asserted c.rest)
      (standing source asserted) (passType c) := by
  have hbehind := Nat.lt_of_le_of_lt c.length_skipBlanks_le hsteps
  rw [skipType, passType]
  refine agrees_bind_of_ok (skipBlanks_of_within h hsteps asserted) ?_
  refine agrees_bind_of_ok (peek_of_within h.skipBlanks asserted) ?_
  rw [Cursor.peek?]
  split
  · next hrest =>
    rw [if_pos (by simpa using hrest)]
    exact agrees_fail trivial
  · next hrest =>
    rw [if_neg (by simpa using hrest)]
    exact agrees_ok (skipTypeFrom_of_within h.skipBlanks hbehind asserted 0)

theorem assertions_agrees (h : c.Within source) (hsteps : c.rest.length + 1 < steps)
    (asserted : Bool) {fuel : Nat} (hfuel : c.rest.length < fuel) :
    Agrees source (assertions source steps) (.before source asserted c.rest)
      (fun found => standing source (asserted || found.1) found.2) (skipAssertions fuel c) := by
  induction steps generalizing c asserted fuel with
  | zero => exact absurd hsteps (Nat.not_lt_zero _)
  | succ steps ih =>
    obtain ⟨fuel, rfl⟩ := Nat.exists_eq_add_one_of_ne_zero (Nat.ne_zero_of_lt hfuel)
    have hhere : c.rest.length < steps := Nat.lt_of_succ_lt_succ hsteps
    have hbehind := Nat.lt_of_le_of_lt c.length_skipBlanks_le hhere
    have hmoves := moves_word c.skipBlanks
    have hword := hmoves.within h.skipBlanks
    have hbehindWord := Nat.lt_of_le_of_lt hmoves.length_rest_le hbehind
    rw [assertions, skipAssertions_succ]
    refine agrees_bind_of_ok (skipBlanks_of_within h hhere asserted) ?_
    refine agrees_bind_of_ok rfl ?_
    refine agrees_bind_of_ok (word_of_within h.skipBlanks hbehind asserted) ?_
    refine agrees_bind_of_ok (peek_of_within hword asserted) ?_
    split
    · next hasserts =>
      refine (skipType_agrees hword hbehindWord asserted).bind fun target htarget => ?_
      have hnoted : (modify fun place => { place with asserted := true } : Scan Unit).run
          (standing source asserted target).2 = .ok (standing source true target) := rfl
      refine agrees_bind_of_ok hnoted ?_
      -- the word of the assertion is passed, so less remains
      obtain ⟨text, hpassed⟩ := exists_moves_of_passType htarget
      have htotal := ((Cursor.moves_skipWhile c isBlank).trans hmoves).trans hpassed
      have hname : (Literal.word c.skipBlanks).1.toList ≠ [] := by
        rcases hasserts.1 with hname | hname <;> rw [hname] <;> decide
      have hpos := List.length_pos_of_ne_nil hname
      have hlength := htotal.length_rest
      rw [List.length_append, List.length_append] at hlength
      refine (ih (htotal.within h) (by omega) true (by omega)).map fun found => ?_
      rw [Bool.or_true, Bool.true_or]
    · exact agrees_ok (by rw [Bool.or_false]; rfl)

end TypeSchema.Literal.Scanner
