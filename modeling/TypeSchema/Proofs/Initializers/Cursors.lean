import Mathlib.Algebra.Ring.Nat
import TypeSchema.Literal.Reader
import TypeSchema.Proofs.Results

/-!
# Cursors that move

Each reader of initializers takes a cursor and leaves one behind what it read.  `Cursor.Moves c text d`
says what lies between the two: the cursor `d` stands behind `text`, which the remaining text of `c`
begins with.  What a reader does is stated with it in both directions, what it read is of some form and
what is of that form is read.

Blanks, words and the other runs are read as far as they go, so each is followed by what does not go on
with it (`Halts`).
-/

set_option autoImplicit false

namespace TypeSchema

/-! ## Runs of characters -/

namespace Text

variable {p : Char → Bool} {text rest : List Char}

@[simp] theorem utf8Length_nil : utf8Length [] = 0 := rfl

theorem utf8Length_eq_sum (cs : List Char) : utf8Length cs = (cs.map Char.utf8Size).sum := by
  have hfrom : ∀ n, cs.foldl (fun n c => n + c.utf8Size) n = n + (cs.map Char.utf8Size).sum := by
    induction cs with
    | nil => exact fun n => rfl
    | cons c cs ih =>
      intro n
      rw [List.foldl_cons, ih, List.map_cons, List.sum_cons, Nat.add_assoc]
  rw [utf8Length, hfrom, Nat.zero_add]

@[simp] theorem utf8Length_append (cs more : List Char) :
    utf8Length (cs ++ more) = utf8Length cs + utf8Length more := by
  simp only [utf8Length_eq_sum, List.map_append, List.sum_append]

@[simp] theorem utf8Length_cons (c : Char) (cs : List Char) :
    utf8Length (c :: cs) = c.utf8Size + utf8Length cs := by
  simp only [utf8Length_eq_sum, List.map_cons, List.sum_cons]

/-- The text does not begin with a character of the class. -/
def Halts (p : Char → Bool) (rest : List Char) : Prop :=
  ∀ c, rest.head? = some c → p c = false

instance : Decidable (Halts p rest) :=
  decidable_of_iff (rest.head?.all fun c => !p c) (by cases rest <;> simp [Halts])

theorem halts_nil : Halts p [] := nofun

@[simp] theorem halts_cons {c : Char} : Halts p (c :: rest) ↔ p c = false := by
  simp [Halts]

theorem halts_append (h : text ≠ []) : Halts p (text ++ rest) ↔ Halts p text := by
  obtain ⟨c, cs, rfl⟩ := List.exists_cons_of_ne_nil h
  simp

theorem halts_dropWhile (cs : List Char) : Halts p (cs.dropWhile p) := by
  intro c hc
  have h := List.head?_dropWhile_not p cs
  rwa [hc] at h

theorem takeWhile_append (htext : ∀ c ∈ text, p c = true) (hrest : Halts p rest) :
    (text ++ rest).takeWhile p = text := by
  rw [List.takeWhile_append_of_pos htext]
  cases rest with
  | nil => simp
  | cons c rest => simp [halts_cons.1 hrest]

theorem dropWhile_append (htext : ∀ c ∈ text, p c = true) (hrest : Halts p rest) :
    (text ++ rest).dropWhile p = rest := by
  rw [List.dropWhile_append_of_pos htext]
  cases rest with
  | nil => rfl
  | cons c rest => simp [halts_cons.1 hrest]

/-- Nothing but blanks. -/
def AreBlanks (text : List Char) : Prop :=
  ∀ c ∈ text, isBlank c = true

instance : Decidable (AreBlanks text) :=
  decidable_of_iff (text.all isBlank = true) List.all_eq_true

theorem areBlanks_nil : AreBlanks [] := nofun

theorem areBlanks_blank : AreBlanks [' '] := by decide +kernel

theorem areBlanks_takeWhile (cs : List Char) : AreBlanks (cs.takeWhile isBlank) :=
  fun _ h => List.all_eq_true.1 List.all_takeWhile _ h

/-- What ASCII prints is no blank. -/
theorem isBlank_of_printed {c : Char} (h : 0x20 < c.toNat ∧ c.toNat < 0x7f) : isBlank c = false := by
  obtain ⟨hlow, hhigh⟩ := h
  simp only [isBlank, blankRanges, Ranges.contains, Ranges.hasCode, List.any_toArray, List.any_cons,
    List.any_nil, Bool.or_eq_false_iff, Bool.and_eq_false_iff, decide_eq_false_iff_not, and_true]
  omega

theorem ne_of_isBlank {c mark : Char} (h : isBlank c = true)
    (hmark : 0x20 < mark.toNat ∧ mark.toNat < 0x7f) : c ≠ mark := by
  rintro rfl
  rw [isBlank_of_printed hmark] at h
  cases h

end Text

namespace Literal

open Text

/-- A blank is no letter, no number and none of the marks that identifiers may hold. -/
theorem isIdentifierCharacter_of_isBlank {c : Char} (h : isBlank c = true) :
    isIdentifierCharacter c = false := by
  have hblanks : ∀ n ∈ List.range' 0x9 5 ++ [0x20, 0x85, 0xa0, 0x1680] ++ List.range' 0x2000 11 ++
      [0x2028, 0x2029, 0x202f, 0x205f, 0x3000], isIdentifierCharacter (Char.ofNat n) = false := by
    -- on lists the tables are evaluated at once
    simp only [isIdentifierCharacter, isAlphanumeric, isAlphabetic, isNumeric, Ranges.contains,
      Ranges.hasCode, ← Array.any_toList]
    decide +kernel
  have hcode : c.toNat ∈ List.range' 0x9 5 ++ [0x20, 0x85, 0xa0, 0x1680] ++ List.range' 0x2000 11 ++
      [0x2028, 0x2029, 0x202f, 0x205f, 0x3000] := by
    simp only [isBlank, blankRanges, Ranges.contains, Ranges.hasCode, List.any_toArray,
      List.any_cons, List.any_nil, Bool.or_false, Bool.or_eq_true, Bool.and_eq_true,
      decide_eq_true_eq] at h
    simp only [List.mem_append, List.mem_range'_1, List.mem_cons, List.not_mem_nil, or_false]
    omega
  simpa using hblanks c.toNat hcode

theorem isBlank_of_isIdentifierCharacter {c : Char} (h : isIdentifierCharacter c = true) :
    isBlank c = false := by
  refine Bool.eq_false_iff.2 fun hblank => ?_
  rw [isIdentifierCharacter_of_isBlank hblank] at h
  cases h

namespace Cursor

variable {c d e : Cursor} {p : Char → Bool} {x : Char} {text more rest : List Char}

/-! ## Moving -/

/-- The cursor `d` stands behind `text`, which begins at the cursor `c`. -/
structure Moves (c : Cursor) (text : List Char) (d : Cursor) : Prop where
  rest : c.rest = text ++ d.rest
  offset : d.offset = c.offset + utf8Length text

theorem moves_nil (c : Cursor) : Moves c [] c :=
  ⟨rfl, rfl⟩

theorem moves_mk (offset : Nat) (text rest : List Char) :
    Moves ⟨offset, text ++ rest⟩ text ⟨offset + utf8Length text, rest⟩ :=
  ⟨rfl, rfl⟩

theorem moves_cons (offset : Nat) (x : Char) (rest : List Char) :
    Moves ⟨offset, x :: rest⟩ [x] ⟨offset + x.utf8Size, rest⟩ :=
  ⟨rfl, by simp⟩

theorem moves_after (h : c.rest = text ++ rest) : Moves c text (c.after text rest) :=
  ⟨h, rfl⟩

theorem Moves.trans (h : Moves c text d) (hmore : Moves d more e) : Moves c (text ++ more) e :=
  ⟨by rw [h.rest, hmore.rest, List.append_assoc],
    by rw [hmore.offset, h.offset, utf8Length_append, Nat.add_assoc]⟩

theorem Moves.cons (h : Moves c [x] d) (hmore : Moves d more e) : Moves c (x :: more) e :=
  h.trans hmore

/-- A move over two texts is a move over the first and one over the second. -/
theorem Moves.split (h : Moves c (text ++ more) e) : ∃ d, Moves c text d ∧ Moves d more e :=
  ⟨⟨c.offset + utf8Length text, more ++ e.rest⟩, ⟨by rw [h.rest, List.append_assoc], rfl⟩,
    rfl, by rw [h.offset, utf8Length_append, Nat.add_assoc]⟩

theorem Moves.uncons (h : Moves c (x :: more) e) : ∃ d, Moves c [x] d ∧ Moves d more e := by
  rw [← List.singleton_append] at h
  exact h.split

/-- Where a move ends is settled by where it starts and what it passes. -/
theorem Moves.final_eq (h : Moves c text d) (h' : Moves c text e) : d = e := by
  obtain ⟨hrest, hoffset⟩ := h
  obtain ⟨hrest', hoffset'⟩ := h'
  cases d
  cases e
  simp_all

theorem Moves.length_le (h : Moves c text d) : text.length ≤ c.rest.length := by
  rw [h.rest, List.length_append]
  exact Nat.le_add_right ..

theorem next?_eq_some_iff : c.next? = some (x, d) ↔ Moves c [x] d := by
  rcases c with ⟨offset, _ | ⟨y, rest⟩⟩
  · constructor
    · nofun
    · rintro ⟨hrest, -⟩
      cases hrest
  · constructor
    · rintro ⟨⟩
      exact moves_cons ..
    · intro h
      obtain rfl : y = x := (List.cons.inj h.rest).1
      rw [h.final_eq (moves_cons ..)]
      rfl

theorem next?_eq_none_iff : c.next? = none ↔ c.rest = [] := by
  rcases c with ⟨offset, _ | ⟨y, rest⟩⟩ <;> simp [next?]

theorem peek?_of_moves (h : Moves c (x :: text) d) : c.peek? = some x := by
  rw [peek?, h.rest]
  rfl

/-- The next character is the one wanted. -/
theorem expect_eq_ok_iff : c.expect x = .ok d ↔ Moves c [x] d := by
  rw [← next?_eq_some_iff, expect]
  cases h : c.next? with
  | none => simp
  | some found =>
    obtain ⟨y, behind⟩ := found
    dsimp only
    split <;> simp_all

/-! ## Runs -/

theorem moves_skipWhile (c : Cursor) (p : Char → Bool) :
    Moves c (c.rest.takeWhile p) (c.skipWhile p) :=
  moves_after List.takeWhile_append_dropWhile.symm

theorem halts_skipWhile (c : Cursor) (p : Char → Bool) : Halts p (c.skipWhile p).rest :=
  halts_dropWhile c.rest

/-- A run that ends is passed as a whole. -/
theorem skipWhile_of_moves (h : Moves c text d) (htext : ∀ x ∈ text, p x = true)
    (hrest : Halts p d.rest) : c.skipWhile p = d := by
  have hpassed := moves_skipWhile c p
  rw [h.rest, takeWhile_append htext hrest] at hpassed
  exact hpassed.final_eq h

theorem skipWhile_eq_self (h : Halts p c.rest) : c.skipWhile p = c :=
  skipWhile_of_moves (moves_nil c) nofun h

/-- Blanks are passed, and none is next. -/
theorem exists_moves_skipBlanks (c : Cursor) :
    ∃ blanks, AreBlanks blanks ∧ Moves c blanks c.skipBlanks ∧ Halts isBlank c.skipBlanks.rest :=
  ⟨_, areBlanks_takeWhile c.rest, moves_skipWhile c isBlank, halts_skipWhile c isBlank⟩

theorem skipBlanks_of_moves (h : Moves c text d) (htext : AreBlanks text)
    (hrest : Halts isBlank d.rest) : c.skipBlanks = d :=
  skipWhile_of_moves h htext hrest

theorem skipBlanks_eq_self (h : Halts isBlank c.rest) : c.skipBlanks = c :=
  skipWhile_eq_self h

theorem Moves.halts_isBlank {mark : Char} (h : Moves c [mark] d)
    (hmark : 0x20 < mark.toNat ∧ mark.toNat < 0x7f) : Halts isBlank c.rest := by
  rw [h.rest]
  exact halts_cons.2 (isBlank_of_printed hmark)

@[simp] theorem skipBlanks_skipBlanks (c : Cursor) : c.skipBlanks.skipBlanks = c.skipBlanks :=
  skipBlanks_eq_self (halts_skipWhile c isBlank)

end Cursor

/-- The word at a cursor is the run of identifier characters. -/
theorem word_of_moves {c d : Cursor} {name : String} (h : c.Moves name.toList d)
    (hname : ∀ x ∈ name.toList, isIdentifierCharacter x = true)
    (hrest : Halts isIdentifierCharacter d.rest) : word c = (name, d) := by
  rw [word, Cursor.skipWhile_of_moves h hname hrest, h.rest, takeWhile_append hname hrest,
    String.ofList_toList]

theorem moves_word (c : Cursor) : c.Moves (word c).1.toList (word c).2 := by
  rw [word, String.toList_ofList]
  exact Cursor.moves_skipWhile c isIdentifierCharacter

theorem halts_word (c : Cursor) : Halts isIdentifierCharacter (word c).2.rest :=
  Cursor.halts_skipWhile c isIdentifierCharacter

end Literal

end TypeSchema
