import TypeSchema.Proofs.Initializers.Grammar

/-!
# Types and assertions

Types are passed over, not read.  One in angle brackets ends where the brackets are balanced
(`skipAngles_eq_ok_iff`); one behind `as` or `satisfies` runs to the first comma or closing bracket at
which the depth of all brackets is zero, or to the end of the text (`skipType_eq_iff`).

So an assertion behind an expression takes with it whatever stands there (`skipAssertions_of_type`), and
no second assertion is ever met (`skipAssertions_of_stop`).
-/

set_option autoImplicit false

namespace TypeSchema.Literal

open Text

variable {c d e : Cursor} {x : Char} {text type rest : List Char}

/-! ## Types in angle brackets -/

theorem skipAngles_of_moves {depth : Nat} (h : c.Moves [x] d) :
    skipAngles depth c.offset c.rest =
      if x = '<' then skipAngles (depth + 1) d.offset d.rest
      else if x = '>' then if depth ≤ 1 then .ok d else skipAngles (depth - 1) d.offset d.rest
      else skipAngles depth d.offset d.rest := by
  have hoffset : d.offset = c.offset + x.utf8Size := by simpa using h.offset
  rw [h.rest, hoffset]
  show skipAngles depth c.offset (x :: d.rest) = _
  rw [skipAngles, ← hoffset]

/-- A balanced text is passed without a change of depth. -/
theorem Balanced.skipAngles (h : Balanced type) {depth : Nat} (hmoves : c.Moves type d) :
    Literal.skipAngles (depth + 1) c.offset c.rest =
      Literal.skipAngles (depth + 1) d.offset d.rest := by
  induction h generalizing c d depth with
  | nil => rw [(Cursor.moves_nil c).final_eq hmoves]
  | letter hopen hclose _ ih =>
    obtain ⟨behind, hfirst, hmoves⟩ := hmoves.uncons
    rw [skipAngles_of_moves hfirst, if_neg hopen, if_neg hclose, ih hmoves]
  | nested _ _ ihinner ihtext =>
    obtain ⟨inner, hopen, hmoves⟩ := hmoves.uncons
    obtain ⟨close, hinner, hmoves⟩ := hmoves.split
    obtain ⟨behind, hclose, hmoves⟩ := hmoves.uncons
    rw [skipAngles_of_moves hopen, if_pos rfl, ihinner hinner, skipAngles_of_moves hclose,
      if_neg (by decide), if_pos rfl, if_neg (by omega)]
    exact ihtext hmoves

/-- Inside a bracket, a balanced text stands before the closing one. -/
theorem exists_balanced {depth : Nat} (h : skipAngles (depth + 1) c.offset c.rest = .ok d) :
    ∃ type mid, Balanced type ∧ c.Moves (type ++ ['>']) mid ∧
      if depth = 0 then d = mid else skipAngles depth mid.offset mid.rest = .ok d := by
  generalize hlength : c.rest.length = length
  induction length using Nat.strongRecOn generalizing c depth with
  | ind length ih =>
    cases hnext : c.next? with
    | none =>
      rw [Cursor.next?_eq_none_iff.1 hnext] at h
      cases h
    | some found =>
      obtain ⟨x, behind⟩ := found
      have hfirst := Cursor.next?_eq_some_iff.1 hnext
      have hshorter : behind.rest.length < length := by simp [← hlength, hfirst.rest]
      rw [skipAngles_of_moves hfirst] at h
      split at h
      · next hopen =>
        subst hopen
        obtain ⟨inner, mid, hinner, hmoves, h⟩ := ih _ hshorter h rfl
        rw [if_neg (Nat.succ_ne_zero depth)] at h
        have hmid : mid.rest.length < length := by
          have := congrArg List.length hmoves.rest
          simp only [List.length_append] at this
          omega
        obtain ⟨text, final, htext, hmore, h⟩ := ih _ hmid h rfl
        refine ⟨_, final, .nested hinner htext, ?_, h⟩
        have := hfirst.cons (hmoves.trans hmore)
        simpa using this
      next hopen =>
      split at h
      · next hclose =>
        subst hclose
        refine ⟨[], behind, .nil, hfirst, ?_⟩
        split at h
        · cases h
          exact (if_pos (by omega)).mpr rfl
        · rwa [if_neg (by omega)]
      · next hclose =>
        obtain ⟨type, mid, htype, hmoves, h⟩ := ih _ hshorter h rfl
        exact ⟨_, mid, .letter hopen hclose htype, hfirst.cons hmoves, h⟩

/-- **A type in angle brackets.** -/
theorem skipAngles_eq_ok_iff {opened : Cursor} (h : c.Moves ['<'] opened) :
    skipAngles 0 c.offset c.rest = .ok d ↔
      ∃ type, Balanced type ∧ opened.Moves (type ++ ['>']) d := by
  rw [skipAngles_of_moves h, if_pos rfl]
  constructor
  · intro hpassed
    obtain ⟨type, mid, htype, hmoves, hmid⟩ := exists_balanced hpassed
    rw [if_pos rfl] at hmid
    exact ⟨type, htype, hmid ▸ hmoves⟩
  · rintro ⟨type, htype, hmoves⟩
    obtain ⟨close, htext, hclose⟩ := hmoves.split
    rw [htype.skipAngles htext, skipAngles_of_moves hclose, if_neg (by decide), if_pos rfl,
      if_pos (Nat.le_refl 1)]

/-! ## Types behind an expression -/

@[simp] theorem nesting_nil : nesting [] = 0 := rfl

@[simp] theorem nesting_cons (x : Char) (text : List Char) :
    nesting (x :: text) = bracketWeight x + nesting text := by
  rw [nesting, nesting, List.map_cons, List.sum_cons]

theorem passesFrom_nil (depth : Int) : PassesFrom depth [] := by
  intro before x after h
  simp at h

theorem passesFrom_cons {depth : Int} :
    PassesFrom depth (x :: text) ↔
      (IsStop x → depth ≠ 0) ∧ PassesFrom (depth + bracketWeight x) text := by
  constructor
  · intro h
    refine ⟨fun hx => by simpa using h [] x text rfl hx, fun before y after htext hy => ?_⟩
    have := h (x :: before) y after (by rw [htext]; rfl) hy
    rwa [nesting_cons, ← Int.add_assoc] at this
  · rintro ⟨hx, htext⟩ before y after h hy
    cases before with
    | nil =>
      obtain ⟨rfl, -⟩ := List.cons.inj h
      simpa using hx hy
    | cons first before =>
      obtain ⟨rfl, rfl⟩ := List.cons.inj h
      rw [nesting_cons, ← Int.add_assoc]
      exact htext before y after rfl hy

/-- Whether brackets and commas end a text is decided character by character. -/
instance decidablePassesFrom : (depth : Int) → (text : List Char) → Decidable (PassesFrom depth text)
  | depth, [] => .isTrue (passesFrom_nil depth)
  | depth, x :: text =>
    have := decidablePassesFrom (depth + bracketWeight x) text
    decidable_of_iff' _ passesFrom_cons

instance {closed : Bool} : Decidable (IsType closed type) :=
  decidable_of_iff (Halts isBlank type ∧ PassesFrom 0 type ∧
    if closed then nesting type = 0 else type ≠ [])
    ⟨fun ⟨hstarts, hpasses, hends⟩ => ⟨hstarts, hpasses, hends⟩,
      fun ⟨hstarts, hpasses, hends⟩ => ⟨hstarts, hpasses, hends⟩⟩

theorem passesFrom_append {depth : Int} {more : List Char} :
    PassesFrom depth (text ++ more) ↔
      PassesFrom depth text ∧ PassesFrom (depth + nesting text) more := by
  induction text generalizing depth with
  | nil => simp [passesFrom_nil]
  | cons x text ih =>
    rw [List.cons_append, passesFrom_cons, ih, passesFrom_cons, nesting_cons, Int.add_assoc,
      and_assoc]

theorem skipType_of_moves {depth : Int} (h : c.Moves [x] d) :
    skipType depth c.offset c.rest =
      if IsStop x ∧ depth = 0 then c else skipType (depth + bracketWeight x) d.offset d.rest := by
  have hoffset : d.offset = c.offset + x.utf8Size := by simpa using h.offset
  have hc : c = ⟨c.offset, x :: d.rest⟩ := by rw [← List.singleton_append, ← h.rest]
  rw [hc]
  dsimp only
  rw [skipType, ← hoffset]
  grind [bracketWeight, IsStop]

/-- Nothing stands at the cursor, or what ends a type there. -/
def StopsAt (depth : Int) (rest : List Char) : Prop :=
  ∀ x, rest.head? = some x → IsStop x ∧ depth = 0

theorem skipType_of_stopsAt {depth : Int} (h : StopsAt depth c.rest) :
    skipType depth c.offset c.rest = c := by
  cases hnext : c.next? with
  | none =>
    have hrest := Cursor.next?_eq_none_iff.1 hnext
    rw [hrest, skipType, ← hrest]
  | some found =>
    obtain ⟨x, behind⟩ := found
    have hfirst := Cursor.next?_eq_some_iff.1 hnext
    rw [skipType_of_moves hfirst, if_pos (h x (by simp [hfirst.rest]))]

theorem skipType_of_passesFrom {depth : Int} (h : PassesFrom depth type) (hmoves : c.Moves type d) :
    skipType depth c.offset c.rest = skipType (depth + nesting type) d.offset d.rest := by
  induction type generalizing c depth with
  | nil =>
    rw [(Cursor.moves_nil c).final_eq hmoves, nesting_nil, Int.add_zero]
  | cons x type ih =>
    obtain ⟨behind, hfirst, hmoves⟩ := hmoves.uncons
    obtain ⟨hx, htype⟩ := passesFrom_cons.1 h
    rw [skipType_of_moves hfirst, if_neg (fun hstop => hx hstop.1 hstop.2), ih htype hmoves,
      nesting_cons, Int.add_assoc]

theorem exists_type (c : Cursor) (depth : Int) :
    ∃ type, PassesFrom depth type ∧ c.Moves type (skipType depth c.offset c.rest) ∧
      StopsAt (depth + nesting type) (skipType depth c.offset c.rest).rest := by
  generalize hrest : c.rest = rest
  induction rest generalizing c depth with
  | nil =>
    have hstops : StopsAt depth c.rest := by
      rw [hrest]
      nofun
    rw [← hrest, skipType_of_stopsAt hstops]
    exact ⟨[], passesFrom_nil depth, Cursor.moves_nil c, by simpa using hstops⟩
  | cons x rest ih =>
    have hfirst : c.Moves [x] ⟨c.offset + x.utf8Size, rest⟩ := ⟨hrest, by simp⟩
    rw [← hrest, skipType_of_moves hfirst]
    split
    · next hstop =>
      refine ⟨[], passesFrom_nil depth, Cursor.moves_nil c, fun y hy => ?_⟩
      rw [hrest] at hy
      cases hy
      simpa using hstop
    · next hstop =>
      obtain ⟨type, htype, hmoves, hstops⟩ :=
        ih ⟨c.offset + x.utf8Size, rest⟩ (depth + bracketWeight x) rfl
      refine ⟨x :: type, passesFrom_cons.2 ⟨fun hx hdepth => hstop ⟨hx, hdepth⟩, htype⟩,
        hfirst.cons hmoves, ?_⟩
      rwa [nesting_cons, ← Int.add_assoc]

/-- **A type behind an expression.** -/
theorem skipType_eq_iff {depth : Int} :
    skipType depth c.offset c.rest = d ↔ ∃ type, PassesFrom depth type ∧ c.Moves type d ∧
      StopsAt (depth + nesting type) d.rest := by
  constructor
  · rintro rfl
    exact exists_type c depth
  · rintro ⟨type, htype, hmoves, hstops⟩
    rw [skipType_of_passesFrom htype hmoves, skipType_of_stopsAt hstops]

/-! ## Assertions -/

theorem isIdentifierCharacter_of_mem_word {word : String} (h : word ∈ assertionWords) :
    ∀ x ∈ word.toList, isIdentifierCharacter x = true := by
  have hletters : ∀ word ∈ assertionWords, word.toList.all isIdentifierCharacter = true := by decide
  exact List.all_eq_true.1 (hletters word h)

/-- An assertion begins: one of its words stands before a blank. -/
def Asserts (rest : List Char) : Prop :=
  ∃ word ∈ assertionWords, ∃ blank more, rest = word.toList ++ blank :: more ∧ isBlank blank = true

theorem asserts_iff (c : Cursor) :
    Asserts c.rest ↔
      ((word c).1 = "as" ∨ (word c).1 = "satisfies") ∧ (word c).2.peek?.any isBlank = true := by
  constructor
  · rintro ⟨name, hname, blank, more, hrest, hblank⟩
    have hread : word c = (name, ⟨c.offset + utf8Length name.toList, blank :: more⟩) :=
      word_of_moves ⟨hrest, rfl⟩ (isIdentifierCharacter_of_mem_word hname)
        (halts_cons.2 (isIdentifierCharacter_of_isBlank hblank))
    rw [hread]
    exact ⟨by simpa [assertionWords] using hname, by simpa [Cursor.peek?] using hblank⟩
  · rintro ⟨hname, hblank⟩
    have hmoves := moves_word c
    obtain ⟨blank, hpeek, hblank⟩ := (Option.any_eq_true _ _).1 hblank
    obtain ⟨more, hmore⟩ := List.head?_eq_some_iff.1 hpeek
    exact ⟨(word c).1, by simpa [assertionWords] using hname, blank, more,
      by rw [hmoves.rest, hmore], hblank⟩

theorem skipAssertions_of_not_asserts (h : ¬Asserts c.skipBlanks.rest) (fuel : Nat) :
    skipAssertions (fuel + 1) c = .ok (false, c.skipBlanks) := by
  rw [asserts_iff] at h
  exact if_neg h

theorem isBlank_of_isStop (h : IsStop x) : isBlank x = false := by
  rcases h with rfl | rfl | rfl <;> exact isBlank_of_printed (by decide)

theorem not_asserts_of_isStop (h : ∀ x, rest.head? = some x → IsStop x) : ¬Asserts rest := by
  rintro ⟨word, hword, blank, more, rfl, -⟩
  have hhead : ∀ word ∈ assertionWords, ∀ tail x, (word.toList ++ tail).head? = some x →
      ¬IsStop x := by
    simp only [assertionWords, List.forall_mem_cons]
    refine ⟨?_, ?_, List.forall_mem_nil _⟩ <;> rintro tail x ⟨⟩ <;> decide
  cases hfirst : (word.toList ++ blank :: more).head? with
  | none => simp at hfirst
  | some x => exact hhead word hword _ x hfirst (h x hfirst)

/-- No assertion stands where a type ended. -/
theorem skipAssertions_of_stop (h : ∀ x, c.rest.head? = some x → IsStop x) (fuel : Nat) :
    skipAssertions fuel c = .ok (false, c) := by
  have hskip : c.skipBlanks = c :=
    Cursor.skipBlanks_eq_self fun x hx => isBlank_of_isStop (h x hx)
  cases fuel with
  | zero => rfl
  | succ fuel =>
    rw [skipAssertions_of_not_asserts (by rw [hskip]; exact not_asserts_of_isStop h), hskip]

/-- The word of an assertion takes what stands behind it for a type. -/
theorem skipAssertions_of_word {gap blanks : List Char} {word : String} (hgap : AreBlanks gap)
    (hword : word ∈ assertionWords) (hblanks : AreBlanks blanks) (hne : blanks ≠ [])
    (hmoves : c.Moves (gap ++ (word.toList ++ blanks)) d) (hd : Halts isBlank d.rest) (fuel : Nat) :
    skipAssertions (fuel + 1) c =
      if d.rest = [] then .error .unexpectedEnd
      else .ok (true, skipType 0 d.offset d.rest) := by
  obtain ⟨blank, blanks, rfl⟩ := List.exists_cons_of_ne_nil hne
  obtain ⟨named, hmoved, hmoves⟩ := hmoves.split
  obtain ⟨behind, hname, hmoves⟩ := hmoves.split
  have hidentifier := isIdentifierCharacter_of_mem_word hword
  have hskip : c.skipBlanks = named := by
    refine Cursor.skipBlanks_of_moves hmoved hgap ?_
    have hnonempty : ∀ word ∈ assertionWords, word.toList ≠ [] := by decide
    rw [hname.rest, halts_append (hnonempty word hword)]
    intro x hx
    exact isBlank_of_isIdentifierCharacter (hidentifier x (List.mem_of_mem_head? hx))
  have hread : Literal.word named = (word, behind) := by
    refine word_of_moves hname hidentifier ?_
    rw [hmoves.rest]
    exact halts_cons.2 (isIdentifierCharacter_of_isBlank (hblanks blank List.mem_cons_self))
  have hpeek : behind.peek?.any isBlank = true := by
    rw [Cursor.peek?_of_moves hmoves]
    exact hblanks blank List.mem_cons_self
  rw [skipAssertions, hskip, hread]
  dsimp only
  rw [if_pos ⟨by simpa [assertionWords] using hword, hpeek⟩,
    Cursor.skipBlanks_of_moves hmoves hblanks hd]
  split
  · rfl
  · obtain ⟨type, -, -, hstops⟩ := exists_type d 0
    exact bind_eq_ok_iff.2 ⟨_, skipAssertions_of_stop (fun x hx => (hstops x hx).1) fuel, rfl⟩

/-- What stands behind an expression: what may end a type if it is closed, and nothing otherwise. -/
def Follows (closed : Bool) (rest : List Char) : Prop :=
  if closed then ∃ x more, rest = x :: more ∧ IsStop x else rest = []

/-- An assertion is passed with its type. -/
theorem skipAssertions_of_type {closed : Bool} {gap blanks : List Char} {word : String}
    (hgap : AreBlanks gap) (hword : word ∈ assertionWords) (hblanks : AreBlanks blanks)
    (hne : blanks ≠ []) (htype : IsType closed type)
    (hmoves : c.Moves (gap ++ (word.toList ++ (blanks ++ type))) d) (hd : Follows closed d.rest)
    (fuel : Nat) : skipAssertions (fuel + 1) c = .ok (true, d) := by
  rw [← List.append_assoc, ← List.append_assoc, List.append_assoc gap] at hmoves
  obtain ⟨typed, hmoves, hpassed⟩ := hmoves.split
  have hstops : StopsAt (0 + nesting type) d.rest ∧ typed.rest ≠ [] ∧ Halts isBlank typed.rest := by
    rw [hpassed.rest]
    cases closed with
    | true =>
      obtain ⟨x, more, hrest, hx⟩ := hd
      have hdepth : nesting type = 0 := htype.ends
      rw [hrest, hdepth]
      refine ⟨fun y hy => ?_, by simp, ?_⟩
      · obtain rfl : x = y := by simpa using hy
        exact ⟨hx, rfl⟩
      · by_cases hempty : type = []
        · rw [hempty]
          exact halts_cons.2 (isBlank_of_isStop hx)
        · exact (halts_append hempty).2 htype.starts
    | false =>
      have hrest : d.rest = [] := hd
      have hempty : type ≠ [] := htype.ends
      rw [hrest, List.append_nil]
      exact ⟨nofun, hempty, htype.starts⟩
  rw [skipAssertions_of_word hgap hword hblanks hne hmoves hstops.2.2, if_neg hstops.2.1,
    skipType_eq_iff.2 ⟨type, htype.passes, hpassed, hstops.1⟩]

theorem halts_of_stopsAt {depth : Int} (h : StopsAt depth rest) : Halts isBlank rest :=
  fun x hx => isBlank_of_isStop (h x hx).1

/-- What is passed as a type is one. -/
theorem isType_of_stopsAt (hstarts : Halts isBlank c.rest) (hne : c.rest ≠ [])
    (hpasses : PassesFrom 0 type) (hmoves : c.Moves type d)
    (hstops : StopsAt (nesting type) d.rest) : IsType (!d.rest.isEmpty) type := by
  rw [hmoves.rest] at hstarts hne
  refine ⟨?_, hpasses, ?_⟩
  · by_cases hempty : type = []
    · rw [hempty]
      exact halts_nil
    · exact (halts_append hempty).1 hstarts
  · cases hrest : d.rest with
    | nil => simpa [hrest] using hne
    | cons x more => exact (hstops x (by rw [hrest]; rfl)).2

/-- What was passed behind an expression: blanks, or an assertion and its type. -/
theorem moves_of_skipAssertions {fuel : Nat} {asserted : Bool}
    (h : skipAssertions (fuel + 1) c = .ok (asserted, d)) :
    Halts isBlank d.rest ∧
      ((asserted = false ∧ ∃ gap, AreBlanks gap ∧ c.Moves gap d) ∨
        asserted = true ∧ ∃ gap word blanks type, AreBlanks gap ∧ word ∈ assertionWords ∧
          AreBlanks blanks ∧ blanks ≠ [] ∧ IsType (!d.rest.isEmpty) type ∧
          c.Moves (gap ++ (word.toList ++ (blanks ++ type))) d) := by
  obtain ⟨gap, hgap, hmoves, hhalts⟩ := c.exists_moves_skipBlanks
  by_cases hasserts : Asserts c.skipBlanks.rest
  · obtain ⟨word, hword, blank, more, hrest, hblank⟩ := hasserts
    obtain ⟨behind, hnamed, hbehind⟩ :
        ∃ behind, c.skipBlanks.Moves word.toList behind ∧ behind.rest = blank :: more :=
      ⟨⟨_, blank :: more⟩, ⟨hrest, rfl⟩, rfl⟩
    obtain ⟨blanks, hblanks, hspaced, htarget⟩ := behind.exists_moves_skipBlanks
    have hne : blanks ≠ [] := by
      rintro rfl
      rw [hspaced.final_eq (Cursor.moves_nil behind), hbehind, halts_cons, hblank] at htarget
      cases htarget
    rw [skipAssertions_of_word hgap hword hblanks hne (hmoves.trans (hnamed.trans hspaced))
      htarget] at h
    split at h
    · cases h
    next hempty =>
    cases h
    obtain ⟨type, hpasses, hpassed, hstops⟩ := exists_type behind.skipBlanks 0
    rw [Int.zero_add] at hstops
    exact ⟨halts_of_stopsAt hstops, .inr ⟨rfl, gap, word, blanks, type, hgap, hword, hblanks, hne,
      isType_of_stopsAt htarget hempty hpasses hpassed hstops,
      hmoves.trans (hnamed.trans (hspaced.trans hpassed))⟩⟩
  · rw [skipAssertions_of_not_asserts hasserts] at h
    cases h
    exact ⟨hhalts, .inl ⟨rfl, gap, hgap, hmoves⟩⟩

end TypeSchema.Literal
