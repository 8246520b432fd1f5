import TypeSchema.Proofs.Initializers.Completeness
import TypeSchema.Proofs.Initializers.Lexemes

/-!
# Positions are sound

The scanners of expressions, operands and arrays call one another, and they agree with the readers that
do (`agreesWithin`).  The induction is on the fuel of the readers, with a lemma for each scanner about
what its calls may be assumed to do.  From one bracket to the next a scanner makes five calls, so that
five steps for a character are enough.  Blanks are skipped before an expression is read, and what counts
for its fuel is what is left behind them.

For whole texts this is what the scanner was set up for (`positions_sound`).  It finds what the reader
reads, so it ends on every source text, and nothing in it goes out of range; and where a character is
reported as unexpected, this is the one that starts at the offset.
-/

set_option autoImplicit false

namespace TypeSchema.Literal

open Text

variable {source : String} {c d : Cursor} {x : Char} {asserted : Bool} {fuel steps : Nat}

/-! ## The end of an item -/

/-- An item is next where the array does not end and nothing is refused. -/
theorem items_of_item (hclosing : c.skipBlanks.peek? ≠ some ']')
    (hcomma : c.skipBlanks.peek? ≠ some ',') (hspread : ¬['.', '.', '.'] <+: c.skipBlanks.rest) :
    items (fuel + 1) c = expression fuel c >>= concludeItem fuel := by
  rw [Cursor.peek?] at hclosing hcomma
  rw [items, expression_skipBlanks]
  split
  · next hrest => exact absurd (by rw [hrest]; rfl) hclosing
  · next hrest => exact absurd (by rw [hrest]; rfl) hcomma
  · next more hrest => exact absurd ⟨more, by rw [hrest]; rfl⟩ hspread
  · rfl

theorem concludeItem_of_fault {first : Reading} (hhalts : Halts isBlank first.final.rest)
    (hclosing : first.final.peek? ≠ some ']') (hcomma : first.final.peek? ≠ some ',') :
    concludeItem fuel first = .error first.final.fault := by
  rw [Cursor.peek?] at hclosing hcomma
  rw [concludeItem, Cursor.skipBlanks_eq_self hhalts]
  dsimp only
  split
  · next hrest => exact absurd (by rw [hrest]; rfl) hclosing
  · next hrest => exact absurd (by rw [hrest]; rfl) hcomma
  · rfl

namespace Scanner

/-! ## What is scanned -/

/-- The value of a reading and the place behind it. -/
def seen (source : String) (asserted : Bool) (reading : Reading) : Json × Place :=
  (reading.value, .before source (asserted || reading.asserted) reading.final.rest)

theorem seen_plain (source : String) (asserted : Bool) (value : Json) (d : Cursor) :
    seen source asserted ⟨value, false, d⟩ = (value, .before source asserted d.rest) := by
  rw [seen, Bool.or_false]

/-- An array of the values and of the items behind them, and the place behind these. -/
def gathered (source : String) (asserted : Bool) (values : List Json)
    (found : List Json × Bool × Cursor) : Json × Place :=
  (.array (values ++ found.1), .before source (asserted || found.2.1) found.2.2.rest)

/-- The scanners agree with the readers that have this fuel, where it is enough and so are the steps. -/
structure AgreesWithin (source : String) (fuel : Nat) : Prop where
  operand : ∀ {c asserted steps}, c.Within source → Halts isBlank c.rest →
    3 * c.rest.length + 2 ≤ fuel → 5 * c.rest.length + 3 ≤ steps →
    Agrees source (operand source steps) (.before source asserted c.rest) (seen source asserted)
      (Literal.operand fuel c)
  expression : ∀ {c asserted steps}, c.Within source →
    3 * c.skipBlanks.rest.length + 3 ≤ fuel → 5 * c.rest.length + 4 ≤ steps →
    Agrees source (expression source steps) (.before source asserted c.rest) (seen source asserted)
      (Literal.expression fuel c)
  items : ∀ {c asserted steps} values, c.Within source →
    3 * c.rest.length + 4 ≤ fuel → 5 * c.rest.length + 6 ≤ steps →
    Agrees source (itemsFrom source values steps) (.before source asserted c.rest)
      (gathered source asserted values) (Literal.items fuel c)

/-! ## Expressions and items -/

theorem AgreesWithin.step_expression (h : AgreesWithin source fuel) (hc : c.Within source)
    (hfuel : 3 * c.skipBlanks.rest.length + 3 ≤ fuel + 1) (hsteps : 5 * c.rest.length + 4 ≤ steps) :
    Agrees source (Scanner.expression source steps) (.before source asserted c.rest)
      (seen source asserted) (Literal.expression (fuel + 1) c) := by
  obtain ⟨steps, rfl⟩ := Nat.exists_eq_add_one_of_ne_zero (Nat.ne_zero_of_lt hsteps)
  have hskip := c.length_skipBlanks_le
  rw [Scanner.expression, expression_succ]
  refine agrees_bind_of_ok (skipBlanks_of_within hc (by omega) asserted) ?_
  refine agrees_bind_of_ok (peek_of_within hc.skipBlanks asserted) ?_
  split
  · next hpeek =>
    obtain ⟨rest, hrest⟩ := List.head?_eq_some_iff.1 hpeek
    have hopen : c.skipBlanks.Moves ['<'] (c.skipBlanks.after ['<'] rest) :=
      Cursor.moves_after hrest
    refine (skipBalanced_of_opened hc.skipBlanks hopen (by omega) asserted).bind
      fun behind hangles => ?_
    -- the angle that opens is passed, so less remains
    obtain ⟨type, -, hpassed⟩ := (skipAngles_eq_ok_iff hopen).1 hangles
    have hlength := Nat.lt_of_le_of_lt hpassed.length_rest_le hopen.length_lt
    have hbehind := behind.length_skipBlanks_le
    exact h.expression ((hopen.trans hpassed).within hc.skipBlanks) (by omega) (by omega)
  · have hhalts := Cursor.halts_skipWhile c isBlank
    refine (h.operand hc.skipBlanks hhalts (by omega) (by omega)).bind fun reading hreading => ?_
    obtain ⟨text, -, hmoves, -⟩ := (spelledWithin fuel).operand hreading
    have hfinal := hmoves.within hc.skipBlanks
    have hlength := hmoves.length_rest_le
    refine (assertions_agrees hfinal (by omega) _ (Nat.lt_succ_self _)).bind
      fun found _ => agrees_pure ?_
    rw [seen, Bool.or_assoc]
    rfl

theorem AgreesWithin.item (h : AgreesWithin source fuel) (values : List Json)
    (hc : c.Within source) (hfuel : 3 * c.skipBlanks.rest.length + 3 ≤ fuel)
    (hsteps : 5 * c.rest.length + 5 ≤ steps) :
    Agrees source (itemFrom source values steps) (.before source asserted c.rest)
      (gathered source asserted values) (Literal.expression fuel c >>= concludeItem fuel) := by
  obtain ⟨steps, rfl⟩ := Nat.exists_eq_add_one_of_ne_zero (Nat.ne_zero_of_lt hsteps)
  have hskip := c.length_skipBlanks_le
  rw [itemFrom]
  refine (h.expression hc hfuel (by omega)).bind fun first hfirst => ?_
  rw [← expression_skipBlanks] at hfirst
  obtain ⟨hhalts, text, hmoves, -⟩ := (spelledWithin fuel).spells hfirst
  have hfinal := hmoves.within hc.skipBlanks
  have hlength := hmoves.length_rest_le
  have hbehind : first.final.rest.length < steps := by omega
  have hskipped := skipBlanks_of_within hfinal hbehind (asserted || first.asserted)
  rw [Cursor.skipBlanks_eq_self hhalts] at hskipped
  refine agrees_bind_of_ok hskipped ?_
  rcases first.final.nil_or_moves with hrest | ⟨x, d, hstep⟩
  · have hpeek := Cursor.peek?_of_nil hrest
    rw [concludeItem_of_fault hhalts (by simp [hpeek]) (by simp [hpeek]),
      Cursor.fault_of_nil hrest]
    exact agrees_bind_of_ok (bump_of_nil hfinal hrest _) (agrees_fail trivial)
  have hpeek := Cursor.peek?_of_moves hstep
  refine agrees_bind_of_ok (bump_of_moves hfinal hstep _) ?_
  dsimp only
  split
  · next hx =>
    subst hx
    rw [concludeItem_of_next hstep]
    have hlength := hstep.length_lt
    refine (h.items (values ++ [first.value]) (hstep.within hfinal) (by omega) (by omega)).map
      fun found => ?_
    rw [gathered, gathered, List.append_assoc, Bool.or_assoc]
    rfl
  split
  · next hx =>
    subst hx
    rw [concludeItem_of_last hstep]
    exact agrees_pure rfl
  · next hcomma hclosing =>
    rw [concludeItem_of_fault hhalts (by simpa [hpeek] using hclosing)
      (by simpa [hpeek] using hcomma)]
    exact unexpectedBefore_agrees hfinal hstep _

theorem AgreesWithin.step_items (h : AgreesWithin source fuel) (values : List Json)
    (hc : c.Within source) (hfuel : 3 * c.rest.length + 4 ≤ fuel + 1)
    (hsteps : 5 * c.rest.length + 6 ≤ steps) :
    Agrees source (itemsFrom source values steps) (.before source asserted c.rest)
      (gathered source asserted values) (Literal.items (fuel + 1) c) := by
  obtain ⟨steps, rfl⟩ := Nat.exists_eq_add_one_of_ne_zero (Nat.ne_zero_of_lt hsteps)
  have hitem : c.skipBlanks.peek? ≠ some ']' → c.skipBlanks.peek? ≠ some ',' →
      ¬['.', '.', '.'] <+: c.skipBlanks.rest →
      Agrees source (itemFrom source values steps) (.before source asserted c.skipBlanks.rest)
        (gathered source asserted values) (Literal.items (fuel + 1) c) := by
    intro hclosing hcomma hspread
    have hskip := c.length_skipBlanks_le
    have hfuel : 3 * c.skipBlanks.skipBlanks.rest.length + 3 ≤ fuel := by
      rw [Cursor.skipBlanks_skipBlanks]
      omega
    rw [items_of_item hclosing hcomma hspread, ← expression_skipBlanks]
    exact h.item values hc.skipBlanks hfuel (by omega)
  rw [itemsFrom]
  refine agrees_bind_of_ok (skipBlanks_of_within hc (by omega) asserted) ?_
  refine agrees_bind_of_ok (peek_of_within hc.skipBlanks asserted) ?_
  split
  · next hclosing =>
    obtain ⟨rest, hrest⟩ := List.head?_eq_some_iff.1 hclosing
    have hmoves : c.skipBlanks.Moves [']'] (c.skipBlanks.after [']'] rest) :=
      Cursor.moves_after hrest
    have hread : Literal.items (fuel + 1) c = .ok ([], false, c.skipBlanks.after [']'] rest) := by
      simp only [Literal.items, hrest]
    rw [hread]
    refine agrees_bind_of_ok (advance_of_moves hc.skipBlanks hmoves asserted) (agrees_pure ?_)
    rw [gathered, List.append_nil, Bool.or_false]
  split
  · next hcomma =>
    obtain ⟨rest, hrest⟩ := List.head?_eq_some_iff.1 hcomma
    simp only [Literal.items, hrest]
    exact agrees_fail trivial
  split
  · next hclosing hcomma hpoint =>
    obtain ⟨ahead, hahead, hslice⟩ :=
      sliceFrom_of_within hc.skipBlanks (.before source asserted c.skipBlanks.rest)
    have hspread : ahead.startsWith "..." = true ↔ ['.', '.', '.'] <+: c.skipBlanks.rest := by
      rw [String.Slice.startsWith_string_iff, hahead]
      rfl
    refine agrees_bind_of_ok (offset_of_within hc.skipBlanks asserted) ?_
    refine agrees_bind_of_ok hslice ?_
    split
    · next hstarts =>
      obtain ⟨more, hrest⟩ := hspread.1 hstarts
      simp only [Literal.items, ← hrest]
      exact agrees_fail trivial
    · next hstarts => exact hitem hclosing hcomma (mt hspread.2 hstarts)
  · next hclosing hcomma hpoint =>
    refine hitem hclosing hcomma ?_
    rintro ⟨more, hrest⟩
    exact hpoint (by rw [Cursor.peek?, ← hrest]; rfl)

/-! ## Operands -/

/-- A number, also with a sign before it, and what it is worth. -/
theorem number_agrees_worth (h : c.Within source) (hsteps : c.rest.length < steps)
    (asserted : Bool) (worth : Float → Json) :
    Agrees source (do return worth (← number source steps)) (.before source asserted c.rest)
      (seen source asserted) (do
        let (n, final) ← readNumber c
        return ⟨worth n, false, final⟩) :=
  (number_agrees h hsteps asserted).bind fun _ _ => agrees_pure (seen_plain ..)

theorem AgreesWithin.array (h : AgreesWithin source fuel) (hc : c.Within source)
    (hmoves : c.Moves ['['] d) (hfuel : 3 * d.rest.length + 4 ≤ fuel)
    (hsteps : 5 * d.rest.length + 6 ≤ steps) :
    Agrees source (do
        expect source '['
        itemsFrom source [] steps) (.before source asserted c.rest) (seen source asserted) (do
        let (values, asserted, final) ← Literal.items fuel d
        return ⟨.array values, asserted, final⟩) := by
  refine agrees_bind_of_ok (expect_of_moves hc hmoves asserted) ?_
  exact (h.items [] (hmoves.within hc) hfuel hsteps).map fun _ => rfl

theorem AgreesWithin.group (h : AgreesWithin source fuel) (hc : c.Within source)
    (hmoves : c.Moves ['('] d) (hfuel : 3 * d.rest.length + 3 ≤ fuel)
    (hsteps : 5 * d.rest.length + 4 ≤ steps) :
    Agrees source (do
        advance
        let value ← Scanner.expression source steps
        skipBlanks source steps
        expect source ')'
        return value) (.before source asserted c.rest) (seen source asserted) (do
        let inner ← Literal.expression fuel d
        let final ← inner.final.skipBlanks.expect ')'
        return ⟨inner.value, inner.asserted, final⟩) := by
  have hd := hmoves.within hc
  have hskip := d.length_skipBlanks_le
  refine agrees_bind_of_ok (advance_of_moves hc hmoves asserted) ?_
  refine (h.expression hd (by omega) hsteps).bind fun inner hinner => ?_
  obtain ⟨-, text, hpassed, -⟩ := (spelledWithin fuel).spells hinner
  have hfinal := hpassed.within hd
  have hlength := hpassed.length_rest_le
  refine agrees_bind_of_ok (skipBlanks_of_within hfinal (by omega) _) ?_
  exact (expect_agrees hfinal.skipBlanks _ ')').bind fun _ _ => agrees_pure rfl

theorem constant_agrees (h : c.Within source) (hsteps : c.rest.length < steps) (asserted : Bool) :
    Agrees source (do
        let name ← word source steps
        if name = "true" then return .bool true
        else if name = "false" then return .bool false
        else if name = "null" then return .null
        else fail (.notLiteral (.word name))) (.before source asserted c.rest) (seen source asserted)
      (if (Literal.word c).1 = "true" then .ok ⟨.bool true, false, (Literal.word c).2⟩
      else if (Literal.word c).1 = "false" then .ok ⟨.bool false, false, (Literal.word c).2⟩
      else if (Literal.word c).1 = "null" then .ok ⟨.null, false, (Literal.word c).2⟩
      else .error (.notLiteral (.word (Literal.word c).1))) := by
  refine agrees_bind_of_ok (word_of_within h hsteps asserted) ?_
  split
  · exact agrees_pure (seen_plain ..)
  split
  · exact agrees_pure (seen_plain ..)
  split
  · exact agrees_pure (seen_plain ..)
  · exact agrees_fail trivial

theorem AgreesWithin.step_primary (h : AgreesWithin source fuel) (hc : c.Within source)
    (hmoves : c.Moves [x] d) (hhalts : Halts isBlank c.rest) (hminus : x ≠ '-') (hplus : x ≠ '+')
    (hfuel : 3 * c.rest.length + 2 ≤ fuel + 1) (hsteps : 5 * c.rest.length + 2 ≤ steps) :
    Agrees source (primary source steps) (.before source asserted c.rest) (seen source asserted)
      (Literal.operand (fuel + 1) c) := by
  obtain ⟨steps, rfl⟩ := Nat.exists_eq_add_one_of_ne_zero (Nat.ne_zero_of_lt hsteps)
  have hlength := hmoves.length_lt
  have hhere : c.rest.length < steps := by omega
  have hskipped := skipBlanks_of_within hc hhere asserted
  rw [Cursor.skipBlanks_eq_self hhalts] at hskipped
  rw [primary, operand_of_moves fuel hmoves, if_neg hminus, if_neg hplus]
  refine agrees_bind_of_ok hskipped ?_
  refine agrees_bind_of_ok (peek_of_within hc asserted) ?_
  rw [Cursor.peek?_of_moves hmoves]
  dsimp only
  by_cases hquote : x = '\x22' ∨ x = '\x27'
  · rw [if_pos hquote, if_pos hquote]
    exact (string_agrees hc hmoves hhere asserted).bind fun _ _ => agrees_pure (seen_plain ..)
  rw [if_neg hquote, if_neg hquote]
  by_cases htemplate : x = '\x60'
  · rw [if_pos htemplate, if_pos htemplate]
    subst htemplate
    exact (template_agrees hc hmoves hhere asserted).bind fun _ _ => agrees_pure (seen_plain ..)
  rw [if_neg htemplate, if_neg htemplate]
  by_cases harray : x = '['
  · rw [if_pos harray, if_pos harray]
    subst harray
    exact h.array hc hmoves (by omega) (by omega)
  rw [if_neg harray, if_neg harray]
  by_cases hgroup : x = '('
  · rw [if_pos hgroup, if_pos hgroup]
    subst hgroup
    exact h.group hc hmoves (by omega) (by omega)
  rw [if_neg hgroup, if_neg hgroup]
  by_cases hobject : x = '\x7b'
  · rw [if_pos hobject, if_pos hobject]
    exact agrees_fail trivial
  rw [if_neg hobject, if_neg hobject]
  by_cases hlead : x.isDigit = true ∨ x = '.'
  · rw [if_pos hlead, if_pos hlead]
    exact number_agrees_worth hc hhere asserted numberJson
  rw [if_neg hlead, if_neg hlead]
  by_cases hletter : isAlphabetic x = true ∨ x = '_' ∨ x = '$'
  · rw [if_pos hletter, if_pos hletter]
    exact constant_agrees hc hhere asserted
  rw [if_neg hletter, if_neg hletter]
  exact unexpected_agrees hc hmoves asserted

theorem AgreesWithin.step_operand (h : AgreesWithin source fuel) (hc : c.Within source)
    (hhalts : Halts isBlank c.rest) (hfuel : 3 * c.rest.length + 2 ≤ fuel + 1)
    (hsteps : 5 * c.rest.length + 3 ≤ steps) :
    Agrees source (Scanner.operand source steps) (.before source asserted c.rest)
      (seen source asserted) (Literal.operand (fuel + 1) c) := by
  obtain ⟨steps, rfl⟩ := Nat.exists_eq_add_one_of_ne_zero (Nat.ne_zero_of_lt hsteps)
  have hskipped : ∀ {steps}, c.rest.length < steps →
      (skipBlanks source steps).run (.before source asserted c.rest) =
        .ok (standing source asserted c) := by
    intro steps hhere
    rw [skipBlanks_of_within hc hhere, Cursor.skipBlanks_eq_self hhalts]
  rw [Scanner.operand]
  refine agrees_bind_of_ok (hskipped (by omega)) ?_
  refine agrees_bind_of_ok (peek_of_within hc asserted) ?_
  rcases c.nil_or_moves with hrest | ⟨x, d, hmoves⟩
  · -- at the end of the text it is the scanner of what has no sign that finds it
    have hleft : steps ≠ 0 := by omega
    obtain ⟨steps, rfl⟩ := Nat.exists_eq_add_one_of_ne_zero hleft
    have hpeek := peek_of_within hc asserted
    rw [Cursor.peek?_of_nil hrest] at hpeek
    rw [Cursor.peek?_of_nil hrest, if_neg nofun, if_neg nofun, primary, Literal.operand,
      Cursor.next?_eq_none_iff.2 hrest]
    refine agrees_bind_of_ok (hskipped (by omega)) ?_
    exact agrees_bind_of_ok hpeek (agrees_fail trivial)
  have hd := hmoves.within hc
  have hlength := hmoves.length_lt
  rw [Cursor.peek?_of_moves hmoves]
  by_cases hminus : x = '-'
  · rw [operand_of_moves fuel hmoves, if_pos (congrArg some hminus), if_pos hminus]
    exact agrees_bind_of_ok (advance_of_moves hc hmoves asserted)
      (number_agrees_worth hd (by omega) asserted negated)
  rw [if_neg (mt Option.some.inj hminus)]
  by_cases hplus : x = '+'
  · rw [operand_of_moves fuel hmoves, if_pos (congrArg some hplus), if_neg hminus, if_pos hplus]
    exact agrees_bind_of_ok (advance_of_moves hc hmoves asserted)
      (number_agrees_worth hd (by omega) asserted numberJson)
  rw [if_neg (mt Option.some.inj hplus)]
  exact h.step_primary hc hmoves hhalts hminus hplus hfuel (by omega)

theorem agreesWithin (source : String) (fuel : Nat) : AgreesWithin source fuel := by
  induction fuel with
  | zero => exact ⟨nofun, nofun, nofun⟩
  | succ fuel ih => exact ⟨ih.step_operand, ih.step_expression, ih.step_items⟩

/-! ## Whole texts -/

/-- An expression that the source text ends with. -/
def ended (reading : Reading) : Except ReadFault Reading :=
  if reading.final.skipBlanks.rest = [] then .ok reading else .error reading.final.skipBlanks.fault

/-- The expression of a whole source text. -/
def wholeReading (source : String) : Except ReadFault Reading :=
  Literal.expression (fuelFor source) (Cursor.start source).skipBlanks >>= ended

/-- The initializer that a reading of the whole source text is. -/
def initializerOf (source : String) (reading : Reading) : Initializer :=
  ⟨reading.value, isLed source || reading.asserted⟩

theorem readInitializer_eq_map (source : String) :
    readInitializer source = (wholeReading source).map (initializerOf source) := by
  rw [readInitializer_eq, wholeReading]
  cases Literal.expression (fuelFor source) (Cursor.start source).skipBlanks with
  | error fault => rfl
  | ok reading =>
    show conclusion source reading = (ended reading).map _
    rw [conclusion, ended]
    split <;> rfl

theorem readLiteral_eq_map (source : String) :
    readLiteral source = (wholeReading source).map Reading.value := by
  rw [readLiteral, readInitializer_eq_map]
  cases wholeReading source <;> rfl

section Whole

variable {α : Type} (value : Reading → α)

/-- What a scan of a whole text makes of the reading, and the place behind it. -/
def concluded (source : String) (reading : Reading) : α × Place :=
  (value reading, .before source reading.asserted reading.final.skipBlanks.rest)

/-- Blanks may stand behind a literal, and nothing else. -/
theorem finish_agrees {reading : Reading} (h : reading.final.Within source)
    (hsteps : reading.final.rest.length < steps) :
    Agrees source (finish source (value reading) steps)
      (.before source reading.asserted reading.final.rest) (concluded value source)
      (ended reading) := by
  rw [finish, ended]
  refine agrees_bind_of_ok (skipBlanks_of_within h hsteps _) ?_
  refine agrees_bind_of_ok (peek_of_within h.skipBlanks _) ?_
  rcases reading.final.skipBlanks.nil_or_moves with hrest | ⟨x, d, hmoves⟩
  · rw [if_pos hrest, Cursor.peek?_of_nil hrest]
    exact agrees_pure rfl
  · rw [if_neg (by simp [hmoves.rest]), Cursor.peek?_of_moves hmoves]
    exact unexpected_agrees h.skipBlanks hmoves _

/-- An expression that begins the source and what is made of it agree with the reading of the whole
text, where blanks may be skipped already. -/
theorem whole_agrees (hc : c.Within source) (hskip : c.skipBlanks = (Cursor.start source).skipBlanks)
    (hsteps : 5 * c.rest.length + 4 ≤ steps) {f : Json → Scan α}
    (hf : ∀ reading : Reading, reading.final.Within source →
      reading.final.rest.length ≤ c.rest.length →
      Agrees source (f reading.value) (.before source reading.asserted reading.final.rest)
        (concluded value source) (ended reading)) :
    Agrees source (Scanner.expression source steps >>= f) (.before source false c.rest)
      (concluded value source) (wholeReading source) := by
  rw [wholeReading, ← hskip, expression_skipBlanks]
  have hfuel : 3 * c.skipBlanks.rest.length + 3 ≤ fuelFor source := by rw [fuelFor, hskip]
  refine ((agreesWithin source _).expression hc hfuel hsteps).bind fun reading hreading => ?_
  obtain ⟨-, text, hmoves, -⟩ := (spelledWithin _).spells hreading
  exact hf reading (hmoves.within hc) hmoves.length_rest_le

theorem literal_agrees (hsteps : 5 * source.length + 4 ≤ steps) :
    Agrees source (literal source steps) (.before source false (Cursor.start source).rest)
      (concluded Reading.value source) (wholeReading source) := by
  rw [← String.length_toList] at hsteps
  refine whole_agrees _ (Cursor.within_start source) rfl hsteps fun reading hfinal hlength => ?_
  have hbehind : reading.final.rest.length ≤ source.toList.length := hlength
  exact finish_agrees _ hfinal (by omega)

theorem initializer_agrees (hsteps : 5 * source.length + 4 ≤ steps) :
    Agrees source (initializer source steps) (.before source false (Cursor.start source).rest)
      (concluded (initializerOf source) source) (wholeReading source) := by
  rw [← String.length_toList] at hsteps
  have hstart := Cursor.within_start source
  have hhere : (Cursor.start source).rest.length < steps := by
    show source.toList.length < steps
    omega
  have hskip : (Cursor.start source).skipBlanks.rest.length ≤ source.toList.length :=
    Cursor.length_skipBlanks_le _
  rw [initializer]
  refine agrees_bind_of_ok (skipBlanks_of_within hstart hhere false) ?_
  refine agrees_bind_of_ok (peek_of_within hstart.skipBlanks false) ?_
  refine whole_agrees _ hstart.skipBlanks (Cursor.skipBlanks_skipBlanks _) (by omega)
    fun reading hfinal hlength => ?_
  exact agrees_bind_of_ok rfl (finish_agrees (initializerOf source) hfinal (by omega))

theorem run_of_agrees {scan : Scan α} {result : Except ReadFault Reading}
    (h : Agrees source scan (.before source false (Cursor.start source).rest)
      (concluded value source) result) :
    run scan = (result.map value).mapError .fault := by
  have hplace : Place.before source false (Cursor.start source).rest = ⟨0, false⟩ := by
    rw [Place.before, Cursor.start, Nat.sub_self]
  rw [run, ← hplace, h.run]
  cases result <;> rfl

end Whole

theorem startsAt_of_wholeReading {offset : Nat}
    (h : wholeReading source = .error (.unexpected x offset)) : StartsAt source x offset :=
  (literal_agrees (Nat.le_refl _)).located _ h

end Scanner

open Scanner

/-- Whether a reading has the fault; values are not compared. -/
instance decidableEqError {α : Type} {fault : ReadFault} :
    (result : Except ReadFault α) → Decidable (result = .error fault)
  | .ok _ => isFalse nofun
  | .error _ => decidable_of_iff _ (Except.error.injEq ..).symm.to_iff

/-- **Positions are sound.**  On every source text the scans end, with five steps for each character and
four more, without a slice off the boundaries between characters and without a number below zero, and
what they find is what is read; and a character that is reported as unexpected is the one that starts at
the offset, which is inside of the text. -/
theorem positions_sound (source : String) :
    (∀ steps, 5 * source.length + 4 ≤ steps →
      run (literal source steps) = (readLiteral source).mapError .fault ∧
        run (initializer source steps) = (readInitializer source).mapError .fault) ∧
      ∀ found offset, readLiteral source = .error (.unexpected found offset) ∨
          readInitializer source = .error (.unexpected found offset) →
        StartsAt source found offset := by
  rw [readLiteral_eq_map, readInitializer_eq_map]
  refine ⟨fun steps hsteps => ?_, fun found offset h => ?_⟩
  · exact ⟨run_of_agrees _ (literal_agrees hsteps), run_of_agrees _ (initializer_agrees hsteps)⟩
  · rw [map_eq_error_iff, map_eq_error_iff, or_self] at h
    exact startsAt_of_wholeReading h

/-- One offset is counted back over a quote from behind it, the other one is looked up; both stand
behind a character of two bytes. -/
theorem positions_sound_behind_letter :
    5 * "['é' 'ü']".length + 4 ≤ 49 ∧
      run (initializer "['é' 'ü']" 49) = .error (.fault (.unexpected '\x27' 6)) ∧
      StartsAt "['é' 'ü']" '\x27' 6 ∧
      readLiteral "'é' +" = .error (.unexpected '+' 5) ∧ StartsAt "'é' +" '+' 5 :=
  have hsteps : 5 * "['é' 'ü']".length + 4 ≤ 49 := by decide
  have hitem : readInitializer "['é' 'ü']" = .error (.unexpected '\x27' 6) := by decide +kernel
  have htrailing : readLiteral "'é' +" = .error (.unexpected '+' 5) := by decide +kernel
  have hrun := ((positions_sound _).1 49 hsteps).2
  ⟨hsteps, by rw [hrun, hitem]; rfl, (positions_sound _).2 _ _ (.inr hitem), htrailing,
    (positions_sound _).2 _ _ (.inl htrailing)⟩

end TypeSchema.Literal
