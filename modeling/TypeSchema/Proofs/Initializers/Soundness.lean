import TypeSchema.Proofs.Initializers.Numbers
import TypeSchema.Proofs.Initializers.Strings
import TypeSchema.Proofs.Initializers.Types

/-!
# What is read is a literal

The three readers that call one another are taken together: with any fuel, what they read is spelled as
the grammar says (`spelledWithin`).  A step of each is a lemma about the fuel that is left.  An
expression is read down to its operand first, and the assertion behind it is a matter of its own
(`conclude`), because the prefixes before the operand are read by the expression reader too.
-/

set_option autoImplicit false

namespace TypeSchema.Literal

open Text

variable {c d : Cursor} {x : Char} {r : Reading} {text rest : List Char} {value : Json}
  {asserted : Bool} {fuel : Nat}

/-! ## One step of each reader -/

/-- What becomes of an expression once its operand is read. -/
def conclude (inner : Reading) : Except ReadFault Reading := do
  let (asserted, final) ← skipAssertions inner.final.rest.length.succ inner.final
  return ⟨inner.value, inner.asserted || asserted, final⟩

theorem expression_succ (fuel : Nat) (c : Cursor) :
    expression (fuel + 1) c =
      if c.skipBlanks.peek? = some '<' then
        skipAngles 0 c.skipBlanks.offset c.skipBlanks.rest >>= expression fuel
      else operand fuel c.skipBlanks >>= conclude := by
  rw [expression]
  rfl

theorem expression_skipBlanks (fuel : Nat) (c : Cursor) :
    expression fuel c.skipBlanks = expression fuel c := by
  cases fuel with
  | zero => rfl
  | succ fuel => rw [expression_succ, expression_succ, Cursor.skipBlanks_skipBlanks]

theorem operand_of_moves (fuel : Nat) (h : c.Moves [x] d) :
    operand (fuel + 1) c =
      if x = '-' then do
        let (n, final) ← readNumber d
        return ⟨negated n, false, final⟩
      else if x = '+' then do
        let (n, final) ← readNumber d
        return ⟨numberJson n, false, final⟩
      else if x = '\x22' ∨ x = '\x27' then do
        let (letters, final) ← stringBody x d.rest.length.succ d
        return ⟨.string (String.ofList letters), false, final⟩
      else if x = '\x60' then do
        let (letters, final) ← templateBody d.rest.length.succ d
        return ⟨.string (String.ofList letters), false, final⟩
      else if x = '[' then do
        let (values, asserted, final) ← items fuel d
        return ⟨.array values, asserted, final⟩
      else if x = '(' then do
        let inner ← expression fuel d
        let final ← inner.final.skipBlanks.expect ')'
        return ⟨inner.value, inner.asserted, final⟩
      else if x = '\x7b' then .error (.notLiteral .object)
      else if x.isDigit ∨ x = '.' then do
        let (n, final) ← readNumber c
        return ⟨numberJson n, false, final⟩
      else if isAlphabetic x ∨ x = '_' ∨ x = '$' then
        if (word c).1 = "true" then .ok ⟨.bool true, false, (word c).2⟩
        else if (word c).1 = "false" then .ok ⟨.bool false, false, (word c).2⟩
        else if (word c).1 = "null" then .ok ⟨.null, false, (word c).2⟩
        else .error (.notLiteral (.word (word c).1))
      else .error c.fault := by
  rw [operand, Cursor.next?_eq_some_iff.2 h]

/-! ## Where an operand ends -/

/-- A word or numeral is read as far as it goes. -/
def Longest (text rest : List Char) : Prop :=
  EndsWord text → Halts Char.isAlphanum rest

@[simp] theorem endsWord_append_singleton {last : Char} :
    EndsWord (text ++ [last]) ↔ isIdentifierCharacter last = true ∨ last = '.' := by
  simp [EndsWord]

theorem longest_of_closing {last : Char} (h : isIdentifierCharacter last = false ∧ last ≠ '.')
    (rest : List Char) : Longest (text ++ [last]) rest := by
  intro hends
  rw [endsWord_append_singleton, h.1] at hends
  tauto

theorem Spells.exists_closing {part : Part} (h : Spells part text value asserted)
    (hpart : part = .items) : ∃ front, text = front ++ [']'] := by
  induction h with
  | none => exact ⟨_, rfl⟩
  | last => exact ⟨_, rfl⟩
  | @next text more value values asserted later _ _ _ ih =>
    obtain ⟨front, rfl⟩ := ih rfl
    exact ⟨text ++ ',' :: front, by simp⟩
  | _ => cases hpart

theorem Spells.ne_nil {part : Part} (h : Spells part text value asserted) : text ≠ [] := by
  induction h with
  | number hnumber _ =>
    obtain ⟨c, more, rfl, -⟩ := hnumber.head
    exact List.cons_ne_nil c more
  | constant hname =>
    have hnames : ∀ entry ∈ constants, entry.1.toList ≠ [] := by
      simp only [constants, List.forall_mem_cons]
      decide
    exact hnames _ hname
  | bare _ _ ih => exact List.append_ne_nil_of_right_ne_nil _ ih
  | plain _ _ ih => exact List.append_ne_nil_of_left_ne_nil ih _
  | trailed _ _ _ _ _ _ _ ih => exact List.append_ne_nil_of_left_ne_nil ih _
  | _ => simp

/-- What stands before an operand changes nothing about where it ends. -/
theorem Longest.prepend (hne : text ≠ []) (h : Longest text rest) (front : List Char) :
    Longest (front ++ text) rest := by
  intro hends
  refine h ?_
  rwa [EndsWord, List.getLast?_append_of_ne_nil front hne] at hends

theorem longest_of_goesOn (front : List Char) (h : Halts (goesOn text) rest) :
    Longest (front ++ text) rest := by
  intro _ c hc
  have hstop := h c hc
  simp only [goesOn, Bool.or_eq_false_iff] at hstop
  exact hstop.1.1.1

theorem longest_of_word (h : Halts isIdentifierCharacter rest) : Longest text rest := by
  intro _ c hc
  refine Bool.eq_false_iff.2 fun hletter => ?_
  have hstop := h c hc
  rw [isIdentifierCharacter_of_isAlphanum hletter] at hstop
  cases hstop

/-! ## Operands -/

/-- What is read at the cursor is an operand of the grammar, as far as it goes. -/
def IsOperand (c : Cursor) (r : Reading) : Prop :=
  ∃ text, Spells .operand text r.value r.asserted ∧ c.Moves text r.final ∧ Longest text r.final.rest

/-- Blanks may follow a sign. -/
theorem isOperand_of_signed {worth : Float → Json}
    (hsign : x = '-' ∧ worth = negated ∨ x = '+' ∧ worth = numberJson) (hfirst : c.Moves [x] d)
    (h : (do
      let (n, final) ← readNumber d
      return ⟨worth n, false, final⟩) = (.ok r : Except ReadFault Reading)) : IsOperand c r := by
  obtain ⟨⟨y, final⟩, hread, hr⟩ := bind_eq_ok_iff.1 h
  cases hr
  obtain ⟨blanks, text, hblanks, hnumber, hmoves, hends⟩ := readNumber_eq_ok_iff.1 hread
  refine ⟨x :: (blanks ++ text), ?_, hfirst.cons hmoves, longest_of_goesOn (x :: blanks) hends⟩
  rcases hsign with ⟨rfl, rfl⟩ | ⟨rfl, rfl⟩
  · exact .minus hblanks hnumber
  · exact .plus hblanks hnumber

theorem isBlank_of_leads (h : x.isDigit = true ∨ x = '.') : isBlank x = false := by
  rcases h with hdigit | rfl
  · exact isBlank_of_isIdentifierCharacter (isIdentifierCharacter_of_isDigit hdigit)
  · exact isBlank_of_printed (by decide)

theorem isOperand_of_unsigned (hlead : x.isDigit = true ∨ x = '.') (hfirst : c.Moves [x] d)
    (h : (do
      let (n, final) ← readNumber c
      return ⟨numberJson n, false, final⟩) = (.ok r : Except ReadFault Reading)) : IsOperand c r := by
  obtain ⟨⟨y, final⟩, hread, hr⟩ := bind_eq_ok_iff.1 h
  cases hr
  obtain ⟨blanks, text, hblanks, hnumber, hmoves, hends⟩ := readNumber_eq_ok_iff.1 hread
  have hall := hfirst.rest.symm.trans hmoves.rest
  cases blanks with
  | cons blank blanks =>
    obtain rfl := (List.cons.inj hall).1
    have hblank := hblanks x List.mem_cons_self
    rw [isBlank_of_leads hlead] at hblank
    cases hblank
  | nil =>
    refine ⟨text, .number hnumber fun hhead => ?_, hmoves, longest_of_goesOn [] hends⟩
    obtain ⟨more, rfl⟩ := List.head?_eq_some_iff.1 hhead
    obtain rfl := (List.cons.inj hall).1
    rcases hlead with hdigit | hpoint
    · cases hdigit
    · cases hpoint

theorem isOperand_of_quoted (hquote : x = '\x22' ∨ x = '\x27') (hfirst : c.Moves [x] d)
    (h : (do
      let (letters, final) ← stringBody x d.rest.length.succ d
      return ⟨.string (String.ofList letters), false, final⟩) =
        (.ok r : Except ReadFault Reading)) : IsOperand c r := by
  obtain ⟨⟨letters, final⟩, hbody, hr⟩ := bind_eq_ok_iff.1 h
  cases hr
  obtain ⟨raw, hraw, hmoves⟩ := moves_of_stringBody hbody
  refine ⟨_, .quoted hquote hraw, hfirst.cons hmoves, ?_⟩
  rw [← List.cons_append]
  exact longest_of_closing (by rcases hquote with rfl | rfl <;> decide) _

theorem isOperand_of_template (hfirst : c.Moves ['\x60'] d)
    (h : (do
      let (letters, final) ← templateBody d.rest.length.succ d
      return ⟨.string (String.ofList letters), false, final⟩) =
        (.ok r : Except ReadFault Reading)) : IsOperand c r := by
  obtain ⟨⟨letters, final⟩, hbody, hr⟩ := bind_eq_ok_iff.1 h
  cases hr
  obtain ⟨hraw, hmoves⟩ := moves_of_templateBody hbody
  refine ⟨_, .template hraw, hfirst.cons hmoves, ?_⟩
  rw [← List.cons_append]
  exact longest_of_closing (by decide) _

/-- A word that is read is a constant. -/
theorem isOperand_of_word
    (h : (if isAlphabetic x ∨ x = '_' ∨ x = '$' then
        if (word c).1 = "true" then .ok ⟨.bool true, false, (word c).2⟩
        else if (word c).1 = "false" then .ok ⟨.bool false, false, (word c).2⟩
        else if (word c).1 = "null" then .ok ⟨.null, false, (word c).2⟩
        else .error (.notLiteral (.word (word c).1))
      else .error c.fault) = (.ok r : Except ReadFault Reading)) : IsOperand c r := by
  have hconstant : ∀ {value : Json}, ((word c).1, value) ∈ constants →
      IsOperand c ⟨value, false, (word c).2⟩ :=
    fun hname => ⟨_, .constant hname, moves_word c, longest_of_word (halts_word c)⟩
  split_ifs at h with _ hname hname hname
  all_goals cases h
  all_goals exact hconstant (by simp [constants, hname])

/-! ## Soundness -/

/-- What the readers read with this fuel is spelled as the grammar says.  An expression is given as far
as its operand goes, and concluded. -/
structure SpelledWithin (fuel : Nat) : Prop where
  operand : ∀ {c r}, operand fuel c = .ok r → IsOperand c r
  expression : ∀ {c r}, expression fuel c = .ok r → ∃ text inner,
    Spells .prefixed text inner.value inner.asserted ∧ c.Moves text inner.final ∧
      Longest text inner.final.rest ∧ conclude inner = .ok r
  items : ∀ {c values asserted d}, items fuel c = .ok (values, asserted, d) → ∃ text,
    Spells .items text (.array values) asserted ∧ c.Moves text d

/-- A concluded expression is one of the grammar. -/
theorem Spells.conclude {inner : Reading} (hinner : Spells .prefixed text inner.value inner.asserted)
    (hlongest : Longest text inner.final.rest) (h : conclude inner = .ok r) :
    Halts isBlank r.final.rest ∧ ∃ more, inner.final.Moves more r.final ∧
      Spells (.expression (!r.final.rest.isEmpty)) (text ++ more) r.value r.asserted := by
  obtain ⟨⟨trailed, final⟩, hpassed, hr⟩ := bind_eq_ok_iff.1 h
  cases hr
  obtain ⟨hhalts, ⟨rfl, gap, hgap, hmoves⟩ |
    ⟨rfl, gap, word, blanks, type, hgap, hword, hblanks, hne, htype, hmoves⟩⟩ :=
    moves_of_skipAssertions hpassed
  · dsimp only
    rw [Bool.or_false]
    exact ⟨hhalts, gap, hmoves, .plain hinner hgap⟩
  · dsimp only
    rw [Bool.or_true]
    refine ⟨hhalts, _, hmoves, .trailed hinner hgap ?_ hword hblanks hne htype⟩
    rintro rfl hends
    -- the numeral or word before it would have taken the first letter
    have hfirst := hlongest hends
    rw [hmoves.rest, List.nil_append, List.append_assoc] at hfirst
    have hletters : ∀ word ∈ assertionWords, ∀ more,
        ¬Halts Char.isAlphanum (word.toList ++ more) := by
      simp only [assertionWords, List.forall_mem_cons]
      refine ⟨fun more h => ?_, fun more h => ?_, List.forall_mem_nil _⟩ <;> cases h _ rfl
    exact hletters word hword _ hfirst

/-- What the expression reader reads is an expression of the grammar. -/
theorem SpelledWithin.spells (h : SpelledWithin fuel) (hread : Literal.expression fuel c = .ok r) :
    Halts isBlank r.final.rest ∧ ∃ text, c.Moves text r.final ∧
      Spells (.expression (!r.final.rest.isEmpty)) text r.value r.asserted := by
  obtain ⟨text, inner, hinner, hmoves, hlongest, hconclude⟩ := h.expression hread
  obtain ⟨hhalts, more, hmore, hspells⟩ := hinner.conclude hlongest hconclude
  exact ⟨hhalts, _, hmoves.trans hmore, hspells⟩

theorem spelledWithin_zero : SpelledWithin 0 where
  operand := nofun
  expression := nofun
  items := nofun

theorem SpelledWithin.array (h : SpelledWithin fuel) (hfirst : c.Moves ['['] d)
    (hread : (do
      let (values, asserted, final) ← Literal.items fuel d
      return ⟨.array values, asserted, final⟩) = (.ok r : Except ReadFault Reading)) :
    IsOperand c r := by
  obtain ⟨⟨values, asserted, final⟩, hitems, hr⟩ := bind_eq_ok_iff.1 hread
  cases hr
  obtain ⟨text, hspells, hmoves⟩ := h.items hitems
  refine ⟨_, .array hspells, hfirst.cons hmoves, ?_⟩
  obtain ⟨front, rfl⟩ := hspells.exists_closing rfl
  rw [← List.cons_append]
  exact longest_of_closing (by decide) _

theorem SpelledWithin.group (h : SpelledWithin fuel) (hfirst : c.Moves ['('] d)
    (hread : (do
      let inner ← Literal.expression fuel d
      let final ← inner.final.skipBlanks.expect ')'
      return ⟨inner.value, inner.asserted, final⟩) = (.ok r : Except ReadFault Reading)) :
    IsOperand c r := by
  obtain ⟨inner, hinner, hread⟩ := bind_eq_ok_iff.1 hread
  obtain ⟨final, hclose, hr⟩ := bind_eq_ok_iff.1 hread
  cases hr
  obtain ⟨hhalts, text, hmoves, hspells⟩ := h.spells hinner
  rw [Cursor.skipBlanks_eq_self hhalts, Cursor.expect_eq_ok_iff] at hclose
  rw [hclose.rest] at hspells
  refine ⟨_, .group hspells, hfirst.cons (hmoves.trans hclose), ?_⟩
  rw [← List.cons_append]
  exact longest_of_closing (by decide) _

theorem SpelledWithin.step_operand (h : SpelledWithin fuel)
    (hread : Literal.operand (fuel + 1) c = .ok r) : IsOperand c r := by
  cases hnext : c.next? with
  | none =>
    rw [Literal.operand, hnext] at hread
    cases hread
  | some found =>
    obtain ⟨x, d⟩ := found
    have hfirst := Cursor.next?_eq_some_iff.1 hnext
    rw [operand_of_moves fuel hfirst] at hread
    by_cases hminus : x = '-'
    · rw [if_pos hminus] at hread
      exact isOperand_of_signed (.inl ⟨hminus, rfl⟩) hfirst hread
    rw [if_neg hminus] at hread
    by_cases hplus : x = '+'
    · rw [if_pos hplus] at hread
      exact isOperand_of_signed (.inr ⟨hplus, rfl⟩) hfirst hread
    rw [if_neg hplus] at hread
    by_cases hquote : x = '\x22' ∨ x = '\x27'
    · rw [if_pos hquote] at hread
      exact isOperand_of_quoted hquote hfirst hread
    rw [if_neg hquote] at hread
    by_cases htemplate : x = '\x60'
    · rw [if_pos htemplate] at hread
      exact isOperand_of_template (htemplate ▸ hfirst) hread
    rw [if_neg htemplate] at hread
    by_cases harray : x = '['
    · rw [if_pos harray] at hread
      exact h.array (harray ▸ hfirst) hread
    rw [if_neg harray] at hread
    by_cases hgroup : x = '('
    · rw [if_pos hgroup] at hread
      exact h.group (hgroup ▸ hfirst) hread
    rw [if_neg hgroup] at hread
    by_cases hobject : x = '\x7b'
    · rw [if_pos hobject] at hread
      cases hread
    rw [if_neg hobject] at hread
    by_cases hlead : x.isDigit = true ∨ x = '.'
    · rw [if_pos hlead] at hread
      exact isOperand_of_unsigned hlead hfirst hread
    rw [if_neg hlead] at hread
    exact isOperand_of_word hread

theorem SpelledWithin.step_expression (h : SpelledWithin fuel)
    (hread : Literal.expression (fuel + 1) c = .ok r) : ∃ text inner,
      Spells .prefixed text inner.value inner.asserted ∧ c.Moves text inner.final ∧
        Longest text inner.final.rest ∧ conclude inner = .ok r := by
  obtain ⟨blanks, hblanks, hskipped, -⟩ := c.exists_moves_skipBlanks
  rw [expression_succ] at hread
  split at hread
  · next hpeek =>
    obtain ⟨rest, hrest⟩ := List.head?_eq_some_iff.1 hpeek
    have hopen : c.skipBlanks.Moves ['<'] ⟨c.skipBlanks.offset + utf8Length ['<'], rest⟩ :=
      ⟨hrest, rfl⟩
    obtain ⟨behind, hangles, hread⟩ := bind_eq_ok_iff.1 hread
    obtain ⟨type, htype, htyped⟩ := (skipAngles_eq_ok_iff hopen).1 hangles
    obtain ⟨text, inner, hinner, hmoves, hlongest, hconclude⟩ := h.expression hread
    have hfront : blanks ++ '<' :: (type ++ '>' :: text) =
        (blanks ++ '<' :: (type ++ ['>'])) ++ text := by simp
    refine ⟨_, inner, .led hblanks htype hinner, ?_, ?_, hconclude⟩
    · rw [hfront]
      exact (hskipped.trans (hopen.cons htyped)).trans hmoves
    · rw [hfront]
      exact hlongest.prepend hinner.ne_nil _
  · obtain ⟨inner, hoperand, hconclude⟩ := bind_eq_ok_iff.1 hread
    obtain ⟨text, hspells, hmoves, hlongest⟩ := h.operand hoperand
    exact ⟨_, inner, .bare hblanks hspells, hskipped.trans hmoves,
      hlongest.prepend hspells.ne_nil blanks, hconclude⟩

theorem SpelledWithin.step_items {values : List Json} (h : SpelledWithin fuel)
    (hread : Literal.items (fuel + 1) c = .ok (values, asserted, d)) : ∃ text,
      Spells .items text (.array values) asserted ∧ c.Moves text d := by
  obtain ⟨blanks, hblanks, hskipped, -⟩ := c.exists_moves_skipBlanks
  rw [Literal.items] at hread
  split at hread
  · next rest hrest =>
    cases hread
    exact ⟨_, .none hblanks, hskipped.trans (Cursor.moves_after hrest)⟩
  · cases hread
  · cases hread
  · obtain ⟨first, hfirst, hread⟩ := bind_eq_ok_iff.1 hread
    rw [expression_skipBlanks] at hfirst
    obtain ⟨hhalts, text, hmoves, hspells⟩ := h.spells hfirst
    simp only [Cursor.skipBlanks_eq_self hhalts] at hread
    split at hread
    · next rest hrest =>
      cases hread
      rw [hrest] at hspells
      exact ⟨_, .last hspells, hmoves.trans (Cursor.moves_after hrest)⟩
    · next rest hrest =>
      obtain ⟨⟨later, trailed, final⟩, hlater, hr⟩ := bind_eq_ok_iff.1 hread
      cases hr
      obtain ⟨more, hmore, hpassed⟩ := h.items hlater
      rw [hrest] at hspells
      exact ⟨_, .next hspells hmore, hmoves.trans ((Cursor.moves_after hrest).cons hpassed)⟩
    · cases hread

theorem spelledWithin (fuel : Nat) : SpelledWithin fuel := by
  induction fuel with
  | zero => exact spelledWithin_zero
  | succ fuel ih => exact ⟨ih.step_operand, ih.step_expression, ih.step_items⟩

end TypeSchema.Literal
