import TypeSchema.Proofs.Initializers.Operators

/-!
# Assertions around a literal

An assertion is to be passed over: the literal in it is worth what it is worth alone.  How far that is
so depends on where the reader takes the asserted type to end, since types are not parsed.

In front of a literal, a type ends where its angle brackets are balanced (`readLiteral_led_iff`).
Behind a literal it ends at the first comma or closing bracket outside all brackets, and these count
alike whatever their kind.  If there is a type behind the literal already, the word of a second assertion
does not end it but goes on with it, from the depth of brackets that was left open (`Asserting`).

A bracket in quotes counts like any other, and so does the second half of an arrow.  So types are passed
over everywhere if they have no arrow, no bracket in quotes, and no comma in quotes outside all brackets
(`IsTypeText true`, **`assertions_transparent`**).
-/

set_option autoImplicit false

namespace TypeSchema.Literal

open Text

variable {source : String} {c e : Cursor} {text rest behind front type : List Char} {value : Json}
  {asserted closed plain inside : Bool} {depth : Int} {fuel : Nat}

/-! ## Types -/

/-- The brackets that types are made with. -/
def brackets : List (Char × Char) :=
  [('<', '>'), ('(', ')'), ('[', ']'), ('\x7b', '\x7d')]

/-- A character of a type that is no bracket, no comma and no quote. -/
def IsLetter (c : Char) : Prop :=
  bracketWeight c = 0 ∧ c ≠ ',' ∧ c ≠ '\x22' ∧ c ≠ '\x27'

instance (c : Char) : Decidable (IsLetter c) :=
  inferInstanceAs (Decidable (_ ∧ _))

/-- The text of a type, or of what stands inside the brackets of one: words and signs, string literals,
arrows and brackets that belong together; commas only inside.  A plain type has no arrows, and in its
string literals no brackets, and commas only where others may be. -/
inductive IsTypeText (plain : Bool) : Bool → List Char → Prop
  | nil {inside : Bool} : IsTypeText plain inside []
  | letter {inside : Bool} {c : Char} {text : List Char} (hletter : IsLetter c)
      (htext : IsTypeText plain inside text) : IsTypeText plain inside (c :: text)
  | comma {text : List Char} (htext : IsTypeText plain true text) : IsTypeText plain true (',' :: text)
  | quoted {inside : Bool} {quote : Char} {raw letters text : List Char}
      (hquote : quote = '\x22' ∨ quote = '\x27') (hraw : Quoted quote raw letters)
      (hplain : plain = true → ∀ c ∈ raw, bracketWeight c = 0 ∧ (c = ',' → inside = true))
      (htext : IsTypeText plain inside text) :
      IsTypeText plain inside (quote :: (raw ++ quote :: text))
  | arrow {inside : Bool} {text : List Char} (hplain : plain = false)
      (htext : IsTypeText plain inside text) : IsTypeText plain inside ('=' :: '>' :: text)
  | group {inside : Bool} {opening closing : Char} {inner text : List Char}
      (hbrackets : (opening, closing) ∈ brackets) (hinner : IsTypeText plain true inner)
      (htext : IsTypeText plain inside text) :
      IsTypeText plain inside (opening :: (inner ++ closing :: text))

theorem isTypeText_of_letters (h : ∀ c ∈ text, IsLetter c) (hrest : IsTypeText plain inside rest) :
    IsTypeText plain inside (text ++ rest) := by
  induction text with
  | nil => exact hrest
  | cons c text ih =>
    obtain ⟨hc, htext⟩ := List.forall_mem_cons.1 h
    exact .letter hc (ih htext)

theorem bracketWeight_of_mem {opening closing : Char} (h : (opening, closing) ∈ brackets) :
    bracketWeight opening = 1 ∧ bracketWeight closing = -1 := by
  have hall : ∀ pair ∈ brackets, bracketWeight pair.1 = 1 ∧ bracketWeight pair.2 = -1 := by decide
  exact hall _ h

theorem bracketWeight_of_quote {quote : Char} (h : quote = '\x22' ∨ quote = '\x27') :
    bracketWeight quote = 0 := by
  rcases h with rfl | rfl <;> rfl

theorem not_isStop_of_bracketWeight {x : Char} (h : bracketWeight x = 0) (hcomma : x ≠ ',') :
    ¬IsStop x := by
  rintro (rfl | rfl | rfl)
  · exact hcomma rfl
  · cases h
  · cases h

@[simp] theorem nesting_append (text rest : List Char) :
    nesting (text ++ rest) = nesting text + nesting rest := by
  simp only [nesting, List.map_append, List.sum_append]

theorem nesting_of_forall (h : ∀ c ∈ text, bracketWeight c = 0) : nesting text = 0 := by
  induction text with
  | nil => rfl
  | cons x text ih =>
    obtain ⟨hx, htext⟩ := List.forall_mem_cons.1 h
    rw [nesting_cons, hx, ih htext, Int.add_zero]

/-- The brackets of a plain type are balanced. -/
theorem IsTypeText.nesting_eq (h : IsTypeText true inside type) : nesting type = 0 := by
  induction h with
  | nil => rfl
  | letter hletter _ ih => rw [nesting_cons, hletter.1, ih, Int.add_zero]
  | comma _ ih =>
    rw [nesting_cons, ih]
    rfl
  | @quoted inside quote raw letters text hquote _ hplain _ ih =>
    have hraw : nesting raw = 0 := nesting_of_forall fun c hc => (hplain rfl c hc).1
    rw [nesting_cons, nesting_append, nesting_cons, bracketWeight_of_quote hquote, hraw, ih]
    rfl
  | arrow hplain => cases hplain
  | group hbrackets _ _ ihinner ihtext =>
    obtain ⟨hopening, hclosing⟩ := bracketWeight_of_mem hbrackets
    rw [nesting_cons, nesting_append, nesting_cons, hopening, hclosing, ihinner, ihtext]
    rfl

theorem passesFrom_of_forall (h : ∀ c ∈ text, bracketWeight c = 0 ∧ (c = ',' → depth ≠ 0)) :
    PassesFrom depth text := by
  induction text with
  | nil => exact passesFrom_nil depth
  | cons x text ih =>
    obtain ⟨⟨hweight, hcomma⟩, htext⟩ := List.forall_mem_cons.1 h
    refine passesFrom_cons.2 ⟨fun hstop => ?_, ?_⟩
    · by_contra hdepth
      exact not_isStop_of_bracketWeight hweight (fun hx => hcomma hx hdepth) hstop
    · rw [hweight, Int.add_zero]
      exact ih htext

/-- No comma and no bracket in a plain type ends it. -/
theorem IsTypeText.passesFrom (h : IsTypeText true inside type) (hdepth : 0 ≤ depth)
    (hinside : inside = true → 0 < depth) : PassesFrom depth type := by
  induction h generalizing depth with
  | nil => exact passesFrom_nil depth
  | letter hletter _ ih =>
    refine passesFrom_cons.2 ⟨fun hstop => ?_, ?_⟩
    · exact absurd hstop (not_isStop_of_bracketWeight hletter.1 hletter.2.1)
    · rw [hletter.1, Int.add_zero]
      exact ih hdepth hinside
  | comma _ ih =>
    have hpos := hinside rfl
    refine passesFrom_cons.2 ⟨fun _ => by omega, ?_⟩
    have hweight : bracketWeight ',' = 0 := rfl
    rw [hweight, Int.add_zero]
    exact ih hdepth hinside
  | @quoted inside quote raw letters text hquote _ hplain _ ih =>
    have hcomma : quote ≠ ',' := by rcases hquote with rfl | rfl <;> decide
    have hraw : ∀ c ∈ quote :: (raw ++ [quote]), bracketWeight c = 0 ∧ (c = ',' → depth ≠ 0) := by
      have hends : bracketWeight quote = 0 ∧ (quote = ',' → depth ≠ 0) :=
        ⟨bracketWeight_of_quote hquote, fun h => absurd h hcomma⟩
      refine List.forall_mem_cons.2 ⟨hends, List.forall_mem_append.2 ⟨fun c hc => ?_, ?_⟩⟩
      · refine (hplain rfl c hc).imp_right fun hcomma h => ?_
        have := hinside (hcomma h)
        omega
      · exact List.forall_mem_cons.2 ⟨hends, List.forall_mem_nil _⟩
    have hpasses := passesFrom_append.2 ⟨passesFrom_of_forall hraw, by
      rw [nesting_of_forall fun c hc => (hraw c hc).1, Int.add_zero]
      exact ih hdepth hinside⟩
    simpa using hpasses
  | arrow hplain => cases hplain
  | @group inside opening closing inner text hbrackets hinner _ ihinner ihtext =>
    obtain ⟨hopening, hclosing⟩ := bracketWeight_of_mem hbrackets
    have hstart : ¬IsStop opening := by
      intro hstop
      rcases hstop with rfl | rfl | rfl <;> cases hopening
    refine passesFrom_cons.2 ⟨fun hstop => absurd hstop hstart, passesFrom_append.2 ⟨?_, ?_⟩⟩
    · rw [hopening]
      exact ihinner (by omega) (by omega)
    · rw [hopening, hinner.nesting_eq, Int.add_zero]
      refine passesFrom_cons.2 ⟨fun _ => by omega, ?_⟩
      rw [hclosing, Int.add_neg_cancel_right]
      exact ihtext hdepth hinside

theorem Balanced.append (h : Balanced text) (hrest : Balanced rest) : Balanced (text ++ rest) := by
  induction h with
  | nil => exact hrest
  | letter hopen hclose _ ih => exact .letter hopen hclose ih
  | nested hinner _ _ ih =>
    rw [List.cons_append, List.append_assoc]
    exact .nested hinner ih

theorem balanced_of_forall (h : ∀ c ∈ text, bracketWeight c = 0) : Balanced text := by
  induction text with
  | nil => exact .nil
  | cons x text ih =>
    obtain ⟨hx, htext⟩ := List.forall_mem_cons.1 h
    refine .letter ?_ ?_ (ih htext)
    · rintro rfl
      cases hx
    · rintro rfl
      cases hx

/-- So are the angle brackets among them. -/
theorem IsTypeText.balanced (h : IsTypeText true inside type) : Balanced type := by
  induction h with
  | nil => exact .nil
  | @letter _ c _ hletter _ ih =>
    have hone : Balanced [c] := balanced_of_forall (by simpa using hletter.1)
    exact hone.append ih
  | comma _ ih => exact .letter (by decide) (by decide) ih
  | @quoted inside quote raw letters text hquote _ hplain _ ih =>
    have hweight := bracketWeight_of_quote hquote
    have hraw : ∀ c ∈ quote :: (raw ++ [quote]), bracketWeight c = 0 := by
      refine List.forall_mem_cons.2 ⟨hweight, List.forall_mem_append.2 ⟨?_, ?_⟩⟩
      · exact fun c hc => (hplain rfl c hc).1
      · exact List.forall_mem_cons.2 ⟨hweight, List.forall_mem_nil _⟩
    simpa using (balanced_of_forall hraw).append ih
  | arrow hplain => cases hplain
  | @group inside opening closing inner text hbrackets _ _ ihinner ihtext =>
    have hangles : opening = '<' ∧ closing = '>' ∨
        opening ≠ '<' ∧ opening ≠ '>' ∧ closing ≠ '<' ∧ closing ≠ '>' := by
      have hall : ∀ pair ∈ brackets, pair.1 = '<' ∧ pair.2 = '>' ∨
          pair.1 ≠ '<' ∧ pair.1 ≠ '>' ∧ pair.2 ≠ '<' ∧ pair.2 ≠ '>' := by decide
      exact hall _ hbrackets
    rcases hangles with ⟨rfl, rfl⟩ | ⟨hopen, hclose, hopen', hclose'⟩
    · exact .nested ihinner ihtext
    · exact .letter hopen hclose (ihinner.append (.letter hopen' hclose' ihtext))

/-! ## Assertions in front of a literal -/

/-- A type in angle brackets ends in one place. -/
theorem Balanced.append_inj {other more : List Char} (h : Balanced type) (hother : Balanced other)
    (heq : type ++ '>' :: rest = other ++ '>' :: more) : type = other ∧ rest = more := by
  have hopened : (⟨0, '<' :: (type ++ '>' :: rest)⟩ : Cursor).Moves ['<']
      ⟨1, type ++ '>' :: rest⟩ := ⟨rfl, rfl⟩
  have hread : ∀ {type rest}, Balanced type →
      (⟨1, type ++ '>' :: rest⟩ : Cursor).Moves (type ++ ['>'])
        ⟨1 + utf8Length (type ++ ['>']), rest⟩ := fun _ => ⟨by simp, rfl⟩
  have hfirst := (skipAngles_eq_ok_iff hopened).2 ⟨type, h, hread h⟩
  rw [heq] at hopened hfirst
  have hsecond := (skipAngles_eq_ok_iff hopened).2 ⟨other, hother, hread hother⟩
  have hrest : rest = more := by
    have := Except.ok.inj (hfirst.symm.trans hsecond)
    exact congrArg Cursor.rest this
  rw [hrest] at heq
  exact ⟨List.append_cancel_right heq, hrest⟩

/-- What begins with an angle bracket is a literal with an assertion in front. -/
theorem Spells.exists_led (h : Spells .prefixed text value asserted) (hhead : text.head? = some '<') :
    ∃ type inner, text = '<' :: (type ++ '>' :: inner) ∧ Balanced type ∧
      Spells .prefixed inner value asserted := by
  have hblanks : ∀ {blanks more : List Char}, AreBlanks blanks →
      (blanks ++ more).head? = some '<' → blanks = [] := by
    intro blanks more hblanks hhead
    cases blanks with
    | nil => rfl
    | cons blank blanks =>
      cases hhead
      exact absurd rfl (ne_of_isBlank (hblanks '<' List.mem_cons_self) (by decide))
  cases h with
  | bare hblank hoperand =>
    obtain rfl := hblanks hblank hhead
    exact absurd hhead hoperand.leads.2
  | led hblank htype hinner =>
    obtain rfl := hblanks hblank hhead
    exact ⟨_, _, rfl, htype, hinner⟩

theorem endsWord_led (type : List Char) (hne : text ≠ []) :
    EndsWord ('<' :: (type ++ '>' :: text)) ↔ EndsWord text := by
  have hfront : '<' :: (type ++ '>' :: text) = ('<' :: (type ++ ['>'])) ++ text := by simp
  rw [EndsWord, hfront, List.getLast?_append_of_ne_nil _ hne, EndsWord]

/-- The assertion in front may be taken away. -/
theorem spells_of_led (htype : Balanced type)
    (h : Spells (.expression closed) ('<' :: (type ++ '>' :: text)) value asserted) :
    Spells (.expression closed) text value asserted := by
  generalize hall : '<' :: (type ++ '>' :: text) = all at h
  have hinner : ∀ {front more : List Char} {asserted : Bool}, Spells .prefixed front value asserted →
      '<' :: (type ++ '>' :: text) = front ++ more → ∃ inner, text = inner ++ more ∧
        Spells .prefixed inner value asserted ∧ (EndsWord inner → EndsWord front) := by
    intro front more asserted hfront heq
    have hhead : front.head? = some '<' := by
      obtain ⟨x, front, rfl⟩ := List.exists_cons_of_ne_nil hfront.ne_nil
      obtain ⟨rfl, -⟩ := List.cons.inj heq
      rfl
    obtain ⟨other, inner, rfl, hother, hspells⟩ := hfront.exists_led hhead
    have htail : type ++ '>' :: text = other ++ '>' :: (inner ++ more) := by
      simpa using (List.cons.inj heq).2
    obtain ⟨rfl, rfl⟩ := htype.append_inj hother htail
    exact ⟨inner, rfl, hspells, (endsWord_led type hspells.ne_nil).2⟩
  cases h with
  | plain hspells hblanks =>
    obtain ⟨inner, rfl, hspells, -⟩ := hinner hspells hall
    exact .plain hspells hblanks
  | trailed hspells hgap happart hword hblanks hne htype =>
    obtain ⟨inner, rfl, hspells, hends⟩ := hinner hspells hall
    exact .trailed hspells hgap (fun hempty => mt hends (happart hempty)) hword hblanks hne htype

/-- And one may be put there. -/
theorem Spells.led_expression (htype : Balanced type)
    (h : Spells (.expression closed) text value asserted) :
    Spells (.expression closed) ('<' :: (type ++ '>' :: text)) value asserted := by
  have hled : ∀ {inner more : List Char}, '<' :: (type ++ '>' :: (inner ++ more)) =
      ([] ++ '<' :: (type ++ '>' :: inner)) ++ more := by simp
  cases h with
  | plain hspells hblanks =>
    rw [hled]
    exact .plain (.led areBlanks_nil htype hspells) hblanks
  | trailed hspells hgap happart hword hblanks hne hbehind =>
    rw [hled]
    refine .trailed (.led areBlanks_nil htype hspells) hgap (fun hempty => ?_) hword hblanks hne hbehind
    exact mt (endsWord_led type hspells.ne_nil).1 (happart hempty)

/-- **A literal behind an asserted type** is read as it is alone. -/
theorem readLiteral_led_iff (source : String) {type : String} (htype : Balanced type.toList) :
    readLiteral ("<" ++ type ++ ">" ++ source) = .ok value ↔ readLiteral source = .ok value := by
  have htext : ("<" ++ type ++ ">" ++ source).toList =
      '<' :: (type.toList ++ '>' :: source.toList) := by
    simp
  rw [readLiteral_eq_ok_iff, readLiteral_eq_ok_iff, htext]
  exact exists_congr fun asserted => ⟨spells_of_led htype, Spells.led_expression htype⟩

/-! ## Assertions behind a literal -/

/-- Blanks may stand before an expression. -/
theorem Spells.blanks_expression {blanks : List Char} (hblanks : AreBlanks blanks)
    (h : Spells (.expression closed) text value asserted) :
    Spells (.expression closed) (blanks ++ text) value asserted := by
  have hprefixed : ∀ {inner : List Char} {asserted : Bool}, Spells .prefixed inner value asserted →
      Spells .prefixed (blanks ++ inner) value asserted := by
    intro inner asserted hinner
    cases hinner with
    | bare hbefore hoperand =>
      rw [← List.append_assoc]
      exact .bare (List.forall_mem_append.2 ⟨hblanks, hbefore⟩) hoperand
    | led hbefore htype hinner =>
      rw [← List.append_assoc]
      exact .led (List.forall_mem_append.2 ⟨hblanks, hbefore⟩) htype hinner
  cases h with
  | plain hinner hbehind =>
    rw [← List.append_assoc]
    exact .plain (hprefixed hinner) hbehind
  | trailed hinner hgap happart hword hbetween hne htype =>
    rw [← List.append_assoc]
    refine .trailed (hprefixed hinner) hgap (fun hempty => ?_) hword hbetween hne htype
    rw [EndsWord, List.getLast?_append_of_ne_nil blanks hinner.ne_nil]
    exact happart hempty

/-- A literal and the word of an assertion behind it, and so much of the asserted type that brackets are
open to this depth. -/
def Asserting (text : List Char) (value : Json) (depth : Int) : Prop :=
  ∃ literal behind front asserted, Spells .prefixed literal value asserted ∧
    IsAssertion literal behind ∧ Halts isBlank front ∧ PassesFrom 0 front ∧ nesting front = depth ∧
    text = literal ++ (behind ++ front)

theorem halts_append_of_halts (hfront : Halts isBlank front) (htype : Halts isBlank type) :
    Halts isBlank (front ++ type) := by
  by_cases hempty : front = []
  · rwa [hempty]
  · rwa [halts_append hempty]

theorem passesFrom_front (hpasses : PassesFrom 0 front) (hnesting : nesting front = depth) :
    PassesFrom 0 (front ++ type) ↔ PassesFrom depth type := by
  rw [passesFrom_append, Int.zero_add, hnesting]
  exact and_iff_right hpasses

/-- The rest of the type completes the assertion. -/
theorem Asserting.spells (h : Asserting text value depth) (hstarts : Halts isBlank type)
    (hpasses : PassesFrom depth type) (hends : if closed then depth + nesting type = 0 else type ≠ []) :
    Spells (.expression closed) (text ++ type) value true := by
  obtain ⟨literal, behind, front, asserted, hspells, hassertion, hfront, hpassed, hnesting, rfl⟩ := h
  have htype : IsType closed (front ++ type) := by
    refine ⟨halts_append_of_halts hfront hstarts, (passesFrom_front hpassed hnesting).2 hpasses, ?_⟩
    cases closed with
    | true => rwa [nesting_append, hnesting]
    | false => exact List.append_ne_nil_of_right_ne_nil front hends
  rw [List.append_assoc, List.append_assoc]
  exact hspells.assert hassertion htype

/-- What ends before the rest of the type does is refused. -/
theorem Asserting.isRefused (h : Asserting text value depth) (hstarts : Halts isBlank type)
    (hpasses : ¬PassesFrom depth type) (hsource : source.toList = text ++ type) :
    IsRefused source := by
  obtain ⟨literal, behind, front, asserted, hspells, hassertion, hfront, hpassed, hnesting, rfl⟩ := h
  refine isRefused_of_not_isType hspells hassertion (halts_append_of_halts hfront hstarts)
    (fun htype => hpasses ((passesFrom_front hpassed hnesting).1 htype.passes)) ?_
  rw [hsource, List.append_assoc, List.append_assoc]

theorem expect_of_nil (x : Char) (h : c.rest = []) : c.expect x = .error .unexpectedEnd := by
  rw [Cursor.expect, Cursor.next?_eq_none_iff.2 h, Cursor.fault, h]

theorem operand_of_group {reading : Reading} (h : c.Moves ['('] e)
    (hread : expression fuel e = .ok reading) :
    operand (fuel + 1) c = reading.final.skipBlanks.expect ')' >>= fun final =>
      .ok ⟨reading.value, reading.asserted, final⟩ := by
  rw [operand_of_moves fuel h]
  show (expression fuel e >>= _) = _
  rw [hread]
  rfl

/-- A type with unbalanced brackets takes the parenthesis around it along. -/
theorem isRefused_group_of_unbalanced (hspells : Spells .prefixed text value asserted)
    (h : IsAssertion text behind) (hstarts : Halts isBlank type) (hpasses : PassesFrom 0 type)
    (hnesting : nesting type ≠ 0)
    (hsource : source.toList = '(' :: (text ++ (behind ++ (type ++ [')'])))) : IsRefused source := by
  refine isRefused_of_readInitializer
    (readInitializer_of_operand hsource (by decide) (by decide) ?_)
  obtain ⟨hapart, hclings⟩ := apart_of_assertion h (type ++ [')'])
  have hread := hspells.readAs (3 * (text ++ (behind ++ (type ++ [')']))).length + 4) _ _
    (Cursor.moves_mk (0 + '('.utf8Size) text _) (.inl hapart) (by rw [List.length_append]; omega)
  have hstarts : Halts isBlank (type ++ [')']) :=
    halts_append_of_halts hstarts (halts_cons.2 (isBlank_of_printed (by decide)))
  have hconclude := (hread.resolve_right fun h => hclings h.1).trans
    (conclude_of_assertion h (Cursor.moves_mk ..) hstarts)
  rw [if_neg (by simp)] at hconclude
  have hend := fun offset => skipType_of_unbalanced hpasses hnesting offset ')'
  rw [operand_of_group (Cursor.moves_cons ..) hconclude]
  refine bind_of_error ⟨_, expect_of_nil _ ?_⟩
  have hhalts : ∀ offset, Halts isBlank (skipType 0 offset (type ++ [')'])).rest := by
    intro offset
    rw [hend offset]
    exact halts_nil
  rw [Cursor.skipBlanks_eq_self (hhalts _)]
  exact hend _

theorem Asserting.isRefused_group (h : Asserting text value depth) (hstarts : Halts isBlank type)
    (hpasses : PassesFrom depth type) (hnesting : depth + nesting type ≠ 0)
    (hsource : source.toList = '(' :: (text ++ type ++ [')'])) : IsRefused source := by
  obtain ⟨literal, behind, front, asserted, hspells, hassertion, hfront, hpassed, hdepth, rfl⟩ := h
  refine isRefused_group_of_unbalanced hspells hassertion (halts_append_of_halts hfront hstarts)
    ((passesFrom_front hpassed hdepth).2 hpasses) (by rwa [nesting_append, hdepth]) ?_
  rw [hsource]
  simp only [List.append_assoc]

/-- The word of an assertion behind what is read already begins an assertion, or goes on with the type
of the one that stands there. -/
theorem exists_asserting (h : Spells (.expression false) text value asserted) :
    ∃ depth,
      (∀ word ∈ assertionWords, Asserting (text ++ ' ' :: (word.toList ++ [' '])) value depth) ∧
      (depth = 0 → ∃ asserted, Spells (.expression true) text value asserted) ∧
      (depth ≠ 0 → ∀ source : String, source.toList = '(' :: (text ++ [')']) → IsRefused source) := by
  cases h with
  | @plain _ literal blanks _ _ hspells hblanks =>
    refine ⟨0, fun word hword => ?_, fun _ => ⟨_, .plain hspells hblanks⟩, fun h => absurd rfl h⟩
    refine ⟨literal, blanks ++ ' ' :: (word.toList ++ [' ']), [], _, hspells, ?_, halts_nil,
      passesFrom_nil 0, rfl, by simp⟩
    exact ⟨blanks ++ [' '], word, [' '], List.forall_mem_append.2 ⟨hblanks, areBlanks_blank⟩,
      by simp, hword, areBlanks_blank, by simp, by simp⟩
  | @trailed _ literal gap blanks type before _ inner hspells hgap happart hbefore hblanks hne htype =>
    have hassertion : IsAssertion literal (gap ++ (before.toList ++ blanks)) :=
      ⟨gap, before, blanks, hgap, happart, hbefore, hblanks, hne, rfl⟩
    have htail : ∀ word ∈ assertionWords, nesting (' ' :: (word.toList ++ [' '])) = 0 ∧
        PassesFrom (nesting type) (' ' :: (word.toList ++ [' '])) := by
      have hletters : ∀ word ∈ assertionWords, ∀ c ∈ ' ' :: (word.toList ++ [' ']),
          bracketWeight c = 0 ∧ c ≠ ',' := by
        simp [assertionWords, bracketWeight, or_imp, forall_and]
      exact fun word hword => ⟨nesting_of_forall fun c hc => (hletters word hword c hc).1,
        passesFrom_of_forall fun c hc => (hletters word hword c hc).imp_right
          fun hne hcomma => absurd hcomma hne⟩
    refine ⟨nesting type, fun word hword => ?_, fun hnesting => ?_, fun hnesting source hsource => ?_⟩
    · refine ⟨literal, _, type ++ ' ' :: (word.toList ++ [' ']), inner, hspells, hassertion, ?_, ?_, ?_,
        by simp⟩
      · exact (halts_append htype.ends).2 htype.starts
      · exact (passesFrom_front htype.passes rfl).2 (htail word hword).2
      · rw [nesting_append, (htail word hword).1, Int.add_zero]
    · exact ⟨true, .trailed hspells hgap happart hbefore hblanks hne
        ⟨htype.starts, htype.passes, hnesting⟩⟩
    · refine isRefused_group_of_unbalanced hspells hassertion htype.starts htype.passes hnesting ?_
      rw [hsource]
      simp

/-! ## Literals among others -/

instance : Decidable (IsRefused source) :=
  match h : readLiteral source with
  | .ok _ => .isFalse fun ⟨_, hfault⟩ => nomatch h.symm.trans hfault
  | .error fault => .isTrue ⟨fault, h⟩

/-- The text is a literal that others may follow, or a closing bracket. -/
def IsItem (text : String) (value : Json) : Prop :=
  ∃ asserted, Spells (.expression true) text.toList value asserted

theorem readLiteral_group (h : IsItem source value) : readLiteral ("(" ++ source ++ ")") = .ok value := by
  obtain ⟨asserted, hspells⟩ := h
  have hgroup : Spells (.expression false) ([] ++ '(' :: (source.toList ++ [')']) ++ []) value asserted :=
    .plain (.bare areBlanks_nil (.group hspells)) areBlanks_nil
  exact readLiteral_eq_ok_iff.2 ⟨asserted, by simpa using hgroup⟩

theorem spells_items {items : List (String × Json)} (h : ∀ item ∈ items, IsItem item.1 item.2)
    {blanks : List Char} (hblanks : AreBlanks blanks) :
    ∃ asserted, Spells .items
      (blanks ++ [',', ' '].intercalate (items.map fun item => item.1.toList) ++ [']'])
      (.array (items.map Prod.snd)) asserted := by
  induction items generalizing blanks with
  | nil => exact ⟨false, by simpa using Spells.none hblanks⟩
  | cons first rest ih =>
    obtain ⟨⟨asserted, hfirst⟩, hrest⟩ := List.forall_mem_cons.1 h
    have hitem := hfirst.blanks_expression hblanks
    cases rest with
    | nil => exact ⟨asserted, by simpa using Spells.last hitem⟩
    | cons second rest =>
      obtain ⟨later, hmore⟩ := ih hrest areBlanks_blank
      exact ⟨asserted || later, by simpa [List.intercalate_cons_cons] using Spells.next hitem hmore⟩

/-- **Literals in an array** are read as the array of their values. -/
theorem readLiteral_items {items : List (String × Json)} (h : ∀ item ∈ items, IsItem item.1 item.2) :
    readLiteral ("[" ++ ", ".intercalate (items.map Prod.fst) ++ "]") =
      .ok (.array (items.map Prod.snd)) := by
  obtain ⟨asserted, hspells⟩ := spells_items h areBlanks_nil
  have harray : Spells (.expression false)
      ([] ++ '[' :: ([] ++ [',', ' '].intercalate (items.map fun item => item.1.toList) ++ [']']) ++ [])
      (.array (items.map Prod.snd)) asserted :=
    .plain (.bare areBlanks_nil (.array hspells)) areBlanks_nil
  refine readLiteral_eq_ok_iff.2 ⟨asserted, ?_⟩
  simpa [String.toList_intercalate, Function.comp_def] using harray

/-- A source text with an assertion behind it. -/
def asserting (source word type : String) : String :=
  source ++ " " ++ word ++ " " ++ type

theorem toList_asserting (source word type : String) : (asserting source word type).toList =
    source.toList ++ ' ' :: (word.toList ++ [' ']) ++ type.toList := by
  simp [asserting]

theorem isRefused_of_not_isItem (h : readLiteral source = .ok value) (hitem : ¬IsItem source value) :
    IsRefused ("(" ++ source ++ ")") := by
  obtain ⟨asserted, hspells⟩ := readLiteral_eq_ok_iff.1 h
  obtain ⟨depth, -, hclosed, hopen⟩ := exists_asserting hspells
  exact hopen (fun hdepth => hitem (hclosed hdepth)) _ (by simp)

theorem not_isItem_of_isRefused (h : IsRefused ("(" ++ source ++ ")")) : ¬IsItem source value := by
  intro hitem
  obtain ⟨fault, hfault⟩ := h
  rw [readLiteral_group hitem] at hfault
  cases hfault

theorem readLiteral_group_iff (h : readLiteral source = .ok value) :
    readLiteral ("(" ++ source ++ ")") = .ok value ↔ IsItem source value := by
  refine ⟨fun hgroup => ?_, readLiteral_group⟩
  by_contra hitem
  obtain ⟨fault, hfault⟩ := isRefused_of_not_isItem h hitem
  cases hgroup.symm.trans hfault

/-- **Assertions are passed over**, as far as the reader tells types from what surrounds them.  Behind a
type in angle brackets, a literal is read as it is alone if these are balanced in the type.  Before a
type, it is so if no comma and no closing bracket ends the type; and where something follows, as in
parentheses and arrays, if the brackets of the type are balanced too, together with those that a type
behind the literal has left open.  Plain types are all of this. -/
theorem assertions_transparent (source : String) (value : Json) :
    (∀ type : String, Balanced type.toList →
      (readLiteral ("<" ++ type ++ ">" ++ source) = .ok value ↔ readLiteral source = .ok value)) ∧
    (readLiteral source = .ok value → ∃ depth, (IsItem source value ↔ depth = 0) ∧
      ∀ word ∈ assertionWords, ∀ type : String, type ≠ "" → Halts isBlank type.toList →
        (PassesFrom depth type.toList →
          readLiteral (asserting source word type) = .ok value ∧
            (readLiteral ("(" ++ asserting source word type ++ ")") = .ok value ↔
              depth + nesting type.toList = 0) ∧
            (IsItem (asserting source word type) value ↔ depth + nesting type.toList = 0)) ∧
        (¬PassesFrom depth type.toList → IsRefused (asserting source word type))) ∧
    (∀ items : List (String × Json), (∀ item ∈ items, IsItem item.1 item.2) →
      readLiteral ("[" ++ ", ".intercalate (items.map Prod.fst) ++ "]") =
        .ok (.array (items.map Prod.snd))) ∧
    ∀ type, IsTypeText true false type →
      Balanced type ∧ nesting type = 0 ∧ ∀ depth, 0 ≤ depth → PassesFrom depth type := by
  refine ⟨fun type htype => readLiteral_led_iff source htype, fun h => ?_,
    fun items h => readLiteral_items h, fun type htype => ?_⟩
  · obtain ⟨asserted, hspells⟩ := readLiteral_eq_ok_iff.1 h
    obtain ⟨depth, hasserting, hclosed, hopen⟩ := exists_asserting hspells
    refine ⟨depth, ⟨fun hitem => ?_, hclosed⟩, fun word hword type hne hstarts => ?_⟩
    · by_contra hdepth
      exact not_isItem_of_isRefused (hopen hdepth _ (by simp)) hitem
    have hsource := toList_asserting source word type
    have hbegun := hasserting word hword
    refine ⟨fun hpasses => ?_, fun hpasses => hbegun.isRefused hstarts hpasses hsource⟩
    have hread : readLiteral (asserting source word type) = .ok value :=
      readLiteral_eq_ok_iff.2 ⟨true, hsource ▸ hbegun.spells hstarts hpasses (by simpa using hne)⟩
    have hitem : IsItem (asserting source word type) value ↔ depth + nesting type.toList = 0 := by
      refine ⟨fun hitem => ?_, fun hnesting => ?_⟩
      · by_contra hnesting
        refine not_isItem_of_isRefused (hbegun.isRefused_group hstarts hpasses hnesting ?_) hitem
        simp [hsource]
      · exact ⟨true, hsource ▸ hbegun.spells hstarts hpasses hnesting⟩
    exact ⟨hread, (readLiteral_group_iff hread).trans hitem, hitem⟩
  · exact ⟨htype.balanced, htype.nesting_eq, fun depth hdepth => htype.passesFrom hdepth nofun⟩

theorem readLiteral_letter : readLiteral "'a'" = .ok (.string "a") := by
  have hspells : Spells (.expression false) ("'a'".toList ++ []) (.string "a") false :=
    .plain spells_letter areBlanks_nil
  exact readLiteral_eq_ok_iff.2 ⟨false, by simpa using hspells⟩

theorem quoted_of_letters {quote : Char} {raw : List Char} (h : ∀ c ∈ raw, c ≠ quote ∧ c ≠ '\\') :
    Quoted quote raw raw := by
  induction raw with
  | nil => exact .nil
  | cons c raw ih =>
    obtain ⟨⟨hquote, hslash⟩, hraw⟩ := List.forall_mem_cons.1 h
    exact .letter hquote hslash (ih hraw)

theorem isTypeText_map : IsTypeText true false "Map<string, 'x'>[]".toList := by
  have hquoted : IsTypeText true true ('\x27' :: (['x'] ++ '\x27' :: [])) :=
    .quoted (.inr rfl) (quoted_of_letters (by simp)) (by simp [bracketWeight]) .nil
  have harguments : IsTypeText true true ("string".toList ++ ',' :: ' ' ::
      '\x27' :: (['x'] ++ '\x27' :: [])) :=
    isTypeText_of_letters (by simp [IsLetter, bracketWeight]) (.comma (.letter (by decide) hquoted))
  have hall : IsTypeText true false ("Map".toList ++ '<' :: (("string".toList ++ ',' :: ' ' ::
      '\x27' :: (['x'] ++ '\x27' :: [])) ++ '>' :: '[' :: ([] ++ ']' :: []))) :=
    isTypeText_of_letters (by simp [IsLetter, bracketWeight])
      (.group (by decide) harguments (.group (by decide) .nil .nil))
  exact hall

theorem assertions_transparent_map :
    readLiteral ("<" ++ "Map<string, 'x'>[]" ++ ">" ++ "'a'") = .ok (.string "a") ∧
      readLiteral ("(" ++ asserting "'a'" "as" "Map<string, 'x'>[]" ++ ")") = .ok (.string "a") ∧
      readLiteral ("[" ++ ", ".intercalate [asserting "'a'" "as" "Map<string, 'x'>[]", "'a'"] ++ "]") =
        .ok (.array [.string "a", .string "a"]) ∧
      readLiteral (asserting "'a'" "as" "() => void") = .ok (.string "a") ∧
      readLiteral ("(" ++ asserting "'a'" "as" "() => void" ++ ")") ≠ .ok (.string "a") ∧
      IsRefused (asserting "'a'" "as" "'x,y'") := by
  obtain ⟨hled, hbehind, hitems, hplain⟩ := assertions_transparent "'a'" (.string "a")
  obtain ⟨hbalanced, hnesting, hpasses⟩ := hplain _ isTypeText_map
  have hletter : IsItem "'a'" (.string "a") :=
    ⟨false, by simpa using Spells.plain spells_letter areBlanks_nil⟩
  obtain ⟨depth, hdepth, hasserting⟩ := hbehind readLiteral_letter
  obtain rfl := hdepth.1 hletter
  have hword := hasserting "as" (by decide)
  obtain ⟨-, hgroup, hmap⟩ :=
    (hword "Map<string, 'x'>[]" (by decide) (by decide +kernel)).1 (hpasses 0 (by decide))
  obtain ⟨hvoid, hopen, -⟩ :=
    (hword "() => void" (by decide) (by decide +kernel)).1 (by decide +kernel)
  have hcomma := (hword "'x,y'" (by decide) (by decide +kernel)).2 (by decide +kernel)
  have hsum : 0 + nesting "Map<string, 'x'>[]".toList = 0 := by rw [hnesting]; rfl
  have harray := hitems [(_, _), (_, _)] (List.forall_mem_cons.2
    ⟨hmap.2 hsum, List.forall_mem_cons.2 ⟨hletter, List.forall_mem_nil _⟩⟩)
  exact ⟨(hled _ hbalanced).2 readLiteral_letter, hgroup.2 hsum, harray, hvoid,
    mt hopen.1 (by decide +kernel), hcomma⟩

theorem isTypeText_arrow : IsTypeText false false "() => void".toList := by
  have hvoid : IsTypeText false false (" void".toList ++ []) :=
    isTypeText_of_letters (by simp [IsLetter, bracketWeight]) .nil
  have hall : IsTypeText false false ('(' :: ([] ++ ')' :: ' ' :: '=' :: '>' :: (" void".toList ++ []))) :=
    .group (by decide) .nil (.letter (by decide) (.arrow rfl hvoid))
  exact hall

theorem isTypeText_quoted {raw : List Char} (h : ∀ c ∈ raw, c ≠ '\x27' ∧ c ≠ '\\') :
    IsTypeText false false ('\x27' :: (raw ++ ['\x27'])) :=
  .quoted (.inr rfl) (quoted_of_letters h) nofun .nil

/-- An arrow spoils a type that something follows, and one in angle brackets; a comma in quotes ends a
type, and a bracket in quotes takes along items that follow. -/
theorem exists_type_counted :
    readLiteral "'a'" = .ok (.string "a") ∧
      IsTypeText false false "() => void".toList ∧ IsRefused "('a' as () => void)" ∧
      IsRefused "<() => void>'a'" ∧
      IsTypeText false false "'x,y'".toList ∧ IsRefused "'a' as 'x,y'" ∧
      IsTypeText false false "'<'".toList ∧ IsTypeText false false "'>'".toList ∧
      readLiteral "['a' as '<', 'b' as '>']" = .ok (.array [.string "a"]) := by
  have hswallowed : Spells (.expression false) "['a' as '<', 'b' as '>']".toList
      (.array [.string "a"]) true := by
    have htype : IsType true "'<', 'b' as '>'".toList := by decide +kernel
    exact (spells_letter.assert isAssertion_as htype).inArray
  have hcomma : IsTypeText false false ('\x27' :: ("x,y".toList ++ ['\x27'])) :=
    isTypeText_quoted (by simp)
  have hopen : IsTypeText false false ('\x27' :: (['<'] ++ ['\x27'])) :=
    isTypeText_quoted (by simp)
  have hclose : IsTypeText false false ('\x27' :: (['>'] ++ ['\x27'])) :=
    isTypeText_quoted (by simp)
  exact ⟨readLiteral_letter, isTypeText_arrow, by decide +kernel, by decide +kernel, hcomma,
    by decide +kernel, hopen, hclose, readLiteral_eq_ok_iff.2 ⟨true, hswallowed⟩⟩

end TypeSchema.Literal
