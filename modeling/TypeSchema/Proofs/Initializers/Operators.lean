import TypeSchema.Proofs.Initializers.Completeness

/-!
# Operators behind a literal

A literal is read and nothing computed, so a text that goes on with an operator is refused
(`isRefused_operator`).  Behind an assertion this is not so: what stands there is the asserted type, and
types are not parsed.  An operator and its second operand are passed over like the rest of the type, and
the first operand is taken for the value.  `accepts_only_literals` says exactly when: if no comma and no
closing bracket in what follows the assertion's word stands outside all brackets, and inside an array,
if the brackets in it are balanced too.
-/

set_option autoImplicit false

namespace TypeSchema.Literal

open Text

variable {source : String} {c e : Cursor} {text rest gap type : List Char} {value : Json}
  {asserted : Bool} {fuel : Nat}

/-- The source text is refused. -/
def IsRefused (source : String) : Prop :=
  ∃ fault, readLiteral source = .error fault

theorem isRefused_of_readInitializer (h : ∃ fault, readInitializer source = .error fault) :
    IsRefused source := by
  obtain ⟨fault, h⟩ := h
  exact ⟨fault, by rw [readLiteral, h]; rfl⟩

/-- The binary and the conditional operators. -/
def operators : List String :=
  ["+", "-", "*", "/", "%", "**", "<<", ">>", ">>>", "&", "|", "^", "<", "<=", ">", ">=", "==", "!=",
    "===", "!==", "&&", "||", "??", "?", "in", "instanceof", ",", "=", "+=", "-=", "*=", "/=", "%=",
    "**=", "<<=", ">>=", ">>>=", "&=", "|=", "^=", "&&=", "||=", "??="]

/-! ## What follows a literal -/

/-- A source text that begins with a literal is read by what follows it. -/
theorem readInitializer_of_prefixed (hspells : Spells .prefixed text value asserted)
    (hsource : source.toList = text ++ rest) (hrest : Apart text rest ∨ Clings text rest) :
    readInitializer source =
        conclude ⟨value, asserted, ⟨utf8Length text, rest⟩⟩ >>= conclusion source ∨
      Clings text rest ∧ ∃ fault, readInitializer source = .error fault := by
  obtain ⟨blanks, opened, rfl, hblanks, hopened, hopens⟩ := hspells.exists_opens_prefixed
  rw [apart_append hopened.ne_nil, clings_append hopened.ne_nil] at hrest
  rw [clings_append hopened.ne_nil]
  rw [List.append_assoc] at hsource
  obtain ⟨hmoves, hfuel⟩ := exists_skipBlanks hsource hblanks hopens
  rw [readInitializer_eq]
  refine (hopened.readAs _ _ _ hmoves hrest (by omega)).imp (fun h => ?_) (And.imp_right bind_of_error)
  rw [h]

/-- An operator begins with no blank, with no point and not like an assertion, and if it begins like a
word, with one letter. -/
theorem exists_operator {op : String} (h : op ∈ operators) :
    ∃ first more, op.toList = first :: more ∧ isBlank first = false ∧ first ≠ '.' ∧ first ≠ 'a' ∧
      first ≠ 's' ∧ (isIdentifierCharacter first = false ∨ first = 'i') := by
  have hall : ∀ op ∈ operators, op.toList.head?.any (fun first => decide (isBlank first = false ∧
      first ≠ '.' ∧ first ≠ 'a' ∧ first ≠ 's' ∧
        (isIdentifierCharacter first = false ∨ first = 'i'))) = true := by
    decide +kernel
  obtain ⟨first, hhead, hfirst⟩ := (Option.any_eq_true _ _).1 (hall op h)
  obtain ⟨more, hmore⟩ := List.head?_eq_some_iff.1 hhead
  exact ⟨first, more, hmore, of_decide_eq_true hfirst⟩

theorem not_asserts_of_head {first : Char} (ha : first ≠ 'a') (hs : first ≠ 's') :
    ¬Asserts (first :: rest) := by
  have hwords : ∀ word ∈ assertionWords, ∀ more, (word.toList ++ more).head? = some 'a' ∨
      (word.toList ++ more).head? = some 's' := by
    simp only [assertionWords, List.forall_mem_cons]
    exact ⟨fun more => .inl rfl, fun more => .inr rfl, List.forall_mem_nil _⟩
  rintro ⟨word, hword, blank, more, hrest, -⟩
  rcases hwords word hword (blank :: more) with h | h
  all_goals
    rw [← hrest] at h
    cases h
  · exact ha rfl
  · exact hs rfl

/-- A literal is not the first operand of anything. -/
theorem isRefused_operator {op : String} {more : List Char}
    (hspells : Spells .prefixed text value asserted) (hgap : AreBlanks gap) (hop : op ∈ operators)
    (hsource : source.toList = text ++ (gap ++ (op.toList ++ more))) : IsRefused source := by
  obtain ⟨first, tail, htail, hblank, hpoint, ha, hs, hletter⟩ := exists_operator hop
  rw [htail] at hsource
  have hrest : Apart text (gap ++ (first :: tail ++ more)) ∨
      Clings text (gap ++ (first :: tail ++ more)) := by
    cases gap with
    | cons blank gap =>
      refine .inl (apart_of_head ?_).1
      rintro x ⟨⟩
      exact .inl (hgap _ List.mem_cons_self)
    | nil =>
      rcases hletter with hletter | rfl
      · left
        rintro - x ⟨⟩
        simp [hletter, hpoint]
      · by_cases hends : EndsWord text
        · exact .inr (.inr ⟨hends, rfl⟩)
        · exact .inl fun h => absurd h hends
  refine isRefused_of_readInitializer ?_
  refine (readInitializer_of_prefixed hspells hsource hrest).elim (fun h => ?_) And.right
  have hskip : (⟨utf8Length text, gap ++ (first :: tail ++ more)⟩ : Cursor).skipBlanks =
      ⟨utf8Length text + utf8Length gap, first :: tail ++ more⟩ :=
    Cursor.skipBlanks_of_moves (Cursor.moves_mk ..) hgap (halts_cons.2 hblank)
  have hpassed : ∀ fuel, skipAssertions (fuel + 1) ⟨utf8Length text, gap ++ (first :: tail ++ more)⟩ =
      .ok (false, ⟨utf8Length text + utf8Length gap, first :: tail ++ more⟩) := by
    rw [← hskip]
    refine skipAssertions_of_not_asserts ?_
    rw [hskip]
    exact not_asserts_of_head ha hs
  rw [h, conclude_of_skipAssertions hpassed]
  refine ⟨_, if_neg ?_⟩
  rw [Cursor.skipBlanks_eq_self (halts_cons.2 hblank)]
  exact List.cons_ne_nil _ _

/-! ## What follows an assertion -/

/-- The word of an assertion, standing apart from the expression before it, and blanks behind it. -/
def IsAssertion (text behind : List Char) : Prop :=
  ∃ gap word blanks, AreBlanks gap ∧ (gap = [] → ¬EndsWord text) ∧ word ∈ assertionWords ∧
    AreBlanks blanks ∧ blanks ≠ [] ∧ behind = gap ++ (word.toList ++ blanks)

variable {behind : List Char}

/-- The assertion takes for a type what follows, up to where a type ends. -/
theorem conclude_of_assertion (h : IsAssertion text behind) (hmoves : c.Moves behind e)
    (he : Halts isBlank e.rest) :
    conclude ⟨value, asserted, c⟩ = if e.rest = [] then .error .unexpectedEnd
      else .ok ⟨value, true, skipType 0 e.offset e.rest⟩ := by
  obtain ⟨gap, word, blanks, hgap, -, hword, hblanks, hne, rfl⟩ := h
  rw [conclude, skipAssertions_of_word hgap hword hblanks hne hmoves he]
  split
  · rfl
  · show Except.ok _ = _
    rw [Bool.or_true]

theorem apart_of_assertion (h : IsAssertion text behind) (rest : List Char) :
    Apart text (behind ++ rest) ∧ ¬Clings text (behind ++ rest) := by
  obtain ⟨gap, word, blanks, hgap, happart, hword, -, -, rfl⟩ := h
  rw [List.append_assoc, List.append_assoc]
  exact apart_of_word hgap happart hword _

theorem Spells.assert {closed : Bool} (hspells : Spells .prefixed text value asserted)
    (h : IsAssertion text behind) (htype : IsType closed type) :
    Spells (.expression closed) (text ++ (behind ++ type)) value true := by
  obtain ⟨gap, word, blanks, hgap, happart, hword, hblanks, hne, rfl⟩ := h
  rw [List.append_assoc, List.append_assoc]
  exact .trailed hspells hgap happart hword hblanks hne htype

/-- What ends before the text does leaves something behind it, and that is refused. -/
theorem isRefused_of_not_isType (hspells : Spells .prefixed text value asserted)
    (h : IsAssertion text behind) (hstarts : Halts isBlank type) (htype : ¬IsType false type)
    (hsource : source.toList = text ++ (behind ++ type)) : IsRefused source := by
  obtain ⟨hapart, hclings⟩ := apart_of_assertion h type
  refine isRefused_of_readInitializer ?_
  rw [(readInitializer_of_prefixed hspells hsource (.inl hapart)).resolve_right fun h => hclings h.1,
    conclude_of_assertion h (Cursor.moves_mk ..) hstarts]
  obtain ⟨taken, hpasses, hmoves, hstops⟩ :=
    exists_type ⟨utf8Length text + utf8Length behind, type⟩ 0
  rw [Int.zero_add] at hstops
  split
  · exact ⟨_, rfl⟩
  · next hne =>
    refine ⟨_, if_neg fun hempty => htype ?_⟩
    rw [Cursor.skipBlanks_eq_self (halts_of_stopsAt hstops)] at hempty
    have hall := isType_of_stopsAt hstarts hne hpasses hmoves hstops
    have htaken : type = taken := by simpa [hempty] using hmoves.rest
    rwa [hempty, ← htaken] at hall

/-! ## The same inside an array -/

theorem Spells.inArray {text : List Char} (h : Spells (.expression true) text value asserted) :
    Spells (.expression false) ('[' :: (text ++ [']'])) (.array [value]) asserted := by
  have harray : Spells (.expression false) ([] ++ '[' :: (text ++ [']']) ++ []) (.array [value])
      asserted := .plain (.bare areBlanks_nil (.array (.last h))) areBlanks_nil
  simpa using harray

/-- A type with unbalanced brackets takes the bracket around it along. -/
theorem skipType_of_unbalanced (hpasses : PassesFrom 0 type) (hnesting : nesting type ≠ 0)
    (offset : Nat) (x : Char) : (skipType 0 offset (type ++ [x])).rest = [] := by
  have hall : PassesFrom 0 (type ++ [x]) := by
    refine passesFrom_append.2 ⟨hpasses, passesFrom_cons.2 ⟨fun _ => ?_, passesFrom_nil _⟩⟩
    rwa [Int.zero_add]
  have hend := skipType_eq_iff (c := ⟨offset, type ++ [x]⟩)
    (d := ⟨offset + utf8Length (type ++ [x]), []⟩) |>.2
    ⟨_, hall, ⟨(List.append_nil _).symm, rfl⟩, nofun⟩
  exact congrArg Cursor.rest hend

theorem items_of_unbalanced (hspells : Spells .prefixed text value asserted)
    (h : IsAssertion text behind) (hstarts : Halts isBlank type) (hpasses : PassesFrom 0 type)
    (hnesting : nesting type ≠ 0) (hrest : c.rest = text ++ (behind ++ (type ++ [']'])))
    (hfuel : 3 * text.length ≤ fuel) : ∃ fault, items (fuel + 1) c = .error fault := by
  have hopens : Opens c.skipBlanks.rest := by
    obtain ⟨blanks, opened, rfl, hblanks, -, hopened⟩ := hspells.exists_opens_prefixed
    obtain ⟨mid, hmid, hmoves⟩ := (Cursor.moves_after hrest).split
    have hmidopens : Opens mid.rest := hmoves.rest ▸ hopened.append _
    rwa [Cursor.skipBlanks_of_moves hmid hblanks hmidopens.halts]
  obtain ⟨hapart, hclings⟩ := apart_of_assertion h (type ++ [']'])
  have hread := hspells.readAs _ _ _ (Cursor.moves_after hrest) (.inl hapart) hfuel
  have hstarts : Halts isBlank (type ++ [']']) := by
    by_cases hempty : type = []
    · rw [hempty]
      exact halts_cons.2 (isBlank_of_printed (by decide))
    · exact (halts_append hempty).2 hstarts
  have hbehind : (c.after text (behind ++ (type ++ [']']))).Moves behind
      ⟨c.offset + utf8Length text + utf8Length behind, type ++ [']']⟩ := Cursor.moves_mk ..
  rw [items_of_opens hopens, hread.resolve_right fun h => hclings h.1,
    conclude_of_assertion h hbehind hstarts, if_neg (by simp)]
  have hend := fun offset => skipType_of_unbalanced hpasses hnesting offset ']'
  refine ⟨.unexpectedEnd, ?_⟩
  show concludeItem fuel _ = _
  simp only [concludeItem, Cursor.skipBlanks_eq_self (hend _ ▸ halts_nil), Cursor.fault, hend]
  rfl

/-- The whole text is one operand, and fails with it. -/
theorem readInitializer_of_operand {mark : Char} {inner : List Char}
    (hsource : source.toList = mark :: inner) (hmark : 0x20 < mark.toNat ∧ mark.toNat < 0x7f)
    (hangle : mark ≠ '<')
    (h : ∃ fault, operand (3 * inner.length + 5) ⟨0, mark :: inner⟩ = .error fault) :
    ∃ fault, readInitializer source = .error fault := by
  have hstart : Cursor.start source = ⟨0, mark :: inner⟩ := by rw [Cursor.start, hsource]
  have hfirst : (⟨0, mark :: inner⟩ : Cursor).Moves [mark] ⟨0 + mark.utf8Size, inner⟩ :=
    Cursor.moves_cons ..
  have hskip : (⟨0, mark :: inner⟩ : Cursor).skipBlanks = ⟨0, mark :: inner⟩ :=
    Cursor.skipBlanks_eq_self (hfirst.halts_isBlank hmark)
  have hfuel : fuelFor source = 3 * inner.length + 5 + 1 := by
    rw [fuelFor, hstart, hskip]
    show 3 * (inner.length + 1) + 3 = _
    omega
  have hpeek : (⟨0, mark :: inner⟩ : Cursor).peek? ≠ some '<' := by
    rw [Cursor.peek?_of_moves hfirst]
    simpa using hangle
  rw [readInitializer_eq, hfuel, hstart, hskip, expression_succ, hskip, if_neg hpeek]
  exact bind_of_error (bind_of_error h)

theorem isRefused_of_unbalanced (hspells : Spells .prefixed text value asserted)
    (h : IsAssertion text behind) (hstarts : Halts isBlank type) (hpasses : PassesFrom 0 type)
    (hnesting : nesting type ≠ 0)
    (hsource : source.toList = '[' :: (text ++ (behind ++ (type ++ [']'])))) : IsRefused source := by
  refine isRefused_of_readInitializer
    (readInitializer_of_operand hsource (by decide) (by decide) ?_)
  rw [operand_of_moves _ (Cursor.moves_cons ..)]
  refine bind_of_error (items_of_unbalanced hspells h hstarts hpasses hnesting rfl ?_)
  rw [List.length_append]
  omega

/-! ## What is accepted -/

/-- **No expression is accepted, but for what an assertion hides.**  What is accepted is a literal of the
grammar.  A literal with an operator behind it is refused.  With an assertion behind it, a literal is
accepted for what it is worth if what follows the assertion's word is a type, as far as types are told
from anything else: whatever the text, it need only not be ended by a comma or closing bracket; in an
array its brackets have to be balanced too. -/
theorem accepts_only_literals (source : String) :
    (∀ value, readLiteral source = .ok value ↔
      ∃ asserted, Spells (.expression false) source.toList value asserted) ∧
    (∀ text value asserted gap op more, Spells .prefixed text value asserted → AreBlanks gap →
      op ∈ operators → source.toList = text ++ (gap ++ (op.toList ++ more)) → IsRefused source) ∧
    (∀ text value asserted behind type, Spells .prefixed text value asserted →
      IsAssertion text behind → Halts isBlank type → source.toList = text ++ (behind ++ type) →
      (IsType false type → readLiteral source = .ok value) ∧
        (¬IsType false type → IsRefused source)) ∧
    ∀ text value asserted behind type, Spells .prefixed text value asserted →
      IsAssertion text behind → Halts isBlank type → PassesFrom 0 type →
      source.toList = '[' :: (text ++ (behind ++ (type ++ [']']))) →
      (nesting type = 0 → readLiteral source = .ok (.array [value])) ∧
        (nesting type ≠ 0 → IsRefused source) := by
  refine ⟨fun value => readLiteral_eq_ok_iff, ?_, ?_, ?_⟩
  · intro text value asserted gap op more hspells hgap hop hsource
    exact isRefused_operator hspells hgap hop hsource
  · intro text value asserted behind type hspells hassertion hstarts hsource
    refine ⟨fun htype => ?_, fun htype => ?_⟩
    · rw [readLiteral_eq_ok_iff, hsource]
      exact ⟨true, hspells.assert hassertion htype⟩
    · exact isRefused_of_not_isType hspells hassertion hstarts htype hsource
  · intro text value asserted behind type hspells hassertion hstarts hpasses hsource
    refine ⟨fun hnesting => ?_, fun hnesting => ?_⟩
    · have htype : IsType true type := ⟨hstarts, hpasses, hnesting⟩
      have hitem := hspells.assert hassertion htype
      rw [readLiteral_eq_ok_iff, hsource]
      exact ⟨true, by simpa using hitem.inArray⟩
    · exact isRefused_of_unbalanced hspells hassertion hstarts hpasses hnesting hsource

theorem spells_letter : Spells .prefixed "'a'".toList (.string "a") false :=
  .bare areBlanks_nil (.quoted (.inr rfl) (.letter (by decide) (by decide) .nil))

theorem isAssertion_as : IsAssertion "'a'".toList " as ".toList :=
  ⟨[' '], "as", [' '], by decide +kernel, nofun, by decide, by decide +kernel, by decide, rfl⟩

theorem accepts_only_literals_letter :
    IsRefused "'a' + 'b'" ∧ readLiteral "'a' as string + 'b'" = .ok (.string "a") ∧
      IsRefused "'a' as string, 'b'" ∧
      readLiteral "['a' as string + 'b']" = .ok (.array [.string "a"]) ∧
      IsRefused "['a' as Array<string + 'b']" := by
  obtain ⟨-, hoperator, -, -⟩ := accepts_only_literals "'a' + 'b'"
  obtain ⟨-, -, hasserted, -⟩ := accepts_only_literals "'a' as string + 'b'"
  obtain ⟨-, -, hended, -⟩ := accepts_only_literals "'a' as string, 'b'"
  obtain ⟨-, -, -, hbalanced⟩ := accepts_only_literals "['a' as string + 'b']"
  obtain ⟨-, -, -, hunbalanced⟩ := accepts_only_literals "['a' as Array<string + 'b']"
  refine ⟨?_, ?_, ?_, ?_, ?_⟩
  · exact hoperator _ _ _ [' '] "+" " 'b'".toList spells_letter (by decide +kernel) (by decide) rfl
  · exact (hasserted _ _ _ _ "string + 'b'".toList spells_letter isAssertion_as
      (by decide +kernel) rfl).1 (by decide +kernel)
  · exact (hended _ _ _ _ "string, 'b'".toList spells_letter isAssertion_as
      (by decide +kernel) rfl).2 (by decide +kernel)
  · exact (hbalanced _ _ _ _ "string + 'b'".toList spells_letter isAssertion_as
      (by decide +kernel) (by decide +kernel) rfl).1 (by decide +kernel)
  · exact (hunbalanced _ _ _ _ "Array<string + 'b'".toList spells_letter isAssertion_as
      (by decide +kernel) (by decide +kernel) rfl).2 (by decide +kernel)

/-- An operator behind an asserted identifier is hidden, alone and in an array. -/
theorem exists_operator_hidden :
    Spells .prefixed "'a'".toList (.string "a") false ∧ "+" ∈ operators ∧
      readLiteral "'a' as string + 'b'" = .ok (.string "a") ∧
      readLiteral "['a' as string + 'b']" = .ok (.array [.string "a"]) :=
  have htype : ∀ closed, IsType closed "string + 'b'".toList := by decide +kernel
  have halone : Spells (.expression false) "'a' as string + 'b'".toList (.string "a") true :=
    spells_letter.assert isAssertion_as (htype false)
  have hinside : Spells (.expression false) "['a' as string + 'b']".toList (.array [.string "a"])
      true :=
    (spells_letter.assert isAssertion_as (htype true)).inArray
  ⟨spells_letter, by decide, readLiteral_eq_ok_iff.2 ⟨true, halone⟩,
    readLiteral_eq_ok_iff.2 ⟨true, hinside⟩⟩

end TypeSchema.Literal
