import TypeSchema.Proofs.Initializers.Soundness

/-!
# What is a literal is read

The other direction, by induction on the derivation: each part of the grammar is read for what it is
worth, with fuel for three times its length (`Spells.readAs`).  An operand has to stand apart from what
follows; only a numeral that ends with an exponent's mark before a sign may still go wrong, and is then
refused.  Both directions together are `readInitializer_eq_ok_iff`.
-/

set_option autoImplicit false

namespace TypeSchema.Literal

open Text

variable {c d : Cursor} {x : Char} {text rest front : List Char} {value : Json} {part : Part}
  {asserted closed : Bool} {fuel : Nat}

/-! ## How the parts begin -/

/-- An item may begin like this: with nothing that ends or separates items, and not with a spread. -/
def Opens : List Char → Prop
  | [] => False
  | x :: more => isBlank x = false ∧ ¬IsStop x ∧ (x = '.' → ∃ y rest, more = y :: rest ∧ y ≠ '.')

theorem opens_of_mark {mark : Char} (hmark : 0x20 < mark.toNat ∧ mark.toNat < 0x7f)
    (h : ¬IsStop mark ∧ mark ≠ '.') : Opens (mark :: rest) :=
  ⟨isBlank_of_printed hmark, h.1, fun hpoint => absurd hpoint h.2⟩

theorem Opens.append (h : Opens text) (rest : List Char) : Opens (text ++ rest) := by
  cases text with
  | nil => exact h.elim
  | cons x more =>
    obtain ⟨hblank, hstop, hpoint⟩ := h
    refine ⟨hblank, hstop, fun hx => ?_⟩
    obtain ⟨y, tail, rfl, hy⟩ := hpoint hx
    exact ⟨y, tail ++ rest, rfl, hy⟩

theorem Opens.halts (h : Opens text) : Halts isBlank text := by
  cases text with
  | nil => exact h.elim
  | cons x more => exact halts_cons.2 h.1

/-- Behind the point that a numeral begins with stands a digit. -/
theorem IsNumeral.exists_digit (h : IsNumeral ('.' :: rest)) :
    ∃ y more, rest = y :: more ∧ y.isDigit = true := by
  generalize htext : '.' :: rest = text at h
  cases h with
  | @whole digits exponent hdigits hne _ =>
    obtain ⟨y, more, rfl⟩ := List.exists_cons_of_ne_nil hne
    obtain rfl := (List.cons.inj htext).1
    cases hdigits _ List.mem_cons_self
  | @pointed whole fraction exponent hwhole hfraction hne _ =>
    cases whole with
    | nil =>
      obtain ⟨y, more, rfl⟩ := List.exists_cons_of_ne_nil (hne.resolve_left (· rfl))
      exact ⟨y, more ++ exponent, (List.cons.inj htext).2, hfraction y List.mem_cons_self⟩
    | cons y whole =>
      obtain rfl := (List.cons.inj htext).1
      cases hwhole _ List.mem_cons_self
  | based => cases htext

theorem IsNumber.opens {y : Float} (h : IsNumber text y) : Opens text := by
  obtain ⟨x, more, rfl, hx⟩ := h.head
  refine ⟨halts_cons.1 (h.halts_isBlank []), ?_, ?_⟩
  · rintro (rfl | rfl | rfl) <;> revert hx <;> decide
  · rintro rfl
    have hnumeral := h.numeral
    rw [withoutUnderscores, List.filter_cons_of_pos (by decide)] at hnumeral
    obtain ⟨digit, tail, htail, hdigit⟩ := hnumeral.exists_digit
    cases more with
    | nil => cases htail
    | cons y more =>
      refine ⟨y, more, rfl, ?_⟩
      rintro rfl
      rw [List.filter_cons_of_pos (by decide)] at htail
      obtain rfl := (List.cons.inj htail).1
      cases hdigit

theorem Spells.leads (h : Spells .operand text value asserted) :
    Opens text ∧ text.head? ≠ some '<' := by
  cases h with
  | number hnumber hhead =>
    refine ⟨hnumber.opens, ?_⟩
    obtain ⟨x, more, rfl, hx⟩ := hnumber.head
    rintro ⟨⟩
    revert hx
    decide
  | constant hname =>
    have hnames : ∀ entry ∈ constants, ∃ x more, entry.1.toList = x :: more ∧
        isIdentifierCharacter x = true ∧ ¬IsStop x ∧ x ≠ '.' ∧ x ≠ '<' := by
      simp only [constants, List.forall_mem_cons]
      exact ⟨⟨'t', _, rfl, by decide⟩, ⟨'f', _, rfl, by decide⟩, ⟨'n', _, rfl, by decide⟩,
        List.forall_mem_nil _⟩
    obtain ⟨x, more, hname, hletter, hstop, hpoint, hangle⟩ := hnames _ hname
    rw [hname]
    exact ⟨⟨isBlank_of_isIdentifierCharacter hletter, hstop, fun h => absurd h hpoint⟩,
      by simpa using hangle⟩
  | quoted hquote =>
    rcases hquote with rfl | rfl
    · exact ⟨opens_of_mark (by decide) (by decide), by simp⟩
    · exact ⟨opens_of_mark (by decide) (by decide), by simp⟩
  | _ => exact ⟨opens_of_mark (by decide) (by decide), by simp⟩

/-- Blanks may stand before an operand and its prefixes, which begin like an item. -/
theorem Spells.exists_opens_prefixed (h : Spells .prefixed text value asserted) :
    ∃ blanks opened, text = blanks ++ opened ∧ AreBlanks blanks ∧
      Spells .prefixed opened value asserted ∧ Opens opened := by
  cases h with
  | @bare blanks text _ _ hblanks hoperand =>
    exact ⟨blanks, text, rfl, hblanks, .bare areBlanks_nil hoperand, hoperand.leads.1⟩
  | @led blanks type text _ _ hblanks htype hinner =>
    exact ⟨blanks, '<' :: (type ++ '>' :: text), rfl, hblanks, .led areBlanks_nil htype hinner,
      opens_of_mark (by decide) (by decide)⟩

theorem Spells.exists_opens (h : Spells (.expression closed) text value asserted) :
    ∃ blanks opened, text = blanks ++ opened ∧ AreBlanks blanks ∧
      Spells (.expression closed) opened value asserted ∧ Opens opened := by
  cases h with
  | plain hinner hblanks =>
    obtain ⟨blanks, opened, rfl, hfront, hopened, hopens⟩ := hinner.exists_opens_prefixed
    exact ⟨blanks, _, List.append_assoc .., hfront, .plain hopened hblanks, hopens.append _⟩
  | trailed hinner hgap happart hword hblanks hne htype =>
    obtain ⟨blanks, opened, rfl, hfront, hopened, hopens⟩ := hinner.exists_opens_prefixed
    refine ⟨blanks, _, List.append_assoc .., hfront,
      .trailed hopened hgap (fun hempty hends => happart hempty ?_) hword hblanks hne htype,
      hopens.append _⟩
    rwa [EndsWord, List.getLast?_append_of_ne_nil blanks hopened.ne_nil]

/-! ## What the readers do once the next character is known -/

theorem operand_of_unsigned (hlead : x.isDigit = true ∨ x = '.') (h : c.Moves [x] d) :
    operand (fuel + 1) c = do
      let (n, final) ← readNumber c
      return ⟨numberJson n, false, final⟩ := by
  have hother : ∀ y, ¬(y.isDigit = true ∨ y = '.') → x ≠ y := by
    rintro y hy rfl
    exact hy hlead
  have hquote : ¬(x = '\x22' ∨ x = '\x27') :=
    not_or.2 ⟨hother '\x22' (by decide), hother '\x27' (by decide)⟩
  rw [operand_of_moves fuel h, if_neg (hother '-' (by decide)), if_neg (hother '+' (by decide)),
    if_neg hquote, if_neg (hother '\x60' (by decide)), if_neg (hother '[' (by decide)),
    if_neg (hother '(' (by decide)), if_neg (hother '\x7b' (by decide)), if_pos hlead]

theorem isIdentifierCharacter_of_mem_constant {name : String} (h : (name, value) ∈ constants) :
    ∀ x ∈ name.toList, isIdentifierCharacter x = true := by
  have hletters : ∀ entry ∈ constants, entry.1.toList.all isIdentifierCharacter = true := by
    simp only [constants, List.forall_mem_cons]
    exact ⟨rfl, rfl, rfl, List.forall_mem_nil _⟩
  exact List.all_eq_true.1 (hletters _ h)

/-- Whichever constant it is, its first letter makes the reader look for a word. -/
theorem operand_of_letter {name : String} (hname : (name, value) ∈ constants)
    (h : c.Moves name.toList d) :
    operand (fuel + 1) c =
      if (word c).1 = "true" then .ok ⟨.bool true, false, (word c).2⟩
      else if (word c).1 = "false" then .ok ⟨.bool false, false, (word c).2⟩
      else if (word c).1 = "null" then .ok ⟨.null, false, (word c).2⟩
      else .error (.notLiteral (.word (word c).1)) := by
  simp only [constants, List.mem_cons, Prod.mk.injEq, List.not_mem_nil, or_false] at hname
  rcases hname with ⟨rfl, -⟩ | ⟨rfl, -⟩ | ⟨rfl, -⟩
  all_goals
    obtain ⟨behind, hfirst, -⟩ := Cursor.Moves.uncons h
    rw [operand_of_moves fuel hfirst]
    rfl

theorem operand_of_constant {name : String} (hname : (name, value) ∈ constants)
    (h : c.Moves name.toList d) (hd : Halts isIdentifierCharacter d.rest) :
    operand (fuel + 1) c = .ok ⟨value, false, d⟩ := by
  rw [operand_of_letter hname h, word_of_moves h (isIdentifierCharacter_of_mem_constant hname) hd]
  simp only [constants, List.mem_cons, Prod.mk.injEq, List.not_mem_nil, or_false] at hname
  rcases hname with ⟨rfl, rfl⟩ | ⟨rfl, rfl⟩ | ⟨rfl, rfl⟩ <;> rfl

/-- What becomes of the items of an array once the first one is read. -/
def concludeItem (fuel : Nat) (first : Reading) : Except ReadFault (List Json × Bool × Cursor) := do
  let behind := first.final.skipBlanks
  match behind.rest with
  | ']' :: rest => return ([first.value], first.asserted, behind.after [']'] rest)
  | ',' :: rest =>
    let (values, asserted, final) ← items fuel (behind.after [','] rest)
    return (first.value :: values, first.asserted || asserted, final)
  | _ => throw behind.fault

theorem items_of_opens (h : Opens c.skipBlanks.rest) :
    items (fuel + 1) c = expression fuel c >>= concludeItem fuel := by
  rw [items, expression_skipBlanks]
  split
  · next hrest => exact absurd (.inr (.inr rfl)) (hrest ▸ h).2.1
  · next hrest => exact absurd (.inl rfl) (hrest ▸ h).2.1
  · next hrest =>
    obtain ⟨y, more, hmore, hy⟩ := (hrest ▸ h).2.2 rfl
    exact absurd (List.cons.inj hmore).1.symm hy
  · rfl

theorem concludeItem_of_last {first : Reading} (h : first.final.Moves [']'] d) :
    concludeItem fuel first = .ok ([first.value], first.asserted, d) := by
  have hskip : first.final.skipBlanks = first.final :=
    Cursor.skipBlanks_eq_self (h.halts_isBlank (by decide))
  simp only [concludeItem, hskip, h.rest]
  show Except.ok ([first.value], first.asserted, first.final.after [']'] d.rest) = _
  rw [(Cursor.moves_after h.rest).final_eq h]

theorem concludeItem_of_next {first : Reading} (h : first.final.Moves [','] d) :
    concludeItem fuel first = do
      let (values, asserted, final) ← items fuel d
      return (first.value :: values, first.asserted || asserted, final) := by
  have hskip : first.final.skipBlanks = first.final :=
    Cursor.skipBlanks_eq_self (h.halts_isBlank (by decide))
  simp only [concludeItem, hskip, h.rest]
  show (items fuel (first.final.after [','] d.rest) >>= _) = _
  rw [(Cursor.moves_after h.rest).final_eq h]

theorem conclude_of_skipAssertions {inner : Reading} {trailed : Bool}
    (h : ∀ fuel, skipAssertions (fuel + 1) inner.final = .ok (trailed, d)) :
    conclude inner = .ok ⟨inner.value, inner.asserted || trailed, d⟩ := by
  rw [conclude, h]
  rfl

/-! ## What stands behind an operand -/

theorem apart_append (hne : text ≠ []) : Apart (front ++ text) rest ↔ Apart text rest := by
  simp only [Apart, EndsWord, List.getLast?_append_of_ne_nil front hne]

theorem clings_append (hne : text ≠ []) : Clings (front ++ text) rest ↔ Clings text rest := by
  simp only [Clings, EndsWord, List.getLast?_append_of_ne_nil front hne]

/-- Blanks, commas and closing brackets stand apart from anything. -/
theorem apart_of_head (h : ∀ x, rest.head? = some x → isBlank x = true ∨ IsStop x) :
    Apart text rest ∧ ¬Clings text rest := by
  refine ⟨fun _ x hx => ?_, ?_⟩
  · show (isIdentifierCharacter x || x == '.') = false
    rcases h x hx with hblank | rfl | rfl | rfl
    · rw [isIdentifierCharacter_of_isBlank hblank, Bool.false_or, beq_eq_false_iff_ne]
      exact ne_of_isBlank hblank (by decide)
    all_goals decide
  · have hneither : ∀ x, rest.head? = some x → x ≠ '-' ∧ x ≠ '+' ∧ x ≠ 'i' := by
      intro x hx
      rcases h x hx with hblank | rfl | rfl | rfl
      · exact ⟨ne_of_isBlank hblank (by decide), ne_of_isBlank hblank (by decide),
          ne_of_isBlank hblank (by decide)⟩
      all_goals decide
    rintro (⟨_, sign, -, -, hhead, hsign⟩ | ⟨-, hhead⟩)
    · exact hsign.elim (hneither sign hhead).1 (hneither sign hhead).2.1
    · exact (hneither 'i' hhead).2.2 rfl

theorem Follows.head (h : Follows closed rest) : ∀ x, rest.head? = some x → IsStop x := by
  cases closed with
  | true =>
    obtain ⟨y, more, rfl, hy⟩ := h
    rintro x ⟨⟩
    exact hy
  | false =>
    obtain rfl : rest = [] := h
    nofun

theorem apart_of_blanks (text : List Char) {blanks : List Char} (hblanks : AreBlanks blanks)
    (h : ∀ x, rest.head? = some x → isBlank x = true ∨ IsStop x) :
    Apart text (blanks ++ rest) ∧ ¬Clings text (blanks ++ rest) := by
  refine apart_of_head fun x hx => ?_
  cases blanks with
  | nil => exact h x hx
  | cons blank blanks =>
    cases hx
    exact .inl (hblanks _ List.mem_cons_self)

theorem apart_of_word {gap : List Char} {word : String} (hgap : AreBlanks gap)
    (happart : gap = [] → ¬EndsWord text) (hword : word ∈ assertionWords) (more : List Char) :
    Apart text (gap ++ (word.toList ++ more)) ∧ ¬Clings text (gap ++ (word.toList ++ more)) := by
  cases gap with
  | nil =>
    refine ⟨fun hends => absurd hends (happart rfl), ?_⟩
    have hletters : ∀ word ∈ assertionWords, ∀ sign, (word.toList ++ more).head? = some sign →
        ¬IsSign sign := by
      simp only [assertionWords, List.forall_mem_cons]
      refine ⟨?_, ?_, List.forall_mem_nil _⟩ <;> rintro sign ⟨⟩ (h | h) <;> cases h
    rintro (⟨_, sign, -, -, hhead, hsign⟩ | ⟨hends, -⟩)
    · exact hletters word hword sign hhead hsign
    · exact happart rfl hends
  | cons blank gap =>
    refine apart_of_head ?_
    rintro x ⟨⟩
    exact .inl (hgap _ List.mem_cons_self)

/-! ## Completeness -/

/-- The part is read for what it is worth, with fuel for three times its length.  An operand may be
refused together with what clings to it. -/
def ReadAs : Part → List Char → Json → Bool → Prop
  | .operand, text, value, asserted => ∀ fuel c d, c.Moves text d →
      Apart text d.rest ∨ Clings text d.rest → 3 * text.length ≤ fuel + 1 →
      operand fuel c = .ok ⟨value, asserted, d⟩ ∨
        Clings text d.rest ∧ ∃ fault, operand fuel c = .error fault
  | .prefixed, text, value, asserted => ∀ fuel c d, c.Moves text d →
      Apart text d.rest ∨ Clings text d.rest → 3 * text.length ≤ fuel →
      expression fuel c = conclude ⟨value, asserted, d⟩ ∨
        Clings text d.rest ∧ ∃ fault, expression fuel c = .error fault
  | .expression closed, text, value, asserted => ∀ fuel c d, c.Moves text d → Follows closed d.rest →
      3 * text.length ≤ fuel → expression fuel c = .ok ⟨value, asserted, d⟩
  | .items, text, value, asserted => ∀ fuel c d values, value = .array values → c.Moves text d →
      3 * text.length ≤ fuel + 2 → items fuel c = .ok (values, asserted, d)

theorem bind_of_error {α β : Type} {result : Except ReadFault α} {f : α → Except ReadFault β}
    (h : ∃ fault, result = .error fault) : ∃ fault, result >>= f = .error fault := by
  obtain ⟨fault, rfl⟩ := h
  exact ⟨fault, rfl⟩

/-- A number that is read or refused makes an operand that is. -/
theorem readAs_of_readNumber {worth : Float → Json} {y : Float} {result : Except ReadFault Reading}
    (hread : readNumber c = .ok (y, d) ∨ Clings text d.rest ∧ ∃ fault, readNumber c = .error fault)
    (hresult : result = do
      let (n, final) ← readNumber c
      return ⟨worth n, false, final⟩) :
    result = .ok ⟨worth y, false, d⟩ ∨ Clings text d.rest ∧ ∃ fault, result = .error fault := by
  rw [hresult]
  exact hread.imp (fun h => bind_eq_ok_iff.2 ⟨_, h, rfl⟩) (And.imp_right bind_of_error)

theorem readAs_signed {sign : Char} {worth : Float → Json} {blanks : List Char} {y : Float}
    (hsign : sign = '-' ∧ worth = negated ∨ sign = '+' ∧ worth = numberJson)
    (hblanks : AreBlanks blanks) (hnumber : IsNumber text y) :
    ReadAs .operand (sign :: (blanks ++ text)) (worth y) false := by
  intro fuel c d hmoves hapart hfuel
  obtain ⟨fuel, rfl⟩ := Nat.exists_eq_add_one_of_ne_zero (n := fuel) (by
    rw [List.length_cons] at hfuel
    omega)
  obtain ⟨behind, hfirst, hmoves⟩ := hmoves.uncons
  obtain ⟨digit, more, htext, -⟩ := hnumber.head
  have hne : text ≠ [] := htext ▸ List.cons_ne_nil digit more
  rw [← List.cons_append, apart_append hne, clings_append hne] at hapart
  rw [← List.cons_append, clings_append hne]
  refine readAs_of_readNumber (readNumber_of_isNumber hblanks hnumber hmoves hapart) ?_
  rw [operand_of_moves fuel hfirst]
  rcases hsign with ⟨rfl, rfl⟩ | ⟨rfl, rfl⟩ <;> rfl

theorem readAs_number {y : Float} (hnumber : IsNumber text y) (hhead : text.head? ≠ some '_') :
    ReadAs .operand text (numberJson y) false := by
  intro fuel c d hmoves hapart hfuel
  obtain ⟨x, more, rfl, hx⟩ := hnumber.head
  obtain ⟨fuel, rfl⟩ := Nat.exists_eq_add_one_of_ne_zero (n := fuel) (by
    rw [List.length_cons] at hfuel
    omega)
  have hlead : x.isDigit = true ∨ x = '.' := by
    rcases hx with hdigit | hpoint | rfl
    · exact .inl hdigit
    · exact .inr hpoint
    · exact absurd rfl hhead
  have hpassed : c.Moves ([] ++ x :: more) d := hmoves
  have hread := readNumber_of_isNumber areBlanks_nil hnumber hpassed hapart
  obtain ⟨behind, hfirst, -⟩ := hmoves.uncons
  exact readAs_of_readNumber hread (operand_of_unsigned hlead hfirst)

theorem readAs_quoted {quote : Char} {raw letters : List Char}
    (hquote : quote = '\x22' ∨ quote = '\x27') (hraw : Quoted quote raw letters) :
    ReadAs .operand (quote :: (raw ++ [quote])) (.string (String.ofList letters)) false := by
  intro fuel c d hmoves _ hfuel
  obtain ⟨fuel, rfl⟩ := Nat.exists_eq_add_one_of_ne_zero (n := fuel) (by
    rw [List.length_cons] at hfuel
    omega)
  obtain ⟨behind, hfirst, hmoves⟩ := hmoves.uncons
  have hslash : quote ≠ '\\' := by rcases hquote with rfl | rfl <;> decide
  have hlength : raw.length < behind.rest.length.succ := by
    have := hmoves.length_le
    rw [List.length_append] at this
    omega
  left
  rw [operand_of_moves fuel hfirst]
  rcases hquote with rfl | rfl
  all_goals exact bind_eq_ok_iff.2 ⟨_, hraw.stringBody hslash hlength hmoves, rfl⟩

theorem readAs_template {raw : List Char} (hraw : IsTemplate raw) :
    ReadAs .operand ('\x60' :: (raw ++ ['\x60'])) (.string (String.ofList raw)) false := by
  intro fuel c d hmoves _ hfuel
  obtain ⟨fuel, rfl⟩ := Nat.exists_eq_add_one_of_ne_zero (n := fuel) (by
    rw [List.length_cons] at hfuel
    omega)
  obtain ⟨behind, hfirst, hmoves⟩ := hmoves.uncons
  have hlength : raw.length < behind.rest.length.succ := by
    have := hmoves.length_le
    rw [List.length_append] at this
    omega
  left
  rw [operand_of_moves fuel hfirst]
  exact bind_eq_ok_iff.2 ⟨_, hraw.templateBody hlength hmoves, rfl⟩

/-- A constant that goes on with another letter is none. -/
theorem operand_of_clinging {name : String} (hname : (name, value) ∈ constants)
    (h : c.Moves name.toList d) (hd : d.rest.head? = some 'i') :
    ∃ fault, operand (fuel + 1) c = .error fault := by
  obtain ⟨more, hmore⟩ := List.head?_eq_some_iff.1 hd
  obtain ⟨run, hrun⟩ : ∃ run, (word c).1.toList = name.toList ++ 'i' :: run := by
    rw [word, h.rest, hmore, List.takeWhile_append_of_pos (isIdentifierCharacter_of_mem_constant hname),
      List.takeWhile_cons_of_pos (by decide), String.toList_ofList]
    exact ⟨_, rfl⟩
  have hnone : (word c).1 ≠ "true" ∧ (word c).1 ≠ "false" ∧ (word c).1 ≠ "null" := by
    simp only [constants, List.mem_cons, Prod.mk.injEq, List.not_mem_nil, or_false] at hname
    refine ⟨?_, ?_, ?_⟩ <;> intro hread <;> rw [hread] at hrun <;>
      rcases hname with ⟨rfl, -⟩ | ⟨rfl, -⟩ | ⟨rfl, -⟩ <;> cases hrun
  rw [operand_of_letter hname h, if_neg hnone.1, if_neg hnone.2.1, if_neg hnone.2.2]
  exact ⟨_, rfl⟩

theorem readAs_constant {name : String} (hname : (name, value) ∈ constants) :
    ReadAs .operand name.toList value false := by
  intro fuel c d hmoves hapart hfuel
  have hends : ∀ entry ∈ constants, (∃ last, entry.1.toList.getLast? = some last ∧
      isIdentifierCharacter last = true) ∧ entry.1.toList ≠ [] := by
    simp only [constants, List.forall_mem_cons]
    exact ⟨⟨⟨'e', rfl, rfl⟩, by decide⟩, ⟨⟨'e', rfl, rfl⟩, by decide⟩,
      ⟨⟨'l', rfl, rfl⟩, by decide⟩, List.forall_mem_nil _⟩
  obtain ⟨⟨last, hlast, hletter⟩, hne⟩ := hends _ hname
  have hlength : 0 < name.toList.length := List.length_pos_iff.2 hne
  obtain ⟨fuel, rfl⟩ := Nat.exists_eq_add_one_of_ne_zero (n := fuel) (by omega)
  by_cases hi : d.rest.head? = some 'i'
  · exact .inr ⟨.inr ⟨⟨last, hlast, .inl hletter⟩, hi⟩, operand_of_clinging hname hmoves hi⟩
  refine .inl (operand_of_constant hname hmoves fun x hx => ?_)
  rcases hapart with hapart | ⟨_, sign, -, -, hhead, hsign⟩ | ⟨-, hhead⟩
  · exact (Bool.or_eq_false_iff.1 (hapart ⟨last, hlast, .inl hletter⟩ x hx)).1
  · obtain rfl : sign = x := Option.some.inj (hhead.symm.trans hx)
    rcases hsign with rfl | rfl <;> rfl
  · exact absurd hhead hi

theorem Spells.exists_values (h : Spells .items text value asserted) :
    ∃ values, value = .array values := by
  cases h <;> exact ⟨_, rfl⟩

theorem readAs_array (hitems : Spells .items text value asserted)
    (ih : ReadAs .items text value asserted) : ReadAs .operand ('[' :: text) value asserted := by
  intro fuel c d hmoves _ hfuel
  rw [List.length_cons] at hfuel
  obtain ⟨fuel, rfl⟩ := Nat.exists_eq_add_one_of_ne_zero (n := fuel) (by omega)
  obtain ⟨values, rfl⟩ := hitems.exists_values
  obtain ⟨behind, hfirst, hmoves⟩ := hmoves.uncons
  left
  rw [operand_of_moves fuel hfirst]
  exact bind_eq_ok_iff.2 ⟨_, ih fuel behind d values rfl hmoves (by omega), rfl⟩

theorem readAs_group (ih : ReadAs (.expression true) text value asserted) :
    ReadAs .operand ('(' :: (text ++ [')'])) value asserted := by
  intro fuel c d hmoves _ hfuel
  rw [List.length_cons, List.length_append] at hfuel
  obtain ⟨fuel, rfl⟩ := Nat.exists_eq_add_one_of_ne_zero (n := fuel) (by omega)
  obtain ⟨behind, hfirst, hmoves⟩ := hmoves.uncons
  obtain ⟨mid, htext, hclose⟩ := hmoves.split
  have hfollows : Follows true mid.rest := ⟨')', d.rest, hclose.rest, .inr (.inl rfl)⟩
  have hskip : mid.skipBlanks = mid :=
    Cursor.skipBlanks_eq_self fun x hx => isBlank_of_isStop (hfollows.head x hx)
  left
  rw [operand_of_moves fuel hfirst]
  refine bind_eq_ok_iff.2 ⟨_, ih fuel behind mid htext hfollows (by omega), ?_⟩
  refine bind_eq_ok_iff.2 ⟨d, ?_, rfl⟩
  rw [hskip]
  exact Cursor.expect_eq_ok_iff.2 hclose

theorem readAs_bare {blanks : List Char} (hblanks : AreBlanks blanks)
    (hoperand : Spells .operand text value asserted) (ih : ReadAs .operand text value asserted) :
    ReadAs .prefixed (blanks ++ text) value asserted := by
  intro fuel c d hmoves hapart hfuel
  have hlength := List.length_pos_iff.2 hoperand.ne_nil
  rw [List.length_append] at hfuel
  obtain ⟨fuel, rfl⟩ := Nat.exists_eq_add_one_of_ne_zero (n := fuel) (by omega)
  obtain ⟨mid, hmid, hmoves⟩ := hmoves.split
  rw [apart_append hoperand.ne_nil, clings_append hoperand.ne_nil] at hapart
  rw [clings_append hoperand.ne_nil]
  obtain ⟨hopens, hangle⟩ := hoperand.leads
  have hskip : c.skipBlanks = mid :=
    Cursor.skipBlanks_of_moves hmid hblanks (hmoves.rest ▸ (hopens.append d.rest).halts)
  have hpeek : mid.peek? ≠ some '<' := by
    obtain ⟨x, more, rfl⟩ := List.exists_cons_of_ne_nil hoperand.ne_nil
    rw [Cursor.peek?_of_moves hmoves]
    exact hangle
  rw [expression_succ, hskip, if_neg hpeek]
  refine (ih fuel mid d hmoves hapart (by omega)).imp (fun h => ?_) (And.imp_right bind_of_error)
  rw [h]
  rfl

theorem readAs_led {blanks type : List Char} (hblanks : AreBlanks blanks) (htype : Balanced type)
    (hinner : Spells .prefixed text value asserted) (ih : ReadAs .prefixed text value asserted) :
    ReadAs .prefixed (blanks ++ '<' :: (type ++ '>' :: text)) value asserted := by
  intro fuel c d hmoves hapart hfuel
  rw [List.length_append, List.length_cons, List.length_append, List.length_cons] at hfuel
  obtain ⟨fuel, rfl⟩ := Nat.exists_eq_add_one_of_ne_zero (n := fuel) (by omega)
  have hfront : blanks ++ '<' :: (type ++ '>' :: text) =
      (blanks ++ '<' :: (type ++ ['>'])) ++ text := by simp
  rw [hfront] at hmoves hapart ⊢
  rw [apart_append hinner.ne_nil, clings_append hinner.ne_nil] at hapart
  rw [clings_append hinner.ne_nil]
  obtain ⟨behind, hfronted, hmoves⟩ := hmoves.split
  obtain ⟨mid, hmid, hfronted⟩ := hfronted.split
  obtain ⟨opened, hopen, htyped⟩ := hfronted.uncons
  have hskip : c.skipBlanks = mid :=
    Cursor.skipBlanks_of_moves hmid hblanks (hopen.halts_isBlank (by decide))
  rw [expression_succ, hskip, if_pos (Cursor.peek?_of_moves hopen),
    (skipAngles_eq_ok_iff hopen).2 ⟨type, htype, htyped⟩]
  exact ih fuel behind d hmoves hapart (by omega)

theorem readAs_plain {blanks : List Char} (hblanks : AreBlanks blanks)
    (ih : ReadAs .prefixed text value asserted) :
    ReadAs (.expression closed) (text ++ blanks) value asserted := by
  intro fuel c d hmoves hfollows hfuel
  obtain ⟨mid, hmid, hmoves⟩ := hmoves.split
  obtain ⟨hapart, hclings⟩ := apart_of_blanks text hblanks
    (fun x hx => .inr (hfollows.head x hx))
  rw [← hmoves.rest] at hapart hclings
  rw [List.length_append] at hfuel
  have hskip : mid.skipBlanks = d :=
    Cursor.skipBlanks_of_moves hmoves hblanks fun x hx => isBlank_of_isStop (hfollows.head x hx)
  rw [(ih fuel c mid hmid (.inl hapart) (by omega)).resolve_right fun h => hclings h.1]
  have hpassed : ∀ fuel, skipAssertions (fuel + 1) mid = .ok (false, d) := by
    rw [← hskip]
    refine skipAssertions_of_not_asserts ?_
    rw [hskip]
    exact not_asserts_of_isStop hfollows.head
  rw [conclude_of_skipAssertions hpassed, Bool.or_false]

theorem readAs_trailed {gap blanks type : List Char} {word : String} (hgap : AreBlanks gap)
    (happart : gap = [] → ¬EndsWord text) (hword : word ∈ assertionWords)
    (hblanks : AreBlanks blanks) (hne : blanks ≠ []) (htype : IsType closed type)
    (ih : ReadAs .prefixed text value asserted) :
    ReadAs (.expression closed) (text ++ (gap ++ (word.toList ++ (blanks ++ type)))) value true := by
  intro fuel c d hmoves hfollows hfuel
  obtain ⟨mid, hmid, hmoves⟩ := hmoves.split
  have hrest : mid.rest = gap ++ (word.toList ++ (blanks ++ (type ++ d.rest))) := by
    simp [hmoves.rest]
  obtain ⟨happart, hclings⟩ := apart_of_word hgap happart hword
    (blanks ++ (type ++ d.rest))
  rw [← hrest] at happart hclings
  rw [List.length_append] at hfuel
  rw [(ih fuel c mid hmid (.inl happart) (by omega)).resolve_right fun h => hclings h.1,
    conclude_of_skipAssertions
      (skipAssertions_of_type hgap hword hblanks hne htype hmoves hfollows), Bool.or_true]

theorem readAs_none {blanks : List Char} (hblanks : AreBlanks blanks) :
    ReadAs .items (blanks ++ [']']) (.array []) false := by
  rintro fuel c d values ⟨⟩ hmoves hfuel
  rw [List.length_append, List.length_singleton] at hfuel
  obtain ⟨fuel, rfl⟩ := Nat.exists_eq_add_one_of_ne_zero (n := fuel) (by omega)
  obtain ⟨mid, hmid, hclose⟩ := hmoves.split
  have hrest : mid.rest = ']' :: d.rest := hclose.rest
  have hskip : c.skipBlanks = mid :=
    Cursor.skipBlanks_of_moves hmid hblanks (hclose.halts_isBlank (by decide))
  rw [items, hskip]
  simp only [hrest]
  rw [(Cursor.moves_after hclose.rest).final_eq hclose]

/-- The first item is read, and the rest of them behind it. -/
theorem readAs_item {stop : Char} (hstop : IsStop stop)
    (hitem : Spells (.expression true) text value asserted)
    (ih : ReadAs (.expression true) text value asserted) {mid : Cursor} (hmid : c.Moves text mid)
    (hstopped : mid.Moves [stop] d) (hfuel : 3 * text.length ≤ fuel) :
    items (fuel + 1) c = concludeItem fuel ⟨value, asserted, mid⟩ := by
  obtain ⟨blanks, opened, rfl, hblanks, -, hopens⟩ := hitem.exists_opens
  obtain ⟨first, hfirst, hopened⟩ := hmid.split
  have hfirstopens : Opens first.rest := hopened.rest ▸ hopens.append mid.rest
  have hskip : c.skipBlanks = first := Cursor.skipBlanks_of_moves hfirst hblanks hfirstopens.halts
  rw [items_of_opens (hskip ▸ hfirstopens),
    ih fuel c mid hmid ⟨stop, d.rest, hstopped.rest, hstop⟩ hfuel]
  rfl

theorem readAs_last (hitem : Spells (.expression true) text value asserted)
    (ih : ReadAs (.expression true) text value asserted) :
    ReadAs .items (text ++ [']']) (.array [value]) asserted := by
  rintro fuel c d values ⟨⟩ hmoves hfuel
  rw [List.length_append, List.length_singleton] at hfuel
  obtain ⟨fuel, rfl⟩ := Nat.exists_eq_add_one_of_ne_zero (n := fuel) (by omega)
  obtain ⟨mid, hmid, hclose⟩ := hmoves.split
  rw [readAs_item (.inr (.inr rfl)) hitem ih hmid hclose (by omega)]
  exact concludeItem_of_last hclose

theorem readAs_next {more : List Char} {values : List Json} {later : Bool}
    (hitem : Spells (.expression true) text value asserted)
    (ih : ReadAs (.expression true) text value asserted)
    (ihmore : ReadAs .items more (.array values) later) :
    ReadAs .items (text ++ ',' :: more) (.array (value :: values)) (asserted || later) := by
  rintro fuel c d _ ⟨⟩ hmoves hfuel
  rw [List.length_append, List.length_cons] at hfuel
  obtain ⟨fuel, rfl⟩ := Nat.exists_eq_add_one_of_ne_zero (n := fuel) (by omega)
  obtain ⟨mid, hmid, hmoves⟩ := hmoves.split
  obtain ⟨behind, hcomma, hmoves⟩ := hmoves.uncons
  rw [readAs_item (.inl rfl) hitem ih hmid hcomma (by omega), concludeItem_of_next hcomma,
    ihmore fuel behind d values rfl hmoves (by omega)]
  rfl

/-- **A part of the grammar is read for what it is worth.** -/
theorem Spells.readAs (h : Spells part text value asserted) : ReadAs part text value asserted := by
  induction h with
  | number hnumber hhead => exact readAs_number hnumber hhead
  | minus hblanks hnumber => exact readAs_signed (.inl ⟨rfl, rfl⟩) hblanks hnumber
  | plus hblanks hnumber => exact readAs_signed (.inr ⟨rfl, rfl⟩) hblanks hnumber
  | quoted hquote hraw => exact readAs_quoted hquote hraw
  | template hraw => exact readAs_template hraw
  | constant hname => exact readAs_constant hname
  | array hitems ih => exact readAs_array hitems ih
  | group _ ih => exact readAs_group ih
  | bare hblanks hoperand ih => exact readAs_bare hblanks hoperand ih
  | led hblanks htype hinner ih => exact readAs_led hblanks htype hinner ih
  | plain _ hblanks ih => exact readAs_plain hblanks ih
  | trailed _ hgap happart hword hblanks hne htype ih =>
    exact readAs_trailed hgap happart hword hblanks hne htype ih
  | none hblanks => exact readAs_none hblanks
  | last hitem ih => exact readAs_last hitem ih
  | next hitem _ ihitem ihmore => exact readAs_next hitem ihitem ihmore

/-! ## Whole texts -/

/-- A prefix assertion is the first thing in the source text. -/
def isLed (source : String) : Bool :=
  (Cursor.start source).skipBlanks.peek? = some '<'

/-- What becomes of a source text once an expression is read. -/
def conclusion (source : String) (reading : Reading) : Except ReadFault Initializer :=
  if reading.final.skipBlanks.rest = [] then
    .ok ⟨reading.value, isLed source || reading.asserted⟩
  else .error reading.final.skipBlanks.fault

/-- The fuel for a source text. -/
def fuelFor (source : String) : Nat :=
  3 * (Cursor.start source).skipBlanks.rest.length + 3

theorem readInitializer_eq (source : String) :
    readInitializer source =
      expression (fuelFor source) (Cursor.start source).skipBlanks >>= conclusion source :=
  rfl

/-- The fuel is enough for what a source text begins with. -/
theorem exists_skipBlanks {source : String} {blanks opened : List Char}
    (hsource : source.toList = blanks ++ (opened ++ rest)) (hblanks : AreBlanks blanks)
    (hopens : Opens opened) :
    (Cursor.start source).skipBlanks.Moves opened
        ⟨utf8Length (blanks ++ opened), rest⟩ ∧ 3 * opened.length + 3 ≤ fuelFor source := by
  have hall : (Cursor.start source).Moves (blanks ++ opened) ⟨utf8Length (blanks ++ opened), rest⟩ :=
    ⟨by rw [Cursor.start, hsource, List.append_assoc], (Nat.zero_add _).symm⟩
  obtain ⟨first, hfirst, hopened⟩ := hall.split
  have hskip : (Cursor.start source).skipBlanks = first :=
    Cursor.skipBlanks_of_moves hfirst hblanks (hopened.rest ▸ (hopens.append rest).halts)
  rw [fuelFor, hskip]
  have hlength := hopened.length_le
  exact ⟨hopened, by omega⟩

/-- **What is accepted is a literal, and every literal is accepted.**  The initializer is asserted if
a prefix assertion comes first, or if an assertion stands behind the literal or behind one in it. -/
theorem readInitializer_eq_ok_iff {source : String} {flag : Bool} :
    readInitializer source = .ok ⟨value, flag⟩ ↔ ∃ asserted,
      Spells (.expression false) source.toList value asserted ∧
        flag = (isLed source || asserted) := by
  rw [readInitializer_eq]
  constructor
  · intro h
    obtain ⟨reading, hread, h⟩ := bind_eq_ok_iff.1 h
    rw [expression_skipBlanks] at hread
    obtain ⟨hhalts, text, hmoves, hspells⟩ := (spelledWithin _).spells hread
    rw [conclusion, Cursor.skipBlanks_eq_self hhalts] at h
    split at h
    · next hend =>
      cases h
      have hall : source.toList = text := by simpa [Cursor.start, hend] using hmoves.rest
      rw [hend, ← hall] at hspells
      exact ⟨reading.asserted, hspells, rfl⟩
    · cases h
  · rintro ⟨asserted, hspells, rfl⟩
    obtain ⟨blanks, opened, hsource, hblanks, hopened, hopens⟩ := hspells.exists_opens
    rw [← List.append_nil opened] at hsource
    obtain ⟨hmoves, hfuel⟩ := exists_skipBlanks hsource hblanks hopens
    rw [hopened.readAs _ _ _ hmoves rfl (by omega)]
    rfl

theorem readLiteral_eq_ok_iff {source : String} :
    readLiteral source = .ok value ↔
      ∃ asserted, Spells (.expression false) source.toList value asserted := by
  constructor
  · intro h
    rw [readLiteral] at h
    cases hread : readInitializer source with
    | error fault =>
      rw [hread] at h
      cases h
    | ok initializer =>
      rw [hread] at h
      cases h
      obtain ⟨asserted, hspells, -⟩ := readInitializer_eq_ok_iff.1 hread
      exact ⟨asserted, hspells⟩
  · rintro ⟨asserted, hspells⟩
    rw [readLiteral, readInitializer_eq_ok_iff.2 ⟨asserted, hspells, rfl⟩]
    rfl

end TypeSchema.Literal
