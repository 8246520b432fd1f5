import TypeSchema.Proofs.Initializers.Assertions

/-!
# Asserted initializers

An initializer is asserted if its outermost expression is an assertion, once the parentheses around it
are taken away (`Outermost`); there is only one way to take a text so (`Outermost.unique`).  The reader
does not look at that: it notes every assertion behind a literal, wherever it stands, and of those in
front it sees the one that a source text begins with.

So it is right about a literal with an assertion behind it, also in parentheses, but not about all others
(**`readInitializer_asserted_iff`**).  An array is taken to be asserted for the sake of an item with an
assertion behind it, and an assertion in front of a literal is not seen behind a parenthesis.
-/

set_option autoImplicit false

namespace TypeSchema.Literal

open Text

/-! ## Outermost expressions -/

/-- What an expression is on the outside.  The flags say whether there is an assertion behind a literal
in it. -/
inductive Form
  | leading (inside : Bool)
  | trailing
  | array (inside : Bool)
  | scalar
deriving DecidableEq, Repr

/-- The expression is an assertion. -/
def Form.isAssertion : Form → Bool
  | .leading _ | .trailing => true
  | .array _ | .scalar => false

/-- There is an assertion behind the literal, or behind one in it. -/
def Form.trails : Form → Bool
  | .leading inside | .array inside => inside
  | .trailing => true
  | .scalar => false

/-- The reader takes it for asserted within so many parentheses. -/
def Form.isReported (form : Form) (depth : Nat) : Bool :=
  (form.isAssertion && depth == 0) || form.trails

/-- The text is an expression worth the value, and looks like this within so many parentheses. -/
inductive Outermost : Bool → List Char → Json → Nat → Form → Prop
  | leading {closed : Bool} {blanks type text behind : List Char} {value : Json} {asserted : Bool}
      (hblanks : AreBlanks blanks) (htype : Balanced type)
      (hinner : Spells .prefixed text value asserted) (hbehind : AreBlanks behind) :
      Outermost closed (blanks ++ ('<' :: (type ++ '>' :: text)) ++ behind) value 0 (.leading asserted)
  | trailing {closed : Bool} {text behind type : List Char} {value : Json} {asserted : Bool}
      (hinner : Spells .prefixed text value asserted) (hassertion : IsAssertion text behind)
      (htype : IsType closed type) : Outermost closed (text ++ (behind ++ type)) value 0 .trailing
  | array {closed : Bool} {blanks text behind : List Char} {value : Json} {asserted : Bool}
      (hblanks : AreBlanks blanks) (hitems : Spells .items text value asserted)
      (hbehind : AreBlanks behind) :
      Outermost closed (blanks ++ '[' :: text ++ behind) value 0 (.array asserted)
  | scalar {closed : Bool} {blanks text behind : List Char} {value : Json}
      (hblanks : AreBlanks blanks) (hoperand : Spells .operand text value false)
      (hhead : text.head? ≠ some '[' ∧ text.head? ≠ some '(') (hbehind : AreBlanks behind) :
      Outermost closed (blanks ++ text ++ behind) value 0 .scalar
  | enclosed {closed : Bool} {blanks text behind : List Char} {value : Json} {depth : Nat}
      {form : Form} (hblanks : AreBlanks blanks) (hinner : Outermost true text value depth form)
      (hbehind : AreBlanks behind) :
      Outermost closed (blanks ++ '(' :: (text ++ [')']) ++ behind) value (depth + 1) form

variable {source : String} {text blanks behind opened rest more : List Char} {value : Json} {part : Part}
  {asserted closed flag : Bool} {depth : Nat} {form : Form}

/-- Such a text is a literal. -/
theorem Outermost.spells (h : Outermost closed text value depth form) :
    Spells (.expression closed) text value form.trails := by
  induction h with
  | leading hblanks htype hinner hbehind => exact .plain (.led hblanks htype hinner) hbehind
  | trailing hinner hassertion htype => exact hinner.assert hassertion htype
  | array hblanks hitems hbehind => exact .plain (.bare hblanks (.array hitems)) hbehind
  | scalar hblanks hoperand _ hbehind => exact .plain (.bare hblanks hoperand) hbehind
  | enclosed hblanks _ hbehind ih => exact .plain (.bare hblanks (.group ih)) hbehind

/-- What a part of a literal makes of the expression around it. -/
def Appears : Part → List Char → Json → Prop
  | .operand, text, value => ∀ closed blanks behind, AreBlanks blanks → AreBlanks behind →
      ∃ depth form, Outermost closed (blanks ++ text ++ behind) value depth form
  | .prefixed, text, value => ∀ closed behind, AreBlanks behind →
      ∃ depth form, Outermost closed (text ++ behind) value depth form
  | .expression closed, text, value => ∃ depth form, Outermost closed text value depth form
  | .items, _, _ => True

theorem appears_scalar (h : Spells .operand text value false)
    (hhead : text.head? ≠ some '[' ∧ text.head? ≠ some '(') : Appears .operand text value :=
  fun _ _ _ hblanks hbehind => ⟨0, .scalar, .scalar hblanks h hhead hbehind⟩

/-- Every literal looks like something. -/
theorem Spells.appears (h : Spells part text value asserted) : Appears part text value := by
  induction h with
  | number hnumber hhead =>
    refine appears_scalar (.number hnumber hhead) ?_
    obtain ⟨c, digits, rfl, hc⟩ := hnumber.head
    constructor <;> rintro ⟨⟩ <;> revert hc <;> decide
  | minus hblanks hnumber => exact appears_scalar (.minus hblanks hnumber) (by simp)
  | plus hblanks hnumber => exact appears_scalar (.plus hblanks hnumber) (by simp)
  | quoted hquote hraw =>
    refine appears_scalar (.quoted hquote hraw) ?_
    rcases hquote with rfl | rfl <;> simp
  | template hraw => exact appears_scalar (.template hraw) (by simp)
  | constant hname =>
    have hnames : ∀ entry ∈ constants,
        entry.1.toList.head? ≠ some '[' ∧ entry.1.toList.head? ≠ some '(' := by
      simp only [constants, List.forall_mem_cons]
      decide
    exact appears_scalar (.constant hname) (hnames _ hname)
  | array hitems => exact fun _ _ _ hblanks hbehind => ⟨0, _, .array hblanks hitems hbehind⟩
  | group _ ih =>
    intro closed blanks behind hblanks hbehind
    obtain ⟨depth, form, hinner⟩ := ih
    exact ⟨depth + 1, form, .enclosed hblanks hinner hbehind⟩
  | bare hblanks _ ih => exact fun closed behind hbehind => ih closed _ behind hblanks hbehind
  | led hblanks htype hinner => exact fun _ _ hbehind => ⟨0, _, .leading hblanks htype hinner hbehind⟩
  | plain _ hblanks ih => exact ih _ _ hblanks
  | @trailed _ text gap blanks type word _ _ hinner hgap happart hword hblanks hne htype =>
    have hassertion : IsAssertion text (gap ++ (word.toList ++ blanks)) :=
      ⟨gap, word, blanks, hgap, happart, hword, hblanks, hne, rfl⟩
    exact ⟨0, .trailing, by simpa using Outermost.trailing hinner hassertion htype⟩
  | _ => trivial

/-! ## No expression looks like two things -/

theorem append_inj_of_blanks {others : List Char} (hblanks : AreBlanks blanks)
    (hothers : AreBlanks others) (hrest : Halts isBlank rest) (hmore : Halts isBlank more)
    (heq : blanks ++ rest = others ++ more) : blanks = others ∧ rest = more := by
  have hfront : blanks = others := by
    rw [← takeWhile_append hblanks hrest, heq, takeWhile_append hothers hmore]
  subst hfront
  exact ⟨rfl, List.append_cancel_left heq⟩

/-- An operand ends in one place, if what follows stands apart. -/
theorem Spells.operand_inj {other : List Char} {worth : Json} {flag : Bool}
    (h : Spells .operand text value asserted) (hother : Spells .operand other worth flag)
    (hrest : Apart text rest ∧ ¬Clings text rest) (hmore : Apart other more ∧ ¬Clings other more)
    (heq : text ++ rest = other ++ more) : text = other ∧ rest = more := by
  have hread : ∀ {text rest value asserted}, Spells .operand text value asserted →
      Apart text rest ∧ ¬Clings text rest → ∀ fuel, 3 * text.length ≤ fuel →
        operand fuel ⟨0, text ++ rest⟩ = .ok ⟨value, asserted, ⟨0 + utf8Length text, rest⟩⟩ := by
    intro text rest value asserted h hrest fuel hfuel
    refine (h.readAs fuel _ ⟨_, rest⟩ (Cursor.moves_mk ..) (.inl hrest.1) ?_).resolve_right ?_
    · exact Nat.le_succ_of_le hfuel
    · exact fun hfails => hrest.2 hfails.1
  have hfirst := hread h hrest (3 * text.length + 3 * other.length) (Nat.le_add_right ..)
  have hsecond := hread hother hmore (3 * text.length + 3 * other.length) (Nat.le_add_left ..)
  rw [heq, hsecond] at hfirst
  have hrest : rest = more := by
    have := Except.ok.inj hfirst
    exact congrArg (fun reading => reading.final.rest) this.symm
  rw [hrest] at heq
  exact ⟨List.append_cancel_right heq, hrest⟩

/-- So do its prefixes before it. -/
theorem Spells.prefixed_inj {other : List Char} {worth : Json} {flag : Bool}
    (h : Spells .prefixed text value asserted) (hother : Spells .prefixed other worth flag)
    (hrest : Apart text rest ∧ ¬Clings text rest) (hmore : Apart other more ∧ ¬Clings other more)
    (heq : text ++ rest = other ++ more) : text = other ∧ rest = more := by
  have hstrip : ∀ {front text rest : List Char}, text ≠ [] →
      (Apart (front ++ text) rest ∧ ¬Clings (front ++ text) rest ↔
        Apart text rest ∧ ¬Clings text rest) := by
    intro front text rest hne
    rw [apart_append hne, clings_append hne]
  have hled : ∀ blanks type text : List Char, blanks ++ ('<' :: (type ++ '>' :: text)) =
      (blanks ++ '<' :: (type ++ ['>'])) ++ text := by simp
  have hangle : ∀ more : List Char, Halts isBlank ('<' :: more) :=
    fun _ => halts_cons.2 (isBlank_of_printed (by decide))
  generalize hpart : Part.prefixed = part at h
  induction h generalizing other with
  | @bare blanks text _ _ hblanks hoperand =>
    rw [hstrip hoperand.ne_nil] at hrest
    rw [List.append_assoc] at heq
    cases hother with
    | @bare others other _ _ hothers hoperand' =>
      rw [hstrip hoperand'.ne_nil] at hmore
      rw [List.append_assoc] at heq
      obtain ⟨rfl, hopened⟩ := append_inj_of_blanks hblanks hothers
        (hoperand.leads.1.append rest).halts (hoperand'.leads.1.append more).halts heq
      obtain ⟨rfl, rfl⟩ := hoperand.operand_inj hoperand' hrest hmore hopened
      exact ⟨rfl, rfl⟩
    | led hothers htype hinner =>
      rw [List.append_assoc] at heq
      obtain ⟨-, hopened⟩ := append_inj_of_blanks hblanks hothers (hoperand.leads.1.append rest).halts
        (hangle _) heq
      obtain ⟨x, tail, rfl⟩ := List.exists_cons_of_ne_nil hoperand.ne_nil
      obtain ⟨rfl, -⟩ := List.cons.inj hopened
      exact absurd rfl hoperand.leads.2
  | @led blanks type text _ _ hblanks htype hinner ih =>
    rw [hled, hstrip hinner.ne_nil] at hrest
    rw [List.append_assoc] at heq
    cases hother with
    | bare hothers hoperand =>
      rw [List.append_assoc] at heq
      obtain ⟨-, hopened⟩ := append_inj_of_blanks hblanks hothers (hangle _)
        (hoperand.leads.1.append more).halts heq
      obtain ⟨x, tail, rfl⟩ := List.exists_cons_of_ne_nil hoperand.ne_nil
      obtain ⟨rfl, -⟩ := List.cons.inj hopened
      exact absurd rfl hoperand.leads.2
    | @led others kind other _ _ hothers hkind hinner' =>
      rw [hled, hstrip hinner'.ne_nil] at hmore
      rw [List.append_assoc] at heq
      obtain ⟨rfl, hopened⟩ := append_inj_of_blanks hblanks hothers (hangle _) (hangle _) heq
      have htyped : type ++ '>' :: (text ++ rest) = kind ++ '>' :: (other ++ more) := by
        simpa using (List.cons.inj hopened).2
      obtain ⟨rfl, hbehind⟩ := htype.append_inj hkind htyped
      obtain ⟨rfl, rfl⟩ := ih hinner' hrest hmore hbehind rfl
      exact ⟨rfl, rfl⟩
  | _ => cases hpart

/-- A text is worth one value, and has assertions behind the literals in it or not. -/
theorem Spells.unique {other : List Char} {worth : Json} {flag : Bool}
    (h : Spells (.expression false) text value asserted)
    (hother : Spells (.expression false) other worth flag) (heq : text = other) :
    value = worth ∧ asserted = flag := by
  subst heq
  have hread : ∀ {value asserted}, Spells (.expression false) text value asserted →
      expression (3 * text.length) ⟨0, text ++ []⟩ =
        .ok ⟨value, asserted, ⟨0 + utf8Length text, []⟩⟩ :=
    fun h => h.readAs _ _ _ (Cursor.moves_mk ..) rfl (Nat.le_refl _)
  have hsame := Except.ok.inj ((hread h).symm.trans (hread hother))
  exact ⟨congrArg Reading.value hsame, congrArg Reading.asserted hsame⟩

/-- An assertion behind a literal is not blank, however the literal is made. -/
theorem ne_blanks_of_assertion {literal other type : List Char} {worth : Json} {flag : Bool}
    (hliteral : Spells .prefixed literal value asserted) (h : IsAssertion literal behind)
    (hother : Spells .prefixed other worth flag) (hblanks : AreBlanks blanks) :
    literal ++ (behind ++ type) ≠ other ++ blanks := by
  intro heq
  have hapart : Apart other (blanks ++ []) ∧ ¬Clings other (blanks ++ []) :=
    apart_of_blanks other hblanks nofun
  rw [List.append_nil] at hapart
  obtain ⟨-, hrest⟩ := hliteral.prefixed_inj hother (apart_of_assertion h type) hapart heq
  obtain ⟨gap, word, gaps, -, -, hword, -, -, rfl⟩ := h
  have hletters : ∀ word ∈ assertionWords, 's' ∈ word.toList := by decide
  have hblank := hblanks 's' (hrest ▸ by simp [hletters word hword])
  exact absurd rfl (ne_of_isBlank hblank (by decide))

theorem Outermost.eq_trailing {literal type : List Char} {worth : Json} {flag : Bool}
    (h : Outermost closed text value depth form) (hliteral : Spells .prefixed literal worth flag)
    (hassertion : IsAssertion literal behind) (heq : literal ++ (behind ++ type) = text) :
    depth = 0 ∧ form = .trailing := by
  cases h with
  | trailing => exact ⟨rfl, rfl⟩
  | leading hblanks htype hinner hbehind =>
    exact absurd heq (ne_blanks_of_assertion hliteral hassertion (.led hblanks htype hinner) hbehind)
  | array hblanks hitems hbehind =>
    exact absurd heq
      (ne_blanks_of_assertion hliteral hassertion (.bare hblanks (.array hitems)) hbehind)
  | scalar hblanks hoperand _ hbehind =>
    exact absurd heq (ne_blanks_of_assertion hliteral hassertion (.bare hblanks hoperand) hbehind)
  | enclosed hblanks hinner hbehind =>
    exact absurd heq
      (ne_blanks_of_assertion hliteral hassertion (.bare hblanks (.group hinner.spells)) hbehind)

/-- What an expression begins with, whatever stands behind it. -/
theorem mark_inj {x y : Char} {others tail after : List Char} (hblanks : AreBlanks blanks)
    (hothers : AreBlanks others) (hx : isBlank x = false) (hy : isBlank y = false)
    (heq : blanks ++ x :: more ++ behind = others ++ y :: tail ++ after) :
    x = y ∧ more ++ behind = tail ++ after := by
  rw [List.append_assoc, List.append_assoc] at heq
  obtain ⟨-, hopened⟩ :=
    append_inj_of_blanks hblanks hothers (halts_cons.2 hx) (halts_cons.2 hy) heq
  exact List.cons.inj hopened

theorem group_inj {other after : List Char} (hbehind : AreBlanks behind) (hafter : AreBlanks after)
    (heq : text ++ [')'] ++ behind = other ++ [')'] ++ after) : text = other := by
  have hback : behind.reverse ++ ')' :: text.reverse = after.reverse ++ ')' :: other.reverse := by
    simpa using congrArg List.reverse heq
  have hparenthesis : ∀ more : List Char, Halts isBlank (')' :: more) :=
    fun _ => halts_cons.2 (isBlank_of_printed (by decide))
  obtain ⟨-, hopened⟩ := append_inj_of_blanks (fun c hc => hbehind c (List.mem_reverse.1 hc))
    (fun c hc => hafter c (List.mem_reverse.1 hc)) (hparenthesis _) (hparenthesis _) hback
  exact List.reverse_inj.1 (List.cons.inj hopened).2

theorem ne_scalar {mark : Char} {others tail after : List Char}
    (hoperand : Spells .operand text value asserted)
    (hhead : text.head? ≠ some '[' ∧ text.head? ≠ some '(') (hblanks : AreBlanks blanks)
    (hothers : AreBlanks others) (hmark : mark = '<' ∨ mark = '[' ∨ mark = '(') :
    others ++ mark :: tail ++ after ≠ blanks ++ text ++ behind := by
  intro heq
  have hprinted : isBlank mark = false := by
    rcases hmark with rfl | rfl | rfl <;> exact isBlank_of_printed (by decide)
  obtain ⟨hopens, hangle⟩ := hoperand.leads
  obtain ⟨x, more, rfl⟩ := List.exists_cons_of_ne_nil hoperand.ne_nil
  obtain ⟨rfl, -⟩ := mark_inj hothers hblanks hprinted (halts_cons.1 hopens.halts) heq
  rcases hmark with rfl | rfl | rfl
  · exact hangle rfl
  · exact hhead.1 rfl
  · exact hhead.2 rfl

/-- **An expression looks like one thing**, within one number of parentheses. -/
theorem Outermost.unique {worth : Json} {further : Nat} {other : Form} {all : List Char}
    (h : Outermost closed text value depth form) (hother : Outermost closed all worth further other)
    (heq : text = all) : depth = further ∧ form = other := by
  have hangle : isBlank '<' = false := isBlank_of_printed (by decide)
  have hbracket : isBlank '[' = false := isBlank_of_printed (by decide)
  have hparenthesis : isBlank '(' = false := isBlank_of_printed (by decide)
  induction h generalizing worth further other all with
  | trailing hinner hassertion =>
    obtain ⟨rfl, rfl⟩ := hother.eq_trailing hinner hassertion heq
    exact ⟨rfl, rfl⟩
  | leading hblanks htype hinner hbehind =>
    have hself : Outermost false _ _ 0 (.leading _) := .leading hblanks htype hinner hbehind
    cases hother with
    | leading hothers htype' hinner' hbehind' =>
      obtain ⟨-, hbegun⟩ := mark_inj hblanks hothers hangle hangle heq
      obtain ⟨rfl, hsame⟩ := htype.append_inj htype' (by simpa using hbegun)
      have hspells : Spells (.expression false) _ _ _ := .plain hinner hbehind
      obtain ⟨-, rfl⟩ := hspells.unique (.plain hinner' hbehind') hsame
      exact ⟨rfl, rfl⟩
    | trailing hinner' hassertion => cases (hself.eq_trailing hinner' hassertion heq.symm).2
    | array hothers => cases (mark_inj hblanks hothers hangle hbracket heq).1
    | enclosed hothers => cases (mark_inj hblanks hothers hangle hparenthesis heq).1
    | scalar hothers hoperand hhead =>
      exact absurd heq (ne_scalar hoperand hhead hothers hblanks (.inl rfl))
  | array hblanks hitems hbehind =>
    have hself : Outermost false _ _ 0 (.array _) := .array hblanks hitems hbehind
    cases hother with
    | array hothers hitems' hbehind' =>
      obtain ⟨-, hbegun⟩ := mark_inj hblanks hothers hbracket hbracket heq
      have hspells : Spells (.expression false) _ _ _ :=
        .plain (.bare areBlanks_nil (.array hitems)) hbehind
      obtain ⟨-, rfl⟩ := hspells.unique (.plain (.bare areBlanks_nil (.array hitems')) hbehind')
        (congrArg ('[' :: ·) hbegun)
      exact ⟨rfl, rfl⟩
    | trailing hinner' hassertion => cases (hself.eq_trailing hinner' hassertion heq.symm).2
    | leading hothers => cases (mark_inj hblanks hothers hbracket hangle heq).1
    | enclosed hothers => cases (mark_inj hblanks hothers hbracket hparenthesis heq).1
    | scalar hothers hoperand hhead =>
      exact absurd heq (ne_scalar hoperand hhead hothers hblanks (.inr (.inl rfl)))
  | enclosed hblanks hinner hbehind ih =>
    have hself : Outermost false _ _ (_ + 1) _ := .enclosed hblanks hinner hbehind
    cases hother with
    | enclosed hothers hinner' hbehind' =>
      obtain ⟨-, hbegun⟩ := mark_inj hblanks hothers hparenthesis hparenthesis heq
      obtain ⟨rfl, rfl⟩ := ih hinner' (group_inj hbehind hbehind' hbegun)
      exact ⟨rfl, rfl⟩
    | trailing hinner' hassertion => cases (hself.eq_trailing hinner' hassertion heq.symm).1
    | leading hothers => cases (mark_inj hblanks hothers hparenthesis hangle heq).1
    | array hothers => cases (mark_inj hblanks hothers hparenthesis hbracket heq).1
    | scalar hothers hoperand hhead =>
      exact absurd heq (ne_scalar hoperand hhead hothers hblanks (.inr (.inr rfl)))
  | scalar hblanks hoperand hhead hbehind =>
    have hself : Outermost false _ _ 0 .scalar := .scalar hblanks hoperand hhead hbehind
    cases hother with
    | scalar => exact ⟨rfl, rfl⟩
    | trailing hinner' hassertion => cases (hself.eq_trailing hinner' hassertion heq.symm).2
    | leading hothers =>
      exact absurd heq.symm (ne_scalar hoperand hhead hblanks hothers (.inl rfl))
    | array hothers =>
      exact absurd heq.symm (ne_scalar hoperand hhead hblanks hothers (.inr (.inl rfl)))
    | enclosed hothers =>
      exact absurd heq.symm (ne_scalar hoperand hhead hblanks hothers (.inr (.inr rfl)))

/-! ## What the reader reports -/

theorem isLed_of_blanks (hsource : source.toList = blanks ++ opened) (hblanks : AreBlanks blanks)
    (hopened : Halts isBlank opened) : isLed source = decide (opened.head? = some '<') := by
  have hmoves : (Cursor.start source).Moves blanks ⟨0 + utf8Length blanks, opened⟩ := ⟨hsource, rfl⟩
  rw [isLed, Cursor.skipBlanks_of_moves hmoves hblanks hopened]
  rfl

/-- The reader takes note of assertions behind literals, and of one in front of all. -/
theorem Outermost.reported (h : Outermost false source.toList value depth form) :
    (isLed source || form.trails) = form.isReported depth := by
  generalize htext : source.toList = text at h
  have hmark : ∀ {mark : Char} {blanks more behind : List Char}, AreBlanks blanks →
      0x20 < mark.toNat ∧ mark.toNat < 0x7f → text = blanks ++ mark :: more ++ behind →
      isLed source = decide (mark = '<') := by
    intro mark blanks more behind hblanks hmark heq
    have hsource : source.toList = blanks ++ (mark :: more ++ behind) := by
      rw [htext, heq, List.append_assoc]
    rw [isLed_of_blanks hsource hblanks (halts_cons.2 (isBlank_of_printed hmark))]
    simp
  cases h with
  | leading hblanks htype hinner hbehind =>
    rw [hmark hblanks (by decide) rfl]
    rfl
  | trailing => simp [Form.trails, Form.isReported]
  | array hblanks hitems hbehind =>
    rw [hmark hblanks (by decide) rfl]
    rfl
  | @scalar _ blanks text behind value hblanks hoperand hhead hbehind =>
    obtain ⟨hopens, hangle⟩ := hoperand.leads
    obtain ⟨first, more, rfl⟩ := List.exists_cons_of_ne_nil hoperand.ne_nil
    rw [List.append_assoc] at htext
    rw [isLed_of_blanks htext hblanks (hopens.append behind).halts]
    simpa [Form.trails, Form.isReported, Form.isAssertion] using hangle
  | enclosed hblanks hinner hbehind =>
    rw [hmark hblanks (by decide) rfl]
    simp [Form.isReported]

theorem Outermost.read (h : Outermost false source.toList value depth form) :
    readInitializer source = .ok ⟨value, form.isReported depth⟩ :=
  readInitializer_eq_ok_iff.2 ⟨form.trails, h.spells, h.reported.symm⟩

/-- The report is right but for two cases. -/
theorem Form.isReported_eq_iff (form : Form) (depth : Nat) :
    form.isReported depth = form.isAssertion ↔
      form ≠ .array true ∧ ¬(form = .leading false ∧ depth ≠ 0) := by
  rcases form with (_ | _) | _ | (_ | _) | _ <;> simp [isReported, isAssertion, trails]

/-- **What is asserted, and what is taken to be.**  Source texts are read alike with and without regard to
assertions.  What is read is an expression that looks like one thing within its parentheses.  It is taken
for asserted if there is an assertion behind it or behind a literal in it, or if it begins with one and
has no parentheses around it.  This is right except for an array with an assertion behind one of its
items, and for an expression in parentheses that begins with an assertion and has none behind it. -/
theorem readInitializer_asserted_iff (source : String) :
    readLiteral source = (readInitializer source).map Initializer.value ∧
      (∀ value flag, readInitializer source = .ok ⟨value, flag⟩ →
        ∃ depth form, Outermost false source.toList value depth form ∧
          ∀ further other, Outermost false source.toList value further other →
            further = depth ∧ other = form) ∧
      ∀ value depth form, Outermost false source.toList value depth form →
        readInitializer source = .ok ⟨value, form.isReported depth⟩ ∧
          (form.isReported depth = form.isAssertion ↔
            form ≠ .array true ∧ ¬(form = .leading false ∧ depth ≠ 0)) := by
  refine ⟨rfl, fun value flag h => ?_, fun value depth form h => ?_⟩
  · obtain ⟨asserted, hspells, -⟩ := readInitializer_eq_ok_iff.1 h
    obtain ⟨depth, form, hform⟩ := hspells.appears
    exact ⟨depth, form, hform, fun further other hother => hother.unique hform rfl⟩
  · exact ⟨h.read, form.isReported_eq_iff depth⟩

theorem outermost_as : Outermost false "('a' as any)".toList (.string "a") 1 .trailing := by
  have htype : IsType true "any".toList := by decide +kernel
  exact .enclosed areBlanks_nil (.trailing spells_letter isAssertion_as htype) areBlanks_nil

/-- An assertion in parentheses. -/
theorem readInitializer_asserted_iff_group :
    Outermost false "('a' as any)".toList (.string "a") 1 .trailing ∧
      readInitializer "('a' as any)" = .ok ⟨.string "a", true⟩ := by
  obtain ⟨-, -, hform⟩ := readInitializer_asserted_iff "('a' as any)"
  exact ⟨outermost_as, (hform _ 1 .trailing outermost_as).1⟩

/-- An assertion in parentheses is not seen in front of its literal, and one behind an item is taken for
one of the array. -/
theorem exists_assertion_misreported :
    Outermost false "(<any>'a')".toList (.string "a") 1 (.leading false) ∧
      readInitializer "(<any>'a')" = .ok ⟨.string "a", false⟩ ∧
      Outermost false "['a' as string]".toList (.array [.string "a"]) 0 (.array true) ∧
      readInitializer "['a' as string]" = .ok ⟨.array [.string "a"], true⟩ := by
  have hgroup : Outermost false "(<any>'a')".toList (.string "a") 1 (.leading false) := by
    have hany : Balanced ("any".toList) := by
      iterate 3 refine .letter (by decide) (by decide) ?_
      exact .nil
    exact .enclosed areBlanks_nil (.leading areBlanks_nil hany spells_letter areBlanks_nil)
      areBlanks_nil
  have harray : Outermost false "['a' as string]".toList (.array [.string "a"]) 0 (.array true) := by
    have htype : IsType true "string".toList := by decide +kernel
    exact .array areBlanks_nil (.last (spells_letter.assert isAssertion_as htype)) areBlanks_nil
  exact ⟨hgroup, hgroup.read, harray, harray.read⟩

end TypeSchema.Literal
