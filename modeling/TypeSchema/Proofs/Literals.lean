import Mathlib.Algebra.Group.Nat.Defs
import Mathlib.Data.List.Sort
import TypeSchema.Schema.Union

/-!
# The order of literals

Lists of literals are emitted in one fixed order, each value once.  `Literal.order` compares literals
by what it compares their kinds by, and then by what it compares each kind by, so it is a preorder
that any two literals stand in (`Literal.order_eq_compareLex`).  It tells literals apart that are
written differently (`Literal.toJson_eq_of_order`): of two finite doubles that stand at the same
place, both are the same or both are zeros, and a zero is written without its sign.

So what is emitted depends on the values alone: `Literal.map_toJson_eq` says that two ascending lists
of the same values are written alike, and `Literal.map_toJson_sort_of_perm` that this holds of sorted
lists in which values repeat.
-/

set_option autoImplicit false

namespace TypeSchema

/-! ## Doubles at the same place -/

namespace Double

variable {x y : Float} {p q : Parts}

theorem eq_of_toBits (h : x.toBits = y.toBits) : x = y := by
  rcases x with ⟨⟨bits⟩⟩
  rcases y with ⟨⟨bits'⟩⟩
  obtain rfl : bits = bits' := h
  rfl

/-- What the parts of a double are made of: the significand of a number that is not among the smallest
carries its leading bit. -/
theorem bounds_of_parts? (h : parts? x = some p) :
    p.significand < 2 ^ 53 ∧ -1074 ≤ p.exponent ∧
      (p.exponent = -1074 ∨ 2 ^ 52 ≤ p.significand) := by
  simp only [parts?, Nat.pow_eq] at h
  split at h
  · cases h
  · split at h
    · cases h
      dsimp only
      omega
    · cases h
      dsimp only
      omega

/-- The parts determine the double. -/
theorem eq_of_parts? (hx : parts? x = some p) (hy : parts? y = some p) : x = y := by
  have hword : ∀ z : Float, z.toBits.toNat < 2 ^ 64 := fun z => z.toBits.toNat_lt
  have hbits := hword x
  have hbits' := hword y
  refine eq_of_toBits (UInt64.toNat_inj.1 ?_)
  simp only [parts?, Nat.pow_eq] at hx hy
  generalize x.toBits.toNat = n at hx hbits ⊢
  generalize y.toBits.toNat = m at hy hbits' ⊢
  split at hx
  · cases hx
  · split at hy
    · cases hy
    · split at hx <;> split at hy <;> cases hx <;>
        simp only [Option.some.injEq, Parts.mk.injEq, decide_eq_decide] at hy <;> omega

/-- The greater exponent would make the other significand too great. -/
theorem le_of_mul_two_pow {a b i j : Nat} (h : a * 2 ^ i = b * 2 ^ j) (ha : a < 2 ^ 53)
    (hb : 2 ^ 52 ≤ b ∨ j = 0) : j ≤ i := by
  by_contra hij
  obtain ⟨k, rfl⟩ := Nat.exists_eq_add_of_lt (Nat.lt_of_not_le hij)
  have hcancel : a = b * 2 ^ (k + 1) := by
    refine Nat.eq_of_mul_eq_mul_right (Nat.two_pow_pos i) (h.trans ?_)
    rw [Nat.mul_assoc, ← Nat.pow_add, Nat.add_comm (k + 1) i, Nat.add_assoc]
  have htwice : b * 2 ≤ b * 2 ^ (k + 1) := by
    refine Nat.mul_le_mul_left b ?_
    have hpos := Nat.two_pow_pos k
    rw [Nat.pow_succ]
    omega
  omega

/-- Two finite doubles of one magnitude have one significand and one exponent, unless they are zeros. -/
theorem eq_of_units (hp : parts? x = some p) (hq : parts? y = some q) (h : p.units = q.units)
    (hpos : p.units ≠ 0) : p.significand = q.significand ∧ p.exponent = q.exponent := by
  obtain ⟨hp, hlow, hlead⟩ := bounds_of_parts? hp
  obtain ⟨hq, hlow', hlead'⟩ := bounds_of_parts? hq
  obtain ⟨n, hn⟩ : ∃ n : Nat, p.exponent = n - 1074 := ⟨(p.exponent + 1074).toNat, by omega⟩
  obtain ⟨m, hm⟩ : ∃ m : Nat, q.exponent = m - 1074 := ⟨(q.exponent + 1074).toNat, by omega⟩
  have hunits : p.units = p.significand * 2 ^ n := by simp [Parts.units, hn]
  have hunits' : q.units = q.significand * 2 ^ m := by simp [Parts.units, hm]
  rw [hunits, hunits'] at h
  rw [hunits] at hpos
  have hnm := le_of_mul_two_pow h.symm hq (by omega)
  have hmn := le_of_mul_two_pow h hp (by omega)
  obtain rfl : n = m := by omega
  exact ⟨Nat.eq_of_mul_eq_mul_right (Nat.two_pow_pos n) h, by omega⟩

theorem rank_of_parts? (h : parts? x = some p) :
    rank x = if p.negative then -(p.units : Int) else (p.units : Int) := by
  rw [rank, h]

/-- A zero is the integer zero, whatever its sign. -/
theorem whole?_of_units (h : parts? x = some p) (hzero : p.units = 0) : whole? x = some 0 := by
  simp only [whole?, h, hzero, Nat.zero_mod, Nat.zero_div, if_true]
  cases p.negative <;> rfl

/-- Finite doubles at the same place are the same, or both are zeros. -/
theorem eq_of_rank (hx : isFinite x = true) (hy : isFinite y = true) (h : rank x = rank y) :
    x = y ∨ whole? x = some 0 ∧ whole? y = some 0 := by
  obtain ⟨p, hp⟩ := Option.isSome_iff_exists.1 hx
  obtain ⟨q, hq⟩ := Option.isSome_iff_exists.1 hy
  rw [rank_of_parts? hp, rank_of_parts? hq] at h
  by_cases hzero : p.units = 0
  · have hzero' : q.units = 0 := by split at h <;> split at h <;> omega
    exact .inr ⟨whole?_of_units hp hzero, whole?_of_units hq hzero'⟩
  · left
    have hunits : p.units = q.units := by split at h <;> split at h <;> omega
    have hsign : p.negative = q.negative := by
      rw [Bool.eq_iff_iff]
      split at h <;> split at h <;> rename_i hleft hright
      · exact ⟨fun _ => hright, fun _ => hleft⟩
      · exact absurd h (by omega)
      · exact absurd h (by omega)
      · exact ⟨fun hnegative => absurd hnegative hleft, fun hnegative => absurd hnegative hright⟩
    obtain ⟨hsignificand, hexponent⟩ := eq_of_units hp hq hunits hzero
    obtain rfl : p = q := by
      cases p
      cases q
      simp_all
    exact eq_of_parts? hp hq

end Double

/-- A zero is written without its sign. -/
theorem Number.ofDouble_of_zero {x : Float} (h : Double.whole? x = some 0) :
    Number.ofDouble x = .integer 0 := by
  rw [ofDouble, h]
  rfl

theorem LiteralKind.eq_of_rank {a b : LiteralKind} (h : a.rank = b.rank) : a = b := by
  cases a <;> cases b <;> first | rfl | cases h

namespace Literal

variable {a b c : Literal} {listed listed' values : List Literal}

/-! ## The order -/

/-- The number by which literals of a kind are compared. -/
def magnitude : Literal → Int
  | .bool value => value.toNat
  | .number value => Double.rank value
  | _ => 0

/-- The characters by which they are compared. -/
def codePoints : Literal → List Nat
  | .string value => value.toList.map Char.toNat
  | _ => []

theorem order_eq_compareLex : order = compareLex (compareOn fun v => v.kind.rank)
    (compareLex (compareOn magnitude) (compareOn codePoints)) := by
  funext a b
  cases a <;> cases b
  case bool.bool a b => cases a <;> cases b <;> rfl
  case number.number a b => simp [order, compareLex, compareOn, kind, magnitude, codePoints]
  case string.string a b => simp [order, compareLex, compareOn, kind, magnitude, codePoints]
  all_goals rfl

instance : Std.TransCmp order := by
  rw [order_eq_compareLex]
  infer_instance

/-- Whether the literal is neither infinite nor NaN. -/
def isFinite : Literal → Bool
  | .number value => Double.isFinite value
  | _ => true

theorem order_eq_eq : order a b = .eq ↔
    a.kind.rank = b.kind.rank ∧ a.magnitude = b.magnitude ∧ a.codePoints = b.codePoints := by
  simp [order_eq_compareLex, compareLex, compareOn, Ordering.then_eq_eq]

/-- Literals at one place are of one kind. -/
theorem kind_eq_of_order (h : order a b = .eq) : a.kind = b.kind :=
  LiteralKind.eq_of_rank (order_eq_eq.1 h).1

/-- The number zero, with either sign. -/
def IsZero : Literal → Prop
  | .number value => Double.whole? value = some 0
  | _ => False

/-- Finite literals at one place are the same, or both are zeros. -/
theorem eq_or_isZero_of_order (ha : a.isFinite = true) (hb : b.isFinite = true) (h : order a b = .eq) :
    a = b ∨ a.IsZero ∧ b.IsZero := by
  obtain ⟨_, hmagnitude, hcodePoints⟩ := order_eq_eq.1 h
  have hkind := kind_eq_of_order h
  cases a with
  | null => cases b with
    | null => exact .inl rfl
    | _ => cases hkind
  | bool x => cases b with
    | bool y =>
      have hxy : x = y := by cases x <;> cases y <;> simp_all [magnitude]
      exact .inl (congrArg bool hxy)
    | _ => cases hkind
  | number x => cases b with
    | number y => exact (Double.eq_of_rank ha hb hmagnitude).imp_left (congrArg number)
    | _ => cases hkind
  | string x => cases b with
    | string y =>
      have hxy : x.toList = y.toList :=
        List.map_injective_iff.2 (fun _ _ => Char.toNat_inj.1) hcodePoints
      exact .inl (congrArg string (String.toList_inj.1 hxy))
    | _ => cases hkind

theorem toJson_of_isZero (h : a.IsZero) : a.toJson = .number (.integer 0) := by
  cases a with
  | number x => rw [toJson, Number.ofDouble_of_zero h]
  | _ => cases h

/-- Literals at one place are written alike. -/
theorem toJson_eq_of_order (ha : a.isFinite = true) (hb : b.isFinite = true) (h : order a b = .eq) :
    a.toJson = b.toJson := by
  rcases eq_or_isZero_of_order ha hb h with rfl | ⟨hzero, hzero'⟩
  · rfl
  · rw [toJson_of_isZero hzero, toJson_of_isZero hzero']

/-! ## Ascending lists -/

/-- The literals stand in order, and no two at one place. -/
def Ascends (listed : List Literal) : Prop :=
  listed.Pairwise fun a b => order a b = .lt

theorem isLE_total (a b : Literal) : (order a b).isLE = true ∨ (order b a).isLE = true := by
  rw [show order b a = (order a b).swap from Std.OrientedCmp.eq_swap]
  cases order a b <;> simp

theorem pairwise_sort (values : List Literal) :
    (sort values).Pairwise fun a b => (order a b).isLE = true :=
  List.pairwise_mergeSort (fun _ _ _ => Std.TransCmp.isLE_trans)
    (fun a b => by simpa using isLE_total a b) values

/-- Sorting puts literals of different values into strict order. -/
theorem ascends_sort (h : values.Pairwise fun a b => order a b ≠ .eq) : Ascends (sort values) := by
  have hdistinct : (sort values).Pairwise fun a b => order a b ≠ .eq :=
    (List.mergeSort_perm values _).symm.pairwise h fun hne heq => hne (Std.OrientedCmp.eq_symm heq)
  refine ((pairwise_sort values).and hdistinct).imp ?_
  rintro a b ⟨hle, hne⟩
  cases horder : order a b with
  | lt => rfl
  | eq => exact absurd horder hne
  | gt => simp [horder] at hle

/-- Each value of the one list is in the other. -/
def Covers (listed listed' : List Literal) : Prop :=
  ∀ a ∈ listed', ∃ b ∈ listed, order a b = .eq

theorem Covers.trans {values values' values'' : List Literal} (h : Covers values values')
    (h' : Covers values' values'') : Covers values values'' := by
  intro a ha
  obtain ⟨b, hb, hab⟩ := h' a ha
  obtain ⟨c, hc, hbc⟩ := h b hb
  exact ⟨c, hc, Std.TransCmp.eq_trans hab hbc⟩

theorem Covers.of_subset {values values' : List Literal} (h : ∀ a ∈ values', a ∈ values) :
    Covers values values' :=
  fun a ha => ⟨a, h a ha, Std.ReflCmp.compare_self⟩

/-- The first of two ascending lists of the same values stand at one place. -/
theorem order_head (h : Ascends (a :: listed)) (h' : Ascends (b :: listed'))
    (hcovers : Covers (b :: listed') (a :: listed)) (hcovers' : Covers (a :: listed) (b :: listed')) :
    order a b = .eq := by
  -- Each is not above the other, since what is at its place in the other list is not.
  have hle : ∀ {a b : Literal} {listed listed' : List Literal}, Ascends (a :: listed) →
      Covers (a :: listed) (b :: listed') → (order a b).isLE = true := by
    intro a b listed listed' h hcovers
    obtain ⟨c, hc, hbc⟩ := hcovers b List.mem_cons_self
    have hcb : order c b = .eq := Std.OrientedCmp.eq_symm hbc
    rcases List.mem_cons.1 hc with rfl | hc
    · rw [hcb]
      rfl
    · have hac : order a c = .lt := List.rel_of_pairwise_cons h hc
      rw [Std.TransCmp.lt_of_lt_of_eq hac hcb]
      rfl
  have hab := hle h hcovers'
  have hba := hle h' hcovers
  rw [show order b a = (order a b).swap from Std.OrientedCmp.eq_swap] at hba
  cases horder : order a b <;> simp_all

/-- Two ascending lists of the same values stand at the same places. -/
theorem forall₂_of_ascends (h : Ascends listed) (h' : Ascends listed') (hcovers : Covers listed' listed)
    (hcovers' : Covers listed listed') : List.Forall₂ (fun a b => order a b = .eq) listed listed' := by
  induction listed generalizing listed' with
  | nil => cases listed' with
    | nil => exact .nil
    | cons b rest => exact absurd (hcovers' b List.mem_cons_self) (by simp)
  | cons a rest ih => cases listed' with
    | nil => exact absurd (hcovers a List.mem_cons_self) (by simp)
    | cons b rest' =>
      have hab := order_head h h' hcovers hcovers'
      -- What is after the first of a list is not at its place.
      have htail : ∀ {a b : Literal} {rest rest' : List Literal}, Ascends (a :: rest) →
          order a b = .eq → Covers (b :: rest') (a :: rest) → Covers rest' rest := by
        intro a b rest rest' h hab hcovers c hc
        obtain ⟨d, hd, hcd⟩ := hcovers c (List.mem_cons_of_mem _ hc)
        rcases List.mem_cons.1 hd with rfl | hd
        · have hac : order a c = .lt := List.rel_of_pairwise_cons h hc
          rw [Std.TransCmp.lt_of_lt_of_eq hac hcd] at hab
          cases hab
        · exact ⟨d, hd, hcd⟩
      exact .cons hab (ih h.of_cons h'.of_cons (htail h hab hcovers)
        (htail h' (Std.OrientedCmp.eq_symm hab) hcovers'))

/-- **Ascending lists of the same values are written alike.** -/
theorem map_toJson_eq (hfinite : ∀ a ∈ listed, a.isFinite = true) (hfinite' : ∀ a ∈ listed', a.isFinite = true)
    (h : List.Forall₂ (fun a b => order a b = .eq) listed listed') :
    listed.map toJson = listed'.map toJson := by
  induction h with
  | nil => rfl
  | cons hab _ ih =>
    obtain ⟨ha, hrest⟩ := List.forall_mem_cons.1 hfinite
    obtain ⟨hb, hrest'⟩ := List.forall_mem_cons.1 hfinite'
    rw [List.map_cons, List.map_cons, toJson_eq_of_order ha hb hab, ih hrest hrest']

/-! ## Lists with repetitions -/

/-- What the place of a literal in the order is made of. -/
def place (a : Literal) : Nat × Int × List Nat :=
  (a.kind.rank, a.magnitude, a.codePoints)

/-- The order of places. -/
def placeOrder : Nat × Int × List Nat → Nat × Int × List Nat → Ordering :=
  compareLex (compareOn fun p => p.1) (compareLex (compareOn fun p => p.2.1) (compareOn fun p => p.2.2))

instance : Std.TransCmp placeOrder := by
  unfold placeOrder
  infer_instance

instance : Std.LawfulEqCmp placeOrder where
  eq_of_compare {p q} h := by
    simp only [placeOrder, compareLex, compareOn, Ordering.then_eq_eq, Std.compare_eq_iff_eq] at h
    exact Prod.ext h.1 (Prod.ext h.2.1 h.2.2)

theorem order_eq_placeOrder : order a b = placeOrder a.place b.place :=
  congrFun (congrFun order_eq_compareLex a) b

/-- Sorting leaves no trace of the order the values came in, as far as they are written. -/
theorem map_toJson_sort_of_perm {values' : List Literal} (h : values.Perm values')
    (hfinite : ∀ a ∈ values, a.isFinite = true) :
    (sort values).map toJson = (sort values').map toJson := by
  have hascending : ∀ values : List Literal,
      ((sort values).map place).Pairwise fun p q => (placeOrder p q).isLE = true := fun values =>
    List.pairwise_map.2 ((pairwise_sort values).imp fun hle => by rwa [← order_eq_placeOrder])
  have hperm : (sort values).Perm (sort values') :=
    (List.mergeSort_perm values _).trans (h.trans (List.mergeSort_perm values' _).symm)
  have hantisymm : ∀ p q, (placeOrder p q).isLE = true → (placeOrder q p).isLE = true → p = q :=
    fun _ _ hle hge => Std.LawfulEqCmp.eq_of_compare (Std.OrientedCmp.isLE_antisymm hle hge)
  have hplaces : (sort values).map place = (sort values').map place :=
    List.Perm.eq_of_pairwise (fun p q _ _ => hantisymm p q) (hascending values) (hascending values')
      (hperm.map place)
  have hsorted : ∀ a ∈ sort values, a.isFinite = true :=
    fun a ha => hfinite a ((List.mergeSort_perm values _).mem_iff.1 ha)
  refine map_toJson_eq hsorted (fun a ha => hsorted a (hperm.mem_iff.2 ha)) ?_
  have hforall : List.Forall₂ (fun a b => place a = place b) (sort values) (sort values') := by
    rwa [← List.forall₂_eq_eq_eq, List.forall₂_map_left_iff, List.forall₂_map_right_iff] at hplaces
  exact hforall.imp fun a b (hplace : place a = place b) => by
    rw [order_eq_placeOrder, hplace]
    exact Std.ReflCmp.compare_self

end Literal

end TypeSchema
