/-
Floats that are not finite.

What a float is shows when it is unpacked: not a number, an infinity, a zero, or a finite number
with a mantissa and an exponent.  Sums, products and quotients of what is not finite need no
rounding, and so they follow from the cases of the operation alone.  The comparison with an
integer is exact, as is that of two floats, and no comparison with what is not a number holds.
Numbers are compared by their ranks, which are in a linear order (`lt_iff_rank`).
-/
import Mathlib

namespace Floats

open Float.Model

/-- What the float is. -/
def shape (x : Float) : UnpackedFloat := x.toModel.unpack

def nan : Float := Float.ofModel (pack .notANumber)

def infinity (sign : UnpackedFloat.Sign) : Float := Float.ofModel (pack (.infinity sign))

/-- A number is what it was after it is packed and unpacked, if it needs no mantissa. -/
def repack (u : UnpackedFloat) : UnpackedFloat := (pack u).unpack

@[simp] theorem repack_notANumber : repack .notANumber = .notANumber := rfl

@[simp] theorem repack_infinity (sign : UnpackedFloat.Sign) :
    repack (.infinity sign) = .infinity sign := by
  cases sign <;> rfl

@[simp] theorem repack_zero (sign : UnpackedFloat.Sign) : repack (.zero sign) = .zero sign := by
  cases sign <;> rfl

@[simp] theorem shape_nan : shape nan = .notANumber := rfl

@[simp] theorem shape_infinity (sign : UnpackedFloat.Sign) :
    shape (infinity sign) = .infinity sign :=
  repack_infinity sign

theorem shape_div (x y : Float) :
    shape (x / y) = repack (UnpackedFloat.div Format.binary64 (shape x) (shape y)) := rfl

theorem shape_mul (x y : Float) :
    shape (x * y) = repack (UnpackedFloat.mul Format.binary64 (shape x) (shape y)) := rfl

theorem shape_sub (x y : Float) :
    shape (x - y) = repack (UnpackedFloat.sub Format.binary64 (shape x) (shape y)) := rfl

theorem lt_iff (x y : Float) : x < y ↔ (shape x).lt (shape y) = true := by
  show decide ((shape x).lt (shape y) = true) = true ↔ _
  rw [decide_eq_true_eq]

theorem isFinite_eq (x : Float) : x.isFinite = (shape x).isFinite := rfl

/-- The minus sign is printed. -/
def isNegative : UnpackedFloat.Sign → Bool
  | .positive => false
  | .negative => true

/-- The exact comparison with an integer. -/
def compareInt (x : Float) (n : Int) : Option Ordering :=
  match shape x with
  | .notANumber => none
  | .infinity .positive => some .gt
  | .infinity .negative => some .lt
  | .zero _ => some (compare 0 n)
  | .finite sign mantissa exponent _ =>
      let m := sign.apply mantissa
      if 0 ≤ exponent then some (compare (m * 2 ^ exponent.toNat) n)
      else some (compare m (n * 2 ^ (-exponent).toNat))

/-- The whole part of a finite float. -/
def truncate (x : Float) : Option Int :=
  match shape x with
  | .notANumber | .infinity _ => none
  | .zero _ => some 0
  | .finite sign mantissa exponent _ =>
      if 0 ≤ exponent then some (sign.apply (mantissa * 2 ^ exponent.toNat : Nat))
      else some (sign.apply (mantissa / 2 ^ (-exponent).toNat : Nat))

/-! ### Comparisons

What is not a number is neither below anything nor above anything, and nothing lies beyond the
infinities.  None of this looks at a mantissa.
-/

section Comparisons

variable {x x' y : Float} {sign sign' : UnpackedFloat.Sign}

theorem not_lt_of_nan (h : shape x = .notANumber) : ¬ x < y := by
  rw [lt_iff, h]
  exact Bool.false_ne_true

theorem not_nan_lt (h : shape y = .notANumber) : ¬ x < y := by
  rw [lt_iff, h]
  cases shape x <;> exact Bool.false_ne_true

/-- Nothing is above the positive infinity. -/
theorem not_top_lt (h : shape x = .infinity .positive) : ¬ x < y := by
  rw [lt_iff, h]
  cases shape y with
  | infinity sign => cases sign <;> exact Bool.false_ne_true
  | notANumber => exact Bool.false_ne_true
  | zero sign => exact Bool.false_ne_true
  | finite sign m e hm => exact Bool.false_ne_true

/-- Nothing is below the negative infinity. -/
theorem not_lt_bot (h : shape y = .infinity .negative) : ¬ x < y := by
  rw [lt_iff, h]
  cases shape x with
  | infinity sign => cases sign <;> exact Bool.false_ne_true
  | notANumber => exact Bool.false_ne_true
  | zero sign => cases sign <;> exact Bool.false_ne_true
  | finite sign m e hm => cases sign <;> exact Bool.false_ne_true

theorem lt_congr_left (h : shape x = shape x') : x < y ↔ x' < y := by
  rw [lt_iff, lt_iff, h]

theorem lt_congr_right (h : shape x = shape x') : y < x ↔ y < x' := by
  rw [lt_iff, lt_iff, h]

/-- The sign of a zero is not compared. -/
theorem lt_zero_congr (h : shape x = .zero sign) (h' : shape x' = .zero sign') :
    (y < x ↔ y < x') := by
  rw [lt_iff, lt_iff, h, h']
  cases shape y with
  | infinity sign => cases sign <;> rfl
  | notANumber => rfl
  | zero sign => rfl
  | finite sign m e hm => cases sign <;> rfl

theorem compareInt_congr (h : shape x = shape x') (n : Int) : compareInt x n = compareInt x' n := by
  unfold compareInt
  rw [h]

theorem compareInt_nan (h : shape x = .notANumber) (n : Int) : compareInt x n = none := by
  unfold compareInt
  rw [h]

theorem compareInt_top (h : shape x = .infinity .positive) (n : Int) :
    compareInt x n = some .gt := by
  unfold compareInt
  rw [h]

theorem compareInt_bot (h : shape x = .infinity .negative) (n : Int) :
    compareInt x n = some .lt := by
  unfold compareInt
  rw [h]

theorem compareInt_zero (h : shape x = .zero sign) (n : Int) :
    compareInt x n = some (compare 0 n) := by
  unfold compareInt
  rw [h]

theorem beq_zero_iff : (x == 0.0) = true ↔ ∃ sign, shape x = .zero sign := by
  have hbeq : (x == 0.0) = (shape x).beq (.zero .positive) := rfl
  rw [hbeq]
  cases shape x with
  | notANumber => exact ⟨fun h => absurd h Bool.false_ne_true, fun ⟨_, h⟩ => by cases h⟩
  | infinity sign =>
      refine ⟨fun h => ?_, fun ⟨_, h⟩ => by cases h⟩
      cases sign <;> exact absurd h Bool.false_ne_true
  | zero sign => exact ⟨fun _ => ⟨sign, rfl⟩, fun _ => rfl⟩
  | finite sign m e hm =>
      refine ⟨fun h => ?_, fun ⟨_, h⟩ => by cases h⟩
      cases sign <;> exact absurd h Bool.false_ne_true

/-- A finite number above zero. -/
theorem shape_of_pos (hpos : 0.0 < x) (hfinite : x.isFinite = true) :
    ∃ m e hm, shape x = .finite .positive m e hm := by
  have hzero : shape 0.0 = .zero .positive := rfl
  rw [lt_iff, hzero] at hpos
  rw [isFinite_eq] at hfinite
  cases hx : shape x with
  | notANumber =>
      rw [hx] at hfinite
      cases hfinite
  | infinity sign =>
      rw [hx] at hfinite
      cases hfinite
  | zero sign =>
      rw [hx] at hpos
      exact absurd hpos Bool.false_ne_true
  | finite sign m e hm =>
      rw [hx] at hpos
      cases sign with
      | negative => exact absurd hpos Bool.false_ne_true
      | positive => exact ⟨m, e, hm, rfl⟩

theorem zero_lt_top (h : shape x = .infinity .positive) : 0.0 < x := by
  have hzero : shape 0.0 = .zero .positive := rfl
  rw [lt_iff, hzero, h]
  rfl

/-- What is not finite is one of three. -/
theorem shape_of_not_finite (h : x.isFinite = false) :
    shape x = .notANumber ∨ ∃ sign, shape x = .infinity sign := by
  rw [isFinite_eq] at h
  cases hx : shape x with
  | notANumber => exact Or.inl rfl
  | infinity sign => exact Or.inr ⟨sign, rfl⟩
  | zero sign =>
      rw [hx] at h
      cases h
  | finite sign m e hm =>
      rw [hx] at h
      cases h

end Comparisons

/-! ### The order of the numbers

Ranks make one order of the signs, the exponents and the mantissas, so that laws of order need not
be shown by cases.
-/

/-- Where a number stands among the others: by its sign, and then by its exponent and its
mantissa. -/
def rank : UnpackedFloat → Option (Int ×ₗ Int ×ₗ Int)
  | .notANumber => none
  | .infinity .negative => some (toLex (-2, toLex (0, 0)))
  | .finite .negative mantissa exponent _ => some (toLex (-1, toLex (-exponent, -mantissa)))
  | .zero _ => some (toLex (0, toLex (0, 0)))
  | .finite .positive mantissa exponent _ => some (toLex (1, toLex (exponent, mantissa)))
  | .infinity .positive => some (toLex (2, toLex (0, 0)))

/-- Finite numbers of one sign are compared by their exponents first. -/
theorem compare_rank (sign e e' m m' : Int) :
    compare (toLex (sign, toLex (e, m))) (toLex (sign, toLex (e', m'))) =
      (compare e e').then (compare m m') := by
  have hsign : compare sign sign = .eq := compare_eq_iff_eq.mpr rfl
  have hrest : compare (toLex (e, m)) (toLex (e', m')) = (compare e e').then (compare m m') := by
    rw [Prod.Lex.compare_def]
    rfl
  rw [Prod.Lex.compare_def, ← hrest]
  show (compare sign sign).then _ = _
  rw [hsign]
  rfl

theorem compare_neg_neg (a b : Int) : compare (-a) (-b) = (compare a b).swap := by
  have hanti : StrictAnti fun n : Int => -n := fun _ _ h => Int.neg_lt_neg h
  rw [← cmp_eq_compare, ← cmp_eq_compare, hanti.cmp_map_eq, cmp_swap]

theorem compare_natCast (a b : Nat) : compare (a : Int) b = compare a b := by
  have hmono : StrictMono fun n : Nat => (n : Int) := fun _ _ h => Int.ofNat_lt.mpr h
  rw [← cmp_eq_compare, ← cmp_eq_compare]
  exact hmono.cmp_map_eq a b

/-- **The comparison of numbers is that of their ranks.** -/
theorem compare_eq (u v : UnpackedFloat) :
    u.compare v = (rank u).bind fun r => (rank v).map fun s => compare r s := by
  rcases u with ⟨_ | _⟩ | _ | _ | ⟨_ | _⟩ <;> rcases v with ⟨_ | _⟩ | _ | _ | ⟨_ | _⟩ <;>
    first | rfl | skip
  case finite.negative.finite.negative m e hm m' e' hm' =>
    show some ((compare e e').then (compare m m')).swap =
      some (compare (toLex (_, toLex (_, _))) (toLex (_, toLex (_, _))))
    rw [compare_rank, compare_neg_neg, compare_neg_neg, compare_natCast, Ordering.swap_then]
  case finite.positive.finite.positive m e hm m' e' hm' =>
    show some ((compare e e').then (compare m m')) =
      some (compare (toLex (_, toLex (_, _))) (toLex (_, toLex (_, _))))
    rw [compare_rank, compare_natCast]

section Order

variable {x y z : Float}

theorem lt_iff_rank : x < y ↔ ∃ r ∈ rank (shape x), ∃ s ∈ rank (shape y), r < s := by
  rw [lt_iff, UnpackedFloat.lt, beq_iff_eq, compare_eq]
  cases rank (shape x) with
  | none => simp
  | some r =>
      cases rank (shape y) with
      | none => simp
      | some s => simp [compare_lt_iff_lt]

theorem le_iff_rank : x ≤ y ↔ ∃ r ∈ rank (shape x), ∃ s ∈ rank (shape y), r ≤ s := by
  have hle : x ≤ y ↔ (shape x).le (shape y) = true := by
    show decide ((shape x).le (shape y) = true) = true ↔ _
    rw [decide_eq_true_eq]
  rw [hle, UnpackedFloat.le, compare_eq]
  cases rank (shape x) with
  | none => simp
  | some r =>
      cases rank (shape y) with
      | none => simp
      | some s => simp [← Ordering.ne_gt_iff_isLE, compare_le_iff_le]

/-- The comparisons of floats are compatible, though not total. -/
theorem lt_of_lt_le (h : x < y) (h' : y ≤ z) : x < z := by
  obtain ⟨r, hr, s, hs, hlt⟩ := lt_iff_rank.mp h
  obtain ⟨s', hs', t, ht, hle⟩ := le_iff_rank.mp h'
  rw [Option.mem_unique hs' hs] at hle
  exact lt_iff_rank.mpr ⟨r, hr, t, ht, hlt.trans_le hle⟩

theorem not_lt_self (x : Float) : ¬ x < x := by
  intro h
  obtain ⟨r, hr, s, hs, hlt⟩ := lt_iff_rank.mp h
  exact ne_of_lt hlt (Option.mem_unique hr hs)

theorem not_le_of_lt (h : x < y) : ¬ y ≤ x := fun hle => not_lt_self x (lt_of_lt_le h hle)

end Order

/-! ### Operations on what is not finite -/

section Operations

variable {x y : Float} {sign sign' : UnpackedFloat.Sign} {m : Nat} {e : Int} {hm : 0 < m}

theorem div_of_nan (h : shape x = .notANumber) : shape (x / y) = .notANumber := by
  rw [shape_div, h]
  exact repack_notANumber

theorem div_nan (h : shape y = .notANumber) : shape (x / y) = .notANumber := by
  rw [shape_div, h]
  cases shape x <;> exact repack_notANumber

theorem div_infinities (h : shape x = .infinity sign) (h' : shape y = .infinity sign') :
    shape (x / y) = .notANumber := by
  rw [shape_div, h, h']
  exact repack_notANumber

theorem infinity_div (h : shape x = .infinity sign) (h' : shape y = .finite sign' m e hm) :
    shape (x / y) = .infinity (sign / sign') := by
  rw [shape_div, h, h']
  exact repack_infinity _

theorem finite_div_infinity (h : x.isFinite = true) (h' : shape y = .infinity sign) :
    ∃ sign', shape (x / y) = .zero sign' := by
  rw [isFinite_eq] at h
  rw [shape_div, h']
  cases hx : shape x with
  | notANumber =>
      rw [hx] at h
      cases h
  | infinity sign' =>
      rw [hx] at h
      cases h
  | zero sign' => exact ⟨_, repack_zero _⟩
  | finite sign' m e hm => exact ⟨_, repack_zero _⟩

theorem infinity_mul (h : shape x = .infinity sign) (h' : shape y = .finite sign' m e hm) :
    shape (x * y) = .infinity (sign * sign') := by
  rw [shape_mul, h, h']
  exact repack_infinity _

theorem sub_nan (h : shape y = .notANumber) : shape (x - y) = .notANumber := by
  rw [shape_sub, h]
  cases shape x <;> exact repack_notANumber

theorem finite_sub_infinity (h : shape x = .finite sign m e hm)
    (h' : shape y = .infinity sign') : shape (x - y) = .infinity (-sign') := by
  rw [shape_sub, h, h']
  exact repack_infinity _

theorem finite_sub_zero (h : shape x = .finite sign m e hm) (h' : shape y = .zero sign') :
    shape (x - y) = repack (shape x) := by
  rw [shape_sub, h, h']
  cases sign' <;> rfl

end Operations

end Floats
