/-
Floats in their canonical form.

A finite float has as many bits in its mantissa as there are, unless its exponent is the least one.
So of two positive floats the one with the greater exponent is the greater number, and the
comparison of floats agrees with the exact one with an integer (`compareInt_gt_of_le`).

What an operation makes of numbers is rounded and packed, which never makes it no number.
-/
import SelfHealing.Lib.Floats

namespace Floats

open Float.Model

/-! ### The canonical form -/

/-- The implicit bit is the first one. -/
theorem toNat_one_append {w : Nat} (v : BitVec w) : (1#1 ++ v).toNat = 2 ^ w + v.toNat := by
  have hor := Nat.shiftLeft_add_eq_or_of_lt v.isLt 1
  rw [BitVec.toNat_append]
  show 1 <<< w ||| v.toNat = _
  rw [← hor, Nat.one_shiftLeft]

theorem unpack_canonical {b : BitVec Format.binary64.numBits} {sign : UnpackedFloat.Sign}
    {m : Nat} {e : Int} {hm : 0 < m}
    (h : UnpackedFloat.unpack Format.binary64 b = .finite sign m e hm) :
    m < 2 ^ 53 ∧ -1074 ≤ e ∧ (e = -1074 ∨ 2 ^ 52 ≤ m) := by
  have hbias : (Format.binary64.exponentBias : Int) = 1023 := by decide
  have hlt : (UnpackedFloat.unpackMantissa b).toNat < 2 ^ 52 :=
    (UnpackedFloat.unpackMantissa b).isLt
  unfold UnpackedFloat.unpack at h
  simp only at h
  split at h
  · split at h <;> cases h
  split at h
  · split at h
    · cases h
    · rename_i hexponent _
      simp only [UnpackedFloat.finite.injEq] at h
      obtain ⟨-, rfl, rfl⟩ := h
      have hzero : (UnpackedFloat.unpackExponent b).toNat = 0 := by rw [hexponent]; rfl
      rw [hzero, hbias]
      omega
  · rename_i hexponent
    simp only [UnpackedFloat.finite.injEq] at h
    obtain ⟨-, rfl, rfl⟩ := h
    have hpos : 0 < (UnpackedFloat.unpackExponent b).toNat :=
      Nat.pos_of_ne_zero fun hzero => hexponent (BitVec.eq_of_toNat_eq hzero)
    have hmantissa : (1#1 ++ UnpackedFloat.unpackMantissa b).toNat =
        2 ^ 52 + (UnpackedFloat.unpackMantissa b).toNat := toNat_one_append _
    rw [hbias, hmantissa]
    omega

/-- **The mantissa has all its bits, unless the exponent is the least.** -/
theorem shape_canonical {x : Float} {sign : UnpackedFloat.Sign} {m : Nat} {e : Int} {hm : 0 < m}
    (h : shape x = .finite sign m e hm) :
    m < 2 ^ 53 ∧ -1074 ≤ e ∧ (e = -1074 ∨ 2 ^ 52 ≤ m) :=
  unpack_canonical h

/-! ### The exact comparison -/

/-- The exponent of the least number above zero is this far below zero. -/
def leastShift : Nat := 1074

/-- A finite number, in multiples of the least one above zero. -/
def multiple (m : Nat) (e : Int) : Nat := m * 2 ^ (e + leastShift).toNat

/-- A greater exponent makes a greater number. -/
theorem multiple_mono {m m' : Nat} {e e' : Int} (hm : m < 2 ^ 53) (he : -leastShift ≤ e)
    (hm' : 2 ^ 52 ≤ m') (hlt : e < e') : multiple m e ≤ multiple m' e' := by
  obtain ⟨k, hk⟩ : ∃ k, (e' + leastShift).toNat = (e + leastShift).toNat + 1 + k :=
    ⟨(e' - e - 1).toNat, by omega⟩
  unfold multiple
  rw [hk, Nat.pow_add, Nat.pow_succ]
  calc m * 2 ^ (e + leastShift).toNat ≤ (2 ^ 52 * 2) * 2 ^ (e + leastShift).toNat :=
        Nat.mul_le_mul_right _ (by omega)
    _ = 2 ^ 52 * (2 ^ (e + leastShift).toNat * 2 * 1) := by omega
    _ ≤ m' * (2 ^ (e + leastShift).toNat * 2 * 2 ^ k) :=
        Nat.mul_le_mul hm' (Nat.mul_le_mul_left _ (Nat.two_pow_pos k))

theorem compare_natCast_gt {a b : Nat} : some (compare (a : Int) b) = some .gt ↔ b < a := by
  rw [Option.some.injEq, compare_gt_iff_gt]
  exact Int.ofNat_lt

theorem compareInt_finite_gt_iff {x : Float} {m : Nat} {e : Int} {hm : 0 < m}
    (h : shape x = .finite .positive m e hm) (n : Nat) :
    compareInt x n = some .gt ↔ n * 2 ^ leastShift < multiple m e := by
  obtain ⟨-, hleast, -⟩ := shape_canonical h
  have hleast : -(leastShift : Int) ≤ e := hleast
  unfold compareInt multiple
  rw [h]
  show (if 0 ≤ e then some (compare ((m : Int) * 2 ^ e.toNat) n)
    else some (compare (m : Int) (n * 2 ^ (-e).toNat))) = some .gt ↔ _
  by_cases he : 0 ≤ e
  · have hshift : (e + leastShift).toNat = e.toNat + leastShift := by omega
    have hcast : (m : Int) * 2 ^ e.toNat = ((m * 2 ^ e.toNat : Nat) : Int) := by
      push_cast
      rfl
    rw [if_pos he, hcast, compare_natCast_gt, hshift, Nat.pow_add, ← Nat.mul_assoc]
    exact (Nat.mul_lt_mul_right (Nat.two_pow_pos _)).symm
  · have hshift : leastShift = (-e).toNat + (e + leastShift).toNat := by omega
    have hcast : (n : Int) * 2 ^ (-e).toNat = ((n * 2 ^ (-e).toNat : Nat) : Int) := by
      push_cast
      rfl
    have hpow : 2 ^ leastShift = 2 ^ (-e).toNat * 2 ^ (e + leastShift).toNat := by
      rw [← Nat.pow_add, ← hshift]
    rw [if_neg he, hcast, compare_natCast_gt, hpow, ← Nat.mul_assoc]
    exact (Nat.mul_lt_mul_right (Nat.two_pow_pos _)).symm

/-- Only positive numbers are above a natural number. -/
theorem shape_of_gt {x : Float} {n : Nat} (h : compareInt x n = some .gt) :
    shape x = .infinity .positive ∨ ∃ m e hm, shape x = .finite .positive m e hm := by
  cases hx : shape x with
  | notANumber =>
      rw [compareInt_nan hx] at h
      cases h
  | infinity sign =>
      cases sign with
      | positive => exact Or.inl rfl
      | negative =>
          rw [compareInt_bot hx] at h
          cases h
  | zero sign =>
      rw [compareInt_zero hx, Option.some.injEq, compare_gt_iff_gt] at h
      omega
  | finite sign m e hm =>
      cases sign with
      | positive => exact Or.inr ⟨m, e, hm, rfl⟩
      | negative =>
          unfold compareInt at h
          rw [hx] at h
          have hneg : UnpackedFloat.Sign.negative.apply (m : Int) ≤ 0 := by
            show -(m : Int) ≤ 0
            omega
          have hpow : ∀ k : Nat, (0 : Int) ≤ 2 ^ k := fun k => Int.pow_nonneg (by decide)
          simp only at h
          split at h
          · rw [Option.some.injEq, compare_gt_iff_gt] at h
            have hbelow := Int.mul_nonpos_of_nonpos_of_nonneg hneg (hpow e.toNat)
            omega
          · rw [Option.some.injEq, compare_gt_iff_gt] at h
            have habove := Int.mul_nonneg (Int.natCast_nonneg n) (hpow (-e).toNat)
            omega

/-- What is not below a positive number is positive. -/
theorem positive_of_le {x y : Float} (hx : shape x = .infinity .positive ∨
      ∃ m e hm, shape x = .finite .positive m e hm) (hle : x ≤ y) :
    shape y = .infinity .positive ∨ shape x ≠ .infinity .positive ∧
      ∃ m e hm, shape y = .finite .positive m e hm := by
  obtain ⟨r, hr, s, hs, hrs⟩ := le_iff_rank.mp hle
  have hfirst : (ofLex r).1 ≤ (ofLex s).1 := Prod.Lex.monotone_fst _ _ hrs
  have hpositive : 1 ≤ (ofLex r).1 := by
    rcases hx with hx | ⟨m, e, hm, hx⟩
    · rw [hx] at hr
      cases hr
      decide
    · rw [hx] at hr
      cases hr
      exact Int.le_refl 1
  cases hy : shape y with
  | notANumber =>
      rw [hy] at hs
      cases hs
  | zero sign =>
      rw [hy] at hs
      cases hs
      exact absurd (hpositive.trans hfirst) (by decide)
  | infinity sign =>
      rw [hy] at hs
      cases sign with
      | positive => exact Or.inl rfl
      | negative =>
          cases hs
          exact absurd (hpositive.trans hfirst) (by decide)
  | finite sign m e hm =>
      rw [hy] at hs
      cases sign with
      | positive =>
          refine Or.inr ⟨fun htop => ?_, m, e, hm, rfl⟩
          rw [htop] at hr
          cases hr
          cases hs
          exact absurd hfirst (by decide : ¬ (2 : Int) ≤ 1)
      | negative =>
          cases hs
          exact absurd (hpositive.trans hfirst) (by decide : ¬ (1 : Int) ≤ -1)

/-- **What is not below a number above an integer is above it as well.** -/
theorem compareInt_gt_of_le {x y : Float} {n : Nat} (h : compareInt x n = some .gt)
    (hle : x ≤ y) : compareInt y n = some .gt := by
  have hx := shape_of_gt h
  rcases positive_of_le hx hle with hy | ⟨hfinite, m', e', hm', hy⟩
  · exact compareInt_top hy n
  · obtain ⟨m, e, hm, hx⟩ := hx.resolve_left hfinite
    rw [compareInt_finite_gt_iff hx] at h
    rw [compareInt_finite_gt_iff hy]
    refine h.trans_le ?_
    obtain ⟨hm, he, -⟩ := shape_canonical hx
    obtain ⟨-, -, hm'⟩ := shape_canonical hy
    obtain ⟨r, hr, s, hs, hrs⟩ := le_iff_rank.mp hle
    rw [hx] at hr
    rw [hy] at hs
    cases hr
    cases hs
    have hlex : e < e' ∨ e = e' ∧ (m : Int) ≤ m' := by
      simpa [Prod.Lex.toLex_le_toLex] using hrs
    rcases hlex with hlt | ⟨rfl, hle⟩
    · exact multiple_mono hm he (hm'.resolve_left (by omega)) hlt
    · exact Nat.mul_le_mul_right _ (Int.ofNat_le.mp hle)

/-- Numbers are in a linear order. -/
theorem le_of_not_below {x y : Float} (hx : shape x ≠ .notANumber) (hy : shape y ≠ .notANumber)
    (h : ¬ y < x) : x ≤ y := by
  have hrank : ∀ u : UnpackedFloat, u ≠ .notANumber → ∃ r, r ∈ rank u := by
    intro u hu
    rcases u with ⟨_ | _⟩ | _ | _ | ⟨_ | _⟩
    all_goals first | exact ⟨_, rfl⟩ | exact absurd rfl hu
  obtain ⟨r, hr⟩ := hrank _ hx
  obtain ⟨s, hs⟩ := hrank _ hy
  refine le_iff_rank.mpr ⟨r, hr, s, hs, ?_⟩
  exact not_lt.mp fun hlt => h (lt_iff_rank.mpr ⟨s, hs, r, hr, hlt⟩)

theorem le_of_below {x y : Float} (h : x < y) : x ≤ y := by
  obtain ⟨r, hr, s, hs, hlt⟩ := lt_iff_rank.mp h
  exact le_iff_rank.mpr ⟨r, hr, s, hs, hlt.le⟩

/-! ### Numbers stay numbers

Rounding makes an infinity at worst.  A quotient is no number only where both of its parts are zero
or both are infinite.
-/

theorem unpack_eq_notANumber {b : BitVec Format.binary64.numBits}
    (h : UnpackedFloat.unpack Format.binary64 b = .notANumber) :
    UnpackedFloat.unpackExponent b = -1#_ ∧ UnpackedFloat.unpackMantissa b ≠ 0#_ := by
  unfold UnpackedFloat.unpack at h
  simp only at h
  split at h
  · rename_i hexponent
    split at h
    · cases h
    · rename_i hmantissa
      exact ⟨hexponent, hmantissa⟩
  · split at h
    · split at h <;> cases h
    · cases h

/-- A number is still one after it is packed and unpacked. -/
theorem repack_ne_notANumber {u : UnpackedFloat} (h : u ≠ .notANumber) :
    repack u ≠ .notANumber := by
  cases u with
  | notANumber => exact absurd rfl h
  | infinity sign =>
      rw [repack_infinity]
      exact UnpackedFloat.noConfusion
  | zero sign =>
      rw [repack_zero]
      exact UnpackedFloat.noConfusion
  | finite sign m e hm =>
      intro hnan
      obtain ⟨hexponent, hmantissa⟩ := unpack_eq_notANumber hnan
      have hbits : (pack (.finite sign m e hm)).toBits.toBitVec =
          UnpackedFloat.pack Format.binary64 (.finite sign m e hm) := rfl
      rw [hbits] at hexponent hmantissa
      unfold UnpackedFloat.pack at hexponent hmantissa
      simp only at hexponent hmantissa
      split at hexponent
      · rename_i hover
        rw [if_pos hover] at hmantissa
        exact hmantissa UnpackedFloat.unpackMantissa_packComponents
      · rename_i hover
        split at hexponent
        · rw [UnpackedFloat.unpackExponent_packComponents] at hexponent
          have hnat := congrArg BitVec.toNat hexponent
          rw [BitVec.toNat_ofNat] at hnat
          have htop : (-1#_ : BitVec Format.binary64.exponentBits).toNat = 2047 := by decide
          have hwidth : 2 ^ Format.binary64.exponentBits = 2048 := by decide
          rw [htop, hwidth] at hnat
          rw [hwidth] at hover
          omega
        · rw [UnpackedFloat.unpackExponent_packComponents] at hexponent
          exact absurd hexponent (by decide)

theorem roundWithAccuracy_ne_notANumber (sign : UnpackedFloat.Sign) (m : Nat) (e : Int)
    (accuracy : UnpackedFloat.Accuracy) :
    UnpackedFloat.roundWithAccuracy Format.binary64 sign m e accuracy ≠ .notANumber := by
  unfold UnpackedFloat.roundWithAccuracy
  simp only
  split
  · exact UnpackedFloat.noConfusion
  · exact UnpackedFloat.noConfusion

/-- An integer becomes a number. -/
theorem shape_ofInt (n : Int) : shape (Float.ofModel (Float.Model.ofInt n)) ≠ .notANumber := by
  refine repack_ne_notANumber ?_
  unfold UnpackedFloat.ofInt UnpackedFloat.normalize
  split
  · exact roundWithAccuracy_ne_notANumber _ _ _ _
  · exact UnpackedFloat.noConfusion
  · exact roundWithAccuracy_ne_notANumber _ _ _ _

theorem div_ne_notANumber {x y : Float} (hx : shape x ≠ .notANumber)
    {sign : UnpackedFloat.Sign} {m : Nat} {e : Int} {hm : 0 < m}
    (hy : shape y = .finite sign m e hm) : shape (x / y) ≠ .notANumber := by
  rw [shape_div, hy]
  refine repack_ne_notANumber ?_
  cases h : shape x with
  | notANumber => exact absurd h hx
  | infinity sign' => exact UnpackedFloat.noConfusion
  | zero sign' => exact UnpackedFloat.noConfusion
  | finite sign' m' e' hm' => exact roundWithAccuracy_ne_notANumber _ _ _ _

end Floats
