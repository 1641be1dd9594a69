import Mathlib
import SeededServer.Number.Basic

/-!
# Doubles of positive integers

The nearest double to a positive integer is positive, however large the integer is: its significand
is shifted into the 53 bits of a double and rounded, and neither of them gives zero. If it does not
fit at all it becomes the positive infinity.

## Main definitions

* `Double.IsPositive` — a positive double.
* `Double.Fits` — a positive number that can be packed into a double.
-/
namespace SeededServer

namespace Double

open Float.Model (UnpackedFloat Format totalExponent)
open Float.Model.UnpackedFloat

/-- A positive double. -/
inductive IsPositive : UnpackedFloat → Prop
  | infinity : IsPositive (.infinity .positive)
  | finite {m : Nat} {e : Int} (hm : 0 < m) : -1074 ≤ e → IsPositive (.finite .positive m e hm)

/-- A positive number that is rounded to 53 bits, and that packing does not turn into zero. -/
inductive Fits : UnpackedFloat → Prop
  | infinity : Fits (.infinity .positive)
  | finite {m : Nat} {e : Int} (hm : 0 < m) : -1074 ≤ e → m.log2 ≤ 52 →
      Fits (.finite .positive m e hm)

theorem IsPositive.not_le_zero {u : UnpackedFloat} (h : IsPositive u) (sign : Sign) :
    u.le (.zero sign) = false := by
  cases h <;> rfl

/-! ## Rounding -/

theorem shift_mantissa (em : ExtendedMantissa) (k : Nat) :
    (em >>> k).mantissa = em.mantissa / 2 ^ k := by
  change (k.repeat ExtendedMantissa.shiftRightOne em).mantissa = _
  induction k with
  | zero => simp [Nat.repeat]
  | succ k ih =>
    simp [Nat.repeat, ExtendedMantissa.shiftRightOne, ih, Nat.div_div_eq_div_mul, Nat.pow_succ]

theorem le_roundedMantissa (em : ExtendedMantissa) : em.mantissa ≤ em.roundedMantissa := by
  unfold ExtendedMantissa.roundedMantissa Accuracy.roundToNearestEven
  split <;> omega

/-- How far a significand is shifted: until it has 53 bits and its exponent is one of a double. The
last digit of a number that is not too small is not shifted out. -/
theorem exists_shift (m : Nat) (e : Int) :
    ∃ k : Nat, (shiftToTargetExponent Format.binary64 m e .exact).1.mantissa = m / 2 ^ k ∧
      (shiftToTargetExponent Format.binary64 m e .exact).2 = e + k ∧
      -1074 ≤ e + k ∧ m.log2 ≤ 52 + k ∧ (-1074 ≤ m.log2 + e → k ≤ m.log2) := by
  have htarget : Format.binary64.targetExponent (totalExponent m e) =
    max ((m.log2 : Int) + 1 + e - 53) (-1074) := rfl
  refine ⟨_, shift_mantissa _ _, rfl, ?_⟩
  rw [htarget]
  omega

theorem shift_keeps {m : Nat} {e : Int} (hm : 0 < m) (h : -1074 ≤ m.log2 + e) :
    0 < (shiftToTargetExponent Format.binary64 m e .exact).1.mantissa ∧
      (shiftToTargetExponent Format.binary64 m e .exact).1.mantissa.log2 ≤ 52 ∧
      -1074 ≤ (shiftToTargetExponent Format.binary64 m e .exact).2 := by
  obtain ⟨k, hmantissa, hexponent, hleast, hbits, hlast⟩ := exists_shift m e
  rw [hmantissa, hexponent]
  have hpow : 2 ^ k ≤ m := (Nat.le_log2 (by omega)).1 (hlast h)
  have hpos : 0 < m / 2 ^ k := Nat.div_pos hpow (Nat.two_pow_pos k)
  have hsmall : m / 2 ^ k < 2 ^ 53 := by
    rw [Nat.div_lt_iff_lt_mul (Nat.two_pow_pos k), ← Nat.pow_add]
    exact (Nat.log2_lt (by omega)).1 (by omega)
  have hlog := (Nat.log2_lt (by omega)).2 hsmall
  exact ⟨hpos, by omega, hleast⟩

theorem round_fits {m : Nat} {e : Int} (hm : 0 < m) (h : -1074 ≤ m.log2 + e) :
    Fits (roundWithAccuracy Format.binary64 .positive m e .exact) := by
  obtain ⟨hpos, -, hleast⟩ := shift_keeps hm h
  unfold roundWithAccuracy
  generalize shiftToTargetExponent Format.binary64 m e .exact = first at hpos hleast
  obtain ⟨em, exponent⟩ := first
  -- Rounding may carry into a further bit, so the significand is shifted once more.
  have hrounded : 0 < em.roundedMantissa := Nat.lt_of_lt_of_le hpos (le_roundedMantissa em)
  dsimp only at hleast ⊢
  obtain ⟨hpos, hlog, hleast⟩ := shift_keeps (e := exponent) hrounded (by omega)
  rw [dif_neg (by omega)]
  exact .finite _ hleast hlog

/-! ## Packing -/

theorem unpack_positive {e : BitVec 11} {m : BitVec 52} (hfull : e = -1#11 → m = 0#52)
    (hzero : e = 0#11 → m ≠ 0#52) :
    IsPositive (unpack Format.binary64 (packComponents Format.binary64 .positive e m)) := by
  have hbias : Format.binary64.exponentBias = 1023 := rfl
  unfold unpack
  simp only [unpackMantissa_packComponents, unpackExponent_packComponents,
    unpackSign_packComponents, Sign.ofBitVec_toBitVec, hbias]
  split
  · next h =>
    rw [if_pos (hfull h)]
    exact .infinity
  · split
    · next h =>
      rw [dif_neg (hzero h)]
      refine .finite _ ?_
      simp [h]
    · next h =>
      have hpos : 0 < e.toNat := by simpa [BitVec.toNat_pos, BitVec.pos_iff_ne_zero] using h
      exact .finite _ (by omega)

theorem Fits.unpack_pack {u : UnpackedFloat} (h : Fits u) :
    IsPositive (unpack Format.binary64 (UnpackedFloat.pack Format.binary64 u)) := by
  have hinfinite : IsPositive (unpack Format.binary64 (packedInfinity Format.binary64 .positive)) :=
    unpack_positive (fun _ => rfl) (by simp)
  cases h with
  | infinity => exact hinfinite
  | @finite m e hm hleast hlog =>
    have hbias : Format.binary64.exponentBias = 1023 := rfl
    have hbits : Format.binary64.mantissaBits = 53 := rfl
    simp only [UnpackedFloat.pack, hbias, hbits]
    split
    · exact hinfinite
    · split
      · -- The exponent of a normal double is neither full nor zero.
        refine unpack_positive (fun h => ?_) (fun h => ?_)
        all_goals
          have hexponent := congrArg BitVec.toNat h
          simp at hexponent
          omega
      · -- The significand of a subnormal double is not zero.
        refine unpack_positive (by simp) fun _ h => ?_
        have hmantissa : m % 2 ^ 52 = 0 := by simpa using congrArg BitVec.toNat h
        have hsmall : m < 2 ^ 52 := (Nat.log2_lt (by omega)).1 (by omega)
        omega

theorem unpack_zero : (0 : Float).toModel.unpack = .zero .positive := rfl

theorem unpack_one : (Float.ofBits 0x3FF0000000000000).toModel.unpack =
    .finite .positive (2 ^ 52) (-52) (Nat.two_pow_pos 52) := rfl

theorem Fits.not_le_zero {u : UnpackedFloat} (h : Fits u) : ¬ Float.ofModel (.pack u) ≤ 0 := by
  have hle := h.unpack_pack.not_le_zero .positive
  rw [← unpack_zero] at hle
  intro hless
  have hmodel : Float.Model.pack u ≤ (0 : Float).toModel := of_decide_eq_true hless
  exact Bool.false_ne_true (hle.symm.trans hmodel)

/-! ## Integers -/

theorem log2_shiftLeft {m : Nat} (hm : 0 < m) (k : Nat) : (m <<< k).log2 = m.log2 + k := by
  rw [Nat.log2_eq_iff (Nat.ne_of_gt (Nat.shiftLeft_pos_iff.2 hm)), Nat.shiftLeft_eq]
  have hlow := Nat.mul_le_mul_right (2 ^ k) (Nat.log2_self_le (n := m) (by omega))
  have hhigh := Nat.mul_lt_mul_of_pos_right (Nat.lt_log2_self (n := m)) (Nat.two_pow_pos k)
  rw [← Nat.pow_add] at hlow hhigh
  exact ⟨hlow, by rwa [show m.log2 + k + 1 = m.log2 + 1 + k by omega]⟩

theorem shiftLeft_fits {m : Nat} {e : Int} (hm : 0 < m) (he : -1074 ≤ e) (k : Nat) :
    Fits (roundWithAccuracy Format.binary64 .positive (m <<< k) (e - k) .exact) := by
  have hlog := log2_shiftLeft hm k
  exact round_fits (Nat.shiftLeft_pos_iff.2 hm) (by omega)

/-- Multiplying by one does not make a positive double vanish. -/
theorem IsPositive.mul_one {u : UnpackedFloat} (h : IsPositive u) :
    Fits (UnpackedFloat.mul Format.binary64 u
      (.finite .positive (2 ^ 52) (-52) (Nat.two_pow_pos 52))) := by
  cases h with
  | infinity => exact .infinity
  | @finite m e hm hleast =>
    have hfits := shiftLeft_fits hm hleast 52
    rw [Nat.shiftLeft_eq] at hfits
    exact hfits

theorem ofNat_fits {n : Nat} (hn : 0 < n) : Fits (UnpackedFloat.ofNat Format.binary64 n) := by
  have hcompare : compare (n : Int) 0 = .gt := by
    simp only [compare, compareOfLessAndEq]
    rw [if_neg (by omega), if_neg (by omega)]
  have heq : UnpackedFloat.ofNat Format.binary64 n =
      UnpackedFloat.round Format.binary64 .positive n 0 := by
    rw [UnpackedFloat.ofNat, UnpackedFloat.ofInt, UnpackedFloat.normalize, hcompare]
    rfl
  rw [heq]
  exact shiftLeft_fits hn (by decide) _

theorem ofScientific_fits {n : Nat} (hn : 0 < n) :
    Fits (UnpackedFloat.ofScientific Format.binary64 n 0) := by
  have hfits := shiftLeft_fits (e := 0) hn (by decide) 53
  have hbits : Format.binary64.exponentBits = 11 := rfl
  unfold UnpackedFloat.ofScientific
  rw [dif_neg (Nat.ne_of_gt hn), if_neg (by decide), if_neg (by rw [hbits]; omega),
    if_pos (by decide)]
  rw [← Nat.mul_one (n <<< 53)] at hfits
  exact hfits

/-- An integer above zero has a double above zero. -/
theorem not_ofNat_le_zero {n : Nat} (hn : 0 < n) : ¬ Float.ofNat n ≤ 0 := by
  change ¬ Float.ofScientific n false 0 ≤ 0
  unfold Float.ofScientific
  split
  · next hsmall =>
    have hnat : n.toUInt64.toNat = n := by
      simp [UInt64.toNat_ofNat']
      omega
    have hfits : Fits (UnpackedFloat.ofUInt64 Format.binary64 n.toUInt64) := by
      unfold UnpackedFloat.ofUInt64
      rw [hnat]
      exact ofNat_fits hn
    have hmul := hfits.unpack_pack.mul_one
    rw [← unpack_one] at hmul
    exact hmul.not_le_zero
  · exact (ofScientific_fits hn).not_le_zero

end Double

/-- The double of a number that is not zero or less is not zero or less either. -/
theorem Number.notPositive_of_toFloat? {number : Number} {x : Float}
    (hpositive : number.notPositive = false) (hx : number.toFloat? = some x) :
    notPositive (.real x) = false := by
  cases number with
  | real y =>
    cases hx
    exact hpositive
  | int n =>
    have hn : 0 < n := by simpa [notPositive] using hpositive
    obtain ⟨k, rfl⟩ := Int.eq_ofNat_of_zero_le (Int.le_of_lt hn)
    have hfloat : x = Float.ofNat k := by
      simp only [toFloat?, ofInt?] at hx
      split at hx
      · cases hx
      · exact (Option.some.inj hx).symm
    rw [hfloat]
    exact decide_eq_false (Double.not_ofNat_le_zero (by omega))

end SeededServer
