import Mathlib.Algebra.Order.Floor.Ring
import Mathlib.Data.Int.Log
import Mathlib.Data.Rat.Floor
import Mathlib.Tactic.FieldSimp
import Mathlib.Tactic.Linarith
import Mathlib.Tactic.NormNum

set_option autoImplicit false

namespace Rounding

def roundHalfEven (x : ℚ) : Int :=
  let low := ⌊x⌋
  if x - low < 1 / 2 then low
  else if 1 / 2 < x - low then low + 1
  else if low % 2 = 0 then low
  else low + 1

@[simp] theorem roundHalfEven_intCast (n : Int) : roundHalfEven n = n := by
  simp [roundHalfEven]

theorem roundHalfEven_nonneg {x : ℚ} (nonneg : 0 ≤ x) : 0 ≤ roundHalfEven x := by
  have low := Int.floor_nonneg.mpr nonneg
  unfold roundHalfEven
  dsimp only
  repeat' split
  all_goals omega

theorem roundHalfEven_bounds (x : ℚ) : x - 1 / 2 ≤ roundHalfEven x ∧ roundHalfEven x ≤ x + 1 / 2 := by
  have low := Int.floor_le x
  have high := Int.lt_floor_add_one x
  unfold roundHalfEven
  dsimp only
  split
  · constructor <;> linarith
  split
  · push_cast
    constructor <;> linarith
  -- A tie goes to either side.
  split
  · constructor <;> linarith
  · push_cast
    constructor <;> linarith

variable {precision : Nat} {lowest : Int} {x : ℚ}

def spacing (precision : Nat) (lowest : Int) (x : ℚ) : ℚ :=
  2 ^ max (Int.log 2 |x| + 1 - precision) lowest

-- To that many binary digits, but to none below `lowest`, and without a largest number.
def roundBinary (precision : Nat) (lowest : Int) (x : ℚ) : ℚ :=
  roundHalfEven (x / spacing precision lowest x) * spacing precision lowest x

theorem spacing_pos : 0 < spacing precision lowest x := zpow_pos (by norm_num) _

theorem roundBinary_nonneg (nonneg : 0 ≤ x) : 0 ≤ roundBinary precision lowest x := by
  have scaled := roundHalfEven_nonneg (div_nonneg nonneg (@spacing_pos precision lowest x).le)
  exact mul_nonneg (by exact_mod_cast scaled) spacing_pos.le

theorem roundBinary_near (normal : 2 ^ (lowest + precision - 1) ≤ x) :
    |roundBinary precision lowest x - x| ≤ x / 2 ^ precision := by
  have positive : 0 < x := lt_of_lt_of_le (zpow_pos (by norm_num) _) normal
  have power : lowest + precision - 1 ≤ Int.log 2 x :=
    (Int.zpow_le_iff_le_log (by decide) positive).mp (by exact_mod_cast normal)
  have below : ((2 : Nat) : ℚ) ^ Int.log 2 x ≤ x := Int.zpow_log_le_self (by decide) positive
  have step : spacing precision lowest x * 2 ^ precision ≤ 2 * x := by
    rw [spacing, abs_of_pos positive, max_eq_left (by omega), ← zpow_natCast,
      ← zpow_add₀ (by norm_num), sub_add_cancel, zpow_add_one₀ (by norm_num)]
    push_cast at below
    linarith
  obtain ⟨low, high⟩ := roundHalfEven_bounds (x / spacing precision lowest x)
  have half : |roundBinary precision lowest x - x| ≤ spacing precision lowest x / 2 := by
    have whole : x = x / spacing precision lowest x * spacing precision lowest x :=
      (div_mul_cancel₀ x spacing_pos.ne').symm
    have error : |(roundHalfEven (x / spacing precision lowest x) : ℚ) -
        x / spacing precision lowest x| ≤ 1 / 2 := abs_le.mpr ⟨by linarith, by linarith⟩
    calc |roundBinary precision lowest x - x|
        = |(roundHalfEven (x / spacing precision lowest x) - x / spacing precision lowest x) *
            spacing precision lowest x| := by rw [sub_mul, ← whole, roundBinary]
      _ = |(roundHalfEven (x / spacing precision lowest x) : ℚ) - x / spacing precision lowest x| *
            spacing precision lowest x := by rw [abs_mul, abs_of_pos spacing_pos]
      _ ≤ 1 / 2 * spacing precision lowest x := mul_le_mul_of_nonneg_right error spacing_pos.le
      _ = spacing precision lowest x / 2 := by ring
  rw [le_div_iff₀ (by positivity)]
  calc |roundBinary precision lowest x - x| * 2 ^ precision
      ≤ spacing precision lowest x / 2 * 2 ^ precision :=
        mul_le_mul_of_nonneg_right half (by positivity)
    _ ≤ x := by linarith

theorem roundBinary_intCast {n : Int} (whole : lowest ≤ 0) (small : n.natAbs < 2 ^ precision) :
    roundBinary precision lowest n = n := by
  obtain rfl | some_ := eq_or_ne n 0
  · simp [roundBinary, roundHalfEven]
  have magnitude : |(n : ℚ)| = (n.natAbs : ℚ) := by
    rw [← Int.cast_abs, Int.abs_eq_natAbs, Int.cast_natCast]
  have few : Nat.log 2 n.natAbs < precision :=
    (Nat.log_lt_iff_lt_pow (by decide) (Int.natAbs_ne_zero.mpr some_)).mpr small
  obtain ⟨k, exponent⟩ : ∃ k : Nat, max (Int.log 2 |(n : ℚ)| + 1 - precision) lowest = -k := by
    refine ⟨(-max (Int.log 2 |(n : ℚ)| + 1 - precision) lowest).toNat, ?_⟩
    rw [magnitude, Int.log_natCast]
    omega
  have scaled : (n : ℚ) / spacing precision lowest n = ((n * 2 ^ k : Int) : ℚ) := by
    rw [spacing, exponent, zpow_neg, div_inv_eq_mul, zpow_natCast]
    push_cast
    rfl
  rw [roundBinary, scaled, roundHalfEven_intCast, ← scaled]
  exact div_mul_cancel₀ _ spacing_pos.ne'

section Formats

def toFloat (x : ℚ) : ℚ := roundBinary 24 (-149) x

def toDouble (x : ℚ) : ℚ := roundBinary 53 (-1074) x

theorem toFloat_nonneg (nonneg : 0 ≤ x) : 0 ≤ toFloat x := roundBinary_nonneg nonneg

theorem toDouble_nonneg (nonneg : 0 ≤ x) : 0 ≤ toDouble x := roundBinary_nonneg nonneg

theorem toFloat_intCast {n : Int} (small : n.natAbs < 16777216) : toFloat n = n :=
  roundBinary_intCast (by decide) (by simpa using small)

theorem toDouble_intCast {n : Int} (small : n.natAbs < 16777216) : toDouble n = n :=
  roundBinary_intCast (by decide) (by norm_num; omega)

theorem toDouble_near (normal : 1 / 2 ^ 1022 ≤ x) : |toDouble x - x| ≤ x / 2 ^ 53 := by
  have least : (2 : ℚ) ^ ((-1074 : Int) + (53 : Nat) - 1) = 1 / 2 ^ 1022 := by
    rw [one_div, ← zpow_natCast, ← zpow_neg]
    rfl
  exact roundBinary_near (least.trans_le normal)

-- What strtod reads without an ERANGE: it does not overflow, nor lose digits by an underflow.
def FitsDouble (x : ℚ) : Prop :=
  |toDouble x| < 2 ^ 1024 ∧ (toDouble x = x ∨ 1 / 2 ^ 1022 ≤ |x|)

instance : Decidable (FitsDouble x) := inferInstanceAs (Decidable (_ ∧ _))

theorem lt_two_pow_1024 (small : x < 2 ^ 100) : x < 2 ^ 1024 :=
  small.trans_le (pow_le_pow_right₀ (by norm_num) (by norm_num))

theorem fitsDouble_intCast {n : Int} (small : n.natAbs < 16777216) : FitsDouble n := by
  have exact_ := toDouble_intCast small
  have magnitude : |(n : ℚ)| = (n.natAbs : ℚ) := by
    rw [← Int.cast_abs, Int.abs_eq_natAbs, Int.cast_natCast]
  have bound : (n.natAbs : ℚ) < 16777216 := by exact_mod_cast small
  refine ⟨?_, .inl exact_⟩
  rw [exact_, magnitude]
  exact lt_two_pow_1024 (bound.trans (by norm_num))

theorem fitsDouble_of_le (least : 1 / 100 ≤ x) (most : x ≤ 10 ^ 15) : FitsDouble x := by
  have normal : 1 / 2 ^ 1022 ≤ x := by
    have tiny : (1 / 2 ^ 1022 : ℚ) ≤ 1 / 2 ^ 7 :=
      one_div_le_one_div_of_le (by norm_num) (pow_le_pow_right₀ (by norm_num) (by norm_num))
    exact (tiny.trans (by norm_num)).trans least
  have near := abs_le.mp (toDouble_near normal)
  have positive : 0 ≤ x := le_trans (by norm_num) least
  constructor
  · rw [abs_of_nonneg (toDouble_nonneg positive)]
    have twice : toDouble x ≤ 2 * 10 ^ 15 := by linarith
    exact lt_two_pow_1024 (twice.trans_lt (by norm_num))
  · rw [abs_of_nonneg positive]
    exact .inr normal

end Formats

end Rounding
