import Mathlib.Algebra.Order.Field.Power
import Mathlib.Algebra.Order.Field.Rat
import Mathlib.Tactic.FieldSimp
import Mathlib.Tactic.Linarith
import Mathlib.Tactic.NormNum
import Mathlib.Tactic.Positivity
import Mathlib.Tactic.Ring
import NativeBuild.Number.Binary64

/-!
How far a rounded number is from the exact one.  A quotient of naturals is rounded by a half at most, and
a fraction to a binary number of 64 bits by half a unit in the last of its 53 digits.
-/

namespace NativeBuild.Number

variable {r : Ratio} {a b n : Nat} {e : Int}

/-- A rounded quotient is off by a half at most. -/
theorem roundQuotient_bounds (a : Nat) (hb : 0 < b) :
    2 * roundQuotient a b * b ≤ 2 * a + b ∧ 2 * a ≤ (2 * roundQuotient a b + 1) * b := by
  have hdiv : b * (a / b) + a % b = a := Nat.div_add_mod a b
  have hmod : a % b < b := Nat.mod_lt a hb
  unfold roundQuotient
  dsimp only
  generalize a / b = q at hdiv ⊢
  generalize a % b = m at hdiv hmod ⊢
  split
  · constructor <;> nlinarith
  split
  · constructor <;> nlinarith
  · -- A half goes to the even neighbour, up or down.
    have hparity : q % 2 = 0 ∨ q % 2 = 1 := by omega
    rcases hparity with h | h <;> rw [h] <;> constructor <;> nlinarith

namespace Ratio

/-- The number that a fraction stands for. -/
def value (r : Ratio) : ℚ :=
  r.top / r.bottom

theorem value_nonneg (r : Ratio) : 0 ≤ r.value := by
  unfold value
  positivity

theorem value_add {s : Ratio} (hr : 0 < r.bottom) (hs : 0 < s.bottom) :
    (r.add s).value = r.value + s.value := by
  have hr' : (r.bottom : ℚ) ≠ 0 := by positivity
  have hs' : (s.bottom : ℚ) ≠ 0 := by positivity
  simp only [value, add, Nat.cast_add, Nat.cast_mul]
  field_simp

theorem bottom_scaled (n : Nat) (e : Int) : 0 < (scaled n e).bottom := by
  cases e with
  | ofNat k => exact Nat.one_pos
  | negSucc k => exact Nat.two_pow_pos (k + 1)

theorem value_scaled (n : Nat) (e : Int) : (scaled n e).value = n * 2 ^ e := by
  cases e with
  | ofNat k => simp [value, scaled]
  | negSucc k => simp [value, scaled, zpow_negSucc, div_eq_mul_inv]

theorem abs_roundQuotient_sub_le (a : Nat) (hb : 0 < b) :
    |(roundQuotient a b : ℚ) - a / b| ≤ 1 / 2 := by
  obtain ⟨hlow, hhigh⟩ := roundQuotient_bounds a hb
  have hlow' : 2 * (roundQuotient a b : ℚ) * b ≤ 2 * a + b := by exact_mod_cast hlow
  have hhigh' : 2 * (a : ℚ) ≤ (2 * roundQuotient a b + 1) * b := by exact_mod_cast hhigh
  have hb' : (0 : ℚ) < b := by exact_mod_cast hb
  have hdiv : (a : ℚ) / b * b = a := div_mul_cancel₀ _ hb'.ne'
  rw [abs_le]
  constructor <;> nlinarith

/-- A fraction is rounded to a multiple of a power of two by half of that power at most. -/
theorem abs_roundAt_sub_le (hr : 0 < r.bottom) (e : Int) :
    |(r.roundAt e : ℚ) * 2 ^ e - r.value| ≤ 2 ^ e / 2 := by
  have hpow : (0 : ℚ) < 2 ^ e := by positivity
  have hround : |(r.roundAt e : ℚ) - r.value / 2 ^ e| ≤ 1 / 2 := by
    cases e with
    | ofNat k =>
      have h := abs_roundQuotient_sub_le r.top (b := r.bottom * Nat.pow 2 k)
        (Nat.mul_pos hr (Nat.two_pow_pos k))
      have hvalue : (r.top : ℚ) / (r.bottom * Nat.pow 2 k : Nat) = r.value / 2 ^ (Int.ofNat k) := by
        simp [value, div_div]
      rwa [hvalue] at h
    | negSucc k =>
      have h := abs_roundQuotient_sub_le (r.top * Nat.pow 2 (k + 1)) hr
      have hvalue : ((r.top * Nat.pow 2 (k + 1) : Nat) : ℚ) / r.bottom =
          r.value / 2 ^ (Int.negSucc k) := by
        simp [value, zpow_negSucc, div_mul_eq_mul_div]
      rwa [hvalue] at h
  calc |(r.roundAt e : ℚ) * 2 ^ e - r.value|
    _ = |(r.roundAt e : ℚ) - r.value / 2 ^ e| * 2 ^ e := by
      rw [← abs_of_pos hpow, ← abs_mul, abs_of_pos hpow, sub_mul, div_mul_cancel₀ _ hpow.ne']
    _ ≤ 1 / 2 * 2 ^ e := by gcongr
    _ = 2 ^ e / 2 := by ring

theorem fills_iff (hr : 0 < r.bottom) (e : Int) : r.fills e = true ↔ (2 : ℚ) ^ (52 + e) ≤ r.value := by
  have hb : (0 : ℚ) < r.bottom := by exact_mod_cast hr
  rw [value, le_div_iff₀ hb]
  cases e with
  | ofNat k =>
    have hpow : (2 : ℚ) ^ (52 + Int.ofNat k) = (Nat.pow 2 (52 + k) : Nat) := by
      rw [show (52 + Int.ofNat k : Int) = ((52 + k : Nat) : Int) by simp, zpow_natCast]
      simp
    rw [hpow, fills, decide_eq_true_eq, mul_comm]
    exact_mod_cast Iff.rfl
  | negSucc k =>
    have hpow : (2 : ℚ) ^ (52 + Int.negSucc k) = normalMantissa / 2 ^ (k + 1) := by
      rw [Int.negSucc_eq, ← sub_eq_add_neg, zpow_sub₀ two_ne_zero]
      norm_cast
    rw [hpow, fills, decide_eq_true_eq, div_mul_eq_mul_div, div_le_iff₀ (by positivity), mul_comm]
    exact_mod_cast Iff.rfl

/-- A positive fraction has 53 binary digits at its exponent, unless that is the lowest. -/
theorem two_zpow_exponent_le (htop : r.top ≠ 0) (hr : 0 < r.bottom)
    (hlow : lowestExponent < r.exponent) : (2 : ℚ) ^ (52 + r.exponent) ≤ r.value := by
  have hb : (0 : ℚ) < r.bottom := by exact_mod_cast hr
  have hexponent : r.exponent = if r.fills ((r.top.log2 : Int) - r.bottom.log2 - 52) then
      (r.top.log2 : Int) - r.bottom.log2 - 52 else (r.top.log2 : Int) - r.bottom.log2 - 52 - 1 := by
    unfold exponent at hlow ⊢
    dsimp only at hlow ⊢
    omega
  rw [hexponent]
  split
  · next hfills => exact (fills_iff hr _).1 hfills
  · -- The numerator has its leading digit, and the denominator is below the next power of two.
    have htop' : (2 : ℚ) ^ r.top.log2 ≤ r.top := by exact_mod_cast Nat.log2_self_le htop
    have hbottom : (r.bottom : ℚ) ≤ 2 ^ (r.bottom.log2 + 1) := by
      exact_mod_cast Nat.lt_log2_self.le
    rw [value, le_div_iff₀ hb]
    calc (2 : ℚ) ^ (52 + ((r.top.log2 : Int) - r.bottom.log2 - 52 - 1)) * r.bottom
      _ ≤ 2 ^ (52 + ((r.top.log2 : Int) - r.bottom.log2 - 52 - 1)) * 2 ^ (r.bottom.log2 + 1) := by
        gcongr
      _ = 2 ^ r.top.log2 := by
        rw [← zpow_natCast, ← zpow_natCast, ← zpow_add₀ two_ne_zero]
        congr 1
        push_cast
        ring
      _ ≤ r.top := htop'

end Ratio

namespace Binary

/-- The number nearest to a fraction, or the fraction itself beyond the greatest number. -/
def near (r : Ratio) : Ratio :=
  ((nearest? false r).map ratio).getD r

theorem bottom_near (hr : 0 < r.bottom) : 0 < (near r).bottom := by
  unfold near
  cases nearest? false r with
  | none => exact hr
  | some b => exact Ratio.bottom_scaled _ _

/-- A number with a mantissa of one digit too many is the next power of two. -/
theorem value_of_nearest? {b : Binary} (htop : r.top ≠ 0) (h : nearest? false r = some b) :
    b.ratio.value = r.roundAt r.exponent * 2 ^ r.exponent := by
  unfold nearest? at h
  rw [if_neg htop] at h
  dsimp only at h
  split at h
  · next hfull =>
    split at h
    · cases h
    · obtain rfl := Option.some.inj h
      rw [ratio, Ratio.value_scaled, hfull, zpow_add₀ two_ne_zero]
      push_cast
      ring
  · split at h
    · cases h
    · obtain rfl := Option.some.inj h
      exact Ratio.value_scaled _ _

/-- Rounding moves a fraction by half a unit in the last of 53 digits at most; below the least numbers
this unit does not get smaller. -/
theorem abs_near_sub_le (hr : 0 < r.bottom) :
    |(near r).value - r.value| ≤ (r.value + 1) / 2 ^ 53 := by
  have hbound : (0 : ℚ) ≤ (r.value + 1) / 2 ^ 53 := by
    have := r.value_nonneg
    positivity
  unfold near
  cases h : nearest? false r with
  | none => simpa using hbound
  | some b =>
    rw [Option.map_some, Option.getD_some]
    by_cases htop : r.top = 0
    · unfold nearest? at h
      rw [if_pos htop] at h
      obtain rfl := Option.some.inj h
      have hzero : r.value = 0 := by simp [Ratio.value, htop]
      rw [hzero]
      simp [ratio, Ratio.value_scaled]
    · rw [value_of_nearest? htop h]
      refine (Ratio.abs_roundAt_sub_le hr _).trans ?_
      by_cases hlow : lowestExponent < r.exponent
      · have hle := Ratio.two_zpow_exponent_le htop hr hlow
        rw [zpow_add₀ two_ne_zero] at hle
        rw [le_div_iff₀ (by positivity)]
        have : (2 : ℚ) ^ (52 : Int) = 2 ^ 52 := by norm_cast
        rw [this] at hle
        nlinarith
      · have hle : (2 : ℚ) ^ r.exponent ≤ 2 ^ (-52 : Int) :=
          zpow_le_zpow_right₀ one_le_two ((not_lt.1 hlow).trans (by decide))
        have : (2 : ℚ) ^ (-52 : Int) = 1 / 2 ^ 52 := by norm_num
        rw [this] at hle
        have := r.value_nonneg
        rw [le_div_iff₀ (by positivity)]
        nlinarith

end Binary

end NativeBuild.Number
