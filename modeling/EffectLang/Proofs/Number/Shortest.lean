import Mathlib.Data.List.TakeWhile
import EffectLang.Text.Blank
import EffectLang.Proofs.Number.DoubleRounding
import EffectLang.Proofs.Number.SignificantDigits

/-!
# The shortest text

Only the nearest decimal of each number of digits is tried for the text of a number. The decimals
that read as a number lie as far below it as above it, unless it is a power of two, so the nearest
one is among them as soon as any is. Below a power of two they end half as far away. Then the
nearest decimal may be below and too far, while the next multiple of its last place is above and
near enough; this happens at three powers of two.

Distances are counted in quanta of 64 bits. The magnitude `k + s · F` of 32 bits, `F` being the
number of fractions, stands at `k · 2^(s + 925)`, and half a step from it is `2^(s + 924)`.
-/

namespace EffectLang
open Format

namespace Decimal
variable {d : Decimal} {negative : Bool} {k s a : Nat}

/-- A power of ten in quanta of 64 bits. -/
def placeQuanta (p : ℤ) : ℚ :=
  10 ^ p * double.scale

theorem placeQuanta_pos (p : ℤ) : 0 < placeQuanta p :=
  mul_pos (by positivity) (by exact_mod_cast double.scale_pos)

theorem placeQuanta_eq (p : ℤ) : placeQuanta p = 10 ^ p * 2 ^ 149 * 2 ^ 925 := by
  rw [placeQuanta, double_scale, Nat.cast_pow, Nat.cast_ofNat, mul_assoc, ← pow_add]

theorem placeQuanta_mono {p q : ℤ} (h : p ≤ q) : placeQuanta p ≤ placeQuanta q :=
  mul_le_mul_of_nonneg_right (zpow_le_zpow_right₀ (by norm_num) h) (Nat.cast_nonneg _)

/-! Powers of ten beside the step between subnormal numbers, and above the greatest finite step. -/

theorem placeQuanta_neg_45 : placeQuanta (-45) ≤ 3 / 4 * 2 ^ 925 := by
  rw [placeQuanta_eq]
  exact mul_le_mul_of_nonneg_right (by norm_num) (pow_nonneg (by norm_num) _)

theorem placeQuanta_neg_44 : 2 * 2 ^ 925 ≤ placeQuanta (-44) := by
  rw [placeQuanta_eq]
  exact mul_le_mul_of_nonneg_right (by norm_num) (pow_nonneg (by norm_num) _)

theorem placeQuanta_32 : 2 ^ 254 * 2 ^ 925 ≤ placeQuanta 32 := by
  rw [placeQuanta_eq]
  exact mul_le_mul_of_nonneg_right (by norm_num) (pow_nonneg (by norm_num) _)

/-! ## The decimals that read as a number -/

/-- Between powers of two, they are those within half a step of 32 bits, more or less a half step of
64 bits. -/
theorem magnitude_eq_iff (hk : k < 2 * single.fractions) (hs : s = 0 ∨ single.fractions ≤ k)
    (hfinite : k + s * single.fractions < single.infinity) (hlow : 2 ^ a < k)
    (hhigh : k < 2 ^ (a + 1)) :
    (d.toDouble negative).toSingle.magnitude = k + s * single.fractions ↔
      if k % 2 = 0 then |d.doubleQuanta - k * 2 ^ (s + 925)| ≤ 2 ^ (s + 924) + 2 ^ (s + 872 + a)
      else |d.doubleQuanta - k * 2 ^ (s + 925)| < 2 ^ (s + 924) - 2 ^ (s + 872 + a) := by
  have hne : k ≠ single.fractions := by
    rintro rfl
    have hup := (Nat.pow_lt_pow_iff_right (a := 2) (by decide)).mp hlow
    have hdown := (Nat.pow_lt_pow_iff_right (a := 2) (by decide)).mp hhigh
    omega
  obtain ⟨j, rfl⟩ := Nat.exists_eq_add_one_of_ne_zero (Nat.ne_of_gt (Nat.zero_lt_of_lt hlow))
  have hpow := pow_succ 2 a
  have hpow' := pow_succ 2 (a + 1)
  have hupper := d.magnitude_le_iff (b := a + 1) hk hs hfinite (by omega) (by omega) negative
  have hlower := d.magnitude_le_iff (b := a + 1) (k := j) (s := s) (by omega) (by omega) (by omega)
    (by omega) (by omega) negative
  have hsplit : (d.toDouble negative).toSingle.magnitude = j + 1 + s * single.fractions ↔
      (d.toDouble negative).toSingle.magnitude ≤ j + 1 + s * single.fractions ∧
        ¬ (d.toDouble negative).toSingle.magnitude ≤ j + s * single.fractions := by omega
  have hstep : (2 : ℚ) ^ (s + 872 + (a + 1)) = 2 * 2 ^ (s + 872 + a) := pow_succ' _ _
  have hhalf : (2 : ℚ) ^ (s + 925) = 2 * 2 ^ (s + 924) := pow_succ' _ _
  rw [hsplit, hupper, hlower, hstep, hhalf]
  generalize (2 : ℚ) ^ (s + 872 + a) = h
  generalize (2 : ℚ) ^ (s + 924) = H
  push_cast
  rcases Nat.mod_two_eq_zero_or_one j with heven | hodd
  · rw [if_neg (by omega), if_pos heven, if_neg (by omega), abs_lt]
    constructor
    · rintro ⟨hle, hge⟩
      constructor <;> linarith
    · rintro ⟨hge, hle⟩
      constructor <;> linarith
  · rw [if_pos (by omega), if_neg (by omega), if_pos (by omega), abs_le]
    constructor
    · rintro ⟨hle, hge⟩
      constructor <;> linarith
    · rintro ⟨hge, hle⟩
      constructor <;> linarith

/-- For the subnormal numbers and the least normal ones, half a step of 64 bits is at most the
`2^28`-th part of half a step of 32 bits. -/
theorem magnitude_le_bounds (d : Decimal) (negative : Bool) (hk : k < 2 * single.fractions) :
    ((d.toDouble negative).toSingle.magnitude ≤ k →
      d.doubleQuanta ≤ k * 2 ^ 925 + (2 ^ 924 + 2 ^ 896)) ∧
    (d.doubleQuanta < k * 2 ^ 925 + (2 ^ 924 - 2 ^ 896) →
      (d.toDouble negative).toSingle.magnitude ≤ k) := by
  have hlow : 2 ^ (2 * k + 1).log2 ≤ 2 * k + 1 := Nat.log2_self_le (by omega)
  have hhigh : 2 * k + 1 < 2 ^ ((2 * k + 1).log2 + 1) := Nat.lt_log2_self
  have hcut := d.magnitude_le_iff hk (.inl rfl) (s := 0)
    (Nat.lt_of_lt_of_le (by omega) (by decide : 2 * single.fractions ≤ single.infinity)) hlow hhigh
    negative
  rw [Nat.zero_mul, Nat.add_zero] at hcut
  have hlog : (2 * k + 1).log2 < 25 := by
    rw [Nat.log2_lt (by omega), show 2 ^ 25 = 2 * (2 * single.fractions) from rfl]
    omega
  have hpos : (0 : ℚ) < 2 ^ (0 + 872 + (2 * k + 1).log2) := by positivity
  have hstep : (2 : ℚ) ^ (0 + 872 + (2 * k + 1).log2) ≤ 2 ^ 896 :=
    pow_le_pow_right₀ (by norm_num) (by omega)
  have hhalf : (2 : ℚ) ^ 925 = 2 * 2 ^ 924 := pow_succ' _ _
  rw [hcut, hhalf, Nat.zero_add]
  generalize (2 : ℚ) ^ (0 + 872 + (2 * k + 1).log2) = h at *
  generalize (2 : ℚ) ^ 924 = H
  generalize (2 : ℚ) ^ 896 = h' at *
  split
  · constructor <;> intro hle <;> linarith
  · constructor <;> intro hle <;> linarith

/-- The decimals that read as such a number are those up to half a step of 32 bits away, more or
less. -/
theorem magnitude_eq_bounds (d : Decimal) (negative : Bool) (hk : k < 2 * single.fractions)
    (hpos : 0 < k) :
    ((d.toDouble negative).toSingle.magnitude = k →
      |d.doubleQuanta - k * 2 ^ 925| ≤ 2 ^ 924 + 2 ^ 896) ∧
    (|d.doubleQuanta - k * 2 ^ 925| < 2 ^ 924 - 2 ^ 896 →
      (d.toDouble negative).toSingle.magnitude = k) := by
  obtain ⟨m, rfl⟩ := Nat.exists_eq_add_one_of_ne_zero hpos.ne'
  obtain ⟨hle, hlt⟩ := magnitude_le_bounds d negative hk
  obtain ⟨hle', hlt'⟩ := magnitude_le_bounds d negative (show m < 2 * single.fractions by omega)
  have hhalf : (2 : ℚ) ^ 925 = 2 * 2 ^ 924 := pow_succ' _ _
  have hsucc : ((m + 1 : Nat) : ℚ) * 2 ^ 925 = m * 2 ^ 925 + 2 ^ 925 := by
    rw [Nat.cast_succ, add_one_mul]
  rw [hsucc] at hle hlt ⊢
  rw [abs_le, abs_lt]
  generalize (m : ℚ) * 2 ^ 925 = v at *
  rw [hhalf] at *
  generalize (2 : ℚ) ^ 924 = half at *
  generalize (2 : ℚ) ^ 896 = w at *
  constructor
  · intro heq
    have hupper := hle heq.le
    have hlower : ¬ d.doubleQuanta < v + (half - w) := fun h => by
      have := hlt' h
      omega
    constructor <;> linarith
  · rintro ⟨hlower, hupper⟩
    have hmagnitude := hlt (by linarith)
    have hmagnitude' : ¬ (d.toDouble negative).toSingle.magnitude ≤ m := fun h => by
      have := hle' h
      linarith
    omega

/-- A power of two that is not subnormal. Below it the steps are half as wide. -/
theorem magnitude_eq_iff_of_power (hfinite : single.fractions + (s + 1) * single.fractions <
      single.infinity) :
    (d.toDouble negative).toSingle.magnitude = single.fractions + (s + 1) * single.fractions ↔
      2 ^ (s + 895) * 2 ^ 54 - 2 ^ (s + 895) * (2 ^ 29 + 1) ≤ d.doubleQuanta ∧
      d.doubleQuanta ≤ 2 ^ (s + 895) * 2 ^ 54 + 2 * (2 ^ (s + 895) * (2 ^ 29 + 1)) := by
  have hF : 2 * single.fractions = 2 ^ 24 := rfl
  have hupper := d.magnitude_le_iff (k := single.fractions) (s := s + 1) (b := 24) (by omega)
    (.inr le_rfl) hfinite (by omega) (by omega) negative
  have hlower := d.magnitude_le_iff (k := 2 * single.fractions - 1) (s := s) (b := 24) (by omega)
    (by omega) (by rw [Nat.succ_mul] at hfinite; omega) (by omega) (by omega) negative
  have hsplit : (d.toDouble negative).toSingle.magnitude =
        single.fractions + (s + 1) * single.fractions ↔
      (d.toDouble negative).toSingle.magnitude ≤ single.fractions + (s + 1) * single.fractions ∧
        ¬ (d.toDouble negative).toSingle.magnitude ≤
          2 * single.fractions - 1 + s * single.fractions := by
    rw [Nat.succ_mul]
    omega
  have hodd : ¬ (2 * single.fractions - 1) % 2 = 0 := by decide
  have hcast : ((single.fractions : Nat) : ℚ) = 2 ^ 23 := by norm_num [fractions_eq, single]
  have hcast' : ((2 * single.fractions - 1 : Nat) : ℚ) = 2 ^ 24 - 1 := by
    norm_num [fractions_eq, single]
  have hexp : ∀ n, (2 : ℚ) ^ (s + (895 + n)) = 2 ^ (s + 895) * 2 ^ n := fun n => by
    rw [← Nat.add_assoc, pow_add]
  rw [hsplit, hupper, hlower, if_pos (by decide), if_neg hodd, hcast, hcast',
    show s + 1 + 924 = s + (895 + 30) by omega, show s + 1 + 872 + 24 = s + (895 + 2) by omega,
    show s + 924 = s + (895 + 29) by omega, show s + 872 + 24 = s + (895 + 1) by omega, hexp, hexp,
    hexp, hexp]
  generalize (2 : ℚ) ^ (s + 895) = u
  constructor
  · rintro ⟨hle, hge⟩
    constructor <;> linarith
  · rintro ⟨hge, hle⟩
    constructor <;> linarith

end Decimal

/-! ## Powers of two whose nearest decimal is too far below -/

/-- A power of two, which is `2^54` units, stands between two multiples of a step so that the one
below is the nearer one, but too far away to read as the power, and the one above is not. -/
def SkipsBelow (unit step : Nat) : Prop :=
  (2 ^ 29 + 1) * unit < 2 ^ 54 * unit % step ∧ 2 * (2 ^ 54 * unit % step) ≤ step ∧
    step ≤ 2 ^ 54 * unit % step + 2 * ((2 ^ 29 + 1) * unit)

instance (unit step : Nat) : Decidable (SkipsBelow unit step) :=
  inferInstanceAs (Decidable (_ ∧ _ ∧ _))

namespace SkipsBelow

theorem bounds {unit step : Nat} (h : SkipsBelow unit step) :
    2 ^ 30 * unit < step ∧ step < 2 ^ 32 * unit := by
  obtain ⟨hfar, hhalf, hnear⟩ := h
  generalize 2 ^ 54 * unit % step = below at *
  constructor <;> omega

/-- The binary logarithm that a power of two has for a given step, or one more than that. -/
def logarithm (n i : Nat) : Nat :=
  (2 ^ 149 * 10 ^ n / 10 ^ 44).log2 - i

theorem eq_logarithm {n t : Nat} (h : SkipsBelow (10 ^ 44 * 2 ^ t) (2 ^ 179 * 10 ^ n)) :
    ∃ i < 2, t = logarithm n i := by
  obtain ⟨hlow, hhigh⟩ := h.bounds
  simp only [logarithm]
  have hle : 2 ^ t ≤ 2 ^ 149 * 10 ^ n / 10 ^ 44 := by
    rw [Nat.le_div_iff_mul_le (Nat.pow_pos (by decide)), Nat.mul_comm]
    omega
  have hlt : 2 ^ 149 * 10 ^ n / 10 ^ 44 < 2 ^ (t + 2) := by
    rw [Nat.div_lt_iff_lt_mul (Nat.pow_pos (by decide)), pow_add, Nat.mul_comm _ (10 ^ 44)]
    omega
  generalize 2 ^ 149 * 10 ^ n / 10 ^ 44 = m at *
  have hne : m ≠ 0 := Nat.ne_of_gt (Nat.lt_of_lt_of_le (Nat.two_pow_pos t) hle)
  have hlog := (Nat.le_log2 hne).mpr hle
  have hlog' := (Nat.log2_lt hne).mpr hlt
  exact ⟨m.log2 - t, by omega, by omega⟩

theorem logarithm_mem : ∀ n < 76, ∀ i < 2,
    SkipsBelow (10 ^ 44 * 2 ^ logarithm n i) (2 ^ 179 * 10 ^ n) →
      logarithm n i ∈ [29, 212, 215] := by
  decide +kernel

/-- The last places at which this can happen are those from `10^-44` to `10^31`. -/
theorem exists_place {t : Nat} {p : ℤ} (ht : t < 253)
    (hlow : 2 ^ (t + 895) * 2 ^ 30 < Decimal.placeQuanta p)
    (hhigh : Decimal.placeQuanta p < 2 ^ (t + 895) * 2 ^ 32) : ∃ n : Nat, n < 76 ∧ p = n - 44 := by
  have hpos : (0 : ℚ) < 2 ^ 925 := by positivity
  have hsmall : (2 : ℚ) ^ 925 ≤ 2 ^ (t + 895) * 2 ^ 30 := by
    rw [← pow_add]
    exact pow_le_pow_right₀ (by norm_num) (by omega)
  have hlarge : (2 : ℚ) ^ (t + 895) * 2 ^ 32 ≤ 2 ^ 254 * 2 ^ 925 := by
    rw [← pow_add, ← pow_add]
    exact pow_le_pow_right₀ (by norm_num) (by omega)
  have hsubnormal := Decimal.placeQuanta_neg_45
  have hgreatest := Decimal.placeQuanta_32
  generalize (2 : ℚ) ^ 925 = w at *
  generalize (2 : ℚ) ^ (t + 895) = u at *
  have hlower : -45 < p := by
    refine lt_of_not_ge fun hle => ?_
    linarith [Decimal.placeQuanta_mono hle]
  have hupper : p < 32 := by
    refine lt_of_not_ge fun hle => ?_
    linarith [Decimal.placeQuanta_mono hle]
  exact ⟨(p + 44).toNat, by omega, by omega⟩

theorem of_multiple {unit step c : Nat} (pos : 0 < step)
    (hfar : (2 ^ 29 + 1) * unit + c * step < 2 ^ 54 * unit)
    (hhalf : 2 * (2 ^ 54 * unit) ≤ step + 2 * (c * step))
    (hnear : step + c * step ≤ 2 ^ 54 * unit + 2 * ((2 ^ 29 + 1) * unit)) :
    SkipsBelow unit step := by
  obtain ⟨below, hbelow⟩ : ∃ below, 2 ^ 54 * unit = c * step + below :=
    Nat.exists_eq_add_of_le (by omega)
  unfold SkipsBelow
  rw [hbelow] at hfar hhalf hnear ⊢
  rw [Nat.mul_add_mod_of_lt (by omega)]
  omega

/-- The same for units and steps that are measured by a common one. -/
theorem of_scaled {z : ℚ} (hz : 0 < z) {unit step c : Nat} (pos : 0 < step)
    (hfar : z * unit * (2 ^ 29 + 1) < z * unit * 2 ^ 54 - c * (z * step))
    (hhalf : 2 * (z * unit * 2 ^ 54 - c * (z * step)) ≤ z * step)
    (hnear : z * step ≤ z * unit * 2 ^ 54 - c * (z * step) + 2 * (z * unit * (2 ^ 29 + 1))) :
    SkipsBelow unit step := by
  have hfar' : (((2 ^ 29 + 1) * unit + c * step : Nat) : ℚ) < (2 ^ 54 * unit : Nat) := by
    refine lt_of_mul_lt_mul_left ?_ hz.le
    push_cast
    linarith
  have hhalf' : ((2 * (2 ^ 54 * unit) : Nat) : ℚ) ≤ (step + 2 * (c * step) : Nat) := by
    refine le_of_mul_le_mul_left ?_ hz
    push_cast
    linarith
  have hnear' : ((step + c * step : Nat) : ℚ) ≤
      (2 ^ 54 * unit + 2 * ((2 ^ 29 + 1) * unit) : Nat) := by
    refine le_of_mul_le_mul_left ?_ hz
    push_cast
    linarith
  exact of_multiple pos (Nat.cast_lt.mp hfar') (Nat.cast_le.mp hhalf') (Nat.cast_le.mp hnear')

/-- A multiple of the last place that is below a power of two, nearest to it and too far away, while
the next multiple is near enough. -/
theorem mem_of_place {t c : Nat} {p : ℤ} (ht : t < 253)
    (hfar : 2 ^ (t + 895) * (2 ^ 29 + 1) < 2 ^ (t + 895) * 2 ^ 54 - c * Decimal.placeQuanta p)
    (hhalf : 2 * (2 ^ (t + 895) * 2 ^ 54 - c * Decimal.placeQuanta p) ≤ Decimal.placeQuanta p)
    (hnear : Decimal.placeQuanta p ≤ 2 ^ (t + 895) * 2 ^ 54 - c * Decimal.placeQuanta p +
      2 * (2 ^ (t + 895) * (2 ^ 29 + 1))) :
    t ∈ [29, 212, 215] := by
  have hu : (0 : ℚ) < 2 ^ (t + 895) := pow_pos (by norm_num) _
  have hbounds : 2 ^ (t + 895) * 2 ^ 30 < Decimal.placeQuanta p ∧
      Decimal.placeQuanta p < 2 ^ (t + 895) * 2 ^ 32 := by
    generalize (2 : ℚ) ^ (t + 895) = u at *
    constructor <;> linarith
  obtain ⟨n, hn, rfl⟩ := exists_place ht hbounds.1 hbounds.2
  -- in units of `2^895 / 10^44` everything is an integer
  have hpos : (0 : ℚ) < 2 ^ 895 / 10 ^ 44 := div_pos (pow_pos (by norm_num) _) (by norm_num)
  have hunit : (2 : ℚ) ^ (t + 895) = 2 ^ 895 / 10 ^ 44 * (10 ^ 44 * 2 ^ t : Nat) := by
    rw [pow_add, Nat.cast_mul, Nat.cast_pow, Nat.cast_pow, Nat.cast_ofNat, Nat.cast_ofNat]
    field_simp
  have hstep : Decimal.placeQuanta ((n : ℤ) - 44) =
      2 ^ 895 / 10 ^ 44 * (2 ^ 179 * 10 ^ n : Nat) := by
    rw [Decimal.placeQuanta_eq, mul_assoc, ← pow_add, show 149 + 925 = 179 + 895 from rfl, pow_add,
      zpow_sub₀ (by norm_num), zpow_natCast, Nat.cast_mul, Nat.cast_pow, Nat.cast_pow,
      Nat.cast_ofNat, Nat.cast_ofNat]
    field_simp
  rw [hunit, hstep] at hfar hhalf hnear
  have hskips := of_scaled hpos (by positivity) hfar hhalf hnear
  obtain ⟨i, hi, rfl⟩ := eq_logarithm hskips
  exact logarithm_mem n hn i hi hskips

end SkipsBelow

/-! ## The nearest decimal -/

namespace Decimal

/-- The decimal `c`, which is `i` times a power of ten, is as near to a value as a multiple can be,
and no farther away than `d`, which is a multiple itself or has one between itself and the value.
The values are in quanta of 64 bits. -/
structure Nearer (v : ℚ) (c d : Decimal) (p : ℤ) (i j : Nat) : Prop where
  eq_multiple : c.doubleQuanta = i * placeQuanta p
  two_dist_le : 2 * |c.doubleQuanta - v| ≤ placeQuanta p
  dist_le : |c.doubleQuanta - v| ≤ |d.doubleQuanta - v|
  multiple : d.doubleQuanta = j * placeQuanta p ∨
    d.doubleQuanta ≤ j * placeQuanta p ∧ j * placeQuanta p ≤ v

theorem dist_doubleQuanta (d : Decimal) (v : ℚ) :
    |d.doubleQuanta - v| = |d.value - v / double.scale| * double.scale := by
  have hpos : (0 : ℚ) < double.scale := by exact_mod_cast double.scale_pos
  calc |d.doubleQuanta - v| = |(d.value - v / double.scale) * double.scale| := by
        rw [doubleQuanta, sub_mul, div_mul_cancel₀ _ hpos.ne']
    _ = |d.value - v / double.scale| * double.scale := by rw [abs_mul, abs_of_pos hpos]

/-- The rounding to significant digits is nearer than a decimal of as many. -/
theorem exists_nearer {d : Decimal} {count v : Nat} (hv : 0 < v) (hcount : 0 < count)
    (h : d.significantDigits.length ≤ count) :
    ∃ p i j, Nearer v (significant count v double.scale) d p i j := by
  have hpos : (0 : ℚ) < double.scale := by exact_mod_cast double.scale_pos
  obtain ⟨i, hi, hhalf⟩ := exists_significant double.scale_pos v count
  obtain ⟨j, hj⟩ := exists_multiple hv double.scale_pos hcount h
  have hdist := dist_significant_le hv double.scale_pos hcount h
  refine ⟨lastPlace count v double.scale, i, j, ⟨?_, ?_, ?_, ?_⟩⟩
  · rw [doubleQuanta, hi, placeQuanta, mul_assoc]
  · rw [dist_doubleQuanta, ← mul_assoc]
    exact mul_le_mul_of_nonneg_right hhalf hpos.le
  · rw [dist_doubleQuanta, dist_doubleQuanta]
    exact mul_le_mul_of_nonneg_right hdist hpos.le
  · rw [doubleQuanta, placeQuanta, ← mul_assoc]
    refine hj.imp (congrArg (· * (double.scale : ℚ))) fun hbetween => ⟨?_, ?_⟩
    · exact mul_le_mul_of_nonneg_right hbetween.1 hpos.le
    · exact (le_div_iff₀ hpos).mp hbetween.2

namespace Nearer
variable {v : ℚ} {c d : Decimal} {p : ℤ} {i j : Nat} (hnear : Nearer v c d p i j)
include hnear

/-- The multiple beside a decimal is not farther from the value than the decimal. -/
theorem dist_multiple_le : |j * placeQuanta p - v| ≤ |d.doubleQuanta - v| := by
  rcases hnear.multiple with heq | ⟨hle, hle'⟩
  · rw [heq]
  · rw [abs_sub_comm, abs_sub_comm d.doubleQuanta, abs_of_nonneg (by linarith),
      abs_of_nonneg (by linarith)]
    linarith

/-- If the decimal is beside another multiple, the step is not wider than both distances. -/
theorem place_le (hne : i ≠ j) :
    placeQuanta p ≤ |c.doubleQuanta - v| + |d.doubleQuanta - v| := by
  have hstep := le_dist_add_dist hne (placeQuanta_pos p) v
  rw [← hnear.eq_multiple] at hstep
  linarith [hnear.dist_multiple_le]

end Nearer

section
variable {c d : Decimal} {p : ℤ} {i j k s a t : Nat} {negative : Bool}

/-- Between powers of two the nearer decimal is read as the number if the other one is. -/
theorem Nearer.magnitude_eq (hnear : Nearer (k * 2 ^ (s + 925)) c d p i j)
    (hk : k < 2 * single.fractions) (hs : s = 0 ∨ single.fractions ≤ k)
    (hfinite : k + s * single.fractions < single.infinity)
    (hlow : 2 ^ a < k) (hhigh : k < 2 ^ (a + 1))
    (hd : (d.toDouble negative).toSingle.magnitude = k + s * single.fractions) :
    (c.toDouble negative).toSingle.magnitude = k + s * single.fractions := by
  rw [magnitude_eq_iff hk hs hfinite hlow hhigh] at hd ⊢
  split
  · next heven =>
    rw [if_pos heven] at hd
    exact hnear.dist_le.trans hd
  · next hodd =>
    rw [if_neg hodd] at hd
    exact hnear.dist_le.trans_lt hd

theorem magnitude_le_of_doubleQuanta_le (h : d.doubleQuanta ≤ c.doubleQuanta) (negative : Bool) :
    (d.toDouble negative).toSingle.magnitude ≤ (c.toDouble negative).toSingle.magnitude :=
  magnitude_toSingle_mono
    (le_of_mul_le_mul_right h (by exact_mod_cast double.scale_pos)) negative negative

/-- Where the numbers that are read reach `r` below a value and twice as far above it, a nearer
decimal that is not read is too far below, and the other one is beside another multiple. -/
theorem Nearer.far {v r : ℚ} (hnear : Nearer v c d p i j) (hr : 0 < r)
    (hd : v - r ≤ d.doubleQuanta ∧ d.doubleQuanta ≤ v + 2 * r)
    (hc : ¬ (v - r ≤ c.doubleQuanta ∧ c.doubleQuanta ≤ v + 2 * r)) :
    r < v - c.doubleQuanta ∧ placeQuanta p ≤ v - c.doubleQuanta + 2 * r := by
  have hdist : |d.doubleQuanta - v| ≤ 2 * r := abs_le.mpr ⟨by linarith, by linarith⟩
  have hbelow : r < v - c.doubleQuanta := by
    by_contra hle
    have habove : c.doubleQuanta ≤ v + 2 * r := by
      linarith [hnear.dist_le, le_abs_self (c.doubleQuanta - v)]
    exact hc ⟨by linarith, habove⟩
  have hne : i ≠ j := by
    rintro rfl
    have hmultiple := hnear.multiple
    rw [← hnear.eq_multiple] at hmultiple
    rcases hmultiple with heq | ⟨hle, -⟩ <;> linarith
  have hplace := hnear.place_le hne
  rw [abs_sub_comm, abs_of_pos (by linarith)] at hplace
  exact ⟨hbelow, by linarith⟩

/-- No power of ten is about as wide as a step of 32 bits between subnormal numbers. -/
theorem placeQuanta_far (p : ℤ) :
    placeQuanta p < 2 ^ 925 - 2 ^ 897 ∨ 2 ^ 925 + 2 ^ 897 < placeQuanta p := by
  have hw : (0 : ℚ) < 2 ^ 897 := pow_pos (by norm_num) _
  have hstep : (2 : ℚ) ^ 925 = 2 ^ 28 * 2 ^ 897 := by rw [← pow_add]
  have hless := placeQuanta_neg_45
  have hmore := placeQuanta_neg_44
  rw [hstep] at *
  generalize (2 : ℚ) ^ 897 = w at *
  rcases lt_or_ge p (-44) with hlt | hge
  · left
    linarith [placeQuanta_mono (show p ≤ -45 by omega)]
  · right
    linarith [placeQuanta_mono hge]

/-- So it is for the subnormal numbers and the least normal ones, powers of two among them. -/
theorem Nearer.magnitude_eq_of_subnormal (hnear : Nearer (k * 2 ^ 925) c d p i j)
    (hk : k < 2 * single.fractions) (hpos : 0 < k)
    (hd : (d.toDouble negative).toSingle.magnitude = k) :
    (c.toDouble negative).toSingle.magnitude = k := by
  obtain ⟨hread, -⟩ := magnitude_eq_bounds d negative hk hpos
  obtain ⟨-, hclose⟩ := magnitude_eq_bounds c negative hk hpos
  have hdist := hread hd
  have hhalf : (2 : ℚ) ^ 896 < 2 ^ 924 := pow_lt_pow_right₀ (by norm_num) (by decide)
  refine Decidable.byContradiction fun hc => ?_
  have hfar := le_of_not_gt (mt hclose hc)
  have hne : i ≠ j := by
    rintro rfl
    have hmultiple := hnear.multiple
    rw [← hnear.eq_multiple] at hmultiple
    rcases hmultiple with heq | ⟨hle, hle'⟩
    · have hsame := Nat.le_antisymm (magnitude_le_of_doubleQuanta_le heq.ge negative)
        (magnitude_le_of_doubleQuanta_le heq.le negative)
      exact hc (hsame.trans hd)
    -- between a decimal that is read as the number and the number itself
    · have hlower := hd.ge.trans (magnitude_le_of_doubleQuanta_le hle negative)
      have hupper := (magnitude_le_bounds c negative hk).2
        (hle'.trans_lt (lt_add_of_pos_right _ (sub_pos.mpr hhalf)))
      exact hc (Nat.le_antisymm hupper hlower)
  have hplace := hnear.place_le hne
  have hplace' := hnear.two_dist_le
  have hnearest := hnear.dist_le
  have hdouble : (2 : ℚ) ^ 925 = 2 * 2 ^ 924 := pow_succ' _ _
  have hdouble' : (2 : ℚ) ^ 897 = 2 * 2 ^ 896 := pow_succ' _ _
  have hplaces := placeQuanta_far p
  rw [hdouble, hdouble'] at hplaces
  generalize (k : ℚ) * 2 ^ 925 = v at *
  generalize (2 : ℚ) ^ 924 = half at *
  generalize (2 : ℚ) ^ 896 = w at *
  clear hdouble hdouble'
  rcases hplaces with hplaces | hplaces <;> linarith

/-- At a power of two the nearer decimal is read as the number, too, unless it is the one below and
the other one is above. -/
theorem Nearer.magnitude_eq_of_power
    (hnear : Nearer (single.fractions * 2 ^ (t + 926)) c d p i j) (ht : t < 253)
    (hexception : t ∉ [29, 212, 215])
    (hd : (d.toDouble negative).toSingle.magnitude =
      single.fractions + (t + 1) * single.fractions) :
    (c.toDouble negative).toSingle.magnitude =
      single.fractions + (t + 1) * single.fractions := by
  have hfinite : single.fractions + (t + 1) * single.fractions < single.infinity := by
    rw [show single.infinity = 255 * single.fractions by decide]
    have hF := single.fractions_pos
    nlinarith
  have hexp : single.fractionBits + (t + 926) = t + 895 + 54 := by
    show 23 + (t + 926) = _
    omega
  have hvalue : (single.fractions : ℚ) * 2 ^ (t + 926) = 2 ^ (t + 895) * 2 ^ 54 := by
    rw [fractions_eq, Nat.cast_pow, Nat.cast_ofNat, ← pow_add, ← pow_add, hexp]
  rw [hvalue] at hnear
  rw [magnitude_eq_iff_of_power hfinite] at hd ⊢
  refine Decidable.byContradiction fun hc => hexception ?_
  have hpos : (0 : ℚ) < 2 ^ (t + 895) * (2 ^ 29 + 1) :=
    mul_pos (pow_pos (by norm_num) _) (by norm_num)
  obtain ⟨hfar, hplace⟩ := hnear.far hpos hd hc
  have hhalf := hnear.two_dist_le
  rw [abs_sub_comm, abs_of_pos (hpos.trans hfar)] at hhalf
  rw [hnear.eq_multiple] at hfar hhalf hplace
  exact SkipsBelow.mem_of_place ht hfar hhalf hplace

end
end Decimal

/-! ## The text of a number -/

/-- The digits of a numeral without the zeros at both ends. -/
def Text.significantDigits (numeral : Text) : Text :=
  Text.trim (· = '0') (numeral.filter Char.isDigit)

theorem Text.length_trim_le {p : Char → Bool} {xs ys zs : Text} (hxs : ∀ c ∈ xs, p c = true)
    (hzs : ∀ c ∈ zs, p c = true) : (Text.trim p (xs ++ (ys ++ zs))).length ≤ ys.length := by
  rw [trim, List.dropWhile_append_of_pos hxs, List.dropWhile_append, List.length_reverse]
  split
  · rw [List.dropWhile_eq_nil_iff.mpr hzs]
    exact Nat.zero_le _
  · rw [List.reverse_append,
      List.dropWhile_append_of_pos fun c hc => hzs c (List.mem_reverse.mp hc)]
    refine (length_dropWhile_le _ _).trans ?_
    rw [List.length_reverse]
    exact length_dropWhile_le _ _

namespace Single
variable {s : Single} {d : Decimal} {count : Nat} {negative : Bool}

/-- The powers `2^-96`, `2^87` and `2^90` with the decimals of eight digits that are missed. -/
def missed : List (Nat × Decimal) :=
  [(0x0f800000, ⟨12621775, -36⟩), (0x6b000000, ⟨15474251, 19⟩), (0x6c800000, ⟨12379401, 20⟩)]

/-- There is one power of two among the numbers of 24 binary digits. -/
theorem eq_fractions_of_pow {a : Nat} (hlow : single.fractions ≤ 2 ^ a)
    (hhigh : 2 ^ a < 2 * single.fractions) : 2 ^ a = single.fractions := by
  have hlow' : 2 ^ 23 ≤ 2 ^ a := hlow
  have hhigh' : 2 ^ a < 2 ^ 24 := hhigh
  rw [Nat.pow_le_pow_iff_right (by decide)] at hlow'
  rw [Nat.pow_lt_pow_iff_right (by decide)] at hhigh'
  rw [show a = 23 by omega]
  rfl

/-- If a decimal reads as a number, so does the number's rounding to as many digits. -/
theorem magnitude_significant (h : s.isFinite = true) (hne : s.magnitude ≠ 0)
    (hmissed : s.magnitude ∉ missed.map Prod.fst) (hcount : 0 < count)
    (hdigits : d.significantDigits.length ≤ count)
    (hd : (d.toDouble negative).toSingle.magnitude = s.magnitude) :
    ((Decimal.significant count (s.quanta * 2 ^ 925) double.scale).toDouble
      negative).toSingle.magnitude = s.magnitude := by
  obtain ⟨k, e, hm, hk, he⟩ := single.exists_parts s.magnitude
  have hfinite := BinaryFloat.isFinite_iff.mp h
  have hF := single.fractions_pos
  have hkpos : 0 < k := by
    rcases he with rfl | hle <;> omega
  have hquanta : s.quanta * 2 ^ 925 = k * 2 ^ (e + 925) := by
    rw [BinaryFloat.quanta, hm, single.quanta_parts hk.le he, pow_add, Nat.mul_assoc]
  obtain ⟨p, i, j, hnear⟩ := Decimal.exists_nearer (doubleQuanta_pos hne) hcount hdigits
  rw [hquanta] at hnear ⊢
  rw [Nat.cast_mul, Nat.cast_pow, Nat.cast_ofNat] at hnear
  rw [hm] at hd hfinite ⊢
  have hlow : 2 ^ k.log2 ≤ k := Nat.log2_self_le hkpos.ne'
  have hhigh : k < 2 ^ (k.log2 + 1) := Nat.lt_log2_self
  rcases Nat.lt_or_eq_of_le hlow with hlt | heq
  · exact hnear.magnitude_eq hk he hfinite hlt hhigh hd
  · cases e with
    | zero =>
      simp only [Nat.zero_mul, Nat.add_zero, Nat.zero_add] at hd hnear ⊢
      exact hnear.magnitude_eq_of_subnormal hk hkpos hd
    | succ t =>
      have hlarge : single.fractions ≤ k := he.resolve_left (Nat.succ_ne_zero t)
      obtain rfl : k = single.fractions :=
        heq.symm.trans (eq_fractions_of_pow (hlarge.trans heq.ge) (heq.le.trans_lt hk))
      rw [show t + 1 + 925 = t + 926 by omega] at hnear ⊢
      have hpowers : ∀ t ∈ [29, 212, 215],
          single.fractions + (t + 1) * single.fractions ∈ missed.map Prod.fst := by decide
      refine hnear.magnitude_eq_of_power ?_ (fun ht => hmissed (hm ▸ hpowers t ht)) hd
      rw [show single.infinity = 255 * single.fractions by decide] at hfinite
      have hlt : t + 2 < 255 := Nat.lt_of_mul_lt_mul_right (a := single.fractions) (by linarith)
      omega

/-- No decimal that reads as the number has fewer significant digits than the decimal for it. -/
theorem length_literalDecimal_le (h : s.isFinite = true) (hne : s.magnitude ≠ 0)
    (hmissed : s.magnitude ∉ missed.map Prod.fst)
    (hd : (d.toDouble negative).toSingle.magnitude = s.magnitude) :
    s.toDouble.literalDecimal.significantDigits.length ≤ d.significantDigits.length := by
  obtain ⟨n, hpos, hdecimal, -, hleast⟩ := exists_literalDecimal h hne
  obtain ⟨-, hvalue⟩ := toDouble_finite h
  have hnum : s.toDouble.num = s.quanta * 2 ^ 925 := hvalue
  have hquanta : 0 < s.toDouble.num := by
    rw [hnum]
    exact doubleQuanta_pos hne
  have hcount : 0 < d.significantDigits.length :=
    Decimal.length_significantDigits_pos (Decimal.value_pos (hd ▸ hne))
  have hlength : s.toDouble.literalDecimal.significantDigits.length ≤ n := by
    rw [hdecimal]
    exact Decimal.length_significant_le hquanta double.scale_pos hpos
  refine hlength.trans (Nat.le_of_not_lt fun hlt => ?_)
  have hread := magnitude_significant h hne hmissed hcount le_rfl hd
  have hnone := hleast _ hcount hlt
  rw [hnum, ← Bool.not_eq_true, readsBackSingle_iff h _ negative] at hnone
  exact hnone hread

/-- The text of a number has no other digits than the decimal for it and zeros around them. -/
theorem length_significantDigits_text_le (h : s.isFinite = true) (hne : s.magnitude ≠ 0) :
    (Text.significantDigits s.text).length ≤
      s.toDouble.literalDecimal.significantDigits.length := by
  have hread := literalDecimal_toSingle h hne false
  have hpos := Decimal.length_significantDigits_pos (Decimal.value_pos (hread ▸ hne))
  obtain ⟨whole, fraction, i, j, hplain, hwhole, hfraction, hdigits, -⟩ :=
    Decimal.pointAt_plain (List.ne_nil_of_length_pos hpos)
  have hsign : (if s.negative then ['-'] else []).filter Char.isDigit = [] := by
    split <;> rfl
  have hfilter : s.text.filter Char.isDigit = whole ++ fraction := by
    rw [text_eq h, if_neg hne, hplain, List.filter_append, List.filter_append, hsign,
      List.filter_cons_of_neg (by decide), List.filter_eq_self.mpr hwhole.isDigit,
      List.filter_eq_self.mpr hfraction.isDigit, List.nil_append]
  rw [Text.significantDigits, hfilter, hdigits]
  exact Text.length_trim_le (by simp) (by simp)

theorem missed_reads : ∀ x ∈ missed, ∀ negative : Bool,
    (x.2.toDouble negative).toSingle.magnitude = x.1 ∧
      x.2.significantDigits.length <
        (Text.significantDigits (text ((x.2.toDouble negative).toSingle))).length := by
  decide +kernel

/-- A number's text has the fewest significant digits among the decimals that read as the number,
unless the number is one of three powers of two, or the opposite of one. -/
theorem text_shortest_iff (h : s.isFinite = true) (hne : s.magnitude ≠ 0) :
    (∀ d : Decimal, (d.toDouble s.negative).toSingle = s →
      (Text.significantDigits s.text).length ≤ d.significantDigits.length) ↔
    s.magnitude ∉ [0x0f800000, 0x6b000000, 0x6c800000] := by
  constructor
  · intro hshortest hmem
    obtain ⟨x, hx, hmagnitude⟩ := List.mem_map.mp (show s.magnitude ∈ missed.map Prod.fst from hmem)
    obtain ⟨hread, hlt⟩ := missed_reads x hx s.negative
    have heq : (x.2.toDouble s.negative).toSingle = s :=
      BinaryFloat.eq_of_parts (BinaryFloat.negative_convert _) (hread.trans hmagnitude)
    rw [heq] at hlt
    exact absurd (hshortest x.2 heq) (Nat.not_le_of_lt hlt)
  · intro hmissed d hd
    exact (length_significantDigits_text_le h hne).trans
      (length_literalDecimal_le h hne hmissed (congrArg BinaryFloat.magnitude hd))

/-- The greatest number is written with eight digits, and cannot be with fewer. -/
theorem text_shortest_at_greatest :
    (⟨false, 0x7f7fffff, by decide⟩ : Single).isFinite = true ∧
      ∀ d : Decimal, (d.toDouble false).toSingle = ⟨false, 0x7f7fffff, by decide⟩ →
        8 ≤ d.significantDigits.length := by
  have hfinite : (⟨false, 0x7f7fffff, by decide⟩ : Single).isFinite = true := by decide
  have hshortest := (text_shortest_iff hfinite (by decide)).mpr (by decide)
  have hlength : (Text.significantDigits (text ⟨false, 0x7f7fffff, by decide⟩)).length = 8 := by
    decide +kernel
  exact ⟨hfinite, fun d hd => hlength ▸ hshortest d hd⟩

/-- The power `2^90` is written with nine digits, and reads back from eight. -/
theorem text_misses_shorter :
    ¬ ∀ v : Single, v.isFinite = true → v.magnitude ≠ 0 → ∀ d : Decimal,
      (d.toDouble v.negative).toSingle = v →
        (Text.significantDigits v.text).length ≤ d.significantDigits.length := by
  intro hshortest
  have hle := hshortest ⟨false, 0x6c800000, by decide⟩ (by decide) (by decide) ⟨12379401, 20⟩
    (by decide +kernel)
  revert hle
  decide +kernel

end Single
end EffectLang
