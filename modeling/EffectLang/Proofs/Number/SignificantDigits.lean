import EffectLang.Proofs.Number.Value
import EffectLang.Proofs.Number.LiteralText

/-!
# Fewest digits

The decimals with at most `count` significant digits are multiples of the last place of a quotient,
or do not reach its leading digit. `Decimal.significant count` is one of them, and no other one is
nearer to the quotient.
-/

namespace EffectLang

/-! ## Counting significant digits -/

theorem length_dropWhile_le {α : Type} (p : α → Bool) (xs : List α) :
    (xs.dropWhile p).length ≤ xs.length :=
  (List.dropWhile_suffix p).length_le

/-- Two different multiples are at least a step apart. -/
theorem le_dist_add_dist {i j : Nat} (h : i ≠ j) {step : ℚ} (pos : 0 < step) (x : ℚ) :
    step ≤ |i * step - x| + |j * step - x| := by
  have hone : (1 : ℚ) ≤ |(i : ℚ) - j| := by
    exact_mod_cast Int.one_le_abs (sub_ne_zero.mpr (Nat.cast_injective.ne h : (i : ℤ) ≠ j))
  calc step ≤ |(i : ℚ) - j| * step := le_mul_of_one_le_left pos.le hone
    _ = |i * step - j * step| := by rw [← sub_mul, abs_mul, abs_of_pos pos]
    _ ≤ |i * step - x| + |j * step - x| := by
        rw [abs_sub_comm (j * step) x]
        exact abs_sub_le _ _ _

namespace Decimal

theorem length_significantDigits_le (d : Decimal) :
    d.significantDigits.length ≤ (digitsOf d.coefficient).length := by
  have hle := length_dropWhile_le (· = '0') (digitsOf d.coefficient).reverse
  rw [List.length_reverse] at hle
  rwa [significantDigits, List.length_reverse]

/-- A zero at the end of a coefficient is not significant. -/
theorem significantDigits_ten_mul {n : Nat} (h : 0 < n) (e e' : Int) :
    significantDigits ⟨10 * n, e⟩ = significantDigits ⟨n, e'⟩ := by
  have hdigits : digitsOf (10 * n) = digitsOf n ++ ['0'] :=
    (Nat.toDigits_append_toDigits (by decide) h (by decide : 0 < 10)).symm
  rw [significantDigits, hdigits, List.reverse_append]
  rfl

theorem significantDigits_pow_ten (n : Nat) (e : Int) :
    significantDigits ⟨10 ^ n, e⟩ = ['1'] := by
  induction n with
  | zero =>
    rw [pow_zero, significantDigits]
    dsimp only
    decide
  | succ n ih =>
    rw [pow_succ', significantDigits_ten_mul (Nat.pow_pos (by decide)) e e, ih]

/-- Up to `10^n`, a coefficient has at most `n` significant digits. -/
theorem length_significantDigits_le_of_le {c n : Nat} (hn : 0 < n) (h : c ≤ 10 ^ n) (e : Int) :
    (significantDigits ⟨c, e⟩).length ≤ n := by
  rcases Nat.lt_or_eq_of_le h with hlt | rfl
  · refine Nat.le_trans (length_significantDigits_le _) ?_
    exact (Nat.length_toDigits_le_iff (by decide) hn).mpr hlt
  · rw [significantDigits_pow_ten]
    exact hn

/-- The value of a decimal as its significant digits and a power of ten. -/
theorem exists_value_eq (d : Decimal) :
    ∃ (c : Nat) (e : Int), c < 10 ^ d.significantDigits.length ∧ d.value = c * 10 ^ e := by
  obtain ⟨n, hn⟩ := d.digitsOf_coefficient
  have hcoefficient : d.coefficient = ofDigits d.significantDigits * 10 ^ n := by
    rw [← ofDigits_append_zeros, ← hn, ofDigits_digitsOf]
  refine ⟨ofDigits d.significantDigits, d.exponent + n, ?_, ?_⟩
  · have hlength : (digitsOf d.coefficient).length = d.significantDigits.length + n := by
      rw [hn, List.length_append, List.length_replicate]
    have hlt : d.coefficient < 10 ^ (d.significantDigits.length + n) := by
      refine (Nat.length_toDigits_le_iff (by decide) ?_).mp (Nat.le_of_eq hlength)
      exact hlength ▸ Nat.length_toDigits_pos
    rw [hcoefficient, pow_add] at hlt
    exact Nat.lt_of_mul_lt_mul_right hlt
  · rw [value, hcoefficient, zpow_add₀ (by norm_num), zpow_natCast]
    push_cast
    ring

theorem length_significantDigits_pos {d : Decimal} (h : 0 < d.value) :
    0 < d.significantDigits.length := by
  obtain ⟨c, e, hc, hvalue⟩ := d.exists_value_eq
  refine Nat.pos_of_ne_zero fun hzero => ?_
  obtain rfl : c = 0 := by
    rw [hzero] at hc
    exact Nat.lt_one_iff.mp hc
  rw [hvalue, Nat.cast_zero, zero_mul] at h
  exact lt_irrefl _ h

/-! ## The leading digit -/

variable {num den : Nat} (hnum : 0 < num) (hden : 0 < den)
include hnum hden

/-- The leading digit of a quotient does not stand before its leading exponent. -/
theorem lt_powerOfTen_leadingExponent :
    num * powerOfTen (-(leadingExponent num den + 1)) <
      den * powerOfTen (leadingExponent num den + 1) := by
  unfold leadingExponent
  split
  · have hpow := lt_pow_digitCount (num / den)
    rw [powerOfTen_eq, powerOfTen_eq, sub_add_cancel, Int.toNat_natCast, Int.toNat_neg_natCast,
      pow_zero, Nat.mul_one, Nat.mul_comm]
    exact (Nat.div_lt_iff_lt_mul hden).mp hpow
  · next hlt =>
    have hquot : (den - 1) / num ≠ 0 := (Nat.div_pos (by omega) hnum).ne'
    have hpow := pow_le_of_digitCount hquot
    have hcount : 0 < digitCount ((den - 1) / num) := by
      rw [digitCount, if_neg hquot]
      exact Nat.length_toDigits_pos
    generalize digitCount ((den - 1) / num) = n at *
    rw [powerOfTen_eq, powerOfTen_eq, show (-(-(n : Int) + 1)).toNat = n - 1 by omega,
      show (-(n : Int) + 1).toNat = 0 by omega, pow_zero, Nat.mul_one, Nat.mul_comm]
    have hle := (Nat.le_div_iff_mul_le hnum).mp hpow
    omega

theorem zpow_leadingExponent_le : (10 : ℚ) ^ leadingExponent num den ≤ num / den := by
  have hle := powerOfTen_leadingExponent_le hnum hden
  rw [← powerOfTen_div, div_le_div_iff₀ (by exact_mod_cast powerOfTen_pos _)
    (by exact_mod_cast hden), mul_comm]
  exact_mod_cast hle

theorem lt_zpow_leadingExponent : (num / den : ℚ) < 10 ^ (leadingExponent num den + 1) := by
  have hlt := lt_powerOfTen_leadingExponent hnum hden
  rw [← powerOfTen_div, div_lt_div_iff₀ (by exact_mod_cast hden)
    (by exact_mod_cast powerOfTen_pos _), mul_comm (powerOfTen _ : ℚ)]
  exact_mod_cast hlt

/-! ## The nearest decimal -/

/-- No decimal of few enough digits lies between a quotient and all multiples of its last place. -/
theorem exists_multiple {d : Decimal} {count : Nat} (hcount : 0 < count)
    (h : d.significantDigits.length ≤ count) :
    ∃ j : Nat, d.value = j * 10 ^ lastPlace count num den ∨
      d.value ≤ j * 10 ^ lastPlace count num den ∧
        j * 10 ^ lastPlace count num den ≤ (num / den : ℚ) := by
  obtain ⟨c, e, hc, hvalue⟩ := d.exists_value_eq
  have hten : (10 : ℚ) ≠ 0 := by norm_num
  have hlead := zpow_leadingExponent_le hnum hden
  have hplace : leadingExponent num den = lastPlace count num den + (count - 1 : Nat) := by
    rw [lastPlace]
    omega
  rw [hvalue]
  generalize lastPlace count num den = p at *
  rcases le_or_gt p e with hle | hlt
  · obtain ⟨i, rfl⟩ := Int.le.dest hle
    refine ⟨c * 10 ^ i, .inl ?_⟩
    rw [zpow_add₀ hten, zpow_natCast]
    push_cast
    ring
  -- the leading power of ten is a multiple, and the decimal does not reach it
  · rw [hplace, zpow_add₀ hten, zpow_natCast, mul_comm] at hlead
    refine ⟨10 ^ (count - 1), .inr ⟨?_, by push_cast; exact hlead⟩⟩
    have hcoefficient : (c : ℚ) ≤ 10 ^ (count - 1) * 10 := by
      rw [← pow_succ, Nat.sub_add_cancel hcount]
      exact_mod_cast hc.le.trans (Nat.pow_le_pow_right (by decide) h)
    have hpow : (10 : ℚ) * 10 ^ e ≤ 10 ^ p := by
      rw [← zpow_one_add₀ hten]
      exact zpow_le_zpow_right₀ (by norm_num) (by omega)
    calc (c : ℚ) * 10 ^ e ≤ 10 ^ (count - 1) * 10 * 10 ^ e :=
          mul_le_mul_of_nonneg_right hcoefficient (by positivity)
      _ = 10 ^ (count - 1) * (10 * 10 ^ e) := by ring
      _ ≤ ((10 ^ (count - 1) : Nat) : ℚ) * 10 ^ p := by
          push_cast
          exact mul_le_mul_of_nonneg_left hpow (by positivity)

omit hnum in
/-- The rounding to significant digits is a multiple of the last place, at most half a place off. -/
theorem exists_significant (num count : Nat) :
    ∃ c : Nat, (significant count num den).value = c * 10 ^ lastPlace count num den ∧
      2 * |(significant count num den).value - num / den| ≤ 10 ^ lastPlace count num den := by
  have hden' : (0 : ℚ) < den := by exact_mod_cast hden
  have hpower := powerOfTen_div (lastPlace count num den)
  have hpos : 0 < den * powerOfTen (lastPlace count num den) := Nat.mul_pos hden (powerOfTen_pos _)
  have hplace : (0 : ℚ) < powerOfTen (-lastPlace count num den) := by
    exact_mod_cast powerOfTen_pos _
  obtain ⟨hup, hlow, -, -⟩ :=
    roundHalfEven_bounds (num * powerOfTen (-lastPlace count num den)) hpos
  refine ⟨_, rfl, ?_⟩
  unfold significant value
  dsimp only
  rw [← hpower]
  generalize powerOfTen (-lastPlace count num den) = q at *
  generalize powerOfTen (lastPlace count num den) = p at *
  generalize roundHalfEven (num * q) (den * p) = c at *
  have hscale : (c * (p / q) - num / den : ℚ) = (c * (den * p) - num * q) / (den * q) := by
    field_simp
  have hstep : (p / q : ℚ) = den * p / (den * q) := by field_simp
  rw [hscale, hstep, abs_div, abs_of_pos (mul_pos hden' hplace), ← mul_div_assoc]
  refine div_le_div_of_nonneg_right ?_ (by positivity)
  have hup' : (2 * (num * q) : ℚ) ≤ den * p * (2 * c + 1) := by exact_mod_cast hup
  have hlow' : (2 * (den * p * c) : ℚ) ≤ 2 * (num * q) + den * p := by exact_mod_cast hlow
  have habs : |(c * (den * p) - num * q : ℚ)| ≤ den * p / 2 :=
    abs_le.mpr ⟨by linarith, by linarith⟩
  linarith

theorem length_significant_le {count : Nat} (hcount : 0 < count) :
    (significant count num den).significantDigits.length ≤ count := by
  refine length_significantDigits_le_of_le hcount (roundHalfEven_le_of_lt_mul ?_) _
  have hlt := lt_zpow_leadingExponent hnum hden
  have hden' : (0 : ℚ) < den := by exact_mod_cast hden
  have hplace : (0 : ℚ) < powerOfTen (-lastPlace count num den) := by
    exact_mod_cast powerOfTen_pos _
  rw [show leadingExponent num den + 1 = lastPlace count num den + count by rw [lastPlace]; omega,
    zpow_add₀ (by norm_num), zpow_natCast, ← powerOfTen_div, div_mul_eq_mul_div,
    div_lt_div_iff₀ hden' hplace] at hlt
  have hlt' : num * powerOfTen (-lastPlace count num den) <
      powerOfTen (lastPlace count num den) * 10 ^ count * den := by exact_mod_cast hlt
  linarith

/-- No decimal of as many significant digits is nearer to a quotient than its rounding. -/
theorem dist_significant_le {d : Decimal} {count : Nat} (hcount : 0 < count)
    (h : d.significantDigits.length ≤ count) :
    |(significant count num den).value - num / den| ≤ |d.value - num / den| := by
  have pos : (0 : ℚ) < 10 ^ lastPlace count num den := by positivity
  obtain ⟨c, hc, hhalf⟩ := exists_significant hden num count
  obtain ⟨j, hj⟩ := exists_multiple hnum hden hcount h
  -- the multiple is nearer than any other one, and the decimal is not nearer than the multiple
  have hmultiple : |(significant count num den).value - num / den| ≤
      |(j : ℚ) * 10 ^ lastPlace count num den - num / den| := by
    by_cases hne : c = j
    · rw [hc, hne]
    · have hstep := le_dist_add_dist hne pos (num / den)
      rw [hc] at hhalf ⊢
      linarith
  rcases hj with hj | ⟨hle, hle'⟩
  · rwa [hj]
  · refine hmultiple.trans ?_
    rw [abs_sub_comm, abs_sub_comm d.value, abs_of_nonneg (by linarith),
      abs_of_nonneg (by linarith)]
    linarith

end Decimal
end EffectLang
