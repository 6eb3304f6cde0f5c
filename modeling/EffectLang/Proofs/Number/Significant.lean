import Mathlib.Tactic.Ring
import Mathlib.Tactic.Linarith
import EffectLang.Number.Decimal
import EffectLang.Proofs.Number.Nearest

/-!
# Rounding to significant digits

`Decimal.significant count num den` is within half a unit of its last place of `num / den`, and that
place is far enough to the right: the quotient has at least `count` digits before it.
-/

namespace EffectLang

/-! ## Powers of ten -/

theorem powerOfTen_eq (e : Int) : powerOfTen e = 10 ^ e.toNat := rfl

/-- Shifting the point by `n` places scales a quotient by `10^n`. -/
theorem powerOfTen_shift (e : Int) (n : Nat) :
    powerOfTen (e - n) * powerOfTen (-e) * 10 ^ n = powerOfTen e * powerOfTen (n - e) := by
  simp only [powerOfTen_eq, ← pow_add]
  congr 1
  omega

theorem lt_pow_digitCount (n : Nat) : n < 10 ^ digitCount n := by
  unfold digitCount
  split
  · omega
  · exact (Nat.length_toDigits_le_iff (by decide) Nat.length_toDigits_pos).mp (Nat.le_refl _)

theorem pow_le_of_digitCount {n : Nat} (h : n ≠ 0) : 10 ^ (digitCount n - 1) ≤ n := by
  rw [digitCount, if_neg h]
  rcases Nat.lt_or_ge 1 (digitsOf n).length with hlong | hshort
  · refine Nat.le_of_not_lt fun hlt => ?_
    have hle : (digitsOf n).length ≤ (digitsOf n).length - 1 :=
      (Nat.length_toDigits_le_iff (by decide) (by omega)).mpr hlt
    omega
  · rw [show (digitsOf n).length - 1 = 0 by omega]
    omega

namespace Decimal

/-- The leading digit of a quotient stands at its leading exponent, or before it. -/
theorem powerOfTen_leadingExponent_le {num den : Nat} (hnum : 0 < num) (hden : 0 < den) :
    den * powerOfTen (leadingExponent num den) ≤
      num * powerOfTen (-leadingExponent num den) := by
  unfold leadingExponent
  split
  · next hle =>
    have hquot : num / den ≠ 0 := Nat.pos_iff_ne_zero.mp (Nat.div_pos hle hden)
    have hpow := pow_le_of_digitCount hquot
    have hpos : 0 < digitCount (num / den) := by
      rw [digitCount, if_neg hquot]
      exact Nat.length_toDigits_pos
    rw [powerOfTen_eq, powerOfTen_eq, show ((digitCount (num / den) : Int) - 1).toNat =
      digitCount (num / den) - 1 by omega, show (-((digitCount (num / den) : Int) - 1)).toNat = 0 by
      omega, pow_zero, Nat.mul_one]
    exact Nat.le_trans (Nat.mul_le_mul_left _ hpow) (Nat.mul_div_le num den)
  · have hpow := lt_pow_digitCount ((den - 1) / num)
    rw [powerOfTen_eq, powerOfTen_eq, show (-(digitCount ((den - 1) / num) : Int)).toNat = 0 by
      omega, show (- -(digitCount ((den - 1) / num) : Int)).toNat =
      digitCount ((den - 1) / num) by omega, pow_zero, Nat.mul_one]
    have hlt := (Nat.div_lt_iff_lt_mul hnum).mp hpow
    rw [Nat.mul_comm]
    omega

/-- The quotient has at least `count` digits up to its last place. -/
theorem pow_le_lastPlace {num den : Nat} (hnum : 0 < num) (hden : 0 < den) (n : Nat) :
    10 ^ n * (den * powerOfTen (lastPlace (n + 1) num den)) ≤
      num * powerOfTen (-lastPlace (n + 1) num den) := by
  have hlead := powerOfTen_leadingExponent_le hnum hden
  unfold lastPlace
  generalize leadingExponent num den = e at *
  rw [show e - (n + 1 : Nat) + 1 = e - n by omega, show -(e - (n : Int)) = n - e by omega]
  refine Nat.le_of_mul_le_mul_right ?_ (powerOfTen_pos (-e))
  calc 10 ^ n * (den * powerOfTen (e - n)) * powerOfTen (-e)
      = den * (powerOfTen (e - n) * powerOfTen (-e) * 10 ^ n) := by ring
    _ = den * powerOfTen e * powerOfTen (n - e) := by rw [powerOfTen_shift]; ring
    _ ≤ num * powerOfTen (-e) * powerOfTen (n - e) := Nat.mul_le_mul_right _ hlead
    _ = num * powerOfTen (n - e) * powerOfTen (-e) := by ring

/-- `n + 1` significant digits are within half a part in `10^n` of the quotient. -/
theorem significant_close {num den : Nat} (hnum : 0 < num) (hden : 0 < den) (n : Nat) :
    2 * 10 ^ n * (num * (significant (n + 1) num den).den) ≤
      2 * 10 ^ n * ((significant (n + 1) num den).num * den) +
        num * (significant (n + 1) num den).den ∧
    2 * 10 ^ n * ((significant (n + 1) num den).num * den) ≤
      2 * 10 ^ n * (num * (significant (n + 1) num den).den) +
        num * (significant (n + 1) num den).den := by
  have hplace := pow_le_lastPlace hnum hden n
  have hpos : 0 < den * powerOfTen (lastPlace (n + 1) num den) :=
    Nat.mul_pos hden (powerOfTen_pos _)
  obtain ⟨hup, hlow, -, -⟩ :=
    roundHalfEven_bounds (num * powerOfTen (-lastPlace (n + 1) num den)) hpos
  unfold significant Decimal.num Decimal.den
  dsimp only
  generalize powerOfTen (-lastPlace (n + 1) num den) = p at *
  generalize powerOfTen (lastPlace (n + 1) num den) = q at *
  generalize roundHalfEven (num * p) (den * q) = c at *
  rw [show c * q * den = c * (den * q) by ring]
  generalize num * p = a at *
  generalize den * q = b at *
  -- a half of the last place is at most `a / (2 · 10^n)`
  have hc : 10 ^ n * (b * (2 * c + 1)) = 2 * 10 ^ n * (c * b) + 10 ^ n * b := by ring
  have hc' : 10 ^ n * (2 * (b * c)) = 2 * 10 ^ n * (c * b) := by ring
  have ha : 10 ^ n * (2 * a) = 2 * 10 ^ n * a := by ring
  have hup' := Nat.mul_le_mul_left (10 ^ n) hup
  have hlow' := Nat.mul_le_mul_left (10 ^ n) hlow
  rw [Nat.mul_add] at hlow'
  constructor
  · omega
  · omega

end Decimal
end EffectLang
