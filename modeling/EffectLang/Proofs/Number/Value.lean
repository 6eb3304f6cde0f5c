import Mathlib.Algebra.Order.Field.Rat
import Mathlib.Algebra.Order.Field.Power
import Mathlib.Tactic.FieldSimp
import Mathlib.Tactic.Positivity
import EffectLang.Expr.Parse
import EffectLang.Proofs.Number.ReadBack

/-!
# Exact values

The numbers of a binary format, decimals and numerals have values among the rational numbers. Seen
from there, rounding to a format takes the nearest finite number, and of two equally near ones the
even one.
-/

namespace EffectLang

/-! ## Decimals and numerals -/

/-- The value of a decimal. -/
def Decimal.value (d : Decimal) : ℚ :=
  d.coefficient * 10 ^ d.exponent

/-- The value of a numeral with a point: the digits before the point count ones, those after it
fractions. -/
def Text.numeralValue (numeral : Text) : ℚ :=
  let whole := numeral.takeWhile (· ≠ '.')
  let fraction := (numeral.dropWhile (· ≠ '.')).drop 1
  ofDigits whole + ofDigits fraction / 10 ^ fraction.length

namespace Decimal

theorem powerOfTen_div (e : ℤ) : (powerOfTen e : ℚ) / powerOfTen (-e) = 10 ^ e := by
  simp only [powerOfTen_eq, Nat.cast_pow, Nat.cast_ofNat]
  rw [div_eq_iff (by positivity), ← zpow_natCast, ← zpow_natCast, ← zpow_add₀ (by norm_num)]
  congr 1
  omega

theorem value_eq (d : Decimal) : d.value = d.num / d.den := by
  rw [value, num, den, ← powerOfTen_div]
  push_cast
  ring

theorem value_pointDecimal (numeral : Text) :
    (pointDecimal numeral).value = numeral.numeralValue := by
  unfold value pointDecimal Text.numeralValue
  generalize numeral.takeWhile (· ≠ '.') = whole
  generalize (numeral.dropWhile (· ≠ '.')).drop 1 = fraction
  have hdigits : ofDigits (whole ++ fraction) =
      10 ^ fraction.length * ofDigits whole + ofDigits fraction := by
    unfold ofDigits
    rw [Nat.ofDigitChars_append, Nat.ofDigitChars_eq_ofDigitChars_zero]
  dsimp only
  rw [hdigits, zpow_neg, zpow_natCast]
  push_cast
  field_simp

end Decimal

/-! ## Numbers of a format -/

/-- The value of a finite number. -/
def BinaryFloat.value {f : Format} (v : BinaryFloat f) : ℚ :=
  (if v.negative then -1 else 1) * (v.quanta / f.scale)

/-- The finite number is nearest to a rational one. If a number of another value is as near, it is
the even one of the two. -/
structure BinaryFloat.IsNearest {f : Format} (q : ℚ) (v : BinaryFloat f) : Prop where
  isFinite : v.isFinite = true
  dist_le : ∀ w : BinaryFloat f, w.isFinite = true → |q - v.value| ≤ |q - w.value|
  even : ∀ w : BinaryFloat f, w.isFinite = true → |q - v.value| = |q - w.value| →
    w.value ≠ v.value → v.magnitude % 2 = 0

/-! ## Cells -/

section
variable {x a b : ℚ}

theorem dist_le_of_two_mul_le (hab : a ≤ b) (h : 2 * x ≤ a + b) : |x - a| ≤ |x - b| := by
  rw [abs_sub_comm x b, abs_of_nonneg (by linarith : 0 ≤ b - x)]
  exact abs_le.mpr ⟨by linarith, by linarith⟩

theorem dist_le_of_le_two_mul (hab : a ≤ b) (h : a + b ≤ 2 * x) : |x - b| ≤ |x - a| := by
  rw [abs_of_nonneg (by linarith : 0 ≤ x - a)]
  exact abs_le.mpr ⟨by linarith, by linarith⟩

/-- Only the middle is equally far from two points. -/
theorem two_mul_eq_of_dist_eq (hab : a < b) (h : |x - a| = |x - b|) : 2 * x = a + b := by
  rcases abs_eq_abs.mp h with h | h <;> linarith

end

namespace Format.Rounds
variable {f : Format} {num den m : Nat}

theorem two_mul_le (h : f.Rounds num den m) (pos : 0 < den) :
    2 * (num / den : ℚ) ≤ f.quanta m + f.quanta (m + 1) := by
  have hden : (0 : ℚ) < den := by exact_mod_cast pos
  have hle : (2 * num : ℚ) ≤ den * (f.quanta m + f.quanta (m + 1)) := by exact_mod_cast h.le_upper
  rwa [← mul_div_assoc, div_le_iff₀' hden]

theorem le_two_mul {p : Nat} (h : f.Rounds num den (p + 1)) (pos : 0 < den) :
    (f.quanta p + f.quanta (p + 1) : ℚ) ≤ 2 * (num / den) := by
  have hden : (0 : ℚ) < den := by exact_mod_cast pos
  have hle : (den * (f.quanta p + f.quanta (p + 1)) : ℚ) ≤ 2 * num := by
    exact_mod_cast h.lower_le p rfl
  rwa [← mul_div_assoc, le_div_iff₀' hden]

/-- The middle above the cell belongs to it if the magnitude is even. -/
theorem even_of_upper (h : f.Rounds num den m) (pos : 0 < den)
    (heq : 2 * (num / den : ℚ) = f.quanta m + f.quanta (m + 1)) : m % 2 = 0 := by
  have hden : (den : ℚ) ≠ 0 := by exact_mod_cast pos.ne'
  rw [← mul_div_assoc, div_eq_iff hden] at heq
  exact h.even_upper (by rw [Nat.mul_comm den]; exact_mod_cast heq)

theorem even_of_lower {p : Nat} (h : f.Rounds num den (p + 1)) (pos : 0 < den)
    (heq : 2 * (num / den : ℚ) = f.quanta p + f.quanta (p + 1)) : (p + 1) % 2 = 0 := by
  have hden : (den : ℚ) ≠ 0 := by exact_mod_cast pos.ne'
  rw [← mul_div_assoc, div_eq_iff hden] at heq
  exact h.even_lower p rfl (by rw [Nat.mul_comm den]; exact_mod_cast heq.symm)

/-- No value is nearer to a quotient than that of its cell. -/
theorem dist_le (h : f.Rounds num den m) (pos : 0 < den) (m' : Nat) :
    |(num / den : ℚ) - f.quanta m| ≤ |(num / den : ℚ) - f.quanta m'| := by
  rcases Nat.lt_trichotomy m m' with hlt | rfl | hgt
  · have hstep : (f.quanta (m + 1) : ℚ) ≤ f.quanta m' := by
      exact_mod_cast f.quanta_le_iff.mpr hlt
    have hle : (f.quanta m : ℚ) ≤ f.quanta m' := by
      exact_mod_cast f.quanta_le_iff.mpr hlt.le
    exact dist_le_of_two_mul_le hle (by linarith [h.two_mul_le pos])
  · exact le_rfl
  · obtain ⟨p, rfl⟩ := Nat.exists_eq_add_one_of_ne_zero (Nat.ne_of_gt (Nat.zero_lt_of_lt hgt))
    have hstep : (f.quanta m' : ℚ) ≤ f.quanta p := by
      exact_mod_cast f.quanta_le_iff.mpr (Nat.le_of_lt_succ hgt)
    have hle : (f.quanta m' : ℚ) ≤ f.quanta (p + 1) := by
      exact_mod_cast f.quanta_le_iff.mpr hgt.le
    exact dist_le_of_le_two_mul hle (by linarith [h.le_two_mul pos])

/-- If another value is as near, the quotient is the middle of the two, and the magnitude is
even. -/
theorem even_of_dist_eq (h : f.Rounds num den m) (pos : 0 < den) (m' : Nat) (hne : m' ≠ m)
    (heq : |(num / den : ℚ) - f.quanta m| = |(num / den : ℚ) - f.quanta m'|) : m % 2 = 0 := by
  rcases Nat.lt_or_gt_of_ne hne with hgt | hlt
  · obtain ⟨p, rfl⟩ := Nat.exists_eq_add_one_of_ne_zero (Nat.ne_of_gt (Nat.zero_lt_of_lt hgt))
    have hstep : (f.quanta m' : ℚ) ≤ f.quanta p := by
      exact_mod_cast f.quanta_le_iff.mpr (Nat.le_of_lt_succ hgt)
    have hlt : (f.quanta m' : ℚ) < f.quanta (p + 1) := by
      exact_mod_cast f.quanta_lt_iff.mpr hgt
    have hmiddle := two_mul_eq_of_dist_eq hlt heq.symm
    exact h.even_of_lower pos (by linarith [h.le_two_mul pos])
  · have hstep : (f.quanta (m + 1) : ℚ) ≤ f.quanta m' := by
      exact_mod_cast f.quanta_le_iff.mpr hlt
    have hlt : (f.quanta m : ℚ) < f.quanta m' := by
      exact_mod_cast f.quanta_lt_iff.mpr hlt
    have hmiddle := two_mul_eq_of_dist_eq hlt heq
    exact h.even_of_upper pos (by linarith [h.two_mul_le pos])

end Format.Rounds

/-! ## Rounding -/

namespace BinaryFloat
variable {f : Format} {num den : Nat}

/-- The distance of a number from another value of the same sign, in quanta. -/
theorem dist_value (negative : Bool) (x : ℚ) (v : BinaryFloat f) (h : v.negative = negative) :
    |(if negative then -1 else 1) * x - v.value| =
      |x * f.scale - f.quanta v.magnitude| / f.scale := by
  have hscale : (0 : ℚ) < f.scale := by exact_mod_cast f.scale_pos
  rw [value, quanta, h, ← mul_sub, abs_mul]
  have hsign : |(if negative then -1 else 1 : ℚ)| = 1 := by split <;> simp
  rw [hsign, one_mul, eq_div_iff hscale.ne', ← abs_of_pos hscale, ← abs_mul, sub_mul,
    abs_of_pos hscale, div_mul_cancel₀ _ hscale.ne']

/-- A number of the other sign is farther than its opposite. -/
theorem dist_value_of_ne (negative : Bool) {x : ℚ} (hx : 0 ≤ x) (v : BinaryFloat f)
    (h : v.negative ≠ negative) :
    |(if negative then -1 else 1) * x - v.value| =
      (x * f.scale + f.quanta v.magnitude) / f.scale := by
  have hscale : (0 : ℚ) < f.scale := by exact_mod_cast f.scale_pos
  have hvalue : v.value = -((if negative then -1 else 1) * (f.quanta v.magnitude / f.scale)) := by
    rw [value, quanta]
    cases negative <;> simp_all
  have hsign : |(if negative then -1 else 1 : ℚ)| = 1 := by split <;> simp
  rw [hvalue, sub_neg_eq_add, ← mul_add, abs_mul, hsign, one_mul, abs_of_nonneg (by positivity)]
  field_simp

theorem rounds_ofRatio (hbits : 0 < f.fractionBits) {negative : Bool} (pos : 0 < den)
    (h : (ofRatio negative num den : BinaryFloat f).isFinite = true) :
    f.Rounds (num * f.scale) den (ofRatio negative num den : BinaryFloat f).magnitude := by
  have hround := f.rounds_unbounded hbits (num * f.scale) pos
  have hlt : min (f.unbounded (num * f.scale) den) f.infinity < f.infinity := isFinite_iff.mp h
  have heq : f.unbounded (num * f.scale) den =
      (ofRatio negative num den : BinaryFloat f).magnitude := by
    rw [magnitude_ofRatio, Format.nearest_eq_min]
    omega
  rwa [heq] at hround

/-- Rounding a quotient takes the nearest number, unless it takes infinity. -/
theorem isNearest_ofRatio (hbits : 0 < f.fractionBits) (negative : Bool) (pos : 0 < den)
    (h : (ofRatio negative num den : BinaryFloat f).isFinite = true) :
    IsNearest ((if negative then -1 else 1) * (num / den))
      (ofRatio negative num den : BinaryFloat f) := by
  have hround := rounds_ofRatio hbits pos h
  have hscale : (0 : ℚ) < f.scale := by exact_mod_cast f.scale_pos
  have hx : (0 : ℚ) ≤ num / den := by positivity
  have hself := dist_value negative (num / den) (ofRatio negative num den : BinaryFloat f) rfl
  have hdist := hround.dist_le pos
  have heven := hround.even_of_dist_eq pos
  have hsign := negative_ofRatio (f := f) negative num den
  have hquotient : ((num * f.scale : Nat) / den : ℚ) = num / den * f.scale := by
    push_cast
    ring
  simp only [hquotient] at hdist heven
  generalize (ofRatio negative num den : BinaryFloat f) = v at *
  generalize (num / den : ℚ) = x at *
  have hscaled : 0 ≤ x * f.scale := by positivity
  refine ⟨h, fun w _ => ?_, fun w _ heq hne => ?_⟩
  · rw [hself]
    by_cases hw : w.negative = negative
    · rw [dist_value negative x w hw]
      exact div_le_div_of_nonneg_right (hdist w.magnitude) hscale.le
    · rw [dist_value_of_ne negative hx w hw]
      refine div_le_div_of_nonneg_right (le_trans (hdist w.magnitude) ?_) hscale.le
      have hquanta : (0 : ℚ) ≤ f.quanta w.magnitude := Nat.cast_nonneg _
      exact abs_le.mpr ⟨by linarith, by linarith⟩
  · rw [hself] at heq
    by_cases hw : w.negative = negative
    · rw [dist_value negative x w hw, div_left_inj' hscale.ne'] at heq
      refine heven w.magnitude (fun hmagnitude => hne ?_) heq
      rw [value, value, hw, hsign, quanta, quanta, hmagnitude]
    -- the other number can only be as near if it is zero, as is the value of no other magnitude
    · rw [dist_value_of_ne negative hx w hw, div_left_inj' hscale.ne'] at heq
      have hzero := hdist 0
      have hquanta : (0 : ℚ) ≤ f.quanta w.magnitude := Nat.cast_nonneg _
      rw [Format.quanta_zero, Nat.cast_zero, sub_zero, abs_of_nonneg hscaled] at hzero
      by_cases hmagnitude : v.magnitude = 0
      · rw [hmagnitude]
      · refine heven 0 (Ne.symm hmagnitude) ?_
        rw [Format.quanta_zero, Nat.cast_zero, sub_zero, abs_of_nonneg hscaled]
        linarith

/-- Rounding to another format takes the number that is nearest to the value. -/
theorem isNearest_convert {g : Format} (hbits : 0 < g.fractionBits) {v : BinaryFloat f}
    (h : v.isFinite = true) (hconvert : (v.convert : BinaryFloat g).isFinite = true) :
    IsNearest v.value (v.convert : BinaryFloat g) := by
  rw [convert_of_finite h] at hconvert ⊢
  exact isNearest_ofRatio hbits v.negative f.scale_pos hconvert

theorem value_le_of_magnitude_le {v w : BinaryFloat f} (hv : v.negative = false)
    (hw : w.negative = false) (h : v.magnitude ≤ w.magnitude) : v.value ≤ w.value := by
  have hquanta : (v.quanta : ℚ) ≤ w.quanta := by exact_mod_cast f.quanta_le_iff.mpr h
  rw [value, value, hv, hw]
  simpa using div_le_div_of_nonneg_right hquanta (Nat.cast_nonneg _)

/-! ## There is one nearest value -/

section
variable {q : ℚ} {v w : BinaryFloat f}

theorem value_neg (v : BinaryFloat f) : v.neg.value = -v.value := by
  rw [value, value, neg, quanta, quanta]
  cases v.negative <;> simp

theorem abs_value (v : BinaryFloat f) : |v.value| = f.quanta v.magnitude / f.scale := by
  have hsign : |(if v.negative then -1 else 1 : ℚ)| = 1 := by split <;> simp
  rw [value, abs_mul, hsign, one_mul, abs_of_nonneg (by positivity)]
  rfl

/-- Between two values of even magnitudes there is a third one. -/
theorem exists_between_of_nonneg (hw : w.isFinite = true) (hv : 0 ≤ v.value)
    (hlt : v.value < w.value) (heven : v.magnitude % 2 = 0) (heven' : w.magnitude % 2 = 0) :
    ∃ u : BinaryFloat f, u.isFinite = true ∧ v.value < u.value ∧ u.value < w.value := by
  have hscale : (0 : ℚ) < f.scale := by exact_mod_cast f.scale_pos
  have hv' := abs_value v
  have hw' := abs_value w
  rw [abs_of_nonneg hv] at hv'
  rw [abs_of_nonneg (hv.trans hlt.le)] at hw'
  have hmagnitude : v.magnitude < w.magnitude := by
    rw [hv', hw', div_lt_div_iff_of_pos_right hscale, Nat.cast_lt] at hlt
    exact f.quanta_lt_iff.mp hlt
  have hfinite := isFinite_iff.mp hw
  refine ⟨⟨false, v.magnitude + 1, by have := f.infinity_lt_limit; omega⟩,
    isFinite_iff.mpr (show v.magnitude + 1 < f.infinity by omega), ?_, ?_⟩
  · rw [hv', value, if_neg Bool.false_ne_true, one_mul, div_lt_div_iff_of_pos_right hscale,
      Nat.cast_lt]
    exact f.quanta_lt_iff.mpr (Nat.lt_succ_self _)
  · rw [hw', value, if_neg Bool.false_ne_true, one_mul, div_lt_div_iff_of_pos_right hscale,
      Nat.cast_lt]
    exact f.quanta_lt_iff.mpr (by show v.magnitude + 1 < _; omega)

theorem exists_between (hv : v.isFinite = true) (hw : w.isFinite = true)
    (hlt : v.value < w.value) (heven : v.magnitude % 2 = 0) (heven' : w.magnitude % 2 = 0) :
    ∃ u : BinaryFloat f, u.isFinite = true ∧ v.value < u.value ∧ u.value < w.value := by
  rcases le_or_gt 0 v.value with hnonneg | hneg
  · exact exists_between_of_nonneg hw hnonneg hlt heven heven'
  rcases le_or_gt w.value 0 with hnonpos | hpos
  -- the opposites of two negative values are in the case before
  · obtain ⟨u, hu, hlow, hhigh⟩ := exists_between_of_nonneg (v := w.neg) (w := v.neg) hv
      (by rw [value_neg]; linarith) (by rw [value_neg, value_neg]; linarith) heven' heven
    rw [value_neg] at hlow hhigh
    exact ⟨u.neg, hu, by rw [value_neg]; linarith, by rw [value_neg]; linarith⟩
  · have hzero : (zero false : BinaryFloat f).value = 0 := by
      rw [value, quanta, zero, Format.quanta_zero, Nat.cast_zero, zero_div, mul_zero]
    have hfinite : (zero false : BinaryFloat f).isFinite = true :=
      isFinite_iff.mpr (Nat.lt_of_le_of_lt (Nat.zero_le _) (isFinite_iff.mp hv))
    exact ⟨zero false, hfinite, hzero.symm ▸ hneg, hzero.symm ▸ hpos⟩

theorem IsNearest.not_lt (hv : IsNearest q v) (hw : IsNearest q w) : ¬ v.value < w.value := by
  intro hlt
  have heq := le_antisymm (hv.dist_le w hw.isFinite) (hw.dist_le v hv.isFinite)
  have hmiddle := two_mul_eq_of_dist_eq hlt heq
  obtain ⟨u, hu, hlow, hhigh⟩ := exists_between hv.isFinite hw.isFinite hlt
    (hv.even w hw.isFinite heq hlt.ne') (hw.even v hv.isFinite heq.symm hlt.ne)
  have hdist := hv.dist_le u hu
  rw [abs_of_nonneg (by linarith)] at hdist
  rcases abs_cases (q - u.value) with ⟨habs, -⟩ | ⟨habs, -⟩ <;> linarith

/-- The nearest value is unique, because of two equally near ones only one has an even magnitude. -/
theorem IsNearest.value_eq (hv : IsNearest q v) (hw : IsNearest q w) : v.value = w.value :=
  le_antisymm (le_of_not_gt (hw.not_lt hv)) (le_of_not_gt (hv.not_lt hw))

end
end BinaryFloat
end EffectLang
