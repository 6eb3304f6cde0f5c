import Mathlib.Tactic.Ring
import Mathlib.Tactic.Linarith
import EffectLang.Expr.Parse
import EffectLang.Proofs.Number.ReadBack

/-!
# The text of a float literal

A finite number is written as digits, a point and digits, after a minus sign where its sign bit is
set. Those digits denote the decimal that was chosen for it, so they read as the number without its
sign.
-/

namespace EffectLang

/-- Digits, at least one of them. -/
structure Text.IsDigits (digits : Text) : Prop where
  ne_nil : digits ≠ []
  isDigit : ∀ c ∈ digits, c.isDigit = true

theorem Text.IsDigits.append {xs ys : Text} (h : xs.IsDigits)
    (hys : ∀ c ∈ ys, c.isDigit = true) : (xs ++ ys).IsDigits where
  ne_nil := List.append_ne_nil_of_left_ne_nil h.ne_nil ys
  isDigit c hc := (List.mem_append.mp hc).elim (h.isDigit c) (hys c)

theorem isDigits_digitsOf (n : Nat) : Text.IsDigits (digitsOf n) where
  ne_nil := Nat.toDigits_ne_nil
  isDigit _ hc := Nat.isDigit_of_mem_toDigits (by decide) (by decide) hc

theorem isDigits_zero : Text.IsDigits ['0'] where
  ne_nil := List.cons_ne_nil _ _
  isDigit c hc := by
    rw [List.mem_singleton.mp hc]
    rfl

theorem isDigit_of_mem_replicate_zero {n : Nat} {c : Char} (h : c ∈ List.replicate n '0') :
    c.isDigit = true := by
  rw [List.eq_of_mem_replicate h]
  rfl

theorem ofDigits_append_zeros (digits : Text) (n : Nat) :
    ofDigits (digits ++ List.replicate n '0') = ofDigits digits * 10 ^ n := by
  unfold ofDigits
  rw [Nat.ofDigitChars_append, Nat.ofDigitChars_replicate_zero, Nat.mul_comm]

theorem ofDigits_zeros_append (digits : Text) (n : Nat) :
    ofDigits (List.replicate n '0' ++ digits) = ofDigits digits := by
  unfold ofDigits
  rw [Nat.ofDigitChars_append, Nat.ofDigitChars_replicate_zero, Nat.mul_zero]

namespace Decimal

/-- Zeros at the end of a coefficient make up for its exponent. -/
theorem num_mul_den_eq {a b : Decimal} {c i j : Nat} (ha : a.coefficient = c * 10 ^ i)
    (hb : b.coefficient = c * 10 ^ j) (h : a.exponent + i = b.exponent + j) :
    a.num * b.den = b.num * a.den := by
  have hexp : i + a.exponent.toNat + (-b.exponent).toNat =
      j + b.exponent.toNat + (-a.exponent).toNat := by omega
  unfold num den
  rw [ha, hb, powerOfTen_eq, powerOfTen_eq, powerOfTen_eq, powerOfTen_eq]
  calc c * 10 ^ i * 10 ^ a.exponent.toNat * 10 ^ (-b.exponent).toNat
      = c * 10 ^ (i + a.exponent.toNat + (-b.exponent).toNat) := by
        rw [pow_add, pow_add]
        ring
    _ = c * 10 ^ j * 10 ^ b.exponent.toNat * 10 ^ (-a.exponent).toNat := by
        rw [hexp, pow_add, pow_add]
        ring

/-- A coefficient's digits are its significant digits and zeros. -/
theorem digitsOf_coefficient (d : Decimal) :
    ∃ n, digitsOf d.coefficient = d.significantDigits ++ List.replicate n '0' := by
  have hall := List.all_eq_true.mp
    (List.all_takeWhile (p := (· = '0')) (l := (digitsOf d.coefficient).reverse))
  obtain ⟨n, hn⟩ : ∃ n, (digitsOf d.coefficient).reverse.takeWhile (· = '0') =
      List.replicate n '0' :=
    ⟨_, List.eq_replicate_iff.mpr ⟨rfl, fun c hc => of_decide_eq_true (hall c hc)⟩⟩
  refine ⟨n, ?_⟩
  calc digitsOf d.coefficient
      = ((digitsOf d.coefficient).reverse.takeWhile (· = '0') ++
          (digitsOf d.coefficient).reverse.dropWhile (· = '0')).reverse := by
        rw [List.takeWhile_append_dropWhile, List.reverse_reverse]
    _ = d.significantDigits ++ List.replicate n '0' := by
        rw [hn, List.reverse_append, List.reverse_replicate]
        rfl

theorem isDigit_of_mem_significantDigits {d : Decimal} {c : Char}
    (h : c ∈ d.significantDigits) : c.isDigit = true := by
  obtain ⟨n, hn⟩ := d.digitsOf_coefficient
  refine (isDigits_digitsOf d.coefficient).isDigit c ?_
  rw [hn]
  exact List.mem_append_left _ h

/-! ## Where the point is put -/

/-- The text is made of `digits` with zeros before and after them and with a point among them, so
that `place` of the digits stand before the point; negative places are zeros after it. -/
def PointAt (digits : Text) (place : Int) (text : Text) : Prop :=
  ∃ (whole fraction : Text) (i j : Nat), text = whole ++ '.' :: fraction ∧ whole.IsDigits ∧
    fraction.IsDigits ∧
    whole ++ fraction = List.replicate i '0' ++ (digits ++ List.replicate j '0') ∧
    (fraction.length : Int) + place = digits.length + j

section
variable {digits : Text} {place : Int}

theorem pointAt_before (h : digits.IsDigits) (hplace : place ≤ 0) :
    PointAt digits place (['0', '.'] ++ List.replicate (-place).toNat '0' ++ digits) := by
  refine ⟨['0'], List.replicate (-place).toNat '0' ++ digits, (-place).toNat + 1, 0, by simp,
    isDigits_zero, ⟨by simp [h.ne_nil], ?_⟩, by simp [List.replicate_succ], ?_⟩
  · intro c hc
    rcases List.mem_append.mp hc with hzero | hdigit
    · exact isDigit_of_mem_replicate_zero hzero
    · exact h.isDigit c hdigit
  · simp only [List.length_append, List.length_replicate]
    omega

theorem pointAt_after (h : digits.IsDigits) (hplace : 0 < place)
    (hlong : digits.length ≤ place.toNat) :
    PointAt digits place
      (digits ++ List.replicate (place.toNat - digits.length) '0' ++ ['.', '0']) := by
  generalize hzeros : place.toNat - digits.length = zeros
  have hwhole := h.append fun c (hc : c ∈ List.replicate zeros '0') =>
    isDigit_of_mem_replicate_zero hc
  refine ⟨digits ++ List.replicate zeros '0', ['0'], 0, zeros + 1, by simp, hwhole, isDigits_zero,
    ?_, ?_⟩
  · simp [List.replicate_succ']
  · simp only [List.length_singleton]
    omega

theorem pointAt_inside (h : digits.IsDigits) (hplace : 0 < place)
    (hshort : ¬ digits.length ≤ place.toNat) :
    PointAt digits place (digits.take place.toNat ++ ['.'] ++ digits.drop place.toNat) := by
  have htake : digits.take place.toNat ≠ [] := by
    rw [ne_eq, List.take_eq_nil_iff]
    rintro (hzero | hnil)
    · omega
    · exact h.ne_nil hnil
  have hdrop : digits.drop place.toNat ≠ [] := by
    rw [ne_eq, List.drop_eq_nil_iff]
    omega
  refine ⟨digits.take place.toNat, digits.drop place.toNat, 0, 0, by simp,
    ⟨htake, fun c hc => h.isDigit c (List.mem_of_mem_take hc)⟩,
    ⟨hdrop, fun c hc => h.isDigit c (List.mem_of_mem_drop hc)⟩, by simp, ?_⟩
  simp only [List.length_drop]
  omega

end

/-- The plain text of a decimal that is not zero has its significant digits at their place. -/
theorem pointAt_plain {d : Decimal} (h : d.significantDigits ≠ []) :
    PointAt d.significantDigits d.pointPlace d.plain := by
  have hdigits : Text.IsDigits d.significantDigits :=
    ⟨h, fun _ hc => isDigit_of_mem_significantDigits hc⟩
  unfold plain
  rw [if_neg (by simpa using h)]
  split
  · next hplace => exact pointAt_before hdigits hplace
  · next hplace =>
    have hpositive : 0 < d.pointPlace := by omega
    split
    · next hlong => exact pointAt_after hdigits hpositive hlong
    · next hshort => exact pointAt_inside hdigits hpositive hshort

/-- The plain text of a decimal is digits around a point, and they denote the same value. -/
theorem exists_plain (d : Decimal) :
    ∃ whole fraction : Text, d.plain = whole ++ '.' :: fraction ∧ whole.IsDigits ∧
      fraction.IsDigits ∧
      d.num * (⟨ofDigits (whole ++ fraction), -fraction.length⟩ : Decimal).den =
        (⟨ofDigits (whole ++ fraction), -fraction.length⟩ : Decimal).num * d.den := by
  obtain ⟨n, hn⟩ := d.digitsOf_coefficient
  have hcoefficient : d.coefficient = ofDigits d.significantDigits * 10 ^ n := by
    rw [← ofDigits_append_zeros, ← hn, ofDigits_digitsOf]
  by_cases hempty : d.significantDigits = []
  · have hplain : d.plain = ['0', '.', '0'] := by
      unfold plain
      rw [hempty]
      rfl
    have hzero : ofDigits ['0', '0'] = 0 := rfl
    have hnum : d.coefficient = 0 := by
      rw [hcoefficient, hempty]
      exact Nat.zero_mul _
    exact ⟨['0'], ['0'], hplain, isDigits_zero, isDigits_zero, by simp [num, hzero, hnum]⟩
  · obtain ⟨whole, fraction, i, j, htext, hwhole, hfraction, hdigits, hlength⟩ :=
      pointAt_plain hempty
    refine ⟨whole, fraction, htext, hwhole, hfraction, num_mul_den_eq (j := j) hcoefficient ?_ ?_⟩
    · rw [hdigits, ofDigits_zeros_append, ofDigits_append_zeros]
    · rw [pointPlace, hn, List.length_append, List.length_replicate] at hlength
      dsimp only
      omega

/-- Reading depends on the value only. -/
theorem toDouble_congr {a b : Decimal} (h : a.num * b.den = b.num * a.den) (negative : Bool) :
    a.toDouble negative = b.toDouble negative := by
  refine BinaryFloat.eq_of_parts rfl
    (Format.nearest_congr Format.double_bits_pos a.den_pos b.den_pos ?_)
  calc a.num * Format.double.scale * b.den = a.num * b.den * Format.double.scale := by ring
    _ = b.num * a.den * Format.double.scale := by rw [h]
    _ = b.num * Format.double.scale * a.den := by ring

end Decimal

/-- The decimal of digits around a point. -/
theorem pointDecimal_append {whole : Text} (h : ∀ c ∈ whole, c.isDigit = true) (fraction : Text) :
    pointDecimal (whole ++ '.' :: fraction) =
      ⟨ofDigits (whole ++ fraction), -fraction.length⟩ := by
  have hpoint : ∀ c ∈ whole, decide (c ≠ '.') = true := by
    intro c hc
    refine decide_eq_true ?_
    rintro rfl
    exact absurd (h _ hc) (by decide)
  unfold pointDecimal
  rw [List.takeWhile_append_of_pos hpoint, List.dropWhile_append_of_pos hpoint]
  simp

/-- The same number without its sign. -/
def BinaryFloat.unsigned {f : Format} (v : BinaryFloat f) : BinaryFloat f :=
  { v with negative := false }

namespace Single

theorem magnitude_toDouble_eq_zero {s : Single} (h : s.isFinite = true) :
    s.toDouble.magnitude = 0 ↔ s.magnitude = 0 := by
  constructor
  · intro hzero
    obtain ⟨-, hvalue⟩ := toDouble_finite h
    have hquanta : s.toDouble.quanta = 0 := by
      rw [BinaryFloat.quanta, hzero, Format.quanta_zero]
    have hpow := Nat.two_pow_pos 925
    rw [hvalue] at hquanta
    generalize 2 ^ 925 = w at *
    have hs : s.quanta = 0 := (Nat.mul_eq_zero.mp hquanta).resolve_right hpow.ne'
    exact Format.single.quanta_injective (hs.trans (Format.single.quanta_zero).symm)
  · intro hs
    rw [toDouble, BinaryFloat.convert_of_finite h, BinaryFloat.magnitude_ofRatio,
      BinaryFloat.quanta, hs, Format.quanta_zero, Nat.zero_mul, Format.nearest_zero]

/-- The text of a finite number: a fixed one for zero, for others that of the decimal. -/
theorem text_eq {s : Single} (h : s.isFinite = true) :
    s.text = (if s.negative then ['-'] else []) ++
      if s.magnitude = 0 then ['0', '.', '0'] else s.toDouble.literalDecimal.plain := by
  have hlt := BinaryFloat.isFinite_iff.mp (toDouble_finite h).1
  have hnan : s.toDouble.isNaN ≠ true := by simp [BinaryFloat.isNaN]; omega
  have hinf : s.toDouble.isInfinite ≠ true := by simp [BinaryFloat.isInfinite]; omega
  have hsign : s.toDouble.negative = s.negative := BinaryFloat.negative_convert s
  rw [text, Double.literalText, Double.textWith, if_neg hnan, if_neg hinf, hsign]
  by_cases hs : s.magnitude = 0
  · rw [if_pos ((magnitude_toDouble_eq_zero h).mpr hs), if_pos hs]
  · rw [if_neg (mt (magnitude_toDouble_eq_zero h).mp hs), if_neg hs]

/-- The text of a finite number: a sign and a numeral, which reads as the number without the
sign. -/
theorem exists_text {s : Single} (h : s.isFinite = true) :
    ∃ whole fraction : Text, whole.IsDigits ∧ fraction.IsDigits ∧
      s.text = (if s.negative then ['-'] else []) ++ (whole ++ '.' :: fraction) ∧
      ((pointDecimal (whole ++ '.' :: fraction)).toDouble false).toSingle = s.unsigned := by
  rw [text_eq h]
  by_cases hs : s.magnitude = 0
  -- zero has no significant digits, and its text is fixed
  · rw [if_pos hs]
    have hquanta : s.quanta = 0 := by rw [BinaryFloat.quanta, hs, Format.quanta_zero]
    refine ⟨['0'], ['0'], isDigits_zero, isDigits_zero, rfl, BinaryFloat.eq_of_parts ?_ ?_⟩
    · exact BinaryFloat.negative_convert _
    · refine magnitude_of_close h false ?_ ?_
      · rw [hquanta, Nat.zero_mul, Nat.zero_mul]
        exact Nat.zero_le _
      · rw [pointDecimal_append isDigits_zero.isDigit, Decimal.num,
          show ofDigits (['0'] ++ ['0']) = 0 from rfl, Nat.zero_mul, Nat.zero_mul]
        exact Nat.zero_le _
  · rw [if_neg hs]
    obtain ⟨whole, fraction, hplain, hwhole, hfraction, hratio⟩ :=
      s.toDouble.literalDecimal.exists_plain
    refine ⟨whole, fraction, hwhole, hfraction, by rw [hplain], BinaryFloat.eq_of_parts ?_ ?_⟩
    · exact BinaryFloat.negative_convert _
    · rw [pointDecimal_append hwhole.isDigit, ← Decimal.toDouble_congr hratio]
      exact literalDecimal_toSingle h hs false

end Single
end EffectLang
