import EffectLang.Proofs.Number.DoubleRounding

/-!
# Rounding from 64 bits to 32

Rounding takes the nearest number of 32 bits, down to the zeros and up to the greatest one; from
half a step beyond that on it is infinite. The sign has no part in it and is kept. Numbers are in
the order of their magnitudes with their signs, and rounding is monotone in these. What is rounded
is a number of 64 bits again, and rounding does not change it any more.
-/

namespace EffectLang

namespace BinaryFloat
variable {f g : Format}

/-! ## Infinities -/

theorem isNaN_eq_false_iff {v : BinaryFloat f} :
    v.isNaN = false ↔ v.magnitude ≤ f.infinity := by
  simp [isNaN]

theorem isInfinite_iff {v : BinaryFloat f} : v.isInfinite = true ↔ v.magnitude = f.infinity := by
  simp [isInfinite]

/-- A number that is not finite is infinite. -/
theorem eq_infinity {v : BinaryFloat f} (h : v.isNaN = false) (hfinite : v.isFinite ≠ true) :
    v = infinity v.negative := by
  have hle := isNaN_eq_false_iff.mp h
  rw [ne_eq, isFinite_iff] at hfinite
  exact eq_of_parts rfl (Nat.le_antisymm hle (Nat.le_of_not_lt hfinite))

theorem convert_infinity (negative : Bool) :
    (convert (infinity negative : BinaryFloat f) : BinaryFloat g) = infinity negative := by
  have hnan : (infinity negative : BinaryFloat f).isNaN ≠ true := by simp [isNaN, infinity]
  have hfinite : (infinity negative : BinaryFloat f).isFinite ≠ true := by
    simp [isFinite, infinity]
  rw [convert, if_neg hnan, if_neg hfinite]
  rfl

theorem magnitude_convert_of_finite {v : BinaryFloat f} (h : v.isFinite = true) :
    (v.convert : BinaryFloat g).magnitude = g.nearest (v.quanta * g.scale) f.scale := by
  rw [convert_of_finite h, magnitude_ofRatio]

theorem isNaN_convert {v : BinaryFloat f} (h : v.isNaN = false) :
    (v.convert : BinaryFloat g).isNaN = false := by
  rw [isNaN_eq_false_iff]
  by_cases hfinite : v.isFinite = true
  · rw [magnitude_convert_of_finite hfinite]
    exact Format.nearest_le_infinity _ _ _
  · rw [eq_infinity h hfinite, convert_infinity]
    exact Nat.le_refl _

theorem convert_neg (v : BinaryFloat f) : (v.neg.convert : BinaryFloat g) = v.convert.neg :=
  eq_of_parts (by simp) (magnitude_convert_congr rfl)

/-! ## Order -/

/-- At most as great as another number: a finite one of no greater value, or one of the two is an
infinity at its end. -/
def AtMost (v w : BinaryFloat f) : Prop :=
  v = infinity true ∨ w = infinity false ∨
    v.isFinite = true ∧ w.isFinite = true ∧ v.value ≤ w.value

/-- The magnitude with the sign. -/
def rank (v : BinaryFloat f) : Int :=
  if v.negative then -v.magnitude else v.magnitude

theorem value_eq_div (v : BinaryFloat f) :
    v.value = ((if v.negative then -f.quanta v.magnitude else f.quanta v.magnitude : Int) : ℚ) /
      f.scale := by
  rw [value, quanta]
  split
  · push_cast
    ring
  · push_cast
    ring

/-- Values are in the order of the magnitudes with their signs. -/
theorem value_le_iff {v w : BinaryFloat f} : v.value ≤ w.value ↔ v.rank ≤ w.rank := by
  have hscale : (0 : ℚ) < f.scale := by exact_mod_cast f.scale_pos
  have hle (m m' : Nat) : f.quanta m ≤ f.quanta m' ↔ m ≤ m' := f.quanta_le_iff
  have hvw := hle v.magnitude w.magnitude
  have hwv := hle w.magnitude v.magnitude
  have hv := hle v.magnitude 0
  have hw := hle w.magnitude 0
  rw [f.quanta_zero] at hv hw
  rw [value_eq_div, value_eq_div, div_le_div_iff_of_pos_right hscale, Int.cast_le, rank, rank]
  split <;> split <;> omega

theorem atMost_iff (hpos : 0 < f.infinity) {v w : BinaryFloat f} (hv : v.isNaN = false)
    (hw : w.isNaN = false) : v.AtMost w ↔ v.rank ≤ w.rank := by
  have hv' := isNaN_eq_false_iff.mp hv
  have hw' := isNaN_eq_false_iff.mp hw
  have hlow : (infinity true : BinaryFloat f).rank = -f.infinity := rfl
  have hhigh : (infinity false : BinaryFloat f).rank = f.infinity := rfl
  constructor
  · rintro (rfl | rfl | ⟨-, -, hle⟩)
    · rw [hlow, rank]
      split <;> omega
    · rw [hhigh, rank]
      split <;> omega
    · exact value_le_iff.mp hle
  · intro hle
    by_cases hvfinite : v.isFinite = true
    · by_cases hwfinite : w.isFinite = true
      · exact .inr (.inr ⟨hvfinite, hwfinite, value_le_iff.mpr hle⟩)
      · have hw₀ := eq_infinity hw hwfinite
        cases hsign : w.negative with
        | false => exact .inr (.inl (hsign ▸ hw₀))
        | true =>
          -- nothing finite is below an infinity with a sign
          have hlt := isFinite_iff.mp hvfinite
          rw [hw₀, hsign, hlow, rank] at hle
          split at hle <;> omega
    · have hv₀ := eq_infinity hv hvfinite
      cases hsign : v.negative with
      | true => exact .inl (hsign ▸ hv₀)
      | false =>
        rw [hv₀, hsign, hhigh, rank] at hle
        split at hle
        · omega
        · next hwsign =>
          have hmagnitude : w.magnitude = f.infinity := by omega
          exact .inr (.inl (eq_of_parts (Bool.eq_false_iff.mpr hwsign) hmagnitude))

/-! ## Rounding and order -/

section Mono
variable (hbits : 0 < g.fractionBits) {v w : BinaryFloat f}
include hbits

theorem magnitude_convert_mono (hv : v.isNaN = false) (hw : w.isNaN = false)
    (h : v.magnitude ≤ w.magnitude) :
    (v.convert : BinaryFloat g).magnitude ≤ (w.convert : BinaryFloat g).magnitude := by
  by_cases hfinite : w.isFinite = true
  · have hv₀ : v.isFinite = true :=
      isFinite_iff.mpr (Nat.lt_of_le_of_lt h (isFinite_iff.mp hfinite))
    rw [magnitude_convert_of_finite hv₀, magnitude_convert_of_finite hfinite]
    refine Format.nearest_mono hbits f.scale_pos f.scale_pos ?_
    exact Nat.mul_le_mul_right _ (Nat.mul_le_mul_right _ (f.quanta_le_iff.mpr h))
  · rw [eq_infinity hw hfinite, convert_infinity]
    exact isNaN_eq_false_iff.mp (isNaN_convert hv)

omit hbits in
theorem magnitude_convert_zero (hfinite : v.isFinite = true) (h : v.magnitude = 0) :
    (v.convert : BinaryFloat g).magnitude = 0 := by
  rw [magnitude_convert_of_finite hfinite, quanta, h, Format.quanta_zero, Nat.zero_mul,
    Format.nearest_zero]

/-- Rounding keeps the order. Only zeros are equally great with different signs, and they stay
zeros. -/
theorem rank_convert_mono (hpos : 0 < f.infinity) (hv : v.isNaN = false) (hw : w.isNaN = false)
    (h : v.rank ≤ w.rank) :
    (v.convert : BinaryFloat g).rank ≤ (w.convert : BinaryFloat g).rank := by
  have hmono := magnitude_convert_mono hbits hv hw
  have hmono' := magnitude_convert_mono hbits hw hv
  unfold rank at h ⊢
  rw [negative_convert, negative_convert]
  cases hvsign : v.negative <;> cases hwsign : w.negative <;>
    simp only [hvsign, hwsign, if_true, if_false, Bool.false_eq_true] at h ⊢
  · have := hmono (by omega)
    omega
  · have hv₀ : v.magnitude = 0 := by omega
    have hw₀ : w.magnitude = 0 := by omega
    rw [magnitude_convert_zero (isFinite_iff.mpr (by omega)) hv₀,
      magnitude_convert_zero (isFinite_iff.mpr (by omega)) hw₀]
    decide
  · omega
  · have := hmono' (by omega)
    omega

end Mono
end BinaryFloat

/-! ## From 32 bits to 64 and back -/

namespace Single
open Format
variable {s : Single}

/-- A finite number has the same value in 64 bits. -/
theorem value_toDouble (h : s.isFinite = true) : s.toDouble.value = s.value := by
  obtain ⟨-, hquanta⟩ := toDouble_finite h
  have hsign : s.toDouble.negative = s.negative := BinaryFloat.negative_convert s
  have hscale : (single.scale : ℚ) ≠ 0 := by exact_mod_cast single.scale_pos.ne'
  rw [BinaryFloat.value, BinaryFloat.value, hsign, hquanta, double_scale_eq]
  push_cast
  rw [mul_div_mul_right _ _ (by positivity)]

/-- Every number is its own rounding. -/
theorem toSingle_toDouble (h : s.isNaN = false) : s.toDouble.toSingle = s := by
  by_cases hfinite : s.isFinite = true
  · obtain ⟨hdouble, hquanta⟩ := toDouble_finite hfinite
    refine BinaryFloat.eq_of_parts (by simp [toDouble, Double.toSingle]) ?_
    have hratio : s.quanta * 2 ^ 925 * single.scale * 1 =
        single.quanta s.magnitude * double.scale := by
      rw [double_scale_eq, BinaryFloat.quanta]
      ring
    rw [Double.toSingle, BinaryFloat.magnitude_convert_of_finite hdouble, hquanta,
      nearest_congr single_bits_pos double.scale_pos Nat.one_pos hratio]
    exact nearest_quanta single_bits_pos (BinaryFloat.isNaN_eq_false_iff.mp h)
  · rw [BinaryFloat.eq_infinity h hfinite, toDouble, Double.toSingle, BinaryFloat.convert_infinity,
      BinaryFloat.convert_infinity]

end Single

/-! ## Rounding numbers of 64 bits -/

namespace Double
open Format

/-- The number rounded to 32 bits, as a number of 64 bits. -/
def rounded (v : Double) : Double :=
  v.toSingle.toDouble

/-- The values below the middle between the greatest number of 32 bits and the next power of two
stay finite. The middle itself does not: the greatest magnitude is odd. -/
theorem isFinite_toSingle_iff {v : Double} (h : v.isFinite = true) :
    v.toSingle.isFinite = true ↔ |v.value| < 2 ^ 128 - 2 ^ 103 := by
  have hgreatest : single.infinity = 2 ^ 24 - 1 + 253 * single.fractions + 1 := by decide
  have hcut := nearest_quanta_le_iff (k := 2 ^ 24 - 1) (s := 253) (by decide) (.inr (by decide))
    (by decide) v.magnitude
  rw [if_neg (by decide), pow_add 2 253 924] at hcut
  have hpow : (2 : ℚ) ^ 1074 = 2 ^ 150 * 2 ^ 924 := by rw [← pow_add]
  rw [BinaryFloat.isFinite_iff, hgreatest, Nat.lt_succ_iff, toSingle,
    BinaryFloat.magnitude_convert_of_finite h, BinaryFloat.quanta, hcut, BinaryFloat.abs_value,
    double_scale, div_lt_iff₀ (by positivity), ← Nat.cast_lt (α := ℚ)]
  push_cast
  rw [hpow]
  generalize (2 : ℚ) ^ 924 = w
  refine iff_of_eq (congrArg _ ?_)
  ring

/-- What it is for a number to be rounded correctly. The nearest number is the only one. -/
structure RoundsCorrectly (v : Double) : Prop where
  nearest : v.toSingle.isFinite = true → v.toSingle.IsNearest v.value
  unique : v.toSingle.isFinite = true →
    ∀ w : Single, w.IsNearest v.value → w.value = v.toSingle.value
  exact : v.toSingle.isFinite = true →
    v.rounded.isFinite = true ∧ v.rounded.value = v.toSingle.value
  sign : v.rounded.negative = v.negative
  infinite_iff : v.rounded.isInfinite = true ↔
    v.isInfinite = true ∨ 2 ^ 128 - 2 ^ 103 ≤ |v.value|
  fits_iff : v.fitsSingle = true ↔ v.isFinite = true ∧ |v.value| < 2 ^ 128 - 2 ^ 103
  idempotent : v.rounded.rounded.bits = v.rounded.bits
  neg : rounded v.neg = v.rounded.neg
  mono : ∀ w : Double, w.isNaN = false → v.AtMost w → v.rounded.AtMost w.rounded

section
variable {v : Double}

theorem isNaN_toSingle (h : v.isNaN = false) : v.toSingle.isNaN = false :=
  BinaryFloat.isNaN_convert h

theorem isNaN_rounded (h : v.isNaN = false) : v.rounded.isNaN = false :=
  BinaryFloat.isNaN_convert (isNaN_toSingle h)

theorem rounded_rounded (h : v.isNaN = false) : v.rounded.rounded = v.rounded :=
  congrArg Single.toDouble (Single.toSingle_toDouble (isNaN_toSingle h))

theorem fitsSingle_iff (h : v.isNaN = false) :
    v.fitsSingle = true ↔ v.isFinite = true ∧ |v.value| < 2 ^ 128 - 2 ^ 103 := by
  by_cases hfinite : v.isFinite = true
  · rw [fitsSingle, isFinite_toSingle_iff hfinite]
    exact ⟨fun hlt => ⟨hfinite, hlt⟩, And.right⟩
  · refine ⟨fun hfits => ?_, fun hboth => absurd hboth.1 hfinite⟩
    rw [fitsSingle, toSingle, BinaryFloat.eq_infinity h hfinite,
      BinaryFloat.convert_infinity] at hfits
    simp [BinaryFloat.isFinite, BinaryFloat.infinity] at hfits

/-- What does not fit becomes infinite. -/
theorem isInfinite_rounded_iff (h : v.isNaN = false) :
    v.rounded.isInfinite = true ↔ ¬ v.fitsSingle = true := by
  constructor
  · intro hinfinite hfits
    have hlt := BinaryFloat.isFinite_iff.mp (Single.toDouble_finite hfits).1
    rw [rounded, BinaryFloat.isInfinite_iff] at hinfinite
    omega
  · intro hfits
    rw [rounded, BinaryFloat.eq_infinity (isNaN_toSingle h) hfits, Single.toDouble,
      BinaryFloat.convert_infinity]
    exact BinaryFloat.isInfinite_iff.mpr rfl

theorem isInfinite_iff_not_isFinite (h : v.isNaN = false) :
    v.isInfinite = true ↔ ¬ v.isFinite = true := by
  have hle := BinaryFloat.isNaN_eq_false_iff.mp h
  rw [BinaryFloat.isInfinite_iff, BinaryFloat.isFinite_iff]
  omega

/-- A number of 64 bits that fits is rounded to the nearest one of 32 bits. -/
theorem isNearest_toSingle (h : v.isNaN = false) (hfits : v.toSingle.isFinite = true) :
    v.toSingle.IsNearest v.value :=
  BinaryFloat.isNearest_convert single_bits_pos ((fitsSingle_iff h).mp hfits).1 hfits

theorem rounded_mono {w : Double} (hv : v.isNaN = false) (hw : w.isNaN = false)
    (h : v.AtMost w) : v.rounded.AtMost w.rounded := by
  have hdouble : 0 < double.infinity := by decide
  have hsingle : 0 < single.infinity := by decide
  rw [BinaryFloat.atMost_iff hdouble (isNaN_rounded hv) (isNaN_rounded hw)]
  have hnarrow := BinaryFloat.rank_convert_mono single_bits_pos hdouble hv hw
    ((BinaryFloat.atMost_iff hdouble hv hw).mp h)
  exact BinaryFloat.rank_convert_mono (by decide) hsingle (isNaN_toSingle hv) (isNaN_toSingle hw)
    hnarrow

/-- Every number is rounded correctly, in the range of the subnormal numbers too. -/
theorem rounded_correct (h : v.isNaN = false) : v.RoundsCorrectly where
  nearest := isNearest_toSingle h
  unique hfits _ hw := hw.value_eq (isNearest_toSingle h hfits)
  exact hfits := ⟨(Single.toDouble_finite hfits).1, Single.value_toDouble hfits⟩
  sign := by simp [rounded, toSingle, Single.toDouble]
  infinite_iff := by
    rw [isInfinite_rounded_iff h, fitsSingle_iff h, isInfinite_iff_not_isFinite h, not_and_or,
      not_lt]
  fits_iff := fitsSingle_iff h
  idempotent := congrArg BinaryFloat.bits (rounded_rounded h)
  neg := by
    rw [rounded, toSingle, Single.toDouble, BinaryFloat.convert_neg, BinaryFloat.convert_neg]
    rfl
  mono _ hw hle := rounded_mono h hw hle

/-- The middle between zero and the smallest positive number of 32 bits is rounded to zero, which
is even, and its sign is kept. -/
theorem rounded_correct_middle :
    let v : Double := ⟨true, 873 * 2 ^ 52, by decide⟩
    v.isNaN = false ∧ v.RoundsCorrectly ∧ v.rounded = BinaryFloat.zero true := by
  refine ⟨by decide, rounded_correct (by decide), by decide +kernel⟩

end
end Double
end EffectLang
