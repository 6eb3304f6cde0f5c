import EffectLang.Number.FloatText
import EffectLang.Proofs.Number.Significant

/-!
# Decimals that read back

A finite number of 32 bits is exactly a number of 64 bits, and a decimal within one part in `2^27`
of it reads as that very number, although it is rounded twice. Nine significant digits are that
close, so the decimal chosen for a literal reads back.
-/

namespace EffectLang

namespace Format

theorem scale_eq (f : Format) : f.scale = 2 ^ (2 ^ (f.exponentBits - 1) - 2 + f.fractionBits) :=
  rfl

theorem single_scale : single.scale = 2 ^ 149 := by
  rw [scale_eq]
  congr 1

theorem double_scale : double.scale = 2 ^ 1074 := by
  rw [scale_eq]
  congr 1

theorem single_bits_pos : 0 < single.fractionBits := by decide

theorem double_bits_pos : 0 < double.fractionBits := by decide

theorem quanta_single_infinity : single.quanta single.infinity = 2 ^ (23 + 254) := by
  rw [single.quanta_infinity (by decide), pow_add]
  congr 1

theorem quanta_double_infinity : double.quanta double.infinity = 2 ^ (52 + 2046) := by
  have hexp : double.exponents - 2 = 2046 := by decide
  rw [double.quanta_infinity (by decide), hexp, pow_add, fractions_eq]
  congr 1

/-- A value of a finite magnitude of 32 bits, scaled by at most 28 binary digits and moved to the
quanta of 64 bits, is a value of a finite magnitude of 64 bits. -/
theorem exists_double_quanta {m c t : Nat} (h : m < single.infinity) (hc : c < 2 ^ 28)
    (ht : t ≤ 925) :
    ∃ x, x < double.infinity ∧ double.quanta x = single.quanta m * c * 2 ^ t := by
  obtain ⟨k, s, hk, hks⟩ := single.exists_quanta_digits m
  have hdigits : k * c < 2 * double.fractions := by
    calc k * c < 2 ^ 24 * 2 ^ 28 := by
          exact Nat.mul_lt_mul_of_lt_of_le (Nat.lt_of_lt_of_eq hk rfl) (Nat.le_of_lt hc)
            (Nat.two_pow_pos 28)
      _ < 2 * double.fractions := by decide
  obtain ⟨x, hx⟩ := double.exists_quanta_eq (s + t) hdigits
  have hvalue : double.quanta x = single.quanta m * c * 2 ^ t := by
    rw [hx, hks, pow_add]
    ring
  refine ⟨x, double.quanta_lt_iff.mp ?_, hvalue⟩
  have hm := single.quanta_strictMono h
  rw [quanta_single_infinity] at hm
  rw [hvalue, quanta_double_infinity]
  calc single.quanta m * c * 2 ^ t
      ≤ 2 ^ (23 + 254) * 2 ^ 28 * 2 ^ 925 :=
        Nat.mul_le_mul (Nat.mul_le_mul (Nat.le_of_lt hm) (Nat.le_of_lt hc))
          (Nat.pow_le_pow_right (by decide) ht)
    _ = 2 ^ (23 + 254 + 28 + 925) := by
        rw [pow_add 2 (23 + 254 + 28) 925, pow_add 2 (23 + 254) 28]
    _ < 2 ^ (52 + 2046) := Nat.pow_lt_pow_right (by decide) (by decide)

/-! ## Reading a decimal near a magnitude -/

/-- The quanta of 64 bits in one quantum of 32 bits. -/
theorem double_scale_eq : double.scale = single.scale * 2 ^ 925 := by
  rw [double_scale, single_scale, ← pow_add]

/-- A finite magnitude of 32 bits is the value of a magnitude of 64 bits. -/
theorem nearest_double_of_single {m : Nat} (h : m < single.infinity) :
    double.nearest (single.quanta m * double.scale) single.scale < double.infinity ∧
    double.quanta (double.nearest (single.quanta m * double.scale) single.scale) =
      single.quanta m * 2 ^ 925 := by
  obtain ⟨x, hx, hvalue⟩ := exists_double_quanta h (c := 1) (t := 925) (by decide) (by decide)
  rw [Nat.mul_one] at hvalue
  have hnearest : double.nearest (single.quanta m * double.scale) single.scale = x := by
    have hratio : single.quanta m * double.scale * 1 = double.quanta x * single.scale := by
      rw [hvalue, double_scale_eq]
      ring
    rw [nearest_congr double_bits_pos single.scale_pos Nat.one_pos hratio]
    exact nearest_quanta double_bits_pos (Nat.le_of_lt hx)
  rw [hnearest]
  exact ⟨hx, hvalue⟩

/-- Twice a value is less than `2^27` times the step between the values around it. -/
theorem gap_lt {q s : Nat} (h : q ≤ 2 * single.fractions * 2 ^ s) : 2 * q < 2 ^ 27 * 2 ^ s := by
  have hF : single.fractions = 2 ^ 23 := rfl
  have hstep := Nat.two_pow_pos s
  rw [hF] at h
  omega

/-- A value within one part in `2^27` of a magnitude is between the midpoints around it. The values
are counted in steps of `2^27 * w` to a quantum, so that the ends of the interval are whole. -/
theorem rounds_of_close {d w : Nat} (m : Nat) (hw : 0 < w)
    (hlow : single.quanta m * (2 ^ 27 - 1) * w ≤ d)
    (hup : d ≤ single.quanta m * (2 ^ 27 + 1) * w) :
    single.Rounds (d * single.scale) (single.scale * (2 ^ 27 * w)) m := by
  have hscale : 0 < single.scale * w := Nat.mul_pos single.scale_pos hw
  generalize hq : single.quanta m = q at *
  refine .of_lt ?_ ?_
  -- The value above is `2 ^ s` away, and the interval goes less than half of that far.
  · obtain ⟨s, hs, hbound⟩ := single.quanta_succ m
    rw [hs, hq] at hbound
    rw [hs, hq]
    have hgap : 2 * q < 2 ^ 27 * 2 ^ s := gap_lt (Nat.le_trans (Nat.le_add_right _ _) hbound)
    calc 2 * (d * single.scale) = 2 * d * single.scale := by ring
      _ ≤ 2 * (q * (2 ^ 27 + 1) * w) * single.scale := by
        exact Nat.mul_le_mul_right _ (Nat.mul_le_mul_left _ hup)
      _ = single.scale * w * (2 ^ 27 * (q + q) + 2 * q) := by ring
      _ < single.scale * w * (2 ^ 27 * (q + q) + 2 ^ 27 * 2 ^ s) :=
        Nat.mul_lt_mul_of_pos_left (by omega) hscale
      _ = single.scale * (2 ^ 27 * w) * (q + (q + 2 ^ s)) := by ring
  -- Below, where the values may be twice as close, it is the same bound with the smaller step.
  · rintro p rfl
    obtain ⟨s, hs, hbound⟩ := single.quanta_succ p
    rw [hq] at hs hbound
    rw [hq]
    have hgap : 2 * q < 2 ^ 27 * 2 ^ s := gap_lt hbound
    generalize single.quanta p = r at *
    calc single.scale * (2 ^ 27 * w) * (r + q)
        = single.scale * w * (2 ^ 27 * (r + q)) := by ring
      _ < single.scale * w * (2 * (q * (2 ^ 27 - 1))) :=
        Nat.mul_lt_mul_of_pos_left (by omega) hscale
      _ = 2 * (q * (2 ^ 27 - 1) * w) * single.scale := by ring
      _ ≤ 2 * d * single.scale := by
        exact Nat.mul_le_mul_right _ (Nat.mul_le_mul_left _ hlow)
      _ = 2 * (d * single.scale) := by ring

/-- Rounding does not leave an interval whose ends are values. -/
theorem nearest_between {f : Format} {num den lo hi : Nat} (bits : 0 < f.fractionBits)
    (pos : 0 < den) (hhi : hi < f.infinity) (hlow : f.quanta lo * den ≤ num)
    (hup : num ≤ f.quanta hi * den) :
    lo ≤ f.nearest num den ∧ f.nearest num den ≤ hi := by
  have hlo : lo ≤ f.infinity := by
    refine Nat.le_of_lt (Nat.lt_of_le_of_lt (f.quanta_le_iff.mp ?_) hhi)
    exact Nat.le_of_mul_le_mul_right (Nat.le_trans hlow hup) pos
  constructor
  · calc lo = f.nearest (f.quanta lo) 1 := (nearest_quanta bits hlo).symm
      _ ≤ f.nearest num den := nearest_mono bits Nat.one_pos pos (by rwa [Nat.mul_one])
  · calc f.nearest num den
        ≤ f.nearest (f.quanta hi) 1 := nearest_mono bits pos Nat.one_pos (by rwa [Nat.mul_one])
      _ = hi := nearest_quanta bits (Nat.le_of_lt hhi)

/-- A quotient within one part in `2^27` of a magnitude of 32 bits is rounded to it by way of 64
bits: both ends of that interval are values of 64 bits, so the first rounding does not leave it,
and the whole interval lies between the midpoints around the magnitude. -/
theorem nearest_nearest {m num den : Nat} (h : m < single.infinity) (pos : 0 < den)
    (hlow : (2 ^ 27 - 1) * (single.quanta m * 2 ^ 925 * den) ≤ 2 ^ 27 * num)
    (hup : 2 ^ 27 * num ≤ (2 ^ 27 + 1) * (single.quanta m * 2 ^ 925 * den)) :
    double.nearest num den < double.infinity ∧
    single.nearest (double.quanta (double.nearest num den) * single.scale) double.scale = m := by
  have hpow : 2 ^ 925 = 2 ^ 27 * 2 ^ 898 := by rw [← pow_add]
  obtain ⟨lo, -, hlo⟩ := exists_double_quanta h (c := 2 ^ 27 - 1) (t := 898) (by decide) (by decide)
  obtain ⟨hi, hfinite, hhi⟩ :=
    exists_double_quanta h (c := 2 ^ 27 + 1) (t := 898) (by decide) (by decide)
  rw [hpow] at hlow hup
  rw [double_scale_eq, hpow]
  have hw : 0 < 2 ^ 898 := Nat.two_pow_pos 898
  generalize 2 ^ 898 = w at *
  have hbetween : lo ≤ double.nearest num den ∧ double.nearest num den ≤ hi := by
    refine nearest_between double_bits_pos pos hfinite ?_ ?_
    · rw [hlo]
      linarith
    · rw [hhi]
      linarith
  obtain ⟨hge, hle⟩ := hbetween
  refine ⟨Nat.lt_of_le_of_lt hle hfinite, ?_⟩
  rw [← double.quanta_le_iff, hlo] at hge
  rw [← double.quanta_le_iff, hhi] at hle
  rw [(rounds_of_close m hw hge hle).nearest_eq single_bits_pos
    (Nat.mul_pos single.scale_pos (Nat.mul_pos (Nat.two_pow_pos 27) hw)),
    Nat.min_eq_left (Nat.le_of_lt h)]

end Format

/-! ## Converting numbers -/

namespace BinaryFloat
variable {f : Format}

theorem isFinite_iff {v : BinaryFloat f} : v.isFinite = true ↔ v.magnitude < f.infinity := by
  simp [isFinite]

theorem magnitude_ofRatio (negative : Bool) (num den : Nat) :
    (ofRatio negative num den : BinaryFloat f).magnitude = f.nearest (num * f.scale) den := rfl

theorem convert_of_finite {g : Format} {v : BinaryFloat f} (h : v.isFinite = true) :
    (v.convert : BinaryFloat g) = ofRatio v.negative v.quanta f.scale := by
  have hlt := isFinite_iff.mp h
  rw [convert, if_neg (by simp [isNaN]; omega), if_pos h]

theorem eq_of_parts {v w : BinaryFloat f} (hsign : v.negative = w.negative)
    (hmagnitude : v.magnitude = w.magnitude) : v = w := by
  cases v
  cases w
  obtain rfl : _ = _ := hsign
  obtain rfl : _ = _ := hmagnitude
  rfl

/-- The sign has no part in conversion. -/
theorem magnitude_convert_congr {g : Format} {v w : BinaryFloat f}
    (h : v.magnitude = w.magnitude) :
    (v.convert : BinaryFloat g).magnitude = (w.convert : BinaryFloat g).magnitude := by
  unfold convert isNaN isFinite quanta
  rw [h]
  split
  · rfl
  · split <;> rfl

end BinaryFloat

/-- The first of numbered candidates, if there is any, has the least number. -/
theorem exists_find_candidate {α : Type} {p : α → Bool} {f : Nat → α} {k n : Nat} (hk : 0 < k)
    (hkn : k ≤ n) (h : p (f k) = true) :
    ∃ i, 0 < i ∧ ((List.range' 1 n).map f).find? p = some (f i) ∧ p (f i) = true ∧
      ∀ j, 0 < j → j < i → p (f j) = false := by
  rw [List.find?_map]
  generalize hfind : List.find? _ _ = found
  cases found with
  | none =>
    rw [List.find?_eq_none] at hfind
    exact absurd h (hfind k (List.mem_range'_1.mpr (by omega)))
  | some i =>
    rw [List.find?_range'_eq_some] at hfind
    obtain ⟨hread, hmem, hleast⟩ := hfind
    refine ⟨i, (List.mem_range'_1.mp hmem).1, rfl, hread, fun j hpos hlt => ?_⟩
    simpa using hleast j hpos hlt

namespace Single
open Format
variable {s : Single}

theorem toDouble_finite (h : s.isFinite = true) :
    s.toDouble.isFinite = true ∧ s.toDouble.quanta = s.quanta * 2 ^ 925 := by
  have hread := nearest_double_of_single (BinaryFloat.isFinite_iff.mp h)
  rw [BinaryFloat.isFinite_iff, toDouble, BinaryFloat.convert_of_finite h]
  exact hread

/-- Conversion to 64 bits keeps different magnitudes apart. -/
theorem magnitude_of_toDouble {r : Single} (h : s.isFinite = true)
    (heq : r.toDouble.magnitude = s.toDouble.magnitude) : r.magnitude = s.magnitude := by
  obtain ⟨hfinite, hvalue⟩ := toDouble_finite h
  have hlt : r.toDouble.magnitude < double.infinity := heq ▸ BinaryFloat.isFinite_iff.mp hfinite
  have hr : r.isFinite = true := by
    refine Decidable.byContradiction fun hr => ?_
    revert hlt
    rw [toDouble, BinaryFloat.convert]
    split
    · cases r.negative <;> decide
    · exact Nat.lt_irrefl _
  have hquanta : r.toDouble.quanta = s.toDouble.quanta := by
    unfold BinaryFloat.quanta
    rw [heq]
  rw [(toDouble_finite hr).2, hvalue] at hquanta
  exact single.quanta_injective (Nat.eq_of_mul_eq_mul_right (Nat.two_pow_pos 925) hquanta)

/-- A decimal within one part in `2^27` of a number reads as its magnitude. -/
theorem magnitude_of_close (h : s.isFinite = true) {d : Decimal} (negative : Bool)
    (hlow : (2 ^ 27 - 1) * (s.quanta * 2 ^ 925 * d.den) ≤ 2 ^ 27 * (d.num * double.scale))
    (hup : 2 ^ 27 * (d.num * double.scale) ≤ (2 ^ 27 + 1) * (s.quanta * 2 ^ 925 * d.den)) :
    (d.toDouble negative).toSingle.magnitude = s.magnitude := by
  obtain ⟨hfinite, hnearest⟩ :=
    nearest_nearest (BinaryFloat.isFinite_iff.mp h) d.den_pos hlow hup
  have hd : (d.toDouble negative).isFinite = true := BinaryFloat.isFinite_iff.mpr hfinite
  rw [Double.toSingle, BinaryFloat.convert_of_finite hd]
  exact hnearest

/-- A decimal reads back as a number if it reads as its magnitude, whatever the sign. -/
theorem readsBackSingle_iff (h : s.isFinite = true) (d : Decimal) (negative : Bool) :
    s.toDouble.readsBackSingle d = true ↔
      (d.toDouble negative).toSingle.magnitude = s.magnitude := by
  have hsign : (d.toDouble s.toDouble.negative).toSingle.magnitude =
      (d.toDouble negative).toSingle.magnitude := BinaryFloat.magnitude_convert_congr rfl
  rw [← hsign, Double.readsBackSingle, decide_eq_true_iff]
  exact ⟨magnitude_of_toDouble h, BinaryFloat.magnitude_convert_congr⟩

theorem quanta_pos (hne : s.magnitude ≠ 0) : 0 < s.quanta := by
  have hlt := single.quanta_strictMono (Nat.pos_of_ne_zero hne)
  rwa [quanta_zero] at hlt

theorem doubleQuanta_pos (hne : s.magnitude ≠ 0) : 0 < s.quanta * 2 ^ 925 :=
  Nat.mul_pos (quanta_pos hne) (Nat.two_pow_pos 925)

/-- Nine significant digits read back. -/
theorem readsBackSingle_significant (h : s.isFinite = true) (hne : s.magnitude ≠ 0) :
    s.toDouble.readsBackSingle
      (Decimal.significant 9 s.toDouble.num Double.den) = true := by
  obtain ⟨-, hvalue⟩ := toDouble_finite h
  obtain ⟨hup, hlow⟩ := Decimal.significant_close (doubleQuanta_pos hne) double.scale_pos 8
  rw [readsBackSingle_iff h _ s.negative, Double.num, hvalue, Double.den]
  refine magnitude_of_close h _ ?_ ?_
  · generalize s.quanta * 2 ^ 925 * _ = a at *
    generalize _ * double.scale = b at *
    omega
  · generalize s.quanta * 2 ^ 925 * _ = a at *
    generalize _ * double.scale = b at *
    omega

/-- The decimal for a literal is the first rounding that reads back. -/
theorem exists_literalDecimal (h : s.isFinite = true) (hne : s.magnitude ≠ 0) :
    ∃ n, 0 < n ∧ s.toDouble.literalDecimal = Decimal.significant n s.toDouble.num Double.den ∧
      s.toDouble.readsBackSingle s.toDouble.literalDecimal = true ∧
      ∀ i, 0 < i → i < n → s.toDouble.readsBackSingle
        (Decimal.significant i s.toDouble.num Double.den) = false := by
  obtain ⟨n, hpos, hfind, hread, hleast⟩ := exists_find_candidate (p := s.toDouble.readsBackSingle)
    (f := fun count => Decimal.significant count s.toDouble.num Double.den) (by decide : 0 < 9)
    (Nat.le_refl 9) (readsBackSingle_significant h hne)
  have hdecimal : s.toDouble.literalDecimal =
      Decimal.significant n s.toDouble.num Double.den := by
    rw [Double.literalDecimal, hfind, Option.getD_some]
  exact ⟨n, hpos, hdecimal, hdecimal ▸ hread, hleast⟩

/-- The decimal for a literal reads as the number's magnitude, whatever sign is put before it. -/
theorem literalDecimal_toSingle (h : s.isFinite = true) (hne : s.magnitude ≠ 0)
    (negative : Bool) :
    (s.toDouble.literalDecimal.toDouble negative).toSingle.magnitude = s.magnitude := by
  obtain ⟨-, -, -, hread, -⟩ := exists_literalDecimal h hne
  exact (readsBackSingle_iff h _ negative).mp hread

end Single
end EffectLang
