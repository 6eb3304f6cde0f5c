import EffectLang.Proofs.Number.Value

/-!
# Rounding by way of 64 bits

A decimal is rounded to 64 bits before it is rounded to 32. The quotients that end at a given
magnitude or below it are those up to the middle between that magnitude and the next one, moved by
half a step of 64 bits: upwards where the magnitude is even and takes the middle, downwards where it
is odd and does not.
-/

namespace EffectLang

namespace Format
variable {f : Format} {num den p : Nat}

/-! ## Rounding once -/

theorem nearest_le_iff_unbounded (hp : p < f.infinity) :
    f.nearest num den ≤ p ↔ f.unbounded num den ≤ p := by
  rw [nearest_eq_min]
  omega

theorem quanta_add_le {q r : Nat} (h : q ≤ r) :
    f.quanta q + f.quanta (q + 1) ≤ f.quanta r + f.quanta (r + 1) :=
  Nat.add_le_add (f.quanta_le_iff.mpr h) (f.quanta_le_iff.mpr (Nat.succ_le_succ h))

/-- Magnitudes with the same middle above them are the same. -/
theorem eq_of_quanta_add_le {q r : Nat} (h : q ≤ r)
    (hle : f.quanta r + f.quanta (r + 1) ≤ f.quanta q + f.quanta (q + 1)) : q = r := by
  have hq : f.quanta q ≤ f.quanta r := f.quanta_le_iff.mpr h
  have hq' : f.quanta (q + 1) ≤ f.quanta (r + 1) := f.quanta_le_iff.mpr (Nat.succ_le_succ h)
  exact f.quanta_injective (by omega)

/-- The quotients up to an even magnitude reach to the middle above it. -/
theorem nearest_le_iff_of_even (hbits : 0 < f.fractionBits) (pos : 0 < den) (hp : p < f.infinity)
    (heven : p % 2 = 0) :
    f.nearest num den ≤ p ↔ 2 * num ≤ den * (f.quanta p + f.quanta (p + 1)) := by
  have hround := f.rounds_unbounded hbits num pos
  rw [nearest_le_iff_unbounded hp]
  generalize f.unbounded num den = u at *
  constructor
  · intro hle
    exact Nat.le_trans hround.le_upper (Nat.mul_le_mul_left _ (quanta_add_le hle))
  · intro hle
    refine Nat.le_of_not_lt fun hlt => ?_
    obtain ⟨q, rfl⟩ := Nat.exists_eq_add_one_of_ne_zero (Nat.ne_of_gt (Nat.zero_lt_of_lt hlt))
    have hlow := Nat.le_trans (hround.lower_le q rfl) hle
    obtain rfl := eq_of_quanta_add_le (Nat.le_of_lt_succ hlt) (Nat.le_of_mul_le_mul_left hlow pos)
    have hsucc := hround.even_lower p rfl (Nat.le_antisymm (hround.lower_le p rfl) hle)
    omega

/-- The quotients up to an odd magnitude do not reach the middle above it. -/
theorem nearest_le_iff_of_odd (hbits : 0 < f.fractionBits) (pos : 0 < den) (hp : p < f.infinity)
    (hodd : p % 2 = 1) :
    f.nearest num den ≤ p ↔ 2 * num < den * (f.quanta p + f.quanta (p + 1)) := by
  have hround := f.rounds_unbounded hbits num pos
  rw [nearest_le_iff_unbounded hp]
  generalize f.unbounded num den = u at *
  constructor
  · intro hle
    have hmiddle := Nat.mul_le_mul_left den (quanta_add_le (f := f) hle)
    refine Nat.lt_of_le_of_ne (Nat.le_trans hround.le_upper hmiddle) fun heq => ?_
    obtain rfl := eq_of_quanta_add_le hle
      (Nat.le_of_mul_le_mul_left (heq ▸ hround.le_upper) pos)
    have heven := hround.even_upper heq
    omega
  · intro hlt
    refine Nat.le_of_not_lt fun hgt => ?_
    obtain ⟨q, rfl⟩ := Nat.exists_eq_add_one_of_ne_zero (Nat.ne_of_gt (Nat.zero_lt_of_lt hgt))
    have hmiddle := Nat.mul_le_mul_left den (quanta_add_le (f := f) (Nat.le_of_lt_succ hgt))
    have hlow := hround.lower_le q rfl
    omega

/-! ## Rounding twice -/

/-- The magnitude of 32 bits that a quotient of quanta of 64 bits is rounded to. -/
def throughDouble (num den : Nat) : Nat :=
  if double.nearest num den < double.infinity then
    single.nearest (double.quanta (double.nearest num den) * single.scale) double.scale
  else single.infinity

theorem throughDouble_mono {num' den' : Nat} (pos : 0 < den) (pos' : 0 < den')
    (h : num * den' ≤ num' * den) : throughDouble num den ≤ throughDouble num' den' := by
  have hmono := nearest_mono double_bits_pos pos pos' h
  unfold throughDouble
  split
  · split
    · exact nearest_mono single_bits_pos double.scale_pos double.scale_pos
        (Nat.mul_le_mul_right _ (Nat.mul_le_mul_right _ (double.quanta_le_iff.mpr hmono)))
    · exact nearest_le_infinity _ _ _
  · rw [if_neg (by omega)]

theorem throughDouble_zero (den : Nat) : throughDouble 0 den = 0 := by
  rw [throughDouble, nearest_zero, if_pos (by decide), quanta_zero, Nat.zero_mul, nearest_zero]

/-- A number of 25 binary digits at most, filled up with zeros to the 53 digits of 64 bits. -/
theorem exists_filled {n b : Nat} (hlow : 2 ^ b ≤ n) (hhigh : n < 2 ^ (b + 1)) (hb : b ≤ 24) :
    ∃ c, c = n * 2 ^ (52 - b) ∧ c % 2 = 0 ∧ double.fractions ≤ c ∧ c < 2 * double.fractions ∧
      (n ≠ 2 ^ b → double.fractions < c) := by
  have hsplit : double.fractions = 2 ^ b * 2 ^ (52 - b) := by
    rw [fractions_eq, ← pow_add]
    congr 1
    show 52 = b + (52 - b)
    omega
  have hpos : 0 < 2 ^ (52 - b) := Nat.two_pow_pos _
  refine ⟨n * 2 ^ (52 - b), rfl, ?_, ?_, ?_, fun hne => ?_⟩
  · rw [show 52 - b = 51 - b + 1 by omega, pow_succ, ← Nat.mul_assoc]
    exact Nat.mul_mod_left _ 2
  · rw [hsplit]
    exact Nat.mul_le_mul_right _ hlow
  · rw [hsplit, ← Nat.mul_assoc, ← pow_succ']
    exact Nat.mul_lt_mul_of_pos_right hhigh hpos
  · rw [hsplit]
    exact Nat.mul_lt_mul_of_pos_right (Nat.lt_of_le_of_ne hlow hne.symm) hpos

/-- The middle between two magnitudes of 32 bits is a value of 64 bits, with an even magnitude. The
next value is a step away, and so is the one before, unless the middle is a power of two. -/
theorem exists_middle {k b : Nat} (s : Nat) (hlow : 2 ^ b ≤ 2 * k + 1)
    (hhigh : 2 * k + 1 < 2 ^ (b + 1)) (hb : b ≤ 24) :
    ∃ x, x % 2 = 0 ∧ double.quanta x = (2 * k + 1) * 2 ^ (s + 924) ∧
      double.quanta (x + 1) = (2 * k + 1) * 2 ^ (s + 924) + 2 ^ (s + 872 + b) ∧
      (k ≠ 0 → ∃ y, x = y + 1 ∧
        double.quanta y + 2 ^ (s + 872 + b) = (2 * k + 1) * 2 ^ (s + 924)) := by
  obtain ⟨c, hc, heven, hlarge, hsmall, hstrict⟩ := exists_filled hlow hhigh hb
  have hvalue : c * 2 ^ (s + 872 + b) = (2 * k + 1) * 2 ^ (s + 924) := by
    rw [hc, Nat.mul_assoc, ← pow_add]
    congr 2
    omega
  rw [← hvalue]
  generalize s + 872 + b = t
  refine ⟨c + t * double.fractions, ?_, double.quanta_parts hsmall.le (.inr hlarge), ?_, ?_⟩
  · have hF : double.fractions % 2 = 0 := by decide
    rw [Nat.add_mod, heven, Nat.mul_mod, hF]
    simp
  · rw [show c + t * double.fractions + 1 = c + 1 + t * double.fractions by ring,
      double.quanta_parts hsmall (.inr (Nat.le_succ_of_le hlarge)), Nat.succ_mul]
  · intro hk
    have hb : b ≠ 0 := by
      rintro rfl
      omega
    have hne : 2 * k + 1 ≠ 2 ^ b := by
      obtain ⟨j, rfl⟩ := Nat.exists_eq_add_one_of_ne_zero hb
      rw [pow_succ]
      omega
    have hpos : 0 < c := Nat.lt_of_lt_of_le double.fractions_pos hlarge
    obtain ⟨y, hy⟩ : ∃ y, c + t * double.fractions = y + 1 :=
      ⟨_, (Nat.sub_add_cancel (by omega)).symm⟩
    exact ⟨y, hy, double.pred_quanta_eq hsmall.le (.inr (hstrict hne)) hy⟩

section
variable {k s b : Nat} (hk : k < 2 * single.fractions) (hs : s = 0 ∨ single.fractions ≤ k)
include hk hs

/-- The middle above a magnitude of 32 bits, in its own quanta. -/
theorem quanta_add_succ : single.quanta (k + s * single.fractions) +
    single.quanta (k + s * single.fractions + 1) = (2 * k + 1) * 2 ^ s := by
  have hsucc : k + 1 ≤ 2 * single.fractions := hk
  rw [show k + s * single.fractions + 1 = k + 1 + s * single.fractions by ring,
    single.quanta_parts hk.le hs, single.quanta_parts hsucc (hs.imp_right Nat.le_succ_of_le)]
  ring

variable (hfinite : k + s * single.fractions < single.infinity)
include hfinite

theorem middle_lt_infinity : (2 * k + 1) * 2 ^ (s + 924) < double.quanta double.infinity := by
  have hle : single.quanta (k + s * single.fractions) ≤ single.quanta single.infinity :=
    single.quanta_le_iff.mpr hfinite.le
  have hle' : single.quanta (k + s * single.fractions + 1) ≤ single.quanta single.infinity :=
    single.quanta_le_iff.mpr hfinite
  rw [quanta_single_infinity] at hle hle'
  rw [quanta_double_infinity]
  calc (2 * k + 1) * 2 ^ (s + 924)
      = (2 * k + 1) * 2 ^ s * 2 ^ 924 := by rw [pow_add, Nat.mul_assoc]
    _ ≤ 2 ^ (23 + 254 + 1) * 2 ^ 924 := by
        refine Nat.mul_le_mul_right _ ?_
        rw [← quanta_add_succ hk hs, pow_succ]
        omega
    _ < 2 ^ (52 + 2046) := by
        rw [← pow_add, Nat.pow_lt_pow_iff_right (by decide)]
        decide

/-- The second rounding takes a magnitude of 64 bits down to a given one of 32 if it is not above
the middle; an odd one does not get the middle itself. -/
theorem nearest_quanta_le_iff (z : Nat) :
    single.nearest (double.quanta z * single.scale) double.scale ≤ k + s * single.fractions ↔
      if k % 2 = 0 then double.quanta z ≤ (2 * k + 1) * 2 ^ (s + 924)
      else double.quanta z < (2 * k + 1) * 2 ^ (s + 924) := by
  have hparity : (k + s * single.fractions) % 2 = k % 2 := by
    rw [show single.fractions = 2 * 2 ^ 22 from rfl]
    omega
  have hleft : 2 * (double.quanta z * single.scale) = single.scale * 2 * double.quanta z := by ring
  have hright : double.scale * ((2 * k + 1) * 2 ^ s) =
      single.scale * 2 * ((2 * k + 1) * 2 ^ (s + 924)) := by
    rw [double_scale_eq, pow_add 2 s 924, pow_succ' 2 924]
    generalize 2 ^ 924 = w
    ring
  have hscale : 0 < single.scale * 2 := Nat.mul_pos single.scale_pos Nat.two_pos
  split
  · next heven =>
    rw [nearest_le_iff_of_even single_bits_pos double.scale_pos hfinite (hparity.trans heven),
      quanta_add_succ hk hs, hleft, hright]
    exact Nat.mul_le_mul_left_iff hscale
  · next hodd =>
    rw [nearest_le_iff_of_odd single_bits_pos double.scale_pos hfinite (by omega),
      quanta_add_succ hk hs, hleft, hright]
    exact Nat.mul_lt_mul_left hscale

variable (hlow : 2 ^ b ≤ 2 * k + 1) (hhigh : 2 * k + 1 < 2 ^ (b + 1)) (pos : 0 < den)
include hlow hhigh pos

/-- The quotients that end at a magnitude of 32 bits or below it. -/
theorem throughDouble_le_iff :
    throughDouble num den ≤ k + s * single.fractions ↔
      if k % 2 = 0 then
        2 * num ≤ den * (2 * ((2 * k + 1) * 2 ^ (s + 924)) + 2 ^ (s + 872 + b))
      else 2 * num + den * 2 ^ (s + 872 + b) < den * (2 * ((2 * k + 1) * 2 ^ (s + 924))) := by
  have hb : b ≤ 24 := by
    have hF : 2 * single.fractions = 2 ^ 24 := rfl
    refine Nat.le_of_lt_succ ((Nat.pow_lt_pow_iff_right (a := 2) (by decide)).mp ?_)
    omega
  obtain ⟨x, hx, hmiddle, hnext, hbefore⟩ := exists_middle s hlow hhigh hb
  have hlt := middle_lt_infinity hk hs hfinite
  rw [← hmiddle, double.quanta_lt_iff] at hlt
  have hreach := nearest_quanta_le_iff hk hs hfinite
  rw [← hmiddle] at hreach hbefore ⊢
  rw [← hmiddle] at hnext
  -- an infinite first rounding is above the middle, and ends at infinity
  have hthrough : throughDouble num den ≤ k + s * single.fractions ↔
      if k % 2 = 0 then double.nearest num den ≤ x else double.nearest num den < x := by
    rw [throughDouble]
    split
    · rw [hreach, double.quanta_le_iff, double.quanta_lt_iff]
    · next hinfinite =>
      refine iff_of_false (by omega) ?_
      split <;> omega
  rw [hthrough]
  split
  · rw [nearest_le_iff_of_even double_bits_pos pos hlt hx, hnext]
    rw [← Nat.add_assoc, ← Nat.two_mul]
  · next hodd =>
    obtain ⟨y, rfl, hy⟩ := hbefore (by omega)
    rw [Nat.lt_succ_iff, nearest_le_iff_of_odd double_bits_pos pos (by omega) (by omega), ← hy]
    generalize 2 ^ (s + 872 + b) = step
    have hsum : den * (2 * (double.quanta y + step)) =
        den * (double.quanta y + (double.quanta y + step)) + den * step := by ring
    rw [hsum]
    omega

end

end Format

/-! ## Decimals -/

namespace Decimal
open Format

/-- The value of a decimal in quanta of 64 bits. -/
def doubleQuanta (d : Decimal) : ℚ :=
  d.value * double.scale

theorem doubleQuanta_eq (d : Decimal) : d.doubleQuanta = (d.num * double.scale : Nat) / d.den := by
  rw [doubleQuanta, value_eq]
  push_cast
  ring

/-- A decimal is rounded to 64 bits and then to 32. -/
theorem magnitude_toSingle (d : Decimal) (negative : Bool) :
    (d.toDouble negative).toSingle.magnitude = throughDouble (d.num * double.scale) d.den := by
  have hle : (d.toDouble negative).magnitude ≤ double.infinity := nearest_le_infinity _ _ _
  have hmagnitude : (d.toDouble negative).magnitude =
      double.nearest (d.num * double.scale) d.den := rfl
  rw [Double.toSingle, BinaryFloat.convert, throughDouble, ← hmagnitude,
    if_neg (by simp [BinaryFloat.isNaN, hle])]
  by_cases hfinite : (d.toDouble negative).isFinite = true
  · rw [if_pos hfinite, if_pos (BinaryFloat.isFinite_iff.mp hfinite)]
    rfl
  · rw [if_neg hfinite, if_neg (mt BinaryFloat.isFinite_iff.mpr hfinite)]
    rfl

theorem value_pos {d : Decimal} {negative : Bool}
    (h : (d.toDouble negative).toSingle.magnitude ≠ 0) : 0 < d.value := by
  have hnum : d.num ≠ 0 := by
    intro hzero
    rw [magnitude_toSingle, hzero, Nat.zero_mul, throughDouble_zero] at h
    exact h rfl
  have hnum' : (0 : ℚ) < d.num := by exact_mod_cast Nat.pos_of_ne_zero hnum
  have hden : (0 : ℚ) < d.den := by exact_mod_cast d.den_pos
  rw [value_eq]
  exact div_pos hnum' hden

/-- What is infinite in 64 bits is so in 32. -/
theorem isFinite_toDouble {d : Decimal} {negative : Bool}
    (h : (d.toDouble negative).toSingle.isFinite = true) :
    (d.toDouble negative).isFinite = true := by
  have hmagnitude : (d.toDouble negative).magnitude =
      double.nearest (d.num * double.scale) d.den := rfl
  rw [BinaryFloat.isFinite_iff, magnitude_toSingle, throughDouble, ← hmagnitude] at h
  rw [BinaryFloat.isFinite_iff]
  refine Decidable.byContradiction fun hinfinite => ?_
  rw [if_neg hinfinite] at h
  exact Nat.lt_irrefl _ h

theorem magnitude_toSingle_mono {d d' : Decimal} (h : d.value ≤ d'.value)
    (negative negative' : Bool) :
    (d.toDouble negative).toSingle.magnitude ≤ (d'.toDouble negative').toSingle.magnitude := by
  have hden : (0 : ℚ) < d.den := by exact_mod_cast d.den_pos
  have hden' : (0 : ℚ) < d'.den := by exact_mod_cast d'.den_pos
  rw [value_eq, value_eq, div_le_div_iff₀ hden hden'] at h
  rw [magnitude_toSingle, magnitude_toSingle]
  refine throughDouble_mono d.den_pos d'.den_pos ?_
  calc d.num * double.scale * d'.den = d.num * d'.den * double.scale := by ring
    _ ≤ d'.num * d.den * double.scale := Nat.mul_le_mul_right _ (by exact_mod_cast h)
    _ = d'.num * double.scale * d.den := by ring

/-- The decimals that read as a magnitude of 32 bits or less: those up to the middle above it and
half a step of 64 bits more, or less than half a step before the middle. -/
theorem magnitude_le_iff {k s b : Nat} (hk : k < 2 * single.fractions)
    (hs : s = 0 ∨ single.fractions ≤ k) (hfinite : k + s * single.fractions < single.infinity)
    (hlow : 2 ^ b ≤ 2 * k + 1) (hhigh : 2 * k + 1 < 2 ^ (b + 1)) (d : Decimal) (negative : Bool) :
    (d.toDouble negative).toSingle.magnitude ≤ k + s * single.fractions ↔
      if k % 2 = 0 then 2 * d.doubleQuanta ≤ 2 * ((2 * k + 1) * 2 ^ (s + 924)) + 2 ^ (s + 872 + b)
      else 2 * d.doubleQuanta + 2 ^ (s + 872 + b) < 2 * ((2 * k + 1) * 2 ^ (s + 924)) := by
  have hden : (0 : ℚ) < d.den := by exact_mod_cast d.den_pos
  rw [magnitude_toSingle, throughDouble_le_iff hk hs hfinite hlow hhigh d.den_pos, doubleQuanta_eq]
  generalize d.num * double.scale = n
  generalize s + 872 + b = t
  generalize s + 924 = e
  split
  · rw [← mul_div_assoc, div_le_iff₀' hden]
    exact_mod_cast Iff.rfl
  · rw [← mul_div_assoc, div_add' _ _ _ hden.ne', div_lt_iff₀' hden, mul_comm (_ ^ t)]
    exact_mod_cast Iff.rfl

end Decimal
end EffectLang
