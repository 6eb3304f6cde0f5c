import Mathlib.Tactic.Ring
import Mathlib.Tactic.Linarith
import EffectLang.Number.BinaryFloat

/-!
# The values of magnitudes

Every magnitude is `k + s · F`, where `F` is the number of fractions, and then its value is
`k · 2^s` quanta. Values grow strictly with magnitudes, by one step of `2^s` at a time, and every
number with few enough binary digits is the value of a magnitude.
-/

namespace EffectLang.Format

variable (f : Format)

theorem fractions_pos : 0 < f.fractions :=
  Nat.two_pow_pos _

theorem fractions_eq : f.fractions = 2 ^ f.fractionBits := rfl

theorem quanta_eq (m : Nat) :
    f.quanta m = if m / f.fractions = 0 then m % f.fractions
      else (f.fractions + m % f.fractions) * 2 ^ (m / f.fractions - 1) := rfl

/-- The value of `k + s · F`. At the upper end `k = 2 · F` the exponent field is one more, and the
value is the same. -/
theorem quanta_parts {k s : Nat} (hk : k ≤ 2 * f.fractions) (hs : s = 0 ∨ f.fractions ≤ k) :
    f.quanta (k + s * f.fractions) = k * 2 ^ s := by
  have hF := f.fractions_pos
  rw [quanta_eq]
  rcases Nat.lt_or_ge k f.fractions with hlt | hge
  · obtain rfl : s = 0 := by omega
    simp [Nat.div_eq_of_lt hlt, Nat.mod_eq_of_lt hlt]
  · rcases Nat.lt_or_ge k (2 * f.fractions) with hlt | hge'
    · obtain ⟨c, rfl⟩ := Nat.exists_eq_add_of_le hge
      have hc : c < f.fractions := by omega
      have hm : f.fractions + c + s * f.fractions = c + (s + 1) * f.fractions := by ring
      rw [hm, Nat.add_mul_div_right _ _ hF, Nat.add_mul_mod_self_right, Nat.div_eq_of_lt hc,
        Nat.mod_eq_of_lt hc, if_neg (by omega)]
      congr 2
      omega
    · obtain rfl : k = 2 * f.fractions := by omega
      have hm : 2 * f.fractions + s * f.fractions = 0 + (s + 2) * f.fractions := by ring
      rw [hm, Nat.add_mul_div_right _ _ hF, Nat.add_mul_mod_self_right, Nat.zero_div,
        Nat.zero_mod, if_neg (by omega)]
      have hpow : 0 + (s + 2) - 1 = s + 1 := by omega
      rw [hpow, pow_succ]
      ring

/-- Every magnitude has a part `k` below `2 · F` and a shift `s`. -/
theorem exists_parts (m : Nat) :
    ∃ k s, m = k + s * f.fractions ∧ k < 2 * f.fractions ∧ (s = 0 ∨ f.fractions ≤ k) := by
  have hF := f.fractions_pos
  rcases Nat.lt_or_ge m (2 * f.fractions) with hlt | hge
  · exact ⟨m, 0, by omega, hlt, .inl rfl⟩
  · have hmod := Nat.mod_lt m hF
    have hdiv := Nat.div_add_mod m f.fractions
    have htwo : 2 ≤ m / f.fractions := (Nat.le_div_iff_mul_le hF).mpr hge
    obtain ⟨s, hs⟩ := Nat.exists_eq_add_of_le htwo
    refine ⟨f.fractions + m % f.fractions, s + 1, ?_, by omega, .inr (by omega)⟩
    rw [hs] at hdiv
    linarith [hdiv, show (s + 1) * f.fractions + f.fractions = f.fractions * (2 + s) by ring]

/-- The step from one value to the next, and a bound on the value by that step. -/
theorem quanta_succ (m : Nat) :
    ∃ s, f.quanta (m + 1) = f.quanta m + 2 ^ s ∧
      f.quanta (m + 1) ≤ 2 * f.fractions * 2 ^ s := by
  obtain ⟨k, s, rfl, hk, hs⟩ := f.exists_parts m
  have hnext : k + s * f.fractions + 1 = k + 1 + s * f.fractions := by ring
  refine ⟨s, ?_, ?_⟩
  · rw [hnext, f.quanta_parts (by omega) (by omega), f.quanta_parts (by omega) hs]
    ring
  · rw [hnext, f.quanta_parts (by omega) (by omega)]
    exact Nat.mul_le_mul_right _ hk

theorem quanta_strictMono {m m' : Nat} (h : m < m') : f.quanta m < f.quanta m' := by
  induction m' with
  | zero => omega
  | succ m' ih =>
    obtain ⟨s, hs, -⟩ := f.quanta_succ m'
    have hstep := Nat.two_pow_pos s
    rcases Nat.lt_or_ge m m' with hlt | hge
    · have := ih hlt
      omega
    · obtain rfl : m = m' := by omega
      omega

theorem quanta_le_iff {m m' : Nat} : f.quanta m ≤ f.quanta m' ↔ m ≤ m' := by
  constructor
  · intro h
    refine Nat.le_of_not_lt fun hlt => ?_
    have := f.quanta_strictMono hlt
    omega
  · intro h
    rcases Nat.lt_or_eq_of_le h with hlt | rfl
    · exact Nat.le_of_lt (f.quanta_strictMono hlt)
    · exact Nat.le_refl _

theorem quanta_lt_iff {m m' : Nat} : f.quanta m < f.quanta m' ↔ m < m' := by
  rw [← Nat.not_le, ← Nat.not_le, quanta_le_iff]

theorem quanta_injective {m m' : Nat} (h : f.quanta m = f.quanta m') : m = m' :=
  Nat.le_antisymm (f.quanta_le_iff.mp (Nat.le_of_eq h)) (f.quanta_le_iff.mp (Nat.le_of_eq h.symm))

/-- A number of no more binary digits than a magnitude has is the value of one. -/
theorem exists_quanta_eq {c : Nat} (t : Nat) (hc : c < 2 * f.fractions) :
    ∃ m, f.quanta m = c * 2 ^ t := by
  induction t generalizing c with
  | zero => exact ⟨c + 0 * f.fractions, f.quanta_parts (by omega) (.inl rfl)⟩
  | succ t ih =>
    rcases Nat.lt_or_ge c f.fractions with hlt | hge
    · -- the leading digit is not set yet: one more digit of `c` for one less of the power
      obtain ⟨m, hm⟩ := ih (c := 2 * c) (by omega)
      exact ⟨m, by rw [hm, pow_succ]; ring⟩
    · exact ⟨c + (t + 1) * f.fractions, f.quanta_parts (by omega) (.inr hge)⟩

/-- The digits of a value: those above its shift. -/
theorem exists_quanta_digits (m : Nat) :
    ∃ k s, k < 2 * f.fractions ∧ f.quanta m = k * 2 ^ s := by
  obtain ⟨k, s, rfl, hk, hs⟩ := f.exists_parts m
  exact ⟨k, s, hk, f.quanta_parts (by omega) hs⟩

/-- Infinity stands where the value of the next power of two would. -/
theorem quanta_infinity (h : 3 ≤ f.exponents) :
    f.quanta f.infinity = f.fractions * 2 ^ (f.exponents - 2) := by
  have hinf : f.infinity = f.fractions + (f.exponents - 2) * f.fractions := by
    obtain ⟨n, hn⟩ := Nat.exists_eq_add_of_le h
    rw [infinity, hn, show 3 + n - 1 = n + 2 by omega, show 3 + n - 2 = n + 1 by omega]
    ring
  rw [hinf, f.quanta_parts (by omega) (.inr (Nat.le_refl _))]

end EffectLang.Format
