import EffectLang.Proofs.Number.Quanta

/-!
# Rounding to the nearest magnitude

`f.Rounds num den m` says that `num / den` quanta lie between the midpoints on either side of the
magnitude `m`, a midpoint itself going to the even magnitude. `nearest` has this property up to
infinity, at most one magnitude has it, and it is monotone in the quotient: so rounding is
monotone, depends on the quotient only, and leaves values of the format alone.
-/

namespace EffectLang

/-! ## Quotients -/

/-- A quotient and its rounding are at most a half apart, and exactly a half apart only when the
rounding is even. -/
theorem roundHalfEven_bounds (num : Nat) {den : Nat} (pos : 0 < den) :
    2 * num ≤ den * (2 * roundHalfEven num den + 1) ∧
    2 * (den * roundHalfEven num den) ≤ 2 * num + den ∧
    (2 * num = den * (2 * roundHalfEven num den + 1) → roundHalfEven num den % 2 = 0) ∧
    (2 * (den * roundHalfEven num den) = 2 * num + den → roundHalfEven num den % 2 = 0) := by
  have hmod := Nat.mod_lt num pos
  have hdiv := Nat.div_add_mod num den
  have hup : ∀ r, den * (2 * r + 1) = 2 * (den * r) + den := fun r => by ring
  have hsucc : den * (num / den + 1) = den * (num / den) + den := by ring
  rw [hup]
  unfold roundHalfEven
  dsimp only
  split
  · omega
  · split
    · rw [hsucc]
      omega
    · split
      · omega
      · rw [hsucc]
        omega

theorem le_roundHalfEven_of_mul_le {num den n : Nat} (pos : 0 < den) (h : den * n ≤ num) :
    n ≤ roundHalfEven num den := by
  refine Nat.le_trans ?_ (le_roundHalfEven num den)
  rw [Nat.le_div_iff_mul_le pos]
  linarith [Nat.mul_comm den n]

theorem roundHalfEven_le_of_lt_mul {num den n : Nat} (h : num < den * n) :
    roundHalfEven num den ≤ n := by
  refine Nat.le_trans (roundHalfEven_le num den) ?_
  exact Nat.succ_le_of_lt (Nat.div_lt_of_lt_mul h)

namespace Format
variable (f : Format)

/-! ## The cell of a magnitude -/

/-- `num / den` quanta lie in the cell of `m`: between the midpoints to the magnitudes before and
after it, which belong to the cell when `m` is even. -/
structure Rounds (num den m : Nat) : Prop where
  le_upper : 2 * num ≤ den * (f.quanta m + f.quanta (m + 1))
  even_upper : 2 * num = den * (f.quanta m + f.quanta (m + 1)) → m % 2 = 0
  lower_le : ∀ p, m = p + 1 → den * (f.quanta p + f.quanta m) ≤ 2 * num
  even_lower : ∀ p, m = p + 1 → den * (f.quanta p + f.quanta m) = 2 * num → m % 2 = 0

variable {f}

/-- Cells lie in the order of their magnitudes. -/
theorem Rounds.mono {num den num' den' m m' : Nat} (h : f.Rounds num den m)
    (h' : f.Rounds num' den' m') (pos : 0 < den) (pos' : 0 < den')
    (hle : num * den' ≤ num' * den) : m ≤ m' := by
  refine Nat.le_of_not_lt fun hlt => ?_
  obtain ⟨p, rfl⟩ : ∃ p, m = p + 1 := ⟨m - 1, by omega⟩
  have hlow := h.lower_le p rfl
  have hup := h'.le_upper
  have hm : f.quanta m' ≤ f.quanta p := f.quanta_le_iff.mpr (by omega)
  have hm' : f.quanta (m' + 1) ≤ f.quanta (p + 1) := f.quanta_le_iff.mpr (by omega)
  have hsum : f.quanta m' + f.quanta (m' + 1) ≤ f.quanta p + f.quanta (p + 1) := by omega
  -- all quotients between the two midpoints are equal, so the midpoints coincide
  have hchain : den * den' * (f.quanta p + f.quanta (p + 1)) ≤
      den * den' * (f.quanta m' + f.quanta (m' + 1)) := by
    calc den * den' * (f.quanta p + f.quanta (p + 1))
        = den * (f.quanta p + f.quanta (p + 1)) * den' := by ring
      _ ≤ 2 * num * den' := Nat.mul_le_mul_right _ hlow
      _ = 2 * (num * den') := by ring
      _ ≤ 2 * (num' * den) := Nat.mul_le_mul_left _ hle
      _ = 2 * num' * den := by ring
      _ ≤ den' * (f.quanta m' + f.quanta (m' + 1)) * den := Nat.mul_le_mul_right _ hup
      _ = den * den' * (f.quanta m' + f.quanta (m' + 1)) := by ring
  have heq := Nat.le_antisymm (Nat.le_of_mul_le_mul_left hchain (Nat.mul_pos pos pos')) hsum
  obtain rfl : p = m' := f.quanta_injective (by omega)
  -- two neighbours cannot both be even
  have heven : (p + 1) % 2 = 0 := by
    refine h.even_lower p rfl (Nat.le_antisymm hlow ?_)
    have hscaled : 2 * num * den' ≤ den * (f.quanta p + f.quanta (p + 1)) * den' := by
      calc 2 * num * den' = 2 * (num * den') := by ring
        _ ≤ 2 * (num' * den) := Nat.mul_le_mul_left _ hle
        _ = 2 * num' * den := by ring
        _ ≤ den' * (f.quanta p + f.quanta (p + 1)) * den := Nat.mul_le_mul_right _ hup
        _ = den * (f.quanta p + f.quanta (p + 1)) * den' := by ring
    exact Nat.le_of_mul_le_mul_right hscaled pos'
  have heven' : p % 2 = 0 := by
    refine h'.even_upper (Nat.le_antisymm hup ?_)
    have hscaled : den' * (f.quanta p + f.quanta (p + 1)) * den ≤ 2 * num' * den := by
      calc den' * (f.quanta p + f.quanta (p + 1)) * den
          = den * (f.quanta p + f.quanta (p + 1)) * den' := by ring
        _ ≤ 2 * num * den' := Nat.mul_le_mul_right _ hlow
        _ = 2 * (num * den') := by ring
        _ ≤ 2 * (num' * den) := Nat.mul_le_mul_left _ hle
        _ = 2 * num' * den := by ring
    exact Nat.le_of_mul_le_mul_right hscaled pos
  omega

/-- A quotient strictly between the midpoints around `m` is in the cell of `m`. -/
theorem Rounds.of_lt {num den m : Nat}
    (hup : 2 * num < den * (f.quanta m + f.quanta (m + 1)))
    (hlow : ∀ p, m = p + 1 → den * (f.quanta p + f.quanta m) < 2 * num) : f.Rounds num den m where
  le_upper := Nat.le_of_lt hup
  even_upper h := absurd h (Nat.ne_of_lt hup)
  lower_le p hp := Nat.le_of_lt (hlow p hp)
  even_lower p hp h := absurd h (Nat.ne_of_lt (hlow p hp))

/-- The value of a magnitude is in its cell. -/
theorem Rounds.of_quanta {den : Nat} (m : Nat) (pos : 0 < den) :
    f.Rounds (den * f.quanta m) den m := by
  refine .of_lt ?_ ?_
  · have hstep : f.quanta m < f.quanta (m + 1) := f.quanta_strictMono (Nat.lt_succ_self m)
    calc 2 * (den * f.quanta m) = den * (f.quanta m + f.quanta m) := by ring
      _ < den * (f.quanta m + f.quanta (m + 1)) := Nat.mul_lt_mul_of_pos_left (by omega) pos
  · rintro p rfl
    have hstep : f.quanta p < f.quanta (p + 1) := f.quanta_strictMono (Nat.lt_succ_self p)
    calc den * (f.quanta p + f.quanta (p + 1))
        < den * (f.quanta (p + 1) + f.quanta (p + 1)) :=
          Nat.mul_lt_mul_of_pos_left (by omega) pos
      _ = 2 * (den * f.quanta (p + 1)) := by ring

/-! ## Rounding without an upper end -/

variable (f)

/-- The shift of the cell that holds `num / den`. -/
def shift (num den : Nat) : Nat :=
  (num / den).log2 - f.fractionBits

/-- The nearest magnitude if there were no infinity. -/
def unbounded (num den : Nat) : Nat :=
  roundHalfEven num (den * 2 ^ f.shift num den) + f.shift num den * f.fractions

theorem nearest_eq_min (num den : Nat) :
    f.nearest num den = min (f.unbounded num den) f.infinity := rfl

/-- The quotient has at most one binary digit more than a fraction, above the shift. -/
theorem lt_shift (num : Nat) {den : Nat} (pos : 0 < den) :
    num < den * 2 ^ f.shift num den * (2 * f.fractions) := by
  have hlog : num / den < 2 ^ ((num / den).log2 + 1) := Nat.lt_log2_self
  have hexp : 2 ^ ((num / den).log2 + 1) ≤ 2 ^ f.shift num den * (2 * f.fractions) := by
    rw [fractions_eq, ← pow_succ', ← pow_add]
    exact Nat.pow_le_pow_right (by decide) (by unfold shift; omega)
  have hquot : num < den * (num / den + 1) := Nat.lt_mul_div_succ num pos
  calc num < den * (num / den + 1) := hquot
    _ ≤ den * (2 ^ f.shift num den * (2 * f.fractions)) := Nat.mul_le_mul_left _ (by omega)
    _ = den * 2 ^ f.shift num den * (2 * f.fractions) := by ring

/-- If it is shifted at all, the quotient has that digit. -/
theorem shift_le {num den : Nat} (h : f.shift num den ≠ 0) :
    den * 2 ^ f.shift num den * f.fractions ≤ num := by
  have hne : num / den ≠ 0 := by
    intro hzero
    simp [shift, hzero] at h
  have hlog : 2 ^ (num / den).log2 ≤ num / den := Nat.log2_self_le hne
  have hexp : 2 ^ f.shift num den * f.fractions = 2 ^ (num / den).log2 := by
    rw [fractions_eq, ← pow_add]
    congr 1
    unfold shift at h ⊢
    omega
  calc den * 2 ^ f.shift num den * f.fractions
      = den * (2 ^ f.shift num den * f.fractions) := by ring
    _ ≤ den * (num / den) := Nat.mul_le_mul_left _ (hexp ▸ hlog)
    _ ≤ num := Nat.mul_div_le num den

/-- The value after `r + s · F` is at least a step of `2^s` away. -/
theorem succ_quanta_le {r s : Nat} (hr : r ≤ 2 * f.fractions) (hs : s = 0 ∨ f.fractions ≤ r) :
    r * 2 ^ s + 2 ^ s ≤ f.quanta (r + s * f.fractions + 1) := by
  rcases Nat.lt_or_ge r (2 * f.fractions) with hr' | hr'
  · rw [show r + s * f.fractions + 1 = r + 1 + s * f.fractions by ring,
      f.quanta_parts (by omega) (by omega)]
    exact Nat.le_of_eq (by ring)
  · obtain rfl : r = 2 * f.fractions := by omega
    have hF := f.fractions_pos
    rw [show 2 * f.fractions + s * f.fractions + 1 = f.fractions + 1 + (s + 1) * f.fractions by
      ring, f.quanta_parts (by omega) (by omega), pow_succ]
    have hstep := Nat.two_pow_pos s
    linarith [show (f.fractions + 1) * (2 ^ s * 2) = 2 * f.fractions * 2 ^ s + 2 * 2 ^ s by ring]

/-- The value before `r + s · F` is a step of `2^s` away, unless the digits `r` are a power of
two. -/
theorem pred_quanta_eq {r s p : Nat} (hr : r ≤ 2 * f.fractions) (hs : s = 0 ∨ f.fractions < r)
    (hp : r + s * f.fractions = p + 1) : f.quanta p + 2 ^ s = r * 2 ^ s := by
  have hpos : r ≠ 0 := by
    rintro rfl
    rcases hs with rfl | hlt <;> omega
  obtain ⟨k, rfl⟩ := Nat.exists_eq_add_one_of_ne_zero hpos
  obtain rfl : p = k + s * f.fractions := by omega
  rw [f.quanta_parts (by omega) (by omega)]
  ring

/-- Rounding finds the cell of a quotient. The digits of the result are a rounded quotient; where
they are a power of two, the cell below is half as wide, and the quotient is not in it. -/
theorem rounds_unbounded (hbits : 0 < f.fractionBits) (num : Nat) {den : Nat} (pos : 0 < den) :
    f.Rounds num den (f.unbounded num den) := by
  have heven : f.fractions % 2 = 0 := by
    obtain ⟨n, hn⟩ := Nat.exists_eq_add_one_of_ne_zero (Nat.pos_iff_ne_zero.mp hbits)
    rw [fractions_eq, hn, pow_succ]
    omega
  have hlt := f.lt_shift num pos
  have hle : f.shift num den ≠ 0 → _ := f.shift_le
  unfold unbounded
  generalize f.shift num den = s at *
  have hpos : 0 < den * 2 ^ s := Nat.mul_pos pos (Nat.two_pow_pos s)
  obtain ⟨hup, hlow, htieup, htielow⟩ := roundHalfEven_bounds num hpos
  have hr : roundHalfEven num (den * 2 ^ s) ≤ 2 * f.fractions := roundHalfEven_le_of_lt_mul hlt
  have hFr : s ≠ 0 → f.fractions ≤ roundHalfEven num (den * 2 ^ s) := fun hs =>
    le_roundHalfEven_of_mul_le hpos (hle hs)
  generalize roundHalfEven num (den * 2 ^ s) = r at *
  have hparity : r % 2 = 0 → (r + s * f.fractions) % 2 = 0 := by
    intro h
    simp [Nat.add_mod, Nat.mul_mod, h, heven]
  have hvalue : f.quanta (r + s * f.fractions) = r * 2 ^ s := f.quanta_parts hr (by omega)
  have hmid : den * 2 ^ s * (2 * r + 1) ≤
      den * (f.quanta (r + s * f.fractions) + f.quanta (r + s * f.fractions + 1)) := by
    have hstep := f.succ_quanta_le (s := s) hr (by omega)
    rw [hvalue]
    calc den * 2 ^ s * (2 * r + 1) = den * (r * 2 ^ s + (r * 2 ^ s + 2 ^ s)) := by ring
      _ ≤ _ := Nat.mul_le_mul_left _ (by omega)
  have hlower : ∀ p, r + s * f.fractions = p + 1 →
      den * (f.quanta p + f.quanta (r + s * f.fractions)) < 2 * num ∨
      den * (f.quanta p + f.quanta (r + s * f.fractions)) + den * 2 ^ s =
        2 * (den * 2 ^ s * r) := by
    intro p hp
    by_cases hs : s = 0 ∨ f.fractions < r
    · right
      have hpred := f.pred_quanta_eq hr hs hp
      rw [hvalue]
      calc den * (f.quanta p + r * 2 ^ s) + den * 2 ^ s
          = den * (f.quanta p + 2 ^ s + r * 2 ^ s) := by ring
        _ = 2 * (den * 2 ^ s * r) := by rw [hpred]; ring
    · left
      have hmono : f.quanta p < f.quanta (r + s * f.fractions) := f.quanta_strictMono (by omega)
      calc den * (f.quanta p + f.quanta (r + s * f.fractions))
          < den * (f.quanta (r + s * f.fractions) + f.quanta (r + s * f.fractions)) :=
            Nat.mul_lt_mul_of_pos_left (by omega) pos
        _ = 2 * (den * 2 ^ s * r) := by rw [hvalue]; ring
        _ = 2 * (den * 2 ^ s * f.fractions) := by rw [show r = f.fractions by omega]
        _ ≤ 2 * num := Nat.mul_le_mul_left _ (hle (by omega))
  refine ⟨Nat.le_trans hup hmid, ?_, ?_, ?_⟩
  · intro h
    exact hparity (htieup (Nat.le_antisymm hup (h ▸ hmid)))
  · intro p hp
    rcases hlower p hp with h | h <;> omega
  · intro p hp h
    rcases hlower p hp with h' | h'
    · omega
    · exact hparity (htielow (by omega))

/-! ## Rounding to a magnitude -/

variable {f}

/-- The magnitude whose cell holds the quotient is the one that rounding finds. -/
theorem Rounds.nearest_eq (hbits : 0 < f.fractionBits) {num den m : Nat} (pos : 0 < den)
    (h : f.Rounds num den m) : f.nearest num den = min m f.infinity := by
  have hround := f.rounds_unbounded hbits num pos
  have heq : f.unbounded num den = m :=
    Nat.le_antisymm (hround.mono h pos pos (Nat.le_refl _))
      (h.mono hround pos pos (Nat.le_refl _))
  rw [nearest_eq_min, heq]

theorem nearest_mono (hbits : 0 < f.fractionBits) {num den num' den' : Nat} (pos : 0 < den)
    (pos' : 0 < den') (h : num * den' ≤ num' * den) :
    f.nearest num den ≤ f.nearest num' den' := by
  have hmono := (f.rounds_unbounded hbits num pos).mono
    (f.rounds_unbounded hbits num' pos') pos pos' h
  rw [nearest_eq_min, nearest_eq_min]
  omega

/-- Rounding depends on the quotient only. -/
theorem nearest_congr (hbits : 0 < f.fractionBits) {num den num' den' : Nat} (pos : 0 < den)
    (pos' : 0 < den') (h : num * den' = num' * den) :
    f.nearest num den = f.nearest num' den' :=
  Nat.le_antisymm (nearest_mono hbits pos pos' (Nat.le_of_eq h))
    (nearest_mono hbits pos' pos (Nat.le_of_eq h.symm))

/-- A value of the format is its own rounding. -/
theorem nearest_quanta (hbits : 0 < f.fractionBits) {m : Nat} (h : m ≤ f.infinity) :
    f.nearest (f.quanta m) 1 = m := by
  have hcell := Rounds.of_quanta (f := f) m Nat.one_pos
  rw [Nat.one_mul] at hcell
  rw [hcell.nearest_eq hbits Nat.one_pos, Nat.min_eq_left h]

end Format
end EffectLang
