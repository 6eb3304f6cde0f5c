import EffectLang.Proofs.Number.DoubleRounding
import EffectLang.Proofs.Token.Shape

/-!
# Float tokens

A float token is read as the number that its value is rounded to, first to 64 bits and then to 32;
only where that would be infinite it is rejected. The text of a finite number is such a token, after
a minus sign for its sign bit, and is read back bit by bit.
-/

namespace EffectLang

/-! ## From tokens to numbers -/

/-- The least value that is not rounded to a finite number. It is half a step of 64 bits before the
middle between the greatest number of 32 bits and the next power of two. -/
def Single.overflow : ℚ :=
  2 ^ 128 - 2 ^ 103 - 2 ^ 74

theorem Decimal.isFinite_toSingle_iff (d : Decimal) (negative : Bool) :
    (d.toDouble negative).toSingle.isFinite = true ↔ d.value < Single.overflow := by
  -- the greatest magnitude has ones only in its 24 digits
  have hgreatest : Format.single.infinity = 2 ^ 24 - 1 + 253 * Format.single.fractions + 1 := by
    decide
  have hcut := d.magnitude_le_iff (k := 2 ^ 24 - 1) (s := 253) (b := 24) (by decide)
    (.inr (by decide)) (by decide) (by decide) (by decide) negative
  rw [BinaryFloat.isFinite_iff, hgreatest, Nat.lt_succ_iff, hcut, if_neg (by decide)]
  have hmiddle : (2 : ℚ) ^ (253 + 924) = 2 ^ 103 * 2 ^ 1074 := by rw [← pow_add]
  have hstep : (2 : ℚ) ^ (253 + 872 + 24) = 2 ^ 75 * 2 ^ 1074 := by rw [← pow_add]
  have hscale : (0 : ℚ) < 2 ^ 1074 := by positivity
  rw [doubleQuanta, Format.double_scale, hmiddle, hstep, Single.overflow, Nat.cast_pow,
    Nat.cast_ofNat]
  generalize (2 : ℚ) ^ 1074 = w at *
  have hleft : 2 * (d.value * w) + 2 ^ 75 * w = w * (2 * d.value + 2 ^ 75) := by ring
  have hright : 2 * ((2 * ((2 ^ 24 - 1 : Nat) : ℚ) + 1) * (2 ^ 103 * w)) =
      w * (2 * (2 ^ 128 - 2 ^ 103)) := by
    push_cast
    ring
  rw [hleft, hright, mul_lt_mul_iff_right₀ hscale]
  constructor <;> intro h <;> linarith

/-- Reading to 64 bits takes the nearest number. -/
theorem Decimal.isNearest_toDouble {d : Decimal}
    (h : (d.toDouble false).isFinite = true) : (d.toDouble false).IsNearest d.value := by
  have hnearest : BinaryFloat.IsNearest (1 * (d.num / d.den)) (d.toDouble false) :=
    BinaryFloat.isNearest_ofRatio Format.double_bits_pos false d.den_pos h
  rwa [one_mul, ← value_eq] at hnearest

/-- The value of a numeral decides whether it is read, and as which number. -/
theorem readFloat_eq (t : Token) :
    readFloat t = if t.text.numeralValue < Single.overflow
      then .ok (.float ((pointDecimal t.text).toDouble false).toSingle)
      else malformedAt .invalidNumber t := by
  have hfits := (pointDecimal t.text).isFinite_toSingle_iff false
  rw [Decimal.value_pointDecimal] at hfits
  exact if_congr hfits rfl rfl

theorem readFloat_eq_ok_iff {t : Token} {v : Single} :
    readFloat t = .ok (.float v) ↔ t.text.numeralValue < Single.overflow ∧
      v = ((pointDecimal t.text).toDouble false).toSingle := by
  rw [readFloat_eq]
  split
  · next hlt => simp [hlt, eq_comm]
  · next hlt => simp [hlt, malformedAt, malformed]

theorem readFloat_eq_error_iff {t : Token} :
    readFloat t = malformedAt .invalidNumber t ↔ Single.overflow ≤ t.text.numeralValue := by
  rw [readFloat_eq, ← not_lt]
  split
  · next hlt => simp [hlt, malformedAt, malformed]
  · next hlt => simp [hlt]

/-- A decimal is rounded to the nearest number of 64 bits, and that one to the nearest of 32. -/
theorem Decimal.exists_nearest {d : Decimal} (h : d.value < Single.overflow) :
    ∃ w : Double, w.IsNearest d.value ∧ ((d.toDouble false).toSingle).IsNearest w.value := by
  have hfinite := (d.isFinite_toSingle_iff false).mpr h
  have hdouble := isFinite_toDouble hfinite
  exact ⟨d.toDouble false, isNearest_toDouble hdouble,
    BinaryFloat.isNearest_convert Format.single_bits_pos hdouble hfinite⟩

/-- The text of a float token is digits around a point, and it is read as the number that its value
is rounded to by way of 64 bits. It is rejected exactly if its value is at least
`2^128 - 2^103 - 2^74`. A greater value is not read as a smaller number. -/
theorem readFloat_rounds {source : Text} {t : Token} (h : t ∈ tokenize source)
    (hkind : t.kind = .float) :
    (∃ whole fraction : Text, t.text = whole ++ '.' :: fraction ∧
      (∀ c ∈ whole ++ fraction, c.isDigit = true) ∧ whole ++ fraction ≠ []) ∧
    (readFloat t = malformedAt .invalidNumber t ↔
      2 ^ 128 - 2 ^ 103 - 2 ^ 74 ≤ t.text.numeralValue) ∧
    (t.text.numeralValue < 2 ^ 128 - 2 ^ 103 - 2 ^ 74 →
      ∃ (w : Double) (v : Single), readFloat t = .ok (.float v) ∧ v.negative = false ∧
        w.IsNearest t.text.numeralValue ∧ v.IsNearest w.value) ∧
    ∀ (source' : Text) (t' : Token), t' ∈ tokenize source' → t'.kind = .float →
      t.text.numeralValue ≤ t'.text.numeralValue → ∀ v v' : Single,
        readFloat t = .ok (.float v) → readFloat t' = .ok (.float v') → v.value ≤ v'.value := by
  have hsignificant : t.isSignificant = true := by
    rw [Token.isSignificant, hkind]
    rfl
  have hspelled := spelled_of_mem_tokenize (List.mem_filter.mpr ⟨h, hsignificant⟩)
  refine ⟨hspelled.float hkind, readFloat_eq_error_iff, fun hlt => ?_, ?_⟩
  · have hvalue := Decimal.value_pointDecimal t.text
    obtain ⟨w, hw, hv⟩ := Decimal.exists_nearest (d := pointDecimal t.text) (hvalue ▸ hlt)
    exact ⟨w, _, readFloat_eq_ok_iff.mpr ⟨hlt, rfl⟩, BinaryFloat.negative_convert _,
      hvalue ▸ hw, hv⟩
  · intro source' t' _ _ hle v v' hv hv'
    obtain ⟨-, rfl⟩ := readFloat_eq_ok_iff.mp hv
    obtain ⟨-, rfl⟩ := readFloat_eq_ok_iff.mp hv'
    rw [← Decimal.value_pointDecimal, ← Decimal.value_pointDecimal] at hle
    exact BinaryFloat.value_le_of_magnitude_le (BinaryFloat.negative_convert _)
      (BinaryFloat.negative_convert _) (Decimal.magnitude_toSingle_mono hle false false)

/-- The least value that is rejected, and the number that is read from a little less. -/
theorem readFloat_at_overflow :
    readFloat ⟨.float, "340282356779733642748073463979561713664.".toList, 0⟩ =
        malformedAt .invalidNumber
          ⟨.float, "340282356779733642748073463979561713664.".toList, 0⟩ ∧
      ∃ (w : Double) (v : Single),
        readFloat ⟨.float, "340282356779733642748073463979561713663.9".toList, 0⟩ =
          .ok (.float v) ∧ v.negative = false ∧
        w.IsNearest (Text.numeralValue "340282356779733642748073463979561713663.9".toList) ∧
        v.IsNearest w.value := by
  have hleast : (⟨.float, "340282356779733642748073463979561713664.".toList, 0⟩ : Token) ∈
      tokenize "340282356779733642748073463979561713664.".toList := by decide +kernel
  have hless : (⟨.float, "340282356779733642748073463979561713663.9".toList, 0⟩ : Token) ∈
      tokenize "340282356779733642748073463979561713663.9".toList := by decide +kernel
  obtain ⟨-, hrejected, -⟩ := readFloat_rounds hleast rfl
  obtain ⟨-, -, hread, -⟩ := readFloat_rounds hless rfl
  exact ⟨hrejected.mpr (by decide +kernel), hread (by decide +kernel)⟩

/-! ## From numbers to tokens -/

theorem tokenize_numeral {whole fraction : Text} (h : whole.IsDigits)
    (hfraction : fraction.IsDigits) :
    tokenize (whole ++ '.' :: fraction) = [⟨.float, whole ++ '.' :: fraction, 0⟩] := by
  have hstops : Text.Stops Char.isDigit [] := nofun
  have hscan := (Lexeme.float h hfraction hstops).scan_eq 0
  rw [List.append_nil, scan_nil] at hscan
  rw [tokenize, hscan]
  exact markFrom_cons [] rfl (nothing_ne_name)

/-- The text of a finite number is a minus sign for its sign bit and a float token, and reading the
token and giving it the sign restores every bit. -/
theorem Single.text_reads_back {v : Single} (h : v.isFinite = true) :
    ∃ whole fraction : Text, whole.IsDigits ∧ fraction.IsDigits ∧
      v.text = (if v.negative then ['-'] else []) ++ (whole ++ '.' :: fraction) ∧
      tokenize (whole ++ '.' :: fraction) = [⟨.float, whole ++ '.' :: fraction, 0⟩] ∧
      ∃ w : Single, readFloat ⟨.float, whole ++ '.' :: fraction, 0⟩ = .ok (.float w) ∧
        (if v.negative then w.neg else w).bits = v.bits := by
  obtain ⟨whole, fraction, hwhole, hfraction, htext, hread⟩ := v.exists_text h
  refine ⟨whole, fraction, hwhole, hfraction, htext, tokenize_numeral hwhole hfraction,
    v.unsigned, ?_, ?_⟩
  · have hfits : ((pointDecimal (whole ++ '.' :: fraction)).toDouble false).fitsSingle = true := by
      rw [Double.fitsSingle, hread]
      exact h
    rw [readFloat, if_pos hfits, hread]
  · cases hsign : v.negative <;> simp [BinaryFloat.bits, BinaryFloat.unsigned, hsign]

/-- The opposite of the smallest positive number, read back from its text. -/
theorem Single.text_reads_back_at_smallest :
    (⟨true, 1, by decide⟩ : Single).isFinite = true ∧
    ∃ whole fraction : Text, whole.IsDigits ∧ fraction.IsDigits ∧
      Single.text ⟨true, 1, by decide⟩ = ['-'] ++ (whole ++ '.' :: fraction) ∧
      tokenize (whole ++ '.' :: fraction) = [⟨.float, whole ++ '.' :: fraction, 0⟩] ∧
      ∃ w : Single, readFloat ⟨.float, whole ++ '.' :: fraction, 0⟩ = .ok (.float w) ∧
        w.neg.bits = 0x80000001 := by
  have hfinite : (⟨true, 1, by decide⟩ : Single).isFinite = true := by decide
  obtain ⟨whole, fraction, hwhole, hfraction, htext, htokens, w, hread, hbits⟩ :=
    Single.text_reads_back hfinite
  exact ⟨hfinite, whole, fraction, hwhole, hfraction, htext, htokens, w, hread, hbits⟩

end EffectLang
