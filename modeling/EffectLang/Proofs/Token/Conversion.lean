import EffectLang.Number.Reading
import EffectLang.Proofs.Token.Shape

/-!
# Number tokens are numbers

The text of a number token is one that the readers of numbers take: nothing in it is a blank, a
sign or an underscore, and there is a digit. So converting it gives the number that is meant, and
never fails.
-/

namespace EffectLang

/-! ## Plain numerals -/

/-- The digits and the point are what they are for the readers of numbers. -/
theorem plain_of_numeral {c : Char} (h : c.isDigit = true ∨ c = '.') :
    toAsciiDigit c = c ∧ isNumberBlank c = false ∧ c ≠ '_' ∧ c ≠ '-' ∧ c ≠ '+' := by
  have hall : "0123456789.".toList.all (fun d => toAsciiDigit d = d && !isNumberBlank d &&
      d ≠ '_' && d ≠ '-' && d ≠ '+') = true := by
    decide
  have hmem : c ∈ "0123456789.".toList := by
    rcases h with hdigit | rfl
    · exact List.mem_append_left ['.'] (mem_digits_of_isDigit hdigit)
    · decide
  simpa [and_assoc] using List.all_eq_true.mp hall c hmem

theorem Text.trim_eq_self {p : Char → Bool} {text : Text} (h : ∀ c ∈ text, p c = false) :
    text.trim p = text := by
  have hdrop {cs : Text} (h : ∀ c ∈ cs, p c = false) : cs.dropWhile p = cs := by
    cases cs with
    | nil => rfl
    | cons c cs => exact List.dropWhile_cons_of_neg (by simp [h c List.mem_cons_self])
  rw [Text.trim, hdrop h, hdrop (fun c hc => h c (List.mem_reverse.mp hc)), List.reverse_reverse]

theorem ungroup?_eq_some {text : Text} (h : '_' ∉ text) (afterDigit : Bool) :
    ungroup? afterDigit text = some text := by
  fun_induction ungroup? afterDigit text with
  | case1 => rfl
  | case2 => simp at h
  | case3 => simp at h
  | case4 => simp at h
  | case5 afterDigit c rest _ _ ih =>
    rw [ih fun hmem => h (List.mem_cons_of_mem c hmem)]
    rfl

theorem takeSign_eq {text : Text} (h : '-' ∉ text ∧ '+' ∉ text) :
    takeSign text = (false, text) := by
  unfold takeSign
  split
  · simp at h
  · simp at h
  · rfl

/-- Digits around a point are a decimal, if there is a digit at all. -/
theorem decimalOfText?_point {whole fraction : Text} (h : ∀ c ∈ whole ++ fraction, c.isDigit = true)
    (hne : whole ++ fraction ≠ []) :
    decimalOfText? (whole ++ '.' :: fraction) = some (pointDecimal (whole ++ '.' :: fraction)) := by
  obtain ⟨hwhole, hfraction⟩ := List.forall_mem_append.mp h
  have hpoint : Text.Stops Char.isDigit ('.' :: fraction) := Text.stops_cons.mpr (by decide)
  have hend : Text.Stops Char.isDigit [] := nofun
  have hall := Text.takeWhile_append hfraction hend
  have hnone := Text.dropWhile_append hfraction hend
  rw [List.append_nil] at hall hnone
  rw [pointDecimal_append hwhole, decimalOfText?, Text.takeWhile_append hwhole hpoint,
    Text.dropWhile_append hwhole hpoint]
  simp only [hall, hnone]
  rw [guard, if_pos hne]
  simp [exponent?]

/-! ## Tokens -/

/-- The conversions of the token's text give what the token stands for, and an integer below the
bound is one of 32 bits. -/
structure Token.Converts (t : Token) : Prop where
  payload : ∀ spelling, t.kind.payloadSpelling? = some spelling → t.text = spelling
  integer : t.kind = .integer → digitsNat? t.text = some (ofDigits t.text)
  range : t.kind = .integer → ofDigits t.text < Literal.integerBound →
    (Int32.ofNat (ofDigits t.text)).toInt = ofDigits t.text
  float : t.kind = .float →
    doubleOfText? t.text = some ((pointDecimal t.text).toDoubleClamped false)

theorem digitsNat?_eq {text : Text} (h : text.IsDigits) : digitsNat? text = some (ofDigits text) :=
  if_pos ⟨h.ne_nil, List.all_eq_true.mpr h.isDigit⟩

/-- A float without a sign is read as the decimal that it is. -/
theorem doubleOfText?_point {whole fraction : Text}
    (h : ∀ c ∈ whole ++ fraction, c.isDigit = true) (hne : whole ++ fraction ≠ []) :
    doubleOfText? (whole ++ '.' :: fraction) =
      some ((pointDecimal (whole ++ '.' :: fraction)).toDoubleClamped false) := by
  obtain ⟨hwhole, hfraction⟩ := List.forall_mem_append.mp h
  have hplain : ∀ c ∈ whole ++ '.' :: fraction, c.isDigit = true ∨ c = '.' := by
    refine List.forall_mem_append.mpr ⟨fun c hc => .inl (hwhole c hc), ?_⟩
    exact List.forall_mem_cons.mpr ⟨.inr rfl, fun c hc => .inl (hfraction c hc)⟩
  have hdecimal := decimalOfText?_point h hne
  have hpoint : '.' ∈ whole ++ '.' :: fraction := by simp
  generalize whole ++ '.' :: fraction = text at hplain hdecimal hpoint ⊢
  have hmem {c : Char} (hc : c ∈ text) := plain_of_numeral (hplain c hc)
  have htext : numberText? text = some text := by
    have hascii : text.map toAsciiDigit = text := by
      rw [List.map_congr_left fun c hc => (hmem hc).1, List.map_id']
    rw [numberText?, hascii]
    show ungroup? false (Text.trim isNumberBlank text) = some text
    rw [Text.trim_eq_self fun c hc => (hmem hc).2.1,
      ungroup?_eq_some fun hc => (hmem hc).2.2.1 rfl]
  have hsign : takeSign text = (false, text) :=
    takeSign_eq ⟨fun hc => (hmem hc).2.2.2.1 rfl, fun hc => (hmem hc).2.2.2.2 rfl⟩
  -- no special number has a point in its name
  have hword {word : Text} (hword : '.' ∉ word) : text.map Char.toLower ≠ word := by
    rintro rfl
    exact hword (List.mem_map.mpr ⟨'.', hpoint, rfl⟩)
  have hinfinity : ¬ (text.map Char.toLower = "inf".toList ∨
      text.map Char.toLower = "infinity".toList) :=
    not_or.mpr ⟨hword (by decide), hword (by decide)⟩
  have hnan : text.map Char.toLower ≠ "nan".toList := hword (by decide)
  simp only [doubleOfText?, htext, Option.bind_eq_bind, Option.bind_some, hsign]
  rw [if_neg hinfinity, if_neg hnan, hdecimal]
  rfl

/-- Converting the tokens of a source never fails. -/
theorem converts_of_mem_tokenize {source : Text} {t : Token}
    (h : t ∈ significant (tokenize source)) : t.Converts := by
  have hspelled := spelled_of_mem_tokenize h
  refine ⟨hspelled.payload, fun hkind => digitsNat?_eq (hspelled.integer hkind),
    fun _ => Int32.toInt_ofNat_of_lt, fun hkind => ?_⟩
  obtain ⟨whole, fraction, htext, hdigits, hne⟩ := hspelled.float hkind
  rw [htext]
  exact doubleOfText?_point hdigits hne

end EffectLang
