import EffectLang.Token.Scan
import EffectLang.Proofs.Number.LiteralText

/-!
# Where tokens end

`Lexeme kind text rest` says that `text`, when `rest` follows it, is cut off as one token of the
given kind. A word, a numeral and an operator are longest matches, so what follows must not extend
them; strings, parentheses, commas and the minus sign end by themselves.
-/

namespace EffectLang
open Vocabulary (ofSpelling?)

/-! ## Runs of a class -/

/-- The text does not begin with a character of the class. -/
def Text.Stops (p : Char → Bool) (text : Text) : Prop :=
  ∀ c ∈ text.head?, p c = false

namespace Text

theorem stops_nil (p : Char → Bool) : Stops p [] := by
  simp [Stops]

theorem stops_cons {p : Char → Bool} {c : Char} {cs : Text} : Stops p (c :: cs) ↔ p c = false := by
  simp [Stops]

theorem takeWhile_append {p : Char → Bool} {xs rest : Text} (h : ∀ c ∈ xs, p c = true)
    (hrest : Stops p rest) : (xs ++ rest).takeWhile p = xs := by
  rw [List.takeWhile_append_of_pos h]
  cases rest with
  | nil => simp
  | cons c cs => simp [stops_cons.mp hrest]

theorem dropWhile_append {p : Char → Bool} {xs rest : Text} (h : ∀ c ∈ xs, p c = true)
    (hrest : Stops p rest) : (xs ++ rest).dropWhile p = rest := by
  rw [List.dropWhile_append_of_pos h]
  cases rest with
  | nil => rfl
  | cons c cs => simp [stops_cons.mp hrest]

theorem stops_dropWhile (p : Char → Bool) (cs : Text) : Stops p (cs.dropWhile p) := by
  intro c hc
  have hhead := List.head?_dropWhile_not p cs
  rw [hc] at hhead
  exact hhead

/-- Every text begins with a run of a class. -/
theorem exists_run (p : Char → Bool) (cs : Text) :
    ∃ run rest : Text, cs = run ++ rest ∧ (∀ c ∈ run, p c = true) ∧ rest.Stops p :=
  ⟨cs.takeWhile p, cs.dropWhile p, List.takeWhile_append_dropWhile.symm,
    List.all_eq_true.mp List.all_takeWhile, stops_dropWhile p cs⟩

end Text

/-! ## Classes of characters -/

theorem mem_digits_of_isDigit {c : Char} (h : c.isDigit = true) : c ∈ "0123456789".toList := by
  simp only [Char.isDigit, Bool.and_eq_true, decide_eq_true_eq] at h
  have hlow : 48 ≤ c.toNat := h.1
  have hhigh : c.toNat < 58 := Nat.lt_succ_of_le h.2
  have hall : ∀ n, n < 58 → 48 ≤ n → Char.ofNat n ∈ "0123456789".toList := by decide
  rw [← Char.ofNat_toNat c]
  exact hall c.toNat hhigh hlow

/-- Words begin with no space, quote, digit or point. -/
theorem isWordStart_excludes {c : Char} (h : Text.isWordStart c = true) :
    isSpace c = false ∧ c ≠ '"' ∧ c.isDigit = false ∧ c ≠ '.' := by
  refine ⟨Bool.eq_false_iff.mpr fun hspace => ?_, ?_, Bool.eq_false_iff.mpr fun hdigit => ?_, ?_⟩
  · simp only [isSpace, Bool.or_eq_true, decide_eq_true_eq] at hspace
    rcases hspace with ((rfl | rfl) | rfl) | rfl <;> exact absurd h (by decide)
  · rintro rfl
    exact absurd h (by decide)
  · have hmem := mem_digits_of_isDigit hdigit
    have hall : "0123456789".toList.all (!Text.isWordStart ·) = true := by decide
    have hnot := List.all_eq_true.mp hall c hmem
    rw [h] at hnot
    cases hnot
  · rintro rfl
    exact absurd h (by decide)

theorem isDigit_excludes {c : Char} (h : c.isDigit = true) :
    isSpace c = false ∧ c ≠ '"' ∧ c ≠ '.' := by
  have hall : "0123456789".toList.all (fun d => !isSpace d && d ≠ '"' && d ≠ '.') = true := by
    decide
  have hc := List.all_eq_true.mp hall c (mem_digits_of_isDigit h)
  simpa [and_assoc] using hc

/-! ## The rules -/

/-- The six rules for the token that begins with `c`, one for each class of first characters. -/
inductive CutRule (c : Char) (cs : Text) : TokenKind × Nat → Prop
  | space : isSpace c = true → CutRule c cs (.whitespace, (cs.takeWhile isSpace).length)
  | string : c = '"' → CutRule c cs (stringExtent cs)
  | numeral : c.isDigit = true → CutRule c cs (numeralExtent cs)
  | fraction : c = '.' → cs.head?.any Char.isDigit = true →
      CutRule c cs (.float, (cs.takeWhile Char.isDigit).length)
  | word : Text.isWordStart c = true →
      CutRule c cs
        (wordKind (c :: cs.takeWhile Text.isWordChar), (cs.takeWhile Text.isWordChar).length)
  | sign : isSpace c = false → c ≠ '"' → c.isDigit = false →
      ¬ (c = '.' && cs.head?.any Char.isDigit) = true → Text.isWordStart c = false →
        CutRule c cs (signExtent c cs)

/-- Every token is cut off by one of the rules. -/
theorem cutRule_extent (c : Char) (cs : Text) : CutRule c cs (extent c cs) := by
  unfold extent
  split
  · next hspace => exact .space hspace
  · next hspace =>
    split
    · next hquote => exact .string hquote
    · next hquote =>
      split
      · next hdigit => exact .numeral hdigit
      · next hdigit =>
        split
        · next hpoint =>
          obtain ⟨hc, hfirst⟩ := Bool.and_eq_true_iff.mp hpoint
          exact .fraction (of_decide_eq_true hc) hfirst
        · next hpoint =>
          split
          · next hword => exact .word hword
          · next hword =>
            exact .sign (Bool.eq_false_iff.mpr hspace) hquote (Bool.eq_false_iff.mpr hdigit) hpoint
              (Bool.eq_false_iff.mpr hword)

/-! ## Lexemes -/

/-- The text is cut off as one token of the given kind when `rest` follows it. -/
def Lexeme (kind : TokenKind) (text rest : Text) : Prop :=
  ∃ c cs, text = c :: cs ∧ extent c (cs ++ rest) = (kind, cs.length)

namespace Lexeme
variable {kind : TokenKind} {text rest : Text}

theorem scan_eq (h : Lexeme kind text rest) (start : Nat) :
    scan start (text ++ rest) = ⟨kind, text, start⟩ :: scan (start + text.length) rest := by
  obtain ⟨c, cs, rfl, hextent⟩ := h
  rw [List.cons_append, scan_cons, hextent]
  simp

/-- What begins with a quote is a string, or in error. -/
theorem extent_quote (cs : Text) : extent '"' cs = stringExtent cs := by
  have hspace : isSpace '"' = false := by decide
  rw [extent, if_neg (by simp [hspace]), if_pos rfl]

/-- What begins as a word does is one. -/
theorem extent_wordStart {c : Char} (h : Text.isWordStart c = true) (cs : Text) :
    extent c cs =
      (wordKind (c :: cs.takeWhile Text.isWordChar), (cs.takeWhile Text.isWordChar).length) := by
  obtain ⟨hspace, hquote, hdigit, hpoint⟩ := isWordStart_excludes h
  simp [extent, hspace, hquote, hdigit, hpoint, h]

/-- A word ends where no further character of a word follows. -/
theorem word {word : Text} (h : word.isWord = true) (hrest : rest.Stops Text.isWordChar) :
    Lexeme (wordKind word) word rest := by
  cases word with
  | nil => cases h
  | cons c cs =>
    simp only [Text.isWord, Bool.and_eq_true, List.all_eq_true] at h
    refine ⟨c, cs, rfl, ?_⟩
    rw [extent_wordStart h.1, Text.takeWhile_append h.2 hrest]

/-- What begins with a digit is a numeral. -/
theorem extent_digit {c : Char} (h : c.isDigit = true) (cs : Text) :
    extent c cs = numeralExtent cs := by
  obtain ⟨hspace, hquote, -⟩ := isDigit_excludes h
  simp [extent, hspace, hquote, h]

/-- Digits before something that is neither a digit nor a point. -/
theorem numeralExtent_integer {digits : Text} (h : ∀ c ∈ digits, c.isDigit = true)
    (hrest : rest.Stops Char.isDigit) (hpoint : rest.Stops (· = '.')) :
    numeralExtent (digits ++ rest) = (.integer, digits.length) := by
  rw [numeralExtent, Text.takeWhile_append h hrest, Text.dropWhile_append h hrest]
  split
  · simp [Text.stops_cons] at hpoint
  · rfl

/-- Digits around a point. There may be none after it. -/
theorem numeralExtent_float {whole fraction : Text} (h : ∀ c ∈ whole, c.isDigit = true)
    (hfraction : ∀ c ∈ fraction, c.isDigit = true) (hrest : rest.Stops Char.isDigit) :
    numeralExtent (whole ++ '.' :: (fraction ++ rest)) =
      (.float, whole.length + 1 + fraction.length) := by
  have hpoint : Text.Stops Char.isDigit ('.' :: (fraction ++ rest)) :=
    Text.stops_cons.mpr (by decide)
  rw [numeralExtent, Text.takeWhile_append h hpoint, Text.dropWhile_append h hpoint]
  show (TokenKind.float, whole.length + 1 + ((fraction ++ rest).takeWhile Char.isDigit).length) = _
  rw [Text.takeWhile_append hfraction hrest]

/-- Every numeral is one of these two, and ends where its digits do. -/
theorem numeralExtent_split (cs : Text) :
    (∃ digits rest : Text, cs = digits ++ rest ∧ (∀ c ∈ digits, c.isDigit = true) ∧
      rest.Stops Char.isDigit ∧ rest.Stops (· = '.') ∧
      numeralExtent cs = (.integer, digits.length)) ∨
    ∃ whole fraction rest : Text, cs = whole ++ '.' :: (fraction ++ rest) ∧
      (∀ c ∈ whole, c.isDigit = true) ∧ (∀ c ∈ fraction, c.isDigit = true) ∧
      rest.Stops Char.isDigit ∧
      numeralExtent cs = (.float, whole.length + 1 + fraction.length) := by
  obtain ⟨whole, after, rfl, hwhole, hafter⟩ := Text.exists_run Char.isDigit cs
  by_cases hpoint : after.Stops (· = '.')
  · exact .inl ⟨whole, after, rfl, hwhole, hafter, hpoint,
      numeralExtent_integer hwhole hafter hpoint⟩
  · obtain ⟨after, rfl⟩ : ∃ after', after = '.' :: after' := by
      cases after with
      | nil => exact absurd nofun hpoint
      | cons d after => exact ⟨after, by simpa [Text.stops_cons] using hpoint⟩
    obtain ⟨fraction, after, rfl, hfraction, hafter⟩ := Text.exists_run Char.isDigit after
    exact .inr ⟨whole, fraction, after, rfl, hwhole, hfraction, hafter,
      numeralExtent_float hwhole hfraction hafter⟩

theorem take_float (whole fraction rest : Text) :
    (whole ++ '.' :: (fraction ++ rest)).take (whole.length + 1 + fraction.length) =
      whole ++ '.' :: fraction := by
  rw [← List.cons_append, ← List.append_assoc]
  refine List.take_left' ?_
  rw [List.length_append, List.length_cons]
  omega

theorem numeralExtent_cases (cs : Text) :
    (∃ digits : Text, (∀ c ∈ digits, c.isDigit = true) ∧
      numeralExtent cs = (.integer, digits.length) ∧ cs.take digits.length = digits) ∨
    ∃ whole fraction : Text, (∀ c ∈ whole, c.isDigit = true) ∧
      (∀ c ∈ fraction, c.isDigit = true) ∧
      numeralExtent cs = (.float, whole.length + 1 + fraction.length) ∧
      cs.take (whole.length + 1 + fraction.length) = whole ++ '.' :: fraction := by
  rcases numeralExtent_split cs with ⟨digits, rest, rfl, hdigits, -, -, hextent⟩ |
    ⟨whole, fraction, rest, rfl, hwhole, hfraction, -, hextent⟩
  · exact .inl ⟨digits, hdigits, hextent, List.take_left⟩
  · exact .inr ⟨whole, fraction, hwhole, hfraction, hextent, take_float whole fraction rest⟩

/-- Digits are an integer where neither a digit nor a point follows. -/
theorem integer {digits : Text} (h : digits.IsDigits) (hrest : rest.Stops Char.isDigit)
    (hpoint : rest.Stops (· = '.')) : Lexeme .integer digits rest := by
  cases digits with
  | nil => exact absurd rfl h.ne_nil
  | cons c cs =>
    have hcs : ∀ d ∈ cs, d.isDigit = true := fun d hd => h.isDigit d (List.mem_cons_of_mem c hd)
    refine ⟨c, cs, rfl, ?_⟩
    rw [extent_digit (h.isDigit c List.mem_cons_self)]
    exact numeralExtent_integer hcs hrest hpoint

/-- Digits around a point are a float where no digit follows. -/
theorem float {whole fraction : Text} (h : whole.IsDigits) (hfraction : fraction.IsDigits)
    (hrest : rest.Stops Char.isDigit) : Lexeme .float (whole ++ '.' :: fraction) rest := by
  cases whole with
  | nil => exact absurd rfl h.ne_nil
  | cons c cs =>
    have hcs : ∀ d ∈ cs, d.isDigit = true := fun d hd => h.isDigit d (List.mem_cons_of_mem c hd)
    refine ⟨c, cs ++ '.' :: fraction, rfl, ?_⟩
    rw [List.append_assoc, List.cons_append, extent_digit (h.isDigit c List.mem_cons_self),
      numeralExtent_float hcs hfraction.isDigit hrest, List.length_append, List.length_cons]
    congr 1
    omega

/-- A quoted text without quotes in it. -/
theorem string {name : Text} (h : '"' ∉ name) : Lexeme .string ('"' :: name ++ ['"']) rest := by
  refine ⟨'"', name ++ ['"'], rfl, ?_⟩
  have hindex : (name ++ ['"'] ++ rest).idxOf '"' = name.length := by
    rw [List.append_assoc, List.idxOf_append, if_neg h, List.singleton_append,
      List.idxOf_cons_self, Nat.zero_add]
  have hmem : '"' ∈ name ++ ['"'] ++ rest := by simp
  rw [extent_quote, stringExtent, if_pos hmem, hindex, List.length_append, List.length_singleton]

/-- The signs of two characters begin with one of four characters. -/
theorem ofSpelling?_pair {c : Char} (h : c ∉ "<>=!".toList) (d : Char) :
    (ofSpelling? [c, d] : Option BinaryOp) = none := by
  have hsigns : ∀ op : BinaryOp, op.spelling.length = 2 → op.spelling.head? ∈
      "<>=!".toList.map some := by
    intro op
    cases op <;> decide
  refine Vocabulary.ofSpelling?_eq_none fun op hop => ?_
  have hspelling : op.spelling = [c, d] := hop
  have hmem := hsigns op (by rw [hspelling]; rfl)
  rw [hspelling, List.head?_cons, List.mem_map] at hmem
  obtain ⟨c', hc', heq⟩ := hmem
  obtain rfl := Option.some.inj heq
  exact h hc'

/-- A sign of one character that begins none of two. -/
theorem sign {c : Char} {kind : TokenKind} (h : c ∉ "<>=!".toList)
    (hclass : isSpace c = false ∧ c ≠ '"' ∧ c.isDigit = false ∧ c ≠ '.' ∧
      Text.isWordStart c = false) (hkind : signExtent c [] = (kind, 0)) :
    Lexeme kind [c] rest := by
  obtain ⟨hspace, hquote, hdigit, hpoint, hword⟩ := hclass
  have hpair : rest.head?.bind (fun d => (ofSpelling? [c, d] : Option BinaryOp)) = none := by
    simp [ofSpelling?_pair h]
  have hsign : signExtent c rest = signExtent c [] := by
    unfold signExtent
    rw [hpair]
    rfl
  refine ⟨c, [], rfl, ?_⟩
  rw [List.nil_append, List.length_nil, ← hkind, ← hsign]
  simp [extent, hspace, hquote, hdigit, hpoint, hword]

theorem leftParen : Lexeme .leftParen ['('] rest :=
  sign (by decide) (by decide) (by decide)

theorem rightParen : Lexeme .rightParen [')'] rest :=
  sign (by decide) (by decide) (by decide)

theorem comma : Lexeme .comma [','] rest :=
  sign (by decide) (by decide) (by decide)

theorem minus : Lexeme (.operator .sub) ['-'] rest :=
  sign (by decide) (by decide) (by decide)

theorem operator {op : BinaryOp} (h : op.isCall = false) :
    Lexeme (.operator op) op.spelling (' ' :: rest) := by
  cases op <;> first | exact ⟨_, _, rfl, rfl⟩ | cases h

/-- A run of white space that nothing extends. -/
theorem spaces {run : Text} (hne : run ≠ []) (hrun : ∀ c ∈ run, isSpace c = true)
    (hrest : rest.Stops isSpace) : Lexeme .whitespace run rest := by
  cases run with
  | nil => exact absurd rfl hne
  | cons c cs =>
    obtain ⟨hc, hcs⟩ := List.forall_mem_cons.mp hrun
    refine ⟨c, cs, rfl, ?_⟩
    rw [extent, if_pos hc, Text.takeWhile_append hcs hrest]

theorem space (hrest : rest.Stops isSpace) : Lexeme .whitespace [' '] rest :=
  spaces (List.cons_ne_nil _ _) (by simp [isSpace]) hrest

end Lexeme
end EffectLang
