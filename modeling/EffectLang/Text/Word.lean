import EffectLang.Text.Letter
import EffectLang.Text.Numeric

/-! Words: a letter or an underscore, followed by letters, numerals and underscores. -/
namespace EffectLang.Text

def isWordStart (c : Char) : Bool :=
  isLetter c || c = '_'

def isWordChar (c : Char) : Bool :=
  isLetter c || isNumeral c || c = '_'

/-- Whether the whole text is one word. -/
def isWord : Text → Bool
  | [] => false
  | c :: rest => isWordStart c && rest.all isWordChar

theorem isWordChar_of_isWordStart {c : Char} (h : isWordStart c = true) : isWordChar c = true := by
  simp only [isWordStart, isWordChar, Bool.or_eq_true] at h ⊢
  exact h.elim (fun letter => .inl (.inl letter)) .inr

end EffectLang.Text
