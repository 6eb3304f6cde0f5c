import EffectLang.Text.Ranges

/-! Blank characters: the white space of Unicode together with the four information separators
U+001C to U+001F. Names and type names are read with blanks at their ends removed. -/
namespace EffectLang.Text

/-- Blank characters, as closed ranges of code points. -/
def blankRanges : List (Nat × Nat) := [
  (0x9, 0xD), (0x1C, 0x20), (0x85, 0x85), (0xA0, 0xA0), (0x1680, 0x1680), (0x2000, 0x200A),
  (0x2028, 0x2029), (0x202F, 0x202F), (0x205F, 0x205F), (0x3000, 0x3000)]

def isBlank (c : Char) : Bool :=
  inRanges blankRanges c

/-- The parts of a text between the characters of a class; none of them is empty. -/
def partsBetween (gap : Char → Bool) (text : Text) : List Text :=
  (text.splitBy fun c d => gap c = gap d).filter (!·.any gap)

/-- Removes the characters of a class from both ends. -/
def trim (drop : Char → Bool) (text : Text) : Text :=
  ((text.dropWhile drop).reverse.dropWhile drop).reverse

/-- Removes the blanks at both ends. -/
def strip (text : Text) : Text :=
  trim isBlank text

theorem strip_nil : strip [] = [] := rfl

end EffectLang.Text
