import EffectLang.Number.Reading
import EffectLang.Terminal.ColorName
import EffectLang.Terminal.Emoji

/-! The style that a tag asks for. It is written as the documentation of the console library, which is
not part of the program, says of styles, and that is restated here word by word: attributes, colours,
`on` before the colour of the background, `not` before an attribute, and `link` before a target. A
colour is a name, a number in `color( )`, six hexadecimal digits or three components in `rgb( )`. A
word that is none of these leaves the tag without a style, and the words after it do not count. That
is harmless; a colour whose components are not all numbers is not. -/
namespace EffectLang.Terminal

/-- The words for the attributes of text. -/
def attributeWords : List Text :=
  ["b", "blink", "blink2", "bold", "c", "conceal", "d", "dim", "encircle", "frame", "i", "italic",
    "o", "overline", "r", "reverse", "s", "strike", "u", "underline", "underline2", "uu"].map
    String.toList

/-- What a word is among colours. -/
inductive ColorWord where
  /-- A colour. -/
  | color
  /-- No colour, or one out of range. -/
  | other
  /-- A colour with a component that is no number. -/
  | broken
deriving DecidableEq

/-- What stands in parentheses after a name, if the word is of that form. -/
def argument? (name : String) (word : Text) : Option Text :=
  let opening := name.toList ++ ['(']
  if opening.isPrefixOf word && word.getLast? = some ')' then
    some (word.drop opening.length).dropLast
  else none

/-- A component of a colour; its digits may be those of any script. -/
def component? (digits : Text) : Option Nat :=
  if digits.length ≤ numeralDigitLimit then digitsNat? (digits.map toAsciiDigit) else none

/-- Six hexadecimal digits after a number sign, in lower case. -/
def isHexColor : Text → Bool
  | '#' :: digits =>
    digits.length = 6 && digits.all fun c => c.isDigit || ('a' ≤ c && c ≤ 'f')
  | _ => false

/-- A colour by its number, of which there are 256. -/
def isNumberedColor (word : Text) : Bool :=
  match argument? "color" word with
  | some digits => digits.length ≤ 3 && (digitsNat? digits).any (· ≤ 255)
  | none => false

/-- A colour by its components, three numbers with commas between them. -/
def ColorWord.ofComponents (digits : Text) : ColorWord :=
  match digits.splitOn ',' with
  | [red, green, blue] =>
    match component? red, component? green, component? blue with
    | some red, some green, some blue =>
      if red ≤ 255 ∧ green ≤ 255 ∧ blue ≤ 255 then .color else .other
    | _, _, _ => .broken
  | _ => .other

/-- What a word is among colours; case does not matter. -/
def ColorWord.ofWord (word : Text) : ColorWord :=
  let word := word.map lowerCase
  if word = "default".toList ∨ word ∈ colorNames ∨ isHexColor word ∨ isNumberedColor word then
    .color
  else
    match argument? "rgb" word with
    | some digits =>
      if digits.all fun c => c = ',' || (Text.digitValue? c).isSome then .ofComponents digits
      else .other
    | none => .other

/-- Whether reading the words of a style meets a broken colour. -/
def meetsBrokenColor : List Text → Bool
  | [] => false
  | [word] => ColorWord.ofWord word = .broken
  | word :: next :: rest =>
    let key := word.map lowerCase
    if key = "on".toList then
      match ColorWord.ofWord next with
      | .color => meetsBrokenColor rest
      | .other => false
      | .broken => true
    else if key = "not".toList then next ∈ attributeWords && meetsBrokenColor rest
    else if key = "link".toList then meetsBrokenColor rest
    else if key ∈ attributeWords then meetsBrokenColor (next :: rest)
    else
      match ColorWord.ofWord word with
      | .color => meetsBrokenColor (next :: rest)
      | .other => false
      | .broken => true

/-- The words of a style. -/
def styleWords (style : Text) : List Text :=
  Text.partsBetween Text.isBlank style

end EffectLang.Terminal
