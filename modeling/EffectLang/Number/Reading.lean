import EffectLang.Number.FloatText
import EffectLang.Text.Blank
import EffectLang.Text.Numeric

/-! Numbers from text that people enter: blanks around the number and single underscores between
digits are allowed. The digits of a 64-bit number may be those of any script. -/
namespace EffectLang

/-- Blanks that may surround a number. The information separators are not among them. -/
def isNumberBlank (c : Char) : Bool :=
  Text.isBlank c && !(0x1C ≤ c.toNat && c.toNat ≤ 0x1F)

/-- The ASCII digit of the same value, for digits of other scripts. -/
def toAsciiDigit (c : Char) : Char :=
  match Text.digitValue? c with
  | some value => Char.ofNat (0x30 + value)
  | none => c

/-- Removes the underscores; each has to stand between two digits. -/
def ungroup? (afterDigit : Bool) : Text → Option Text
  | [] => some []
  | '_' :: c :: rest =>
    if afterDigit && c.isDigit then (ungroup? true rest).map (c :: ·) else none
  | ['_'] => none
  | c :: rest => (ungroup? c.isDigit rest).map (c :: ·)

/-- The number's own characters, in ASCII. -/
def numberText? (text : Text) : Option Text :=
  ungroup? false ((text.map toAsciiDigit |> Text.trim isNumberBlank))

/-- A sign, if there is one, and what follows. -/
def takeSign : Text → Bool × Text
  | '-' :: rest => (true, rest)
  | '+' :: rest => (false, rest)
  | text => (false, text)

/-- A row of digits that is not empty. -/
def digitsNat? (text : Text) : Option Nat :=
  if text ≠ [] ∧ text.all Char.isDigit then some (ofDigits text) else none

/-- What may follow the digits of an integer: nothing, or a point and zeros, at least one. -/
def isZeroFraction : Text → Bool
  | [] => true
  | c :: zeros => c = '.' && zeros ≠ [] && zeros.all (· = '0')

/-- The digits of an integer, without underscores and without the zeros in front. Among those the
underscores may stand in rows. -/
def significantDigits? (digits : Text) : Option Text :=
  if digits.head? = some '0' then
    match digits.dropWhile fun c => c = '0' || c = '_' with
    | [] => if digits.getLast? = some '0' then some ['0'] else none
    | significant => ungroup? false significant
  else ungroup? false digits

/-- An integer in decimal notation. Its digits are those of ASCII. The longest numeral has room for
the significant digits and a minus sign. -/
def integerOfText? (text : Text) : Option Int := do
  let (negative, body) := takeSign (Text.trim isNumberBlank text)
  guard (isZeroFraction (body.dropWhile (· ≠ '.')))
  let digits ← significantDigits? (body.takeWhile (· ≠ '.'))
  guard (digits.length + (if negative then 1 else 0) ≤ numeralDigitLimit)
  let magnitude ← digitsNat? digits
  return if negative then -magnitude else magnitude

/-- The power of ten after a mantissa: nothing, or `e`, a sign and digits. -/
def exponent? : Text → Option Int
  | [] => some 0
  | c :: rest =>
    if c = 'e' ∨ c = 'E' then do
      let (negative, digits) := takeSign rest
      let magnitude ← digitsNat? digits
      return if negative then -magnitude else magnitude
    else none

/-- A decimal: digits with an optional point, at least one digit in all, and an optional power of
ten. -/
def decimalOfText? (text : Text) : Option Decimal := do
  let whole := text.takeWhile Char.isDigit
  let afterWhole := text.dropWhile Char.isDigit
  let (fraction, rest) := match afterWhole with
    | '.' :: more => (more.takeWhile Char.isDigit, more.dropWhile Char.isDigit)
    | _ => ([], afterWhole)
  guard (whole ++ fraction ≠ [])
  let power ← exponent? rest
  return ⟨ofDigits (whole ++ fraction), power - fraction.length⟩

/-- A 64-bit number: a decimal, an infinity or not-a-number by name, with an optional sign. -/
def doubleOfText? (text : Text) : Option Double := do
  let (negative, body) := takeSign (← numberText? text)
  let word := body.map Char.toLower
  if word = "inf".toList ∨ word = "infinity".toList then return .infinity negative
  else if word = "nan".toList then return .nan negative
  else return (← decimalOfText? body).toDoubleClamped negative

end EffectLang
