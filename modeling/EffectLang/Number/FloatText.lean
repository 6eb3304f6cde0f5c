import EffectLang.Number.BinaryFloat
import EffectLang.Number.Decimal

/-! Floating-point numbers as text: reading decimals, and writing the fewest digits that read
back. A literal of the language is written without an exponent, because none can be read; a
number in a message is written with an exponent where the plain text would be long. -/
namespace EffectLang

/-- The number nearest to a decimal. -/
def Decimal.toDouble (negative : Bool) (d : Decimal) : Double :=
  .ofRatio negative d.num d.den

/-- A decimal whose leading digit stands beyond the range of 64-bit numbers is infinite or zero,
whatever its digits are. -/
def Decimal.toDoubleClamped (negative : Bool) (d : Decimal) : Double :=
  if d.coefficient = 0 || d.pointPlace < -400 then .zero negative
  else if 400 < d.pointPlace then .infinity negative
  else d.toDouble negative

namespace Double

/-- The magnitude as a ratio, for finite numbers. -/
def num (v : Double) : Nat :=
  v.quanta

def den : Nat :=
  Format.double.scale

/-- Whether a decimal reads as the magnitude of `v`. -/
def readsBack (v : Double) (d : Decimal) : Bool :=
  (d.toDouble v.negative).magnitude = v.magnitude

/-- Whether a decimal, read and then rounded to 32 bits, has the value of `v`. -/
def readsBackSingle (v : Double) (d : Decimal) : Bool :=
  (d.toDouble v.negative).toSingle.toDouble.magnitude = v.magnitude

/-- The decimal with the fewest digits that reads as `v`, for a finite number. Of two such
decimals it is the nearer one. Seventeen digits always suffice. -/
def shortest (v : Double) : Decimal :=
  ((List.range' 1 17).findSome? fun count =>
    (Decimal.neighbours count v.num den).find? v.readsBack).getD ⟨v.num, 0⟩

/-- The decimal that stands for `v` in an expression: the first rounding of `v` to at most nine
digits that reads back in 32 bits, or else the shortest one that reads back in 64 bits. -/
def literalDecimal (v : Double) : Decimal :=
  (((List.range' 1 9).map fun count => Decimal.significant count v.num den).find?
    v.readsBackSingle).getD v.shortest

/-- Writes infinities and not-a-number by name and other numbers by the given rule. -/
def textWith (render : Decimal → Text) (decimal : Double → Decimal) (v : Double) : Text :=
  if v.isNaN then "nan".toList
  else
    let sign := if v.negative then ['-'] else []
    if v.isInfinite then sign ++ "inf".toList
    else if v.magnitude = 0 then sign ++ ['0', '.', '0']
    else sign ++ render (decimal v)

/-- The text of a number in an expression, without exponent. -/
def literalText (v : Double) : Text :=
  v.textWith Decimal.plain literalDecimal

/-- Plain from a ten-thousandth up to ten to the sixteenth, otherwise with an exponent. -/
def displayDecimal (d : Decimal) : Text :=
  if -3 ≤ d.pointPlace ∧ d.pointPlace ≤ 16 then d.plain else d.scientific

/-- The text of a number in a message. -/
def displayText (v : Double) : Text :=
  v.textWith displayDecimal shortest

end Double

/-- The text of a literal. -/
def Single.text (v : Single) : Text :=
  v.toDouble.literalText

end EffectLang
