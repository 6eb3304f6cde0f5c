import EffectLang.Number.Rounding
import EffectLang.Text.Basic

/-! Decimals `coefficient · 10^exponent`, their exact values as ratios of naturals, and their two
ways of being written: with a point and no exponent, or with one digit before the point and a
power of ten. -/
namespace EffectLang

/-- The digits of a natural number. -/
def digitsOf (n : Nat) : Text :=
  Nat.toDigits 10 n

/-- The natural number that a row of digits denotes. -/
def ofDigits (digits : Text) : Nat :=
  Nat.ofDigitChars 10 digits 0

theorem ofDigits_digitsOf (n : Nat) : ofDigits (digitsOf n) = n :=
  Nat.ofDigitChars_toDigits (by decide) (by decide)

/-- The number of digits of a natural number, none for zero. -/
def digitCount (n : Nat) : Nat :=
  if n = 0 then 0 else (digitsOf n).length

/-- The decimal text of an integer. -/
def integerText (n : Int) : Text :=
  if n < 0 then '-' :: digitsOf n.natAbs else digitsOf n.natAbs

/-- The greatest number of digits that an integer numeral may have, leading zeros included. Longer
ones are not converted, and longer integers are not written. -/
def numeralDigitLimit : Nat := 4300

def digitLimitText : Text :=
  "Exceeds the limit (".toList ++ digitsOf numeralDigitLimit ++
    " digits) for integer string conversion".toList

/-- What is said of a numeral beyond the digit limit. -/
def numeralTooLongMessage (digits : Nat) : Text :=
  digitLimitText ++ ": value has ".toList ++ digitsOf digits ++
    " digits; use sys.set_int_max_str_digits() to increase the limit".toList

/-- What is said of an integer that is too long to be written. -/
def integerTooLongMessage : Text :=
  digitLimitText ++ "; use sys.set_int_max_str_digits() to increase the limit".toList

/-- The decimal `coefficient · 10^exponent`. -/
structure Decimal where
  coefficient : Nat
  exponent : Int
deriving DecidableEq

/-- The power of ten with the given exponent; one where the exponent is negative. -/
def powerOfTen (exponent : Int) : Nat :=
  Nat.pow 10 exponent.toNat

theorem powerOfTen_pos (exponent : Int) : 0 < powerOfTen exponent :=
  Nat.pow_pos (by decide)

namespace Decimal

/-- The numerator of the value as a ratio. -/
def num (d : Decimal) : Nat :=
  d.coefficient * powerOfTen d.exponent

/-- The denominator of the value as a ratio. -/
def den (d : Decimal) : Nat :=
  powerOfTen (-d.exponent)

theorem den_pos (d : Decimal) : 0 < d.den :=
  powerOfTen_pos _

/-- The exponent `e` with `10^e ≤ num / den < 10^(e+1)`, for positive `num`. -/
def leadingExponent (num den : Nat) : Int :=
  if den ≤ num then (digitCount (num / den) : Int) - 1
  else -(digitCount ((den - 1) / num) : Int)

/-- The power of ten of the last of `count` significant digits of `num / den`. -/
def lastPlace (count num den : Nat) : Int :=
  leadingExponent num den - count + 1

/-- `num / den` rounded to `count` significant digits, a half going to the even digit. -/
def significant (count num den : Nat) : Decimal :=
  let place := lastPlace count num den
  ⟨roundHalfEven (num * powerOfTen (-place)) (den * powerOfTen place), place⟩

/-- The two multiples of a power of ten around `num / den`, which enclose every decimal of
`count` significant digits that is nearest to it. The nearer comes first, and of two equally near
ones the even one. -/
def neighbours (count num den : Nat) : List Decimal :=
  let place := lastPlace count num den
  let scaledNum := num * powerOfTen (-place)
  let scaledDen := den * powerOfTen place
  let below := scaledNum / scaledDen
  if roundHalfEven scaledNum scaledDen = below then [⟨below, place⟩, ⟨below + 1, place⟩]
  else [⟨below + 1, place⟩, ⟨below, place⟩]

/-- The digits without trailing zeros; none for zero. -/
def significantDigits (d : Decimal) : Text :=
  ((digitsOf d.coefficient).reverse.dropWhile (· = '0')).reverse

/-- The number of digits before the point, negative for zeros that follow it. -/
def pointPlace (d : Decimal) : Int :=
  (digitsOf d.coefficient).length + d.exponent

/-- The text with a point, at least one digit on either side of it, and no exponent. -/
def plain (d : Decimal) : Text :=
  let digits := d.significantDigits
  let before := d.pointPlace.toNat
  if digits.isEmpty then ['0', '.', '0']
  else if d.pointPlace ≤ 0 then
    ['0', '.'] ++ List.replicate (-d.pointPlace).toNat '0' ++ digits
  else if digits.length ≤ before then
    digits ++ List.replicate (before - digits.length) '0' ++ ['.', '0']
  else
    digits.take before ++ ['.'] ++ digits.drop before

/-- The exponent's text: a sign and at least two digits. -/
def exponentText (e : Int) : Text :=
  (if e < 0 then '-' else '+') :: (digitsOf e.natAbs).leftpad 2 '0'

/-- The text with one digit before the point and a power of ten. -/
def scientific (d : Decimal) : Text :=
  match d.significantDigits with
  | [] => ['0', '.', '0']
  | [digit] => digit :: 'e' :: exponentText (d.pointPlace - 1)
  | digit :: more => digit :: '.' :: more ++ 'e' :: exponentText (d.pointPlace - 1)

end Decimal
end EffectLang
