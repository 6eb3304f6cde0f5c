import EffectLang.Number.Rounding

/-! Binary floating-point numbers of any width: a sign and a magnitude, the magnitude being the
exponent field and the fraction read as one natural number. Finite magnitudes are multiples of a
smallest positive number, the quantum, so their values are naturals and all rounding is exact
arithmetic. Magnitudes are ordered as their values are, which makes rounding up a matter of
adding one. -/
namespace EffectLang

/-- The field widths of a binary interchange format. -/
structure Format where
  fractionBits : Nat
  exponentBits : Nat

namespace Format

/-- The 32-bit format. -/
def single : Format := ⟨23, 8⟩

/-- The 64-bit format. -/
def double : Format := ⟨52, 11⟩

/-- The number of fractions, which is the number of magnitudes with the same exponent field. -/
def fractions (f : Format) : Nat :=
  Nat.pow 2 f.fractionBits

/-- The number of exponent fields. -/
def exponents (f : Format) : Nat :=
  Nat.pow 2 f.exponentBits

/-- The number of magnitudes, infinity and the not-a-numbers included. -/
def limit (f : Format) : Nat :=
  f.exponents * f.fractions

/-- The magnitude of infinity: the exponent field holds ones only, the fraction is zero. -/
def infinity (f : Format) : Nat :=
  (f.exponents - 1) * f.fractions

/-- The number of quanta in one. -/
def scale (f : Format) : Nat :=
  Nat.pow 2 (Nat.pow 2 (f.exponentBits - 1) - 2 + f.fractionBits)

/-- The value of a finite magnitude, in quanta. -/
def quanta (f : Format) (magnitude : Nat) : Nat :=
  let exponent := magnitude / f.fractions
  let fraction := magnitude % f.fractions
  if exponent = 0 then fraction else (f.fractions + fraction) * Nat.pow 2 (exponent - 1)

/-- The magnitude nearest to `num / den` quanta, ties going to the even one. Too large a
quotient gives infinity. -/
def nearest (f : Format) (num den : Nat) : Nat :=
  let shift := (num / den).log2 - f.fractionBits
  min (roundHalfEven num (den * Nat.pow 2 shift) + shift * f.fractions) f.infinity

theorem infinity_lt_limit (f : Format) : f.infinity < f.limit :=
  Nat.mul_lt_mul_of_pos_right (Nat.sub_lt (Nat.two_pow_pos _) Nat.one_pos) (Nat.two_pow_pos _)

theorem nearest_le_infinity (f : Format) (num den : Nat) : f.nearest num den ≤ f.infinity :=
  Nat.min_le_right _ _

theorem nearest_lt_limit (f : Format) (num den : Nat) : f.nearest num den < f.limit :=
  Nat.lt_of_le_of_lt (f.nearest_le_infinity num den) f.infinity_lt_limit

theorem scale_pos (f : Format) : 0 < f.scale :=
  Nat.two_pow_pos _

theorem quanta_zero (f : Format) : f.quanta 0 = 0 := by
  simp [quanta]

theorem nearest_zero (f : Format) (den : Nat) : f.nearest 0 den = 0 := by
  simp [nearest, roundHalfEven]

end Format

/-- A number of a binary format. Two numbers are equal when their bits are. -/
structure BinaryFloat (f : Format) where
  negative : Bool
  magnitude : Nat
  magnitude_lt : magnitude < f.limit
deriving DecidableEq

abbrev Single := BinaryFloat .single
abbrev Double := BinaryFloat .double

namespace BinaryFloat
variable {f : Format}

def isFinite (v : BinaryFloat f) : Bool :=
  v.magnitude < f.infinity

def isInfinite (v : BinaryFloat f) : Bool :=
  v.magnitude = f.infinity

def isNaN (v : BinaryFloat f) : Bool :=
  f.infinity < v.magnitude

/-- The same magnitude with the other sign. -/
def neg (v : BinaryFloat f) : BinaryFloat f :=
  { v with negative := !v.negative }

@[simp] theorem neg_neg (v : BinaryFloat f) : v.neg.neg = v := by
  simp [neg]

@[simp] theorem magnitude_neg (v : BinaryFloat f) : v.neg.magnitude = v.magnitude := rfl

@[simp] theorem negative_neg (v : BinaryFloat f) : v.neg.negative = !v.negative := rfl

def zero (negative : Bool) : BinaryFloat f :=
  ⟨negative, 0, Nat.lt_of_le_of_lt (Nat.zero_le _) f.infinity_lt_limit⟩

def infinity (negative : Bool) : BinaryFloat f :=
  ⟨negative, f.infinity, f.infinity_lt_limit⟩

/-- The quiet not-a-number, whose fraction holds a leading one only. -/
def nan (negative : Bool) : BinaryFloat f :=
  ⟨negative, (f.infinity + Nat.pow 2 (f.fractionBits - 1)) % f.limit,
    Nat.mod_lt _ (Nat.lt_of_le_of_lt (Nat.zero_le _) f.infinity_lt_limit)⟩

/-- The number with the given bits: the sign above the magnitude. -/
def ofBits (bits : Nat) : BinaryFloat f :=
  ⟨bits / f.limit % 2 = 1, bits % f.limit,
    Nat.mod_lt _ (Nat.lt_of_le_of_lt (Nat.zero_le _) f.infinity_lt_limit)⟩

def bits (v : BinaryFloat f) : Nat :=
  (if v.negative then f.limit else 0) + v.magnitude

/-- The number nearest to `num / den`, with the given sign. -/
def ofRatio (negative : Bool) (num den : Nat) : BinaryFloat f :=
  ⟨negative, f.nearest (num * f.scale) den, f.nearest_lt_limit _ _⟩

/-- The number nearest to an integer. -/
def ofInt (n : Int) : BinaryFloat f :=
  ofRatio (n < 0) n.natAbs 1

/-- The value of a finite number without its sign, in quanta of its format. -/
def quanta (v : BinaryFloat f) : Nat :=
  f.quanta v.magnitude

/-- Rounds a number to another format. Sign, infinities and not-a-number are kept. -/
def convert {g : Format} (v : BinaryFloat f) : BinaryFloat g :=
  if v.isNaN then nan v.negative
  else if v.isFinite then ofRatio v.negative v.quanta f.scale
  else infinity v.negative

@[simp] theorem negative_ofRatio (negative : Bool) (num den : Nat) :
    (ofRatio negative num den : BinaryFloat f).negative = negative := rfl

@[simp] theorem negative_convert {g : Format} (v : BinaryFloat f) :
    (v.convert : BinaryFloat g).negative = v.negative := by
  simp only [convert]
  split
  · rfl
  · split <;> rfl

end BinaryFloat

/-- Rounds to 32 bits. -/
def Double.toSingle (v : Double) : Single :=
  v.convert

/-- The same value in 64 bits. -/
def Single.toDouble (v : Single) : Double :=
  v.convert

/-- Whether a number is still finite after rounding to 32 bits. -/
def Double.fitsSingle (v : Double) : Bool :=
  v.toSingle.isFinite

end EffectLang
