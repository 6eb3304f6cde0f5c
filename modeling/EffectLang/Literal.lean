import EffectLang.Number.FloatText
import EffectLang.ResultType

/-! Literal values: 32-bit floats, signed 32-bit integers, and vectors of two or three floats.
Values are equal when their bits are, so the two zeros differ. -/
namespace EffectLang

inductive Literal where
  | float (value : Single)
  | integer (value : Int32)
  | vec2 (x y : Single)
  | vec3 (x y z : Single)
deriving DecidableEq

namespace Literal

/-- The integers of a literal lie below this bound, and not below its negative. -/
def integerBound : Nat := 0x80000000

def type : Literal → ResultType
  | float _ => .float
  | integer _ => .integer
  | vec2 .. => .vec2
  | vec3 .. => .vec3

end Literal

/-- The text of a call. -/
def callText (name : Text) (arguments : List Text) : Text :=
  name ++ ['('] ++ Text.join [',', ' '] arguments ++ [')']

def Literal.text : Literal → Text
  | .float value => value.text
  | .integer value => integerText value.toInt
  | .vec2 x y => callText "vec2".toList [x.text, y.text]
  | .vec3 x y z => callText "vec3".toList [x.text, y.text, z.text]

end EffectLang
