import EffectLang.Literal
import EffectLang.Number.Reading
import EffectLang.Text.Quoted

/-! Literals from loosely typed values. Numbers become numbers, and tuples of two or three numbers
become vectors; the components of a tuple are read generously, so a flag or a numeral in quotes
counts as a number there. -/
namespace EffectLang

/-- A value from which somebody wants a literal. -/
inductive RawValue where
  | nothing
  | flag (value : Bool)
  | integer (value : Int)
  | float (value : Double)
  | text (value : Text)
  | list (items : List RawValue)
  | tuple (items : List RawValue)
  | literal (value : Literal)

namespace RawValue

/-- The name of the kind of value. -/
def kindName : RawValue → String
  | nothing => "NoneType"
  | flag _ => "bool"
  | integer _ => "int"
  | float _ => "float"
  | text _ => "str"
  | list _ => "list"
  | tuple _ => "tuple"
  | literal (.float _) => "FloatValue"
  | literal (.integer _) => "IntValue"
  | literal (.vec2 ..) => "Vec2Value"
  | literal (.vec3 ..) => "Vec3Value"

/-- A literal with its fields named. -/
def fieldsText : Literal → Text
  | .float value => "FloatValue(value=".toList ++ value.toDouble.displayText ++ [')']
  | .integer value => "IntValue(value=".toList ++ integerText value.toInt ++ [')']
  | .vec2 x y =>
    "Vec2Value(x=".toList ++ x.toDouble.displayText ++ ", y=".toList ++ y.toDouble.displayText ++
      [')']
  | .vec3 x y z =>
    "Vec3Value(x=".toList ++ x.toDouble.displayText ++ ", y=".toList ++ y.toDouble.displayText ++
      ", z=".toList ++ z.toDouble.displayText ++ [')']

mutual

/-- The value as messages show it. A tuple of one item has a comma after it. -/
def display : RawValue → Text
  | nothing => "None".toList
  | flag true => "True".toList
  | flag false => "False".toList
  | integer value => integerText value
  | float value => value.displayText
  | text value => value.quoted
  | list items => ['['] ++ Text.join [',', ' '] (displayAll items) ++ [']']
  | tuple [item] => ['('] ++ item.display ++ [',', ')']
  | tuple items => ['('] ++ Text.join [',', ' '] (displayAll items) ++ [')']
  | literal value => fieldsText value

def displayAll : List RawValue → List Text
  | [] => []
  | item :: rest => item.display :: displayAll rest

end

end RawValue

/-- Why a value is no literal. -/
inductive LiteralError where
  | flag
  | unsuitable (value : RawValue)
  | integerTooLarge
  | integerTooSmall
  | unreadableComponent (text : Text)
  | componentTooLarge
  | noComponent (kindName : String)

def LiteralError.message : LiteralError → Text
  | flag => "bool is not a literal value".toList
  | unsuitable value => "Cannot build a literal value from ".toList ++ value.display
  | integerTooLarge => "value: less_than_equal".toList
  | integerTooSmall => "value: greater_than_equal".toList
  | unreadableComponent text => "could not convert string to float: ".toList ++ text.quoted
  | componentTooLarge => "int too large to convert to float".toList
  | noComponent kindName =>
    ("float() argument must be a string or a real number, not '" ++ kindName ++ "'").toList

namespace Literal

/-- An integer literal; the value has to fit 32 bits. -/
def ofInt (value : Int) : Except LiteralError Literal :=
  if integerBound ≤ value then .error .integerTooLarge
  else if value < -integerBound then .error .integerTooSmall
  else .ok (.integer (Int32.ofInt value))

/-- A float literal, rounded to 32 bits. -/
def ofDouble (value : Double) : Literal :=
  .float value.toSingle

end Literal

namespace RawValue

/-- A component of a vector. -/
def component : RawValue → Except LiteralError Double
  | flag value => .ok (.ofInt (if value then 1 else 0))
  | float value => .ok value
  | integer value =>
    let number : Double := .ofInt value
    if number.isFinite then .ok number else .error .componentTooLarge
  | text value =>
    match doubleOfText? value with
    | some number => .ok number
    | none => .error (.unreadableComponent value)
  | value => .error (.noComponent value.kindName)

def toLiteral : RawValue → Except LiteralError Literal
  | literal value => .ok value
  | flag _ => .error .flag
  | integer value => Literal.ofInt value
  | float value => .ok (.ofDouble value)
  | tuple [x, y] => do
    let x ← x.component
    let y ← y.component
    return .vec2 x.toSingle y.toSingle
  | tuple [x, y, z] => do
    let x ← x.component
    let y ← y.component
    let z ← z.component
    return .vec3 x.toSingle y.toSingle z.toSingle
  | value => .error (.unsuitable value)

end RawValue
end EffectLang
