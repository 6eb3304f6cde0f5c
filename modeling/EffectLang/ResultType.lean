import EffectLang.Vocabulary

/-! The types of expressions. `error` is an answer, "the operand types do not fit"; a type that
cannot be known is the absence of an answer. -/
namespace EffectLang
open Vocabulary (ofSpelling?)

inductive ResultType where
  | float | integer | vec2 | vec3 | error
deriving DecidableEq

namespace ResultType

def spelling : ResultType → Text
  | float => "float".toList
  | integer => "integer".toList
  | vec2 => "vec2".toList
  | vec3 => "vec3".toList
  | error => "error".toList

instance : Vocabulary ResultType where
  title := "ReturnType"
  members := [float, integer, vec2, vec3, error]
  spelling := spelling
  memberName
    | float => "FLOAT"
    | integer => "INTEGER"
    | vec2 => "VEC2"
    | vec3 => "VEC3"
    | error => "ERROR"

theorem ofSpelling?_spelling (t : ResultType) : ofSpelling? t.spelling = some t := by
  cases t <;> rfl

def isScalar : ResultType → Bool
  | float | integer => true
  | _ => false

def isVector : ResultType → Bool
  | vec2 | vec3 => true
  | _ => false

end ResultType
end EffectLang
