import EffectLang.Vocabulary

/-! The words and signs of the language: unary and binary operators, built-in values and the names
that may be called. -/
namespace EffectLang
open Vocabulary (ofSpelling?)

/-- Operators on one operand. Negation is written before its operand, the others are calls. -/
inductive UnaryOp where
  | abs | norm | sin | cos | neg | all | any
deriving DecidableEq

/-- Operators on two operands. `vec2` and `vec3` build vectors; `vec3` takes a vector of two
components and a number. -/
inductive BinaryOp where
  | add | sub | mul | div
  | dot | cross | min | max
  | less | lessEqual | greater | greaterEqual | equal | notEqual
  | vec2 | vec3
deriving DecidableEq

/-- Values that the system supplies. All of them are floats. -/
inductive BuiltIn where
  | time | deltaTime | rand | alphaCutoff | particleId
deriving DecidableEq

/-- Names that may be called. -/
inductive Callee where
  | sin | cos | abs | norm | all | any
  | dot | cross | min | max
  | vec2 | vec3
  | attr | prop
deriving DecidableEq

/-- The forms of calls: an operator on expressions, a vector of components, or a reference to a
name. -/
inductive CallForm where
  | unary (op : UnaryOp)
  | binary (op : BinaryOp)
  | vec2
  | vec3
  | attr
  | prop
deriving DecidableEq

namespace UnaryOp

def spelling : UnaryOp → Text
  | abs => "abs".toList
  | norm => "norm".toList
  | sin => "sin".toList
  | cos => "cos".toList
  | neg => "-".toList
  | all => "all".toList
  | any => "any".toList

instance : Vocabulary UnaryOp where
  title := "UnaryOp"
  members := [abs, norm, sin, cos, neg, all, any]
  spelling := spelling
  memberName
    | abs => "ABS"
    | norm => "NORM"
    | sin => "SIN"
    | cos => "COS"
    | neg => "NEG"
    | all => "ALL"
    | any => "ANY"

theorem ofSpelling?_spelling (op : UnaryOp) : ofSpelling? op.spelling = some op := by
  cases op <;> rfl

end UnaryOp

namespace BinaryOp

def spelling : BinaryOp → Text
  | add => "+".toList
  | sub => "-".toList
  | mul => "*".toList
  | div => "/".toList
  | dot => "dot".toList
  | cross => "cross".toList
  | min => "min".toList
  | max => "max".toList
  | less => "<".toList
  | lessEqual => "<=".toList
  | greater => ">".toList
  | greaterEqual => ">=".toList
  | equal => "==".toList
  | notEqual => "!=".toList
  | vec2 => "vec2".toList
  | vec3 => "vec3".toList

instance : Vocabulary BinaryOp where
  title := "BinaryOp"
  members := [add, sub, mul, div, dot, cross, min, max, less, lessEqual, greater, greaterEqual,
    equal, notEqual, vec2, vec3]
  spelling := spelling
  memberName
    | add => "ADD"
    | sub => "SUB"
    | mul => "MUL"
    | div => "DIV"
    | dot => "DOT"
    | cross => "CROSS"
    | min => "MIN"
    | max => "MAX"
    | less => "LT"
    | lessEqual => "LTE"
    | greater => "GE"
    | greaterEqual => "GTE"
    | equal => "EQ"
    | notEqual => "NEQ"
    | vec2 => "VEC2"
    | vec3 => "VEC3"

theorem ofSpelling?_spelling (op : BinaryOp) : ofSpelling? op.spelling = some op := by
  cases op <;> rfl

/-- Written as `name(left, right)` and not between its operands. -/
def isCall : BinaryOp → Bool
  | dot | cross | min | max | vec2 | vec3 => true
  | _ => false

def isComparison : BinaryOp → Bool
  | less | lessEqual | greater | greaterEqual | equal | notEqual => true
  | _ => false

def isAdditive : BinaryOp → Bool
  | add | sub => true
  | _ => false

def isMultiplicative : BinaryOp → Bool
  | mul | div => true
  | _ => false

end BinaryOp

namespace BuiltIn

def spelling : BuiltIn → Text
  | time => "time".toList
  | deltaTime => "delta_time".toList
  | rand => "rand".toList
  | alphaCutoff => "alpha_cutoff".toList
  | particleId => "particle_id".toList

instance : Vocabulary BuiltIn where
  title := "BuiltInOp"
  members := [time, deltaTime, rand, alphaCutoff, particleId]
  spelling := spelling
  memberName
    | time => "TIME"
    | deltaTime => "DELTA_TIME"
    | rand => "RAND"
    | alphaCutoff => "ALPHA_CUTOFF"
    | particleId => "PARTICLE_ID"

theorem ofSpelling?_spelling (b : BuiltIn) : ofSpelling? b.spelling = some b := by
  cases b <;> rfl

end BuiltIn

namespace Callee

def spelling : Callee → Text
  | sin => "sin".toList
  | cos => "cos".toList
  | abs => "abs".toList
  | norm => "norm".toList
  | all => "all".toList
  | any => "any".toList
  | dot => "dot".toList
  | cross => "cross".toList
  | min => "min".toList
  | max => "max".toList
  | vec2 => "vec2".toList
  | vec3 => "vec3".toList
  | attr => "attr".toList
  | prop => "prop".toList

instance : Vocabulary Callee where
  title := "FunctionKind"
  members := [sin, cos, abs, norm, all, any, dot, cross, min, max, vec2, vec3, attr, prop]
  spelling := spelling
  memberName
    | sin => "SIN"
    | cos => "COS"
    | abs => "ABS"
    | norm => "NORM"
    | all => "ALL"
    | any => "ANY"
    | dot => "DOT"
    | cross => "CROSS"
    | min => "MIN"
    | max => "MAX"
    | vec2 => "VEC2"
    | vec3 => "VEC3"
    | attr => "ATTR"
    | prop => "PROP"

theorem ofSpelling?_spelling (f : Callee) : ofSpelling? f.spelling = some f := by
  cases f <;> rfl

/-- What a call of each name means. -/
def form : Callee → CallForm
  | sin => .unary .sin
  | cos => .unary .cos
  | abs => .unary .abs
  | norm => .unary .norm
  | all => .unary .all
  | any => .unary .any
  | dot => .binary .dot
  | cross => .binary .cross
  | min => .binary .min
  | max => .binary .max
  | vec2 => .vec2
  | vec3 => .vec3
  | attr => .attr
  | prop => .prop

/-- The number of arguments of a call. -/
def arity (name : Callee) : Nat :=
  match name.form with
  | .unary _ | .attr | .prop => 1
  | .binary _ | .vec2 => 2
  | .vec3 => 3

/-- The unary operator that a call applies. -/
def unaryOp? (name : Callee) : Option UnaryOp :=
  match name.form with
  | .unary op => some op
  | _ => none

/-- The binary operator that a call applies. The vector calls apply none: their arguments may fold
into a literal. -/
def binaryOp? (name : Callee) : Option BinaryOp :=
  match name.form with
  | .binary op => some op
  | _ => none

end Callee
end EffectLang
