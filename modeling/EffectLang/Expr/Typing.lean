import EffectLang.Expr.Basic

/-! Type inference. A name that is not declared makes the whole type unknown; operands that do
not fit make it an error. -/
namespace EffectLang

/-- The declared types of attributes and properties. -/
structure TypeContext where
  attr : Text → Option ResultType
  prop : Text → Option ResultType

namespace ResultType

/-- Arithmetic by components: equal types keep their type, a scalar widens to a vector. -/
def broadcast (left right : ResultType) : ResultType :=
  if left = right ∧ left ≠ error then left
  else if left.isScalar ∧ right.isVector then right
  else if left.isVector ∧ right.isScalar then left
  else error

end ResultType

/-- The type of a unary operator's result. The length of anything is a float, and asking whether
all or any components are non-zero is for vectors only. -/
def UnaryOp.resultType (op : UnaryOp) (operand : ResultType) : ResultType :=
  match op with
  | abs | sin | cos | neg => operand
  | norm => .float
  | all | any => if operand.isVector then .float else .error

/-- The type of a binary operator's result. -/
def BinaryOp.resultType (op : BinaryOp) (left right : ResultType) : ResultType :=
  match op with
  | add | sub | mul | div | min | max => left.broadcast right
  | less | lessEqual | greater | greaterEqual | equal | notEqual =>
    if left = right ∧ left ≠ .error then .float else .error
  | dot => if left = right ∧ left.isVector then .float else .error
  | cross => if left = .vec3 ∧ right = .vec3 then .vec3 else .error
  | vec2 => if left = .float ∧ right = .float then .vec2 else .error
  | vec3 => if left = .vec2 ∧ right = .float then .vec3 else .error

/-- The type of an expression, or `none` when a name in it is not declared. -/
def Expr.resultType (context : TypeContext) : Expr → Option ResultType
  | literal value => some value.type
  | attr name => context.attr name
  | prop name => context.prop name
  | builtIn _ => some .float
  | unary op operand => do
    let type ← operand.resultType context
    return op.resultType type
  | binary op left right => do
    let leftType ← left.resultType context
    let rightType ← right.resultType context
    return op.resultType leftType rightType

end EffectLang
