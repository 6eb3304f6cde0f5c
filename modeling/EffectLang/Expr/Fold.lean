import EffectLang.Expr.Basic

/-! Vector calls as nodes. A call whose arguments are all float literals, negated any number of
times, becomes a vector literal. -/
namespace EffectLang

namespace Expr

/-- The value of a float literal under any number of negations. -/
def signedFloat? : Expr → Option Single
  | literal (.float value) => some value
  | unary .neg operand => operand.signedFloat?.map BinaryFloat.neg
  | _ => none

/-- The node of a call with two components, unfolded. -/
def vec2Node (x y : Expr) : Expr :=
  binary .vec2 x y

/-- The node of a call with three components, unfolded: a vector of two and a number. -/
def vec3Node (x y z : Expr) : Expr :=
  binary .vec3 (binary .vec2 x y) z

end Expr

/-- How the calls that build vectors become nodes. -/
structure VectorRule where
  vec2 : Expr → Expr → Expr
  vec3 : Expr → Expr → Expr → Expr

namespace VectorRule

/-- Every call is kept as a node. -/
def keeping : VectorRule :=
  ⟨Expr.vec2Node, Expr.vec3Node⟩

/-- Calls with constant components become literals. -/
def folding : VectorRule where
  vec2 x y :=
    match x.signedFloat?, y.signedFloat? with
    | some a, some b => .literal (.vec2 a b)
    | _, _ => Expr.vec2Node x y
  vec3 x y z :=
    match x.signedFloat?, y.signedFloat?, z.signedFloat? with
    | some a, some b, some c => .literal (.vec3 a b c)
    | _, _, _ => Expr.vec3Node x y z

end VectorRule
end EffectLang
