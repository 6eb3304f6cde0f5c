import EffectLang.Literal
import EffectLang.Operator

/-! Expression trees. -/
namespace EffectLang

inductive Expr where
  | literal (value : Literal)
  | attr (name : Text)
  | prop (name : Text)
  | builtIn (value : BuiltIn)
  | unary (op : UnaryOp) (operand : Expr)
  | binary (op : BinaryOp) (left right : Expr)
deriving DecidableEq

end EffectLang
