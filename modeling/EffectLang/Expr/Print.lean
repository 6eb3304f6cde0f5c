import EffectLang.Expr.Basic
import EffectLang.Text.Word

/-! The canonical text of an expression, with parentheses only where the tree would be read
differently without them. -/
namespace EffectLang

/-- How tightly an operator holds its operands, calls being the tightest. -/
def BinaryOp.precedence (op : BinaryOp) : Nat :=
  if op.isComparison then 1
  else if op.isAdditive then 2
  else if op.isMultiplicative then 3
  else 4

namespace Expr

/-- The precedence of an expression that needs no parentheses anywhere. -/
def atomPrecedence : Nat := 4

def precedence : Expr → Nat
  | binary op _ _ => op.precedence
  | _ => atomPrecedence

/-- The precedence that an operator asks of its left operand. Comparisons do not chain, so their
operands have to be tighter; the other operators associate to the left. -/
def leftPrecedence (op : BinaryOp) : Nat :=
  if op.isComparison then 2 else op.precedence

/-- The precedence that an operator asks of its right operand. -/
def rightPrecedence (op : BinaryOp) : Nat :=
  op.precedence + 1

/-- Puts parentheses around a text that is looser than the place where it stands asks. -/
def enclose (precedence required : Nat) (text : Text) : Text :=
  if precedence < required then '(' :: text ++ [')'] else text

/-- The name in a reference: bare when it is a word, quoted otherwise. -/
def nameText (name : Text) : Text :=
  if name.isWord then name else '"' :: name ++ ['"']

/-- The canonical text. A vector of three components holds the vector of the first two, which is
written without a call of its own. -/
def text : Expr → Text
  | literal value => value.text
  | attr name => callText Callee.attr.spelling [nameText name]
  | prop name => callText Callee.prop.spelling [nameText name]
  | builtIn value => value.spelling
  | unary .neg operand => '-' :: enclose operand.precedence atomPrecedence operand.text
  | unary op operand => callText op.spelling [operand.text]
  | binary .vec3 (binary .vec2 x y) z => callText BinaryOp.vec3.spelling [x.text, y.text, z.text]
  | binary op left right =>
    if op.isCall then callText op.spelling [left.text, right.text]
    else
      enclose left.precedence (leftPrecedence op) left.text ++ [' '] ++ op.spelling ++ [' '] ++
        enclose right.precedence (rightPrecedence op) right.text

instance : ToString Expr where
  toString e := String.ofList e.text

end Expr
end EffectLang
