import EffectLang.Expr.Print
import EffectLang.Expr.Typing

/-! Printing and inference on a stack with an end. Both descend through the tree level by level, and
neither has an answer if the stack is used up before the leaves are reached. -/
namespace EffectLang
namespace Expr

/-- Printing with room for that many levels on the stack; without room there is no text. -/
def textWithin : Nat → Expr → Option Text
  | 0, _ => none
  | room + 1, e =>
    match e with
    | unary .neg x => do
      let operand ← x.textWithin room
      return '-' :: enclose x.precedence atomPrecedence operand
    | unary op x => do
      let operand ← x.textWithin room
      return callText op.spelling [operand]
    | binary .vec3 (binary .vec2 x y) z => do
      let first ← x.textWithin room
      let second ← y.textWithin room
      let third ← z.textWithin room
      return callText BinaryOp.vec3.spelling [first, second, third]
    | binary op x y => do
      let left ← x.textWithin room
      let right ← y.textWithin room
      return if op.isCall then callText op.spelling [left, right]
        else
          enclose x.precedence (leftPrecedence op) left ++ [' '] ++ op.spelling ++ [' '] ++
            enclose y.precedence (rightPrecedence op) right
    | leaf => some leaf.text

/-- Inference with room for that many levels. The right operand is looked at only if the left one has
an answer. -/
def resultTypeWithin (context : TypeContext) : Nat → Expr → Option (Option ResultType)
  | 0, _ => none
  | room + 1, e =>
    match e with
    | unary op x => do
      let type ← x.resultTypeWithin context room
      return type.map op.resultType
    | binary op x y => do
      match ← x.resultTypeWithin context room with
      | none => return none
      | some left =>
        let right ← y.resultTypeWithin context room
        return right.map (op.resultType left)
    | leaf => some (leaf.resultType context)

end Expr
end EffectLang
