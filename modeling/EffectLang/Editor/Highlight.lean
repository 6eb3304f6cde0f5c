import EffectLang.Editor.Parentheses

/-! Highlighting: what each visible piece of a source is, and which two parentheses are matched.
How the pieces look is left to the reader of the spans. -/
namespace EffectLang

inductive Highlight where
  | number | string | callee | operator | identifier | builtIn | punctuation | error
deriving DecidableEq

def Highlight.name : Highlight → String
  | number => "number"
  | string => "string"
  | callee => "function"
  | operator => "operator"
  | identifier => "identifier"
  | builtIn => "builtin"
  | punctuation => "punctuation"
  | error => "error"

/-- The highlight of a token; white space has none. -/
def TokenKind.highlight? : TokenKind → Option Highlight
  | integer | float => some .number
  | string => some .string
  | callee _ => some .callee
  | builtIn _ => some .builtIn
  | operator _ => some .operator
  | identifier | attributeName | propertyName => some .identifier
  | leftParen | rightParen | comma | dot => some .punctuation
  | error => some .error
  | whitespace => none

/-- A highlighted piece of the source, from `start` up to `stop`. -/
structure HighlightSpan where
  start : Nat
  stop : Nat
  highlight : Highlight
  /-- Whether the piece is one of the two matched parentheses. -/
  isMatched : Bool
deriving DecidableEq

/-- Whether a token is the opening or the closing parenthesis at the given offsets. -/
def Token.isParenOf (token : Token) (opening closing : Int) : Bool :=
  match token.kind with
  | .leftParen => (token.start : Int) = opening
  | .rightParen => (token.start : Int) = closing
  | _ => false

/-- The spans of the tokens. The parentheses at the given offsets are flagged. -/
def highlightSpans (pair : Option (Int × Int)) (tokens : List Token) : List HighlightSpan :=
  tokens.filterMap fun token =>
    token.kind.highlight?.map fun highlight =>
      ⟨token.start, token.stop, highlight,
        pair.any fun (opening, closing) => token.isParenOf opening closing⟩

end EffectLang
