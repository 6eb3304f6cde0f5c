import EffectLang.Operator
import EffectLang.Number.Decimal

/-! Tokens: classified pieces of a source text. A token knows where it starts; where it stops
follows from its text. -/
namespace EffectLang

/-- What a token is. Operators, callable names and built-in values carry what they stand for. A
word that names an attribute or a property inside a reference call has a kind of its own. -/
inductive TokenKind where
  | integer | float | string
  | identifier | attributeName | propertyName
  | builtIn (value : BuiltIn)
  | callee (name : Callee)
  | operator (op : BinaryOp)
  | leftParen | rightParen | comma | dot
  | whitespace | error
deriving DecidableEq

namespace TokenKind

def name : TokenKind → String
  | integer => "integer"
  | float => "float"
  | string => "string"
  | identifier => "identifier"
  | attributeName => "attribute"
  | propertyName => "property"
  | builtIn _ => "builtin"
  | callee _ => "function"
  | operator _ => "binary_op"
  | leftParen => "lparen"
  | rightParen => "rparen"
  | comma => "comma"
  | dot => "dot"
  | whitespace => "whitespace"
  | error => "error"

/-- The kinds of words, any of which can name an attribute or a property. -/
def isWord : TokenKind → Bool
  | identifier | attributeName | propertyName | builtIn _ | callee _ => true
  | _ => false

/-- What a token of this kind stands for, spelled. -/
def payloadSpelling? : TokenKind → Option Text
  | builtIn value => some value.spelling
  | callee name => some name.spelling
  | operator op => some op.spelling
  | _ => none

/-- What a token of this kind stands for, as it is listed. -/
def payloadName? : TokenKind → Option Text
  | builtIn value => some (Vocabulary.listingName value)
  | callee name => some (Vocabulary.listingName name)
  | operator op => some (Vocabulary.listingName op)
  | _ => none

end TokenKind

/-- A piece of the source that starts at offset `start`. -/
structure Token where
  kind : TokenKind
  text : Text
  start : Nat
deriving DecidableEq

namespace Token

/-- The offset just after the token. -/
def stop (t : Token) : Nat :=
  t.start + t.text.length

def isSignificant (t : Token) : Bool :=
  t.kind ≠ .whitespace

/-- The span of a token as text. -/
def spanText (t : Token) : Text :=
  digitsOf t.start ++ "..".toList ++ digitsOf t.stop

/-- A one-line account of a token. -/
def describe (t : Token) : Text :=
  "Token(".toList ++ t.kind.name.toList ++ ", ".toList ++ t.text.quoted ++ ", ".toList ++
    t.spanText ++
    (match t.kind.payloadName?, t.kind.payloadSpelling? with
      | some listed, some spelling =>
        ", op=<".toList ++ listed ++ ": ".toList ++ spelling.quoted ++ ">".toList
      | _, _ => []) ++
    ")".toList

end Token

/-- The tokens that are not white space. -/
def significant (tokens : List Token) : List Token :=
  tokens.filter Token.isSignificant

@[simp] theorem significant_nil : significant [] = [] := rfl

@[simp] theorem significant_append (xs ys : List Token) :
    significant (xs ++ ys) = significant xs ++ significant ys :=
  List.filter_append ..

end EffectLang
