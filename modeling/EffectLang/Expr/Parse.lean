import EffectLang.Expr.Fold
import EffectLang.ParseError
import EffectLang.Token.Mark

/-! Reading expressions. From the loosest to the tightest:

    expression      additive, possibly compared with one more additive
    additive        multiplicatives joined by + and -, to the left
    multiplicative  atoms joined by * and /, to the left
    atom            ( expression ), - atom, a number, a call, a bare name, a built-in value

Groups, negations and calls each open a level; the number of levels that may be open at once is
the room of the reader, and recursion is on it. A reader takes tokens from the front of a list and
returns what is left. -/
namespace EffectLang

/-- Takes a value off the front of the tokens. -/
abbrev Reader (α : Type) := List Token → Except ParseFailure (α × List Token)

/-- What a reader depends on: the offset of the end of the source, where missing tokens are
reported, and the rule for vector calls. -/
structure Grammar where
  sourceEnd : Nat
  vectors : VectorRule

/-- Fails with the given cause, text and offset. -/
def malformed {α : Type} (cause : ParseError.Cause) (text : Text) (pos : Nat) :
    Except ParseFailure α :=
  .error (.malformed ⟨cause, text, pos⟩)

/-- Fails with the text and offset of a token. -/
def malformedAt {α : Type} (cause : ParseError.Cause) (token : Token) : Except ParseFailure α :=
  malformed cause token.text token.start

/-- The next token if it is an operator of the given class. -/
def nextOperator? (accepts : BinaryOp → Bool) : List Token → Option (BinaryOp × List Token)
  | ⟨.operator op, _, _⟩ :: rest => if accepts op then some (op, rest) else none
  | _ => none

/-- Whether the next token is of the given kind. -/
def nextIs (kind : TokenKind) : List Token → Bool
  | token :: _ => token.kind = kind
  | [] => false

/-- The rest of a chain of operators of one class, whose operands group to the left. A chain has
at most as many operators as there are tokens. -/
def chainRest (accepts : BinaryOp → Bool) (operand : Reader Expr) :
    Nat → Expr → Reader Expr
  | 0, left, tokens => .ok (left, tokens)
  | bound + 1, left, tokens =>
    match nextOperator? accepts tokens with
    | none => .ok (left, tokens)
    | some (op, tokens) => do
      let (right, tokens) ← operand tokens
      chainRest accepts operand bound (.binary op left right) tokens

/-- Operands joined by operators of one class. -/
def chain (accepts : BinaryOp → Bool) (operand : Reader Expr) : Reader Expr := fun tokens => do
  let (first, tokens) ← operand tokens
  chainRest accepts operand tokens.length first tokens

def multiplicative (atom : Reader Expr) : Reader Expr :=
  chain BinaryOp.isMultiplicative atom

def additive (atom : Reader Expr) : Reader Expr :=
  chain BinaryOp.isAdditive (multiplicative atom)

def expression (atom : Reader Expr) : Reader Expr := fun tokens => do
  let (left, tokens) ← additive atom tokens
  match nextOperator? BinaryOp.isComparison tokens with
  | none => return (left, tokens)
  | some (op, tokens) =>
    let (right, tokens) ← additive atom tokens
    return (.binary op left right, tokens)

/-- An integer literal. -/
def readInteger (token : Token) : Except ParseFailure Literal :=
  if numeralDigitLimit < token.text.length then .error (.numeralTooLong token.text.length)
  else
    let value := ofDigits token.text
    if value < Literal.integerBound then .ok (.integer (Int32.ofNat value))
    else malformedAt .invalidNumber token

/-- The decimal that digits with a point denote. -/
def pointDecimal (text : Text) : Decimal :=
  let whole := text.takeWhile (· ≠ '.')
  let fraction := (text.dropWhile (· ≠ '.')).drop 1
  ⟨ofDigits (whole ++ fraction), -fraction.length⟩

/-- A float literal: the decimal rounded to 64 bits and then to 32. -/
def readFloat (token : Token) : Except ParseFailure Literal :=
  let value := (pointDecimal token.text).toDouble false
  if value.fitsSingle then .ok (.float value.toSingle) else malformedAt .invalidNumber token

/-- An atom of one token. A bare name is an attribute, unless a parenthesis follows it, which
makes it the call of an unknown function. -/
def leaf (token : Token) : Reader Expr := fun tokens =>
  match token.kind with
  | .integer => do return (.literal (← readInteger token), tokens)
  | .float => do return (.literal (← readFloat token), tokens)
  | .identifier =>
    if nextIs .leftParen tokens then malformedAt .unknownFunction token
    else .ok (.attr token.text, tokens)
  | .builtIn value =>
    if nextIs .leftParen tokens then malformedAt .unknownFunction token
    else .ok (.builtIn value, tokens)
  | _ => malformedAt .unexpectedToken token

/-- Whether a token of this kind opens a level: a group, a call or a negation. -/
def TokenKind.opensLevel : TokenKind → Bool
  | leftParen | callee _ | operator .sub => true
  | _ => false

namespace Grammar

/-- The next token, which has to exist. -/
def next (g : Grammar) : Reader Token
  | [] => malformed .unexpectedEnd [] g.sourceEnd
  | token :: rest => .ok (token, rest)

/-- Takes a token of the given kind. Any other token is an error with the given cause. -/
def expect (g : Grammar) (kind : TokenKind) (cause : ParseError.Cause) (tokens : List Token) :
    Except ParseFailure (List Token) := do
  let (token, tokens) ← g.next tokens
  if token.kind = kind then return tokens else malformedAt cause token

/-- The name in a reference: a word, or a string that is not empty. -/
def referenceName (g : Grammar) : Reader Text := fun tokens => do
  let (token, tokens) ← g.next tokens
  if token.kind.isWord then return (token.text, tokens)
  else
    match token.kind with
    | .string =>
      match (token.text.drop 1).dropLast with
      | [] => malformed .invalidIdentifier [] token.start
      | name => return (name, tokens)
    | .rightParen => malformed .invalidIdentifier [] token.start
    | _ => malformedAt .invalidIdentifier token

/-- A vector call has to have arguments. -/
def refuseEmptyVector : List Token → Except ParseFailure Unit
  | [] => .ok ()
  | token :: _ =>
    if token.kind = .rightParen then malformedAt .invalidVector token else .ok ()

/-- The arguments of a call and its closing parenthesis; the opening one is already taken. -/
def call (g : Grammar) (argument : Reader Expr) (form : CallForm) : Reader Expr := fun tokens =>
  match form with
  | .attr => do
    let (name, tokens) ← g.referenceName tokens
    let tokens ← g.expect .rightParen .unexpectedToken tokens
    return (.attr name, tokens)
  | .prop => do
    let (name, tokens) ← g.referenceName tokens
    let tokens ← g.expect .rightParen .unexpectedToken tokens
    return (.prop name, tokens)
  | .unary op => do
    let (x, tokens) ← argument tokens
    let tokens ← g.expect .rightParen .unexpectedToken tokens
    return (.unary op x, tokens)
  | .binary op => do
    let (x, tokens) ← argument tokens
    let tokens ← g.expect .comma .unexpectedToken tokens
    let (y, tokens) ← argument tokens
    let tokens ← g.expect .rightParen .unexpectedToken tokens
    return (.binary op x y, tokens)
  | .vec2 => do
    refuseEmptyVector tokens
    let (x, tokens) ← argument tokens
    let tokens ← g.expect .comma .invalidVector tokens
    let (y, tokens) ← argument tokens
    let tokens ← g.expect .rightParen .invalidVector tokens
    return (g.vectors.vec2 x y, tokens)
  | .vec3 => do
    refuseEmptyVector tokens
    let (x, tokens) ← argument tokens
    let tokens ← g.expect .comma .invalidVector tokens
    let (y, tokens) ← argument tokens
    let tokens ← g.expect .comma .invalidVector tokens
    let (z, tokens) ← argument tokens
    let tokens ← g.expect .rightParen .invalidVector tokens
    return (g.vectors.vec3 x y z, tokens)

/-- A group without its opening parenthesis, which stands at `start`. -/
def group (atom : Reader Expr) (start : Nat) : Reader Expr := fun tokens => do
  let (inner, tokens) ← expression atom tokens
  match tokens with
  | [] => malformed .unmatchedParenthesis [] start
  | token :: tokens =>
    if token.kind = .rightParen then return (inner, tokens)
    else malformedAt .unexpectedToken token

/-- The rest of an atom after the token that opens its level. -/
def nested (g : Grammar) (atom : Reader Expr) (opening : Token) : Reader Expr := fun tokens =>
  match opening.kind with
  | .leftParen => group atom opening.start tokens
  | .callee name => do
    let tokens ← g.expect .leftParen .unexpectedToken tokens
    g.call (expression atom) name.form tokens
  | _ => do
    let (operand, tokens) ← atom tokens
    return (.unary .neg operand, tokens)

/-- An atom, with room for that many more levels. -/
def atom (g : Grammar) : Nat → Reader Expr
  | 0, tokens => do
    let (token, tokens) ← g.next tokens
    if token.kind.opensLevel then malformedAt .nestingTooDeep token else leaf token tokens
  | room + 1, tokens => do
    let (token, tokens) ← g.next tokens
    if token.kind.opensLevel then g.nested (g.atom room) token tokens else leaf token tokens

/-- An expression that takes all tokens. -/
def read (g : Grammar) (room : Nat) (tokens : List Token) : Except ParseFailure Expr := do
  let (e, tokens) ← expression (g.atom room) tokens
  match tokens with
  | [] => return e
  | token :: _ => malformedAt .unexpectedToken token

end Grammar

/-- The number of groups, negations and calls that may be open at once. -/
def nestingLimit : Nat := 64

/-- Reads an expression. -/
def Expr.parse (source : Text) : Except ParseFailure Expr :=
  Grammar.read ⟨source.length, .folding⟩ nestingLimit (significant (tokenize source))

end EffectLang
