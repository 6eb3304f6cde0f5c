import EffectLang.Expr.Parse

/-!
# Reading with a cursor

The reader written as procedures that move a cursor over the tokens of a list and count the open
levels. How long they run is bounded by `time` alone, the number of calls of `atom` that may be
open at once and of the turns that a loop may take. A procedure whose time is up has no outcome.
-/

namespace EffectLang

/-! ## Procedures -/

/-- A place in a list of tokens, the number of open levels, and the places of the tokens that were
taken, from the first one on. -/
@[ext] structure Cursor where
  pos : Nat
  depth : Nat
  taken : List Nat

/-- A procedure that moves a cursor. It fails, it returns a value, or its time is up. -/
abbrev Moving := StateT Cursor (ExceptT ParseFailure Option)

/-- What a procedure does from a cursor. There is no outcome if its time is up. -/
def Moving.outcome {α : Type} (x : Moving α) (c : Cursor) :
    Option (Except ParseFailure (α × Cursor)) :=
  (x.run c).run

namespace Cursor

/-- No token is taken and no level is open. -/
def start : Cursor := ⟨0, 0, []⟩

/-- The cursor after the token at its place is taken. -/
def next (c : Cursor) : Cursor :=
  { c with pos := c.pos + 1, taken := c.taken ++ [c.pos] }

/-- The cursor inside one more level. -/
def opened (c : Cursor) : Cursor :=
  { c with depth := c.depth + 1 }

/-- The cursor outside the innermost level. -/
def closed (c : Cursor) : Cursor :=
  { c with depth := c.depth - 1 }

/-- The time is up. -/
def outOfTime {α : Type} : Moving α :=
  StateT.lift (ExceptT.mk none)

variable (g : Grammar) (tokens : List Token)

/-- The token at the cursor, if there is one. -/
def look : Moving (Option Token) :=
  return tokens[(← get).pos]?

/-- The token at the cursor, which has to exist. -/
def require : Moving Token := do
  match ← look tokens with
  | none => (malformed .unexpectedEnd [] g.sourceEnd : Except ParseFailure Token)
  | some token => return token

/-- Takes the token at the cursor. -/
def advance : Moving Token := do
  let token ← require g tokens
  modify next
  return token

def expect (kind : TokenKind) (cause : ParseError.Cause) : Moving Unit := do
  let token ← require g tokens
  if token.kind = kind then
    let _ ← advance g tokens
  else (malformedAt cause token : Except ParseFailure Unit)

def takeOperator? (accepts : BinaryOp → Bool) : Moving (Option BinaryOp) := do
  match ← look tokens with
  | some ⟨.operator op, _, _⟩ =>
    if accepts op then
      let _ ← advance g tokens
      return some op
    else return none
  | _ => return none

def referenceName : Moving Text := do
  let token ← require g tokens
  if token.kind.isWord then
    let _ ← advance g tokens
    return token.text
  else
    match token.kind with
    | .string =>
      match (token.text.drop 1).dropLast with
      | [] => (malformed .invalidIdentifier [] token.start : Except ParseFailure Text)
      | name =>
        let _ ← advance g tokens
        return name
    | .rightParen => (malformed .invalidIdentifier [] token.start : Except ParseFailure Text)
    | _ => (malformedAt .invalidIdentifier token : Except ParseFailure Text)

/-- A bare name, unless a parenthesis follows it. -/
def bareName (e : Expr) (token : Token) : Moving Expr := do
  let _ ← advance g tokens
  if (← look tokens).any (·.kind = .leftParen) then
    (malformedAt .unknownFunction token : Except ParseFailure Expr)
  else return e

/-- A literal. -/
def number (read : Token → Except ParseFailure Literal) (token : Token) : Moving Expr := do
  let _ ← advance g tokens
  return .literal (← read token)

def leaf (token : Token) : Moving Expr :=
  match token.kind with
  | .integer => number g tokens readInteger token
  | .float => number g tokens readFloat token
  | .identifier => bareName g tokens (.attr token.text) token
  | .builtIn value => bareName g tokens (.builtIn value) token
  | _ => (malformedAt .unexpectedToken token : Except ParseFailure Expr)

/-- Opens a level, if one more may be open. -/
def enter (token : Token) : Moving Unit := do
  modify opened
  if nestingLimit < (← get).depth then
    (malformedAt .nestingTooDeep token : Except ParseFailure Unit)

/-- Closes a level. -/
def leave : Moving Unit :=
  modify closed

def refuseEmptyVector : Moving Unit := do
  match ← look tokens with
  | none => return ()
  | some token =>
    if token.kind = .rightParen then
      (malformedAt .invalidVector token : Except ParseFailure Unit)

/-- One turn of the loop of a chain: an operator and an operand. The loop ends where there is no
operator. -/
def turn (accepts : BinaryOp → Bool) (operand : Moving Expr) :
    Moving (Option (BinaryOp × Expr)) := do
  match ← takeOperator? g tokens accepts with
  | none => return none
  | some op =>
    let right ← operand
    return some (op, right)

/-- The loop of a chain, from the operand it has read so far. -/
def loop (accepts : BinaryOp → Bool) (operand : Moving Expr) : Nat → Expr → Moving Expr
  | 0, _ => outOfTime
  | time + 1, left => do
    match ← turn g tokens accepts operand with
    | none => return left
    | some (op, right) => loop accepts operand time (.binary op left right)

def chain (accepts : BinaryOp → Bool) (operand : Moving Expr) (time : Nat) : Moving Expr := do
  let first ← operand
  loop g tokens accepts operand time first

def multiplicative (atom : Moving Expr) (time : Nat) : Moving Expr :=
  chain g tokens BinaryOp.isMultiplicative atom time

def additive (atom : Moving Expr) (time : Nat) : Moving Expr :=
  chain g tokens BinaryOp.isAdditive (multiplicative g tokens atom time) time

def expression (atom : Moving Expr) (time : Nat) : Moving Expr := do
  let left ← additive g tokens atom time
  match ← takeOperator? g tokens BinaryOp.isComparison with
  | none => return left
  | some op =>
    let right ← additive g tokens atom time
    return .binary op left right

/-- One turn of the loop over the arguments after the first one: a comma and an argument. -/
def nextArgument (argument : Moving Expr) (cause : ParseError.Cause) : Moving Expr := do
  expect g tokens .comma cause
  argument

/-- The arguments of a call and its closing parenthesis; the opening one is already taken. -/
def call (argument : Moving Expr) (form : CallForm) : Moving Expr :=
  match form with
  | .attr => do
    let name ← referenceName g tokens
    expect g tokens .rightParen .unexpectedToken
    return .attr name
  | .prop => do
    let name ← referenceName g tokens
    expect g tokens .rightParen .unexpectedToken
    return .prop name
  | .unary op => do
    let x ← argument
    expect g tokens .rightParen .unexpectedToken
    return .unary op x
  | .binary op => do
    let x ← argument
    let y ← nextArgument g tokens argument .unexpectedToken
    expect g tokens .rightParen .unexpectedToken
    return .binary op x y
  | .vec2 => do
    refuseEmptyVector tokens
    let x ← argument
    let y ← nextArgument g tokens argument .invalidVector
    expect g tokens .rightParen .invalidVector
    return g.vectors.vec2 x y
  | .vec3 => do
    refuseEmptyVector tokens
    let x ← argument
    let y ← nextArgument g tokens argument .invalidVector
    let z ← nextArgument g tokens argument .invalidVector
    expect g tokens .rightParen .invalidVector
    return g.vectors.vec3 x y z

/-- A group without its opening parenthesis, which stands at `start`. -/
def group (inside : Moving Expr) (start : Nat) : Moving Expr := do
  let inner ← inside
  match ← look tokens with
  | none => (malformed .unmatchedParenthesis [] start : Except ParseFailure Expr)
  | some closing =>
    if closing.kind = .rightParen then
      let _ ← advance g tokens
      return inner
    else (malformedAt .unexpectedToken closing : Except ParseFailure Expr)

/-- An atom that starts with a token that opens a level. -/
def nested (atom : Moving Expr) (time : Nat) (opening : Token) : Moving Expr := do
  let _ ← advance g tokens
  match opening.kind with
  | .leftParen => group g tokens (expression g tokens atom time) opening.start
  | .callee name => do
    expect g tokens .leftParen .unexpectedToken
    call g tokens (expression g tokens atom time) name.form
  | _ => do
    let operand ← atom
    return .unary .neg operand

def atom : Nat → Moving Expr
  | 0 => outOfTime
  | time + 1 => do
    let token ← require g tokens
    if token.kind.opensLevel then
      enter token
      let e ← nested g tokens (atom time) time token
      leave
      return e
    else leaf g tokens token

/-- An expression that takes all tokens. -/
def read (time : Nat) : Moving Expr := do
  let e ← expression g tokens (atom g tokens time) time
  match ← look tokens with
  | none => return e
  | some token => (malformedAt .unexpectedToken token : Except ParseFailure Expr)

/-! ## Outcomes of the parts of a procedure -/

section
variable {g tokens} {α β : Type}

theorem outcome_bind (x : Moving α) (f : α → Moving β) (c : Cursor) :
    (x >>= f).outcome c =
      match x.outcome c with
      | none => none
      | some (.error failure) => some (.error failure)
      | some (.ok (a, c')) => (f a).outcome c' := by
  simp only [Moving.outcome, StateT.run_bind, ExceptT.run_bind]
  rcases (x.run c).run with _ | _ | _ <;> rfl

theorem outcome_look (f : Option Token → Moving β) (c : Cursor) :
    (look tokens >>= f).outcome c = (f tokens[c.pos]?).outcome c := rfl

theorem outcome_require (f : Token → Moving β) (c : Cursor) :
    (require g tokens >>= f).outcome c =
      match tokens[c.pos]? with
      | none => some (malformed .unexpectedEnd [] g.sourceEnd)
      | some t => (f t).outcome c := by
  rw [require, bind_assoc, outcome_look]
  cases tokens[c.pos]? <;> rfl

theorem outcome_advance {c : Cursor} {t : Token} (h : tokens[c.pos]? = some t)
    (f : Token → Moving β) : (advance g tokens >>= f).outcome c = (f t).outcome c.next := by
  rw [advance, bind_assoc, outcome_require, h]
  rfl

theorem outcome_enter (t : Token) (f : Unit → Moving β) (c : Cursor) :
    (enter t >>= f).outcome c =
      if nestingLimit < c.depth + 1 then some (malformedAt .nestingTooDeep t)
      else (f ()).outcome c.opened := by
  have henter : (enter t).outcome c =
      (if nestingLimit < c.depth + 1 then
        (malformedAt .nestingTooDeep t : Except ParseFailure Unit)
        else pure () : Moving Unit).outcome c.opened := rfl
  rw [outcome_bind, henter]
  by_cases h : nestingLimit < c.depth + 1
  · rw [if_pos h, if_pos h]
    rfl
  · rw [if_neg h, if_neg h]
    rfl

end

end Cursor

end EffectLang
