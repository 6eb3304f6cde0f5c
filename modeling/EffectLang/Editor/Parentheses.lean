import EffectLang.Token.Basic

/-! Matching parentheses. Reading from the left, a closing parenthesis belongs to the last opening
one that is still open; surplus parentheses of either kind have no partner. -/
namespace EffectLang

/-- The offsets of an opening parenthesis and of its partner. -/
abbrev ParenPair := Nat × Nat

/-- The pairs among the tokens, given the offsets of the parentheses that are open. -/
def parenPairsFrom : List Nat → List Token → List ParenPair
  | _, [] => []
  | opened, token :: rest =>
    match token.kind, opened with
    | .leftParen, _ => parenPairsFrom (token.start :: opened) rest
    | .rightParen, start :: opened => (start, token.start) :: parenPairsFrom opened rest
    | _, _ => parenPairsFrom opened rest

def parenPairs (tokens : List Token) : List ParenPair :=
  parenPairsFrom [] tokens

/-- The pair of which one parenthesis starts at the offset. -/
def pairAt? (pairs : List ParenPair) (offset : Int) : Option ParenPair :=
  pairs.find? fun pair => (pair.1 : Int) = offset || (pair.2 : Int) = offset

/-- The pair that touches the cursor. A parenthesis that starts at the cursor comes before one that
ends there. -/
def matchingPair? (tokens : List Token) (cursor : Int) : Option ParenPair :=
  let pairs := parenPairs tokens
  (pairAt? pairs cursor).or (pairAt? pairs (cursor - 1))

end EffectLang
