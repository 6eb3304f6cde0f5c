import EffectLang.Number.Decimal
import EffectLang.Vocabulary

/-! Why a text is no expression. An error has a cause, the text that it is about (empty where there
is none) and the offset where it was found. -/
namespace EffectLang
open Vocabulary (ofSpelling?)

/-- The closed set of causes. -/
inductive ParseError.Cause where
  | unexpectedToken | unexpectedEnd
  | invalidNumber | invalidIdentifier
  | unmatchedParenthesis
  | unknownFunction
  | invalidVector
  | nestingTooDeep
deriving DecidableEq

namespace ParseError.Cause

def spelling : Cause → Text
  | unexpectedToken => "unexpected_token".toList
  | unexpectedEnd => "unexpected_end_of_input".toList
  | invalidNumber => "invalid_number".toList
  | invalidIdentifier => "invalid_identifier".toList
  | unmatchedParenthesis => "unmatched_parenthesis".toList
  | unknownFunction => "unknown_function".toList
  | invalidVector => "invalid_vector_literal".toList
  | nestingTooDeep => "nesting_too_deep".toList

instance : Vocabulary Cause where
  title := "ParseErrorKind"
  members := [unexpectedToken, unexpectedEnd, invalidNumber, invalidIdentifier,
    unmatchedParenthesis, unknownFunction, invalidVector, nestingTooDeep]
  spelling := spelling
  memberName
    | unexpectedToken => "UNEXPECTED_TOKEN"
    | unexpectedEnd => "UNEXPECTED_END_OF_INPUT"
    | invalidNumber => "INVALID_NUMBER"
    | invalidIdentifier => "INVALID_IDENTIFIER"
    | unmatchedParenthesis => "UNMATCHED_PARENTHESIS"
    | unknownFunction => "UNKNOWN_FUNCTION"
    | invalidVector => "INVALID_VECTOR_LITERAL"
    | nestingTooDeep => "NESTING_TOO_DEEP"

theorem ofSpelling?_spelling (cause : Cause) : ofSpelling? cause.spelling = some cause := by
  cases cause <;> rfl

/-- The name under which an error of this cause is listed. -/
def errorName : Cause → String
  | unexpectedToken => "UnexpectedTokenError"
  | unexpectedEnd => "UnexpectedEndOfInputError"
  | invalidNumber => "InvalidNumberError"
  | invalidIdentifier => "InvalidIdentifierError"
  | unmatchedParenthesis => "UnmatchedParenthesisError"
  | unknownFunction => "UnknownFunctionError"
  | invalidVector => "InvalidVectorLiteralError"
  | nestingTooDeep => "NestingTooDeepError"

/-- The group by which an editor chooses how to show the error. -/
def category : Cause → String
  | unexpectedToken | unexpectedEnd | unmatchedParenthesis | nestingTooDeep => "syntax"
  | invalidNumber | invalidIdentifier => "value"
  | unknownFunction => "reference"
  | invalidVector => "vector"

end ParseError.Cause

structure ParseError where
  cause : ParseError.Cause
  text : Text
  pos : Int
deriving DecidableEq

namespace ParseError

/-- A headline and the text that the error is about. -/
def headline (title : String) (text : Text) : Text :=
  title.toList ++ ": '".toList ++ text ++ ['\'']

def message (e : ParseError) : Text :=
  match e.cause with
  | .unexpectedToken => headline "Unexpected token" e.text
  | .unexpectedEnd => "Unexpected end of input".toList
  | .invalidNumber => headline "Invalid number" e.text
  | .invalidIdentifier => headline "Invalid identifier" e.text
  | .unmatchedParenthesis => "Unmatched parenthesis".toList
  | .unknownFunction => headline "Unknown function" e.text
  | .invalidVector => "Invalid vector literal".toList
  | .nestingTooDeep => "Expression nested too deeply".toList

/-- A one-line account of an error. -/
def describe (e : ParseError) : Text :=
  e.cause.errorName.toList ++ ['('] ++ e.text.quoted ++ ", pos=".toList ++ integerText e.pos ++
    [')']

end ParseError

/-- Why reading an expression fails: the text is malformed, or a numeral has too many digits to be
converted at all. -/
inductive ParseFailure where
  | malformed (error : ParseError)
  | numeralTooLong (digits : Nat)
deriving DecidableEq

end EffectLang
