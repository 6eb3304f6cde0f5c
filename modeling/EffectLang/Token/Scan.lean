import EffectLang.Text.Word
import EffectLang.Token.Basic

/-! Cutting a source text into tokens. Every character belongs to exactly one token: what fits no
rule becomes an error token, and white space is kept. The first character and what follows it
decide the kind and the extent of a token; the extent is always the longest that the kind allows.
-/
namespace EffectLang
open Vocabulary (ofSpelling?)

/-- White space between tokens. -/
def isSpace (c : Char) : Bool :=
  c = ' ' || c = '\t' || c = '\r' || c = '\n'

/-- The kind of a word: a callable name, a built-in value, or else an identifier. -/
def wordKind (word : Text) : TokenKind :=
  match ofSpelling? word with
  | some name => .callee name
  | none =>
    match ofSpelling? word with
    | some value => .builtIn value
    | none => .identifier

/-- A number that starts with a digit: digits, and possibly a point with or without digits. -/
def numeralExtent (cs : Text) : TokenKind × Nat :=
  let whole := cs.takeWhile Char.isDigit
  match cs.dropWhile Char.isDigit with
  | '.' :: fraction =>
    (.float, whole.length + 1 + (fraction.takeWhile Char.isDigit).length)
  | _ => (.integer, whole.length)

/-- A quoted string up to its closing quote. Without one the rest of the text is in error. -/
def stringExtent (cs : Text) : TokenKind × Nat :=
  if '"' ∈ cs then (.string, cs.idxOf '"' + 1) else (.error, cs.length)

/-- A sign: an operator of two characters, of one, punctuation, or an error. -/
def signExtent (c : Char) (cs : Text) : TokenKind × Nat :=
  match cs.head?.bind fun d => ofSpelling? [c, d] with
  | some op => (.operator op, 1)
  | none =>
    match ofSpelling? [c] with
    | some op => (.operator op, 0)
    | none =>
      if c = '(' then (.leftParen, 0)
      else if c = ')' then (.rightParen, 0)
      else if c = ',' then (.comma, 0)
      else if c = '.' then (.dot, 0)
      else (.error, 0)

/-- The kind of the token that starts with `c`, and how many of the characters after `c` it
takes. -/
def extent (c : Char) (cs : Text) : TokenKind × Nat :=
  if isSpace c then (.whitespace, (cs.takeWhile isSpace).length)
  else if c = '"' then stringExtent cs
  else if c.isDigit then numeralExtent cs
  else if c = '.' && cs.head?.any Char.isDigit then
    (.float, (cs.takeWhile Char.isDigit).length)
  else if Text.isWordStart c then
    let more := cs.takeWhile Text.isWordChar
    (wordKind (c :: more), more.length)
  else signExtent c cs

/-- The tokens of a text whose first character has the given offset. -/
def scan (start : Nat) : Text → List Token
  | [] => []
  | c :: cs =>
    let (kind, count) := extent c cs
    let token : Token := ⟨kind, c :: cs.take count, start⟩
    token :: scan token.stop (cs.drop count)
termination_by cs => cs.length
decreasing_by simp only [List.length_drop, List.length_cons]; omega

@[simp] theorem scan_nil (start : Nat) : scan start [] = [] := by
  rw [scan]

theorem scan_cons (start : Nat) (c : Char) (cs : Text) :
    scan start (c :: cs) =
      ⟨(extent c cs).1, c :: cs.take (extent c cs).2, start⟩ ::
        scan (start + (c :: cs.take (extent c cs).2).length) (cs.drop (extent c cs).2) := by
  rw [scan]; rfl

/-- The token texts, in order, make up the source. -/
theorem flatMap_text_scan (start : Nat) (source : Text) :
    (scan start source).flatMap Token.text = source := by
  fun_induction scan start source with
  | case1 => rfl
  | case2 start c cs kind count _ token ih =>
    simp only [List.flatMap_cons, ih, token, List.cons_append, List.take_append_drop]

end EffectLang
