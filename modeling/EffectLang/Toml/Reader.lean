import EffectLang.Text.Basic

/-! Readers of TOML text: white space, comments, strings and keys. A reader takes something off the
front of the text and returns what is left. -/
namespace EffectLang.Toml

/-- Why a document is refused: it is malformed, or an integer in it has too many digits to be
converted. -/
inductive Failure where
  | malformed
  | integerTooLong (digits : Nat)
deriving DecidableEq

/-- Takes a value off the front of a text. -/
abbrev Reader (α : Type) := Text → Except Failure (α × Text)

def malformed {α : Type} : Except Failure α :=
  .error .malformed

def isSpace (c : Char) : Bool :=
  c = ' ' || c = '\t'

def isSpaceOrNewline (c : Char) : Bool :=
  isSpace c || c = '\n'

/-- Control characters, the tab excepted, may stand neither in comments nor in strings. -/
def isControl (c : Char) : Bool :=
  (c.toNat < 0x20 && c ≠ '\t') || c.toNat = 0x7F

def skipSpace (cs : Text) : Text :=
  cs.dropWhile isSpace

/-- Skips a comment, if there is one, up to the end of its line. -/
def skipComment : Text → Except Failure Text
  | '#' :: rest =>
    if (rest.takeWhile (· ≠ '\n')).any isControl then malformed
    else .ok (rest.dropWhile (· ≠ '\n'))
  | cs => .ok cs

/-- Skips white space, newlines and comments between the items of an array. -/
def skipBetween (inComment : Bool) : Text → Except Failure Text
  | [] => .ok []
  | c :: rest =>
    if inComment then
      if c = '\n' then skipBetween false rest
      else if isControl c then malformed
      else skipBetween true rest
    else if isSpaceOrNewline c then skipBetween false rest
    else if c = '#' then skipBetween true rest
    else .ok (c :: rest)

/-! ## Strings -/

/-- The character of an escape of two characters. -/
def shortEscape? : Char → Option Char
  | 'b' => some '\x08'
  | 't' => some '\t'
  | 'n' => some '\n'
  | 'f' => some '\x0c'
  | 'r' => some '\r'
  | '"' => some '"'
  | '\\' => some '\\'
  | _ => none

def hexValue? (c : Char) : Option Nat :=
  if c.isDigit then some (c.toNat - 0x30)
  else if 'a' ≤ c ∧ c ≤ 'f' then some (c.toNat - 0x61 + 10)
  else if 'A' ≤ c ∧ c ≤ 'F' then some (c.toNat - 0x41 + 10)
  else none

/-- The character whose code point has the given hexadecimal digits. -/
def hexChar? (digits : Text) : Option Char := do
  let values ← digits.mapM hexValue?
  let code := values.foldl (fun n digit => 16 * n + digit) 0
  if h : code.isValidChar then some (Char.ofNatAux code h) else none

/-- A code point of `count` digits. -/
def codePoint (count : Nat) : Reader Text := fun cs =>
  if cs.length < count then malformed
  else
    match hexChar? (cs.take count) with
    | some c => .ok ([c], cs.drop count)
    | none => malformed

/-- A backslash at the end of a line removes the newline and all white space after it. -/
def continuation (cs : Text) : Except Failure Text :=
  match skipSpace cs with
  | '\n' :: rest => .ok (rest.dropWhile isSpaceOrNewline)
  | [] => .ok []
  | _ => malformed

/-- What stands for an escape; the backslash is already taken. -/
def escape (multiline : Bool) : Reader Text
  | 'u' :: rest => codePoint 4 rest
  | 'U' :: rest => codePoint 8 rest
  | c :: rest =>
    if multiline && isSpaceOrNewline c then do
      return ([], ← continuation (c :: rest))
    else
      match shortEscape? c with
      | some meant => .ok ([meant], rest)
      | none => malformed
  | [] => malformed

/-- The rest of a string in double quotes. The bound is the number of characters left. -/
def basicRest (multiline : Bool) : Nat → Reader Text
  | 0, _ => malformed
  | bound + 1, cs =>
    match cs with
    | [] => malformed
    | '"' :: rest =>
      if multiline then
        match rest with
        | '"' :: '"' :: rest => .ok ([], rest)
        | _ => do
          let (more, rest) ← basicRest multiline bound rest
          return ('"' :: more, rest)
      else .ok ([], rest)
    | '\\' :: rest => do
      let (meant, rest) ← escape multiline rest
      let (more, rest) ← basicRest multiline bound rest
      return (meant ++ more, rest)
    | c :: rest =>
      if isControl c && !(multiline && c = '\n') then malformed
      else do
        let (more, rest) ← basicRest multiline bound rest
        return (c :: more, rest)

/-- A string in double quotes on one line; the opening quote is already taken. -/
def basicString : Reader Text := fun cs =>
  basicRest false (cs.length + 1) cs

/-- A string in single quotes on one line; the opening quote is already taken. -/
def literalString : Reader Text := fun cs =>
  let body := cs.takeWhile (· ≠ '\'')
  match cs.dropWhile (· ≠ '\'') with
  | _ :: rest => if body.any isControl then malformed else .ok (body, rest)
  | [] => malformed

/-- The rest of a string between triple single quotes. -/
def multilineLiteralRest : Reader Text
  | '\'' :: '\'' :: '\'' :: rest => .ok ([], rest)
  | c :: rest =>
    if isControl c && c ≠ '\n' then malformed
    else do
      let (more, rest) ← multilineLiteralRest rest
      return (c :: more, rest)
  | [] => malformed

/-- Up to two more quotes directly after a closing triple belong to the string. -/
def extraQuotes (quote : Char) (body rest : Text) : Text × Text :=
  let extra := (rest.take 2).takeWhile (· = quote)
  (body ++ extra, rest.drop extra.length)

/-- A newline directly after an opening triple is not part of the string. -/
def dropNewline : Text → Text
  | '\n' :: rest => rest
  | cs => cs

/-- A string between triple quotes; the opening quotes are already taken. -/
def multilineString (quote : Char) : Reader Text := fun cs => do
  let cs := dropNewline cs
  let (body, rest) ←
    if quote = '"' then basicRest true (cs.length + 1) cs else multilineLiteralRest cs
  return extraQuotes quote body rest

/-! ## Keys -/

def isBareKeyChar (c : Char) : Bool :=
  c.isAlphanum || c = '-' || c = '_'

/-- One part of a key: bare or quoted. -/
def keyPart : Reader Text
  | '"' :: rest => basicString rest
  | '\'' :: rest => literalString rest
  | cs =>
    match cs.takeWhile isBareKeyChar with
    | [] => malformed
    | part => .ok (part, cs.dropWhile isBareKeyChar)

/-- The further parts of a dotted key, and the white space after it. -/
def keyRest : Nat → Reader (List Text)
  | 0, cs => .ok ([], cs)
  | bound + 1, cs =>
    match cs with
    | '.' :: rest => do
      let (part, rest) ← keyPart (skipSpace rest)
      let (more, rest) ← keyRest bound (skipSpace rest)
      return (part :: more, rest)
    | _ => .ok ([], cs)

/-- A key, as the path of its parts. -/
def key : Reader (List Text) := fun cs => do
  let (part, rest) ← keyPart cs
  let rest := skipSpace rest
  let (more, rest) ← keyRest rest.length rest
  return (part :: more, rest)

end EffectLang.Toml
