import EffectLang.Text.Printable

/-! Quoted text, as messages show it: between single quotes, or between double quotes when the
text holds a single quote and no double one. The delimiter, the backslash and the characters that
would not show are escaped. -/
namespace EffectLang.Text

/-- `count` hexadecimal digits of a code point. -/
def hexDigits (count code : Nat) : Text :=
  (Nat.toDigits 16 code).leftpad count '0'

/-- The shortest of the three numeric escapes that holds the code point. -/
def numericEscape (c : Char) : Text :=
  if c.toNat < 0x100 then '\\' :: 'x' :: hexDigits 2 c.toNat
  else if c.toNat < 0x10000 then '\\' :: 'u' :: hexDigits 4 c.toNat
  else '\\' :: 'U' :: hexDigits 8 c.toNat

/-- One character between the given delimiters. -/
def escape (delimiter c : Char) : Text :=
  if c = delimiter ∨ c = '\\' then ['\\', c]
  else if c = '\n' then ['\\', 'n']
  else if c = '\r' then ['\\', 'r']
  else if c = '\t' then ['\\', 't']
  else if isPrintable c then [c]
  else numericEscape c

/-- The delimiter that needs fewer escapes; single quotes unless they stand in the text and double
ones do not. -/
def delimiter (text : Text) : Char :=
  if '\'' ∈ text ∧ '"' ∉ text then '"' else '\''

def quoted (text : Text) : Text :=
  let mark := delimiter text
  mark :: text.flatMap (escape mark) ++ [mark]

theorem quoted_nil : quoted [] = ['\'', '\''] := rfl

end EffectLang.Text
