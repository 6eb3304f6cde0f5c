import EffectLang.Terminal.EmojiTable
import EffectLang.Text.Blank

/-! Emoji codes. They are the console library's, which is not part of the program; restated here is
what its documentation says of them. A name between colons is shown as the emoji it names, unless
that is switched off, which the program does nowhere. A name may end in `-text` or `-emoji` to
choose between the plain and the coloured form. A code that names nothing is left as it is. -/
namespace EffectLang.Terminal

/-- The names and glyphs of all emoji in turn. -/
def emojiWords : List Text :=
  emojiTable.flatMap fun row => Text.partsBetween (· = ' ') row.toList

/-- The glyph that follows a name. -/
def glyphIn? (name : Text) : List Text → Option Text
  | known :: glyph :: rest => if known = name then some glyph else glyphIn? name rest
  | _ => none

/-- The lower case of the letters of ASCII and Latin-1, and of the two signs that share a letter's
lower case. -/
def lowerCase (c : Char) : Char :=
  if c = '\u212A' then 'k'
  else if c = '\u212B' then 'å'
  else if 0xC0 ≤ c.toNat ∧ c.toNat ≤ 0xDE ∧ c.toNat ≠ 0xD7 then Char.ofNat (c.toNat + 0x20)
  else c.toLower

/-- The glyph of a name; case does not matter. -/
def glyph? (name : Text) : Option Text :=
  glyphIn? (name.map lowerCase) emojiWords

/-- A name without its form, and the selector of the form. -/
def splitForm (code : Text) : Text × Text :=
  if "-text".toList.isSuffixOf code then (code.take (code.length - 5), ['\uFE0E'])
  else if "-emoji".toList.isSuffixOf code then (code.take (code.length - 6), ['\uFE0F'])
  else (code, [])

/-- What is shown for the text between two colons. -/
def showCode (code : Text) : Text :=
  (glyph? (splitForm code).1).elim (':' :: code ++ [':']) (· ++ (splitForm code).2)

/-- Replaces the codes in a text. After a colon, `code` holds the characters since then in reverse;
a blank ends the attempt. -/
def replaceCodesFrom (code : Option Text) : Text → Text
  | [] => code.elim [] fun code => ':' :: code.reverse
  | c :: rest =>
    match code with
    | none => if c = ':' then replaceCodesFrom (some []) rest else c :: replaceCodesFrom none rest
    | some code =>
      if c = ':' then showCode code.reverse ++ replaceCodesFrom none rest
      else if Text.isBlank c then ':' :: code.reverse ++ c :: replaceCodesFrom none rest
      else replaceCodesFrom (some (c :: code)) rest

def replaceCodes (text : Text) : Text :=
  replaceCodesFrom none text

/-- A text without colons is shown as it is. -/
theorem replaceCodes_of_not_mem {text : Text} (h : ':' ∉ text) : replaceCodes text = text := by
  simp only [replaceCodes]
  induction text with
  | nil => rfl
  | cons c rest ih =>
    simp only [List.mem_cons, not_or] at h
    simp only [replaceCodesFrom, if_neg (Ne.symm h.1), ih h.2]

end EffectLang.Terminal
