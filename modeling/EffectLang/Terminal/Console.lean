import EffectLang.Terminal.Styled

/-! Consoles. A text is laid out as styled text is, and each of its lines is broken where it is too
long. Where a line is broken is the console's own matter: nothing of it is restated, it is a
parameter, and theorems say what they rely on. -/
namespace EffectLang.Terminal

/-- A console: its number of columns, and the lines that it makes of one. -/
structure Console where
  columns : Nat
  breakLine : Text → List Text

namespace Console

/-- A console so wide that it breaks no line. -/
def unbroken : Console :=
  ⟨10000, fun line => [line]⟩

/-- A text on the console, without the end of its last line. -/
def showText (console : Console) (text : Text) : Text :=
  let laidOut := (layout .empty [⟨none, sanitize text⟩]).flatMap Piece.text
  Text.join ['\n'] ((laidOut.splitOn '\n').flatMap console.breakLine)

/-- A text on the console, and the end of the line. -/
def printLine (console : Console) (text : Text) : Text :=
  console.showText text ++ ['\n']

end Console
end EffectLang.Terminal
