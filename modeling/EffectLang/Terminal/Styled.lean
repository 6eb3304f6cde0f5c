import EffectLang.Text.Width

/-! Styled text on a terminal: pieces of text, each with the codes of its style or bare. How the
console library, which is not part of the program, writes it is restated here from its
documentation. Control codes that would ring, erase or move are stripped, a tab becomes spaces up to
the next of the stops, which are eight cells apart, and a style is one sequence of codes before its
text and a reset after it. -/
namespace EffectLang.Terminal

/-- The characters that are never sent: bell, backspace, vertical tab, form feed, return. -/
def isDropped (c : Char) : Bool :=
  [0x07, 0x08, 0x0B, 0x0C, 0x0D].contains c.toNat

def sanitize (text : Text) : Text :=
  text.filter (!isDropped ·)

/-- A piece of text; no style, no codes. -/
structure Piece where
  style : Option String
  text : Text
deriving DecidableEq

/-- The spaces that a tab becomes after text of the given extent: one, and as many more as lead to
the next stop. Every stretch of text between tabs begins at a stop. -/
def tabSpaces (before : Text.Extent) : Nat :=
  1 + (8 - (before.advance ' ').cells % 8) % 8

/-- The pieces of one styled text, and the extent of what stands after the last stop. `before` is
what stands there when the text begins: characters are measured together with those of earlier
pieces. A newline stands alone and bare, and a piece ends after each tab. `read` is the current
piece so far, reversed. -/
def layoutPiece (style : Option String) (before : Text.Extent) (read : Text) :
    Text → List Piece × Text.Extent
  | [] => ([⟨style, read.reverse⟩], before)
  | c :: rest =>
    if c = '\n' then
      let (pieces, after) := layoutPiece style .empty [] rest
      (⟨style, read.reverse⟩ :: ⟨none, [c]⟩ :: pieces, after)
    else if c = '\t' then
      let spaces := List.replicate (tabSpaces before) ' '
      let (pieces, after) := layoutPiece style .empty [] rest
      (⟨style, (spaces ++ read).reverse⟩ :: pieces, after)
    else layoutPiece style (before.advance c) (c :: read) rest

/-- Lays out pieces one after the other; empty ones are dropped. -/
def layout (before : Text.Extent) : List Piece → List Piece
  | [] => []
  | piece :: rest =>
    let (pieces, after) := layoutPiece piece.style before [] piece.text
    pieces.filter (!·.text.isEmpty) ++ layout after rest

/-- The text of a piece, between the codes of its style if it has one. -/
def Piece.render (color : Bool) (piece : Piece) : Text :=
  match color, piece.style with
  | true, some style => "\x1b[".toList ++ style.toList ++ ['m'] ++ piece.text ++ "\x1b[0m".toList
  | _, _ => piece.text

/-- The pieces on the terminal, and the end of the line. -/
def printPieces (color : Bool) (pieces : List Piece) : Text :=
  (layout .empty pieces).flatMap (Piece.render color) ++ ['\n']

end EffectLang.Terminal
