import EffectLang.Terminal.Markup
import EffectLang.Text.Width

/-! Tables with a frame. They are the console library's, which is not part of the program; restated
here is how it documents them by default: a title over the middle, a row of headings with heavy
lines around it, and rows with light ones. Every column is as wide as its widest cell, with a space
on either side. -/
namespace EffectLang.Terminal

inductive Alignment where
  | left | right
deriving DecidableEq

structure Column where
  heading : Text
  alignment : Alignment

/-- Fills a cell up to a width. -/
def Alignment.fill (alignment : Alignment) (width : Nat) (cell : Text) : Text :=
  let space := List.replicate (width - Text.width cell) ' '
  match alignment with
  | left => cell ++ space
  | right => space ++ cell

/-- The characters of a horizontal line: its ends, what it is made of, and its crossings. -/
structure Rule where
  start : Char
  line : Char
  crossing : Char
  stop : Char

def Rule.top : Rule := ⟨'┏', '━', '┳', '┓'⟩
def Rule.middle : Rule := ⟨'┡', '━', '╇', '┩'⟩
def Rule.bottom : Rule := ⟨'└', '─', '┴', '┘'⟩

/-- A horizontal line over columns of the given widths. -/
def Rule.render (rule : Rule) (widths : List Nat) : Text :=
  let lines := widths.map fun width => List.replicate (width + 2) rule.line
  [rule.start] ++ Text.join [rule.crossing] lines ++ [rule.stop, '\n']

/-- A row between vertical bars. -/
def renderRow (bar : Char) (columns : List Column) (widths : List Nat) (cells : List Text) : Text :=
  let filled := List.zipWith (fun (column, width) cell => column.alignment.fill width cell)
    (columns.zip widths) cells
  bar :: filled.flatMap (fun cell => [' '] ++ cell ++ [' ', bar]) ++ ['\n']

/-- The width of a column: that of its widest cell, the heading included. -/
def columnWidth (columns : List Column) (rows : List (List Text)) (index : Nat) : Nat :=
  (columns[index]?.map (·.heading) :: rows.map (·[index]?)).foldl
    (fun width cell => max width (cell.elim 0 Text.width)) 0

/-- A title over the middle of a table; an odd space goes to the right. -/
def renderTitle (title : Text) (width : Nat) : Text :=
  let space := width - Text.width title
  List.replicate (space / 2) ' ' ++ title ++ List.replicate (space - space / 2) ' ' ++ ['\n']

def renderTable (title : Text) (columns : List Column) (rows : List (List Text)) : Text :=
  let widths := (List.range columns.length).map (columnWidth columns rows)
  let total := widths.foldl (fun sum w => sum + w + 3) 1
  renderTitle title total ++ Rule.top.render widths ++
    renderRow '┃' columns widths (columns.map Column.heading) ++ Rule.middle.render widths ++
    rows.flatMap (renderRow '│' columns widths) ++ Rule.bottom.render widths

end EffectLang.Terminal
