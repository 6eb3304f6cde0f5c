import EffectLang.Text.Basic

/-! Character classes given by tables of code points. -/
namespace EffectLang.Text

def isAscii (c : Char) : Bool :=
  c.toNat < 0x80

/-- Whether a character lies in one of the closed ranges of a table. -/
def inRanges (table : List (Nat × Nat)) (c : Char) : Bool :=
  table.any fun range => range.1 ≤ c.toNat && c.toNat ≤ range.2

end EffectLang.Text
