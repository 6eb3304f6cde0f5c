/-! Text as the language sees it: a sequence of characters, so that an offset is an index and a
cut never falls inside a character. -/
namespace EffectLang

/-- A sequence of characters. Offsets into it count characters. -/
abbrev Text := List Char

namespace Text

/-- Joins the parts of a text with a separator between them. -/
def join (separator : Text) : List Text → Text
  | [] => []
  | [part] => part
  | part :: rest => part ++ separator ++ join separator rest

@[simp] theorem join_nil (separator : Text) : join separator [] = [] := rfl

@[simp] theorem join_singleton (separator part : Text) : join separator [part] = part := rfl

theorem join_cons_cons (separator p q : Text) (rest : List Text) :
    join separator (p :: q :: rest) = p ++ separator ++ join separator (q :: rest) := rfl

end Text
end EffectLang
