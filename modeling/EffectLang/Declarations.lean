import EffectLang.Expr.Typing

/-! Declared names with their types, in the order of first declaration. A repeated name keeps its
place and takes the last type. -/
namespace EffectLang

abbrev TypeTable := List (Text × ResultType)

namespace TypeTable

/-- The declared type of a name. -/
def type? (table : TypeTable) (name : Text) : Option ResultType :=
  table.lookup name

/-- Declares a name, or declares it anew in its old place. -/
def declare : TypeTable → Text → ResultType → TypeTable
  | [], name, type => [(name, type)]
  | (known, old) :: rest, name, type =>
    if known = name then (known, type) :: rest else (known, old) :: declare rest name type

/-- The declarations of one table, and then those of another over them. -/
def override (table newer : TypeTable) : TypeTable :=
  newer.foldl (fun table (name, type) => table.declare name type) table

def names (table : TypeTable) : List Text :=
  table.map Prod.fst

end TypeTable

/-- What an effect declares: its attributes and its properties. -/
structure Declarations where
  attributes : TypeTable
  properties : TypeTable

namespace Declarations

def empty : Declarations :=
  ⟨[], []⟩

/-- The declarations as a context for typing. -/
def context (d : Declarations) : TypeContext :=
  ⟨d.attributes.type?, d.properties.type?⟩

end Declarations
end EffectLang
