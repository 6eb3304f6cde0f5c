import EffectLang.Toml.Value

/-! Tables under construction. A document may come back to a table in several places, but not to
every table: each one remembers how it came to be, and the operations refuse what that forbids. -/
namespace EffectLang.Toml

/-- How a table came to be: as a step on the way to another one, by a dotted key in the section of
the given number, or by a header of its own. -/
inductive Origin where
  | implied
  | dotted (part : Nat)
  | header
deriving DecidableEq

/-- What a key holds. A finished value, arrays and inline tables included, cannot be extended. In an
array of tables only the last one can. -/
inductive Node where
  | value (value : Value)
  | table (origin : Origin) (entries : List (Text × Node))
  | tables (earlier : List (List (Text × Node))) (last : List (Text × Node))

abbrev Entries := List (Text × Node)

namespace Entries

/-- Changes what a key holds, in its place, or adds the key at the end. -/
def alter (key : Text) (change : Option Node → Option Node) : Entries → Option Entries
  | [] => (change none).map fun node => [(key, node)]
  | (known, node) :: rest =>
    if known = key then (change (some node)).map fun node => (known, node) :: rest
    else (alter key change rest).map ((known, node) :: ·)

/-- Changes the entries of a table on the way of a header. -/
def throughHeader (change : Entries → Option Entries) : Option Node → Option Node
  | none => (change []).map (.table .implied)
  | some (.table origin entries) => (change entries).map (.table origin)
  | some (.tables earlier last) => (change last).map (.tables earlier)
  | some (.value _) => none

/-- Changes the entries of a table on the way of a dotted key. It has to be new, or implied, or made
by a dotted key of the same section. -/
def throughDotted (part : Nat) (change : Entries → Option Entries) : Option Node → Option Node
  | none => (change []).map (.table (.dotted part))
  | some (.table .implied entries) => (change entries).map (.table (.dotted part))
  | some (.table (.dotted known) entries) =>
    if known = part then (change entries).map (.table (.dotted part)) else none
  | _ => none

/-- Follows the path of a header. -/
def atHeader (change : Entries → Option Entries) : List Text → Entries → Option Entries
  | [], entries => change entries
  | key :: path, entries => alter key (throughHeader (atHeader change path)) entries

/-- Follows the path of a dotted key to its last part. -/
def atDotted (part : Nat) (change : Option Node → Option Node) :
    List Text → Entries → Option Entries
  | [], _ => none
  | [key], entries => alter key change entries
  | key :: path, entries => alter key (throughDotted part (atDotted part change path)) entries

/-- A header makes a table, or opens one that was implied. -/
def openTable : Option Node → Option Node
  | none => some (.table .header [])
  | some (.table .implied entries) => some (.table .header entries)
  | _ => none

/-- An array header makes an array of one table, or adds a table to the array. -/
def openTables : Option Node → Option Node
  | none => some (.tables [] [])
  | some (.tables earlier last) => some (.tables (earlier ++ [last]) [])
  | _ => none

/-- A value is given to a key once. -/
def give (value : Value) : Option Node → Option Node
  | none => some (.value value)
  | some _ => none

end Entries

namespace Node

mutual

/-- The finished value. -/
def toValue : Node → Value
  | value v => v
  | table _ entries => .table (entriesToValues entries)
  | tables earlier last => .array (tablesToValues earlier ++ [.table (entriesToValues last)])

def entriesToValues : List (Text × Node) → List (Text × Value)
  | [] => []
  | (key, node) :: rest => (key, node.toValue) :: entriesToValues rest

def tablesToValues : List (List (Text × Node)) → List Value
  | [] => []
  | entries :: rest => .table (entriesToValues entries) :: tablesToValues rest

end

end Node
end EffectLang.Toml
