import EffectLang.Toml.Scalar
import EffectLang.Toml.Table

/-! TOML documents: values, statements, and the table that a whole text denotes. Lines end with a
single newline character here. -/
namespace EffectLang.Toml

/-! ## Values -/

/-- The items of an array from its first one on, with the closing bracket. -/
def arrayItems (value : Reader Value) : Nat → Reader (List Value)
  | 0, _ => malformed
  | bound + 1, cs => do
    let (item, cs) ← value cs
    match ← skipBetween false cs with
    | ']' :: rest => return ([item], rest)
    | ',' :: rest =>
      match ← skipBetween false rest with
      | ']' :: rest => return ([item], rest)
      | rest => do
        let (items, rest) ← arrayItems value bound rest
        return (item :: items, rest)
    | _ => malformed

/-- An array; the opening bracket is already taken. -/
def array (value : Reader Value) : Reader Value := fun cs => do
  match ← skipBetween false cs with
  | ']' :: rest => return (.array [], rest)
  | cs => do
    let (items, rest) ← arrayItems value cs.length cs
    return (.array items, rest)

/-- A key, an equals sign and a value. -/
def pair (value : Reader Value) : Reader (List Text × Value) := fun cs => do
  let (path, cs) ← key cs
  match cs with
  | '=' :: rest => do
    let (value, rest) ← value (skipSpace rest)
    return ((path, value), rest)
  | _ => malformed

/-- Accepts a change, or refuses the document. -/
def accept : Option Entries → Except Failure Entries
  | some entries => .ok entries
  | none => malformed

/-- The pairs of an inline table from its first one on, with the closing brace. -/
def inlinePairs (value : Reader Value) : Nat → Entries → Reader Entries
  | 0, _, _ => malformed
  | bound + 1, entries, cs => do
    let ((path, found), cs) ← pair value cs
    let entries ← accept (entries.atDotted 0 (Entries.give found) path)
    match skipSpace cs with
    | '\x7d' :: rest => return (entries, rest)
    | ',' :: rest => inlinePairs value bound entries (skipSpace rest)
    | _ => malformed

/-- An inline table; the opening brace is already taken. -/
def inlineTable (value : Reader Value) : Reader Value := fun cs => do
  match skipSpace cs with
  | '\x7d' :: rest => return (.table [], rest)
  | cs => do
    let (entries, rest) ← inlinePairs value cs.length [] cs
    return (.table (Node.entriesToValues entries), rest)

/-- A value. The bound limits how deeply arrays and inline tables are nested. -/
def value : Nat → Reader Value
  | 0, _ => malformed
  | depth + 1, cs =>
    match cs with
    | '"' :: '"' :: '"' :: rest => do
      let (body, rest) ← multilineString '"' rest
      return (.text body, rest)
    | '"' :: rest => do
      let (body, rest) ← basicString rest
      return (.text body, rest)
    | '\'' :: '\'' :: '\'' :: rest => do
      let (body, rest) ← multilineString '\'' rest
      return (.text body, rest)
    | '\'' :: rest => do
      let (body, rest) ← literalString rest
      return (.text body, rest)
    | '[' :: rest => array (value depth) rest
    | '\x7b' :: rest => inlineTable (value depth) rest
    | _ => scalar cs

/-! ## Statements -/

/-- A document as far as it is read: its root table, the path of the current section and the
section's number. -/
structure State where
  root : Entries
  header : List Text
  part : Nat

def State.empty : State :=
  ⟨[], [], 0⟩

/-- Gives a value to a dotted key in the current section. -/
def State.give (s : State) (path : List Text) (value : Value) : Except Failure State := do
  let root ← accept (s.root.atHeader (Entries.atDotted s.part (Entries.give value) path) s.header)
  return { s with root }

/-- Opens a section at a path. -/
def State.enter (s : State) (opening : Option Node → Option Node) (path : List Text) :
    Except Failure State := do
  let root ← accept <|
    s.root.atHeader (Entries.alter (path.getLastD []) opening) path.dropLast
  return ⟨root, path, s.part + 1⟩

/-- A section's header; its opening bracket is already taken. -/
def header (s : State) : Reader State
  | '[' :: rest => do
    let (path, rest) ← key (skipSpace rest)
    let s ← s.enter Entries.openTables path
    match rest with
    | ']' :: ']' :: rest => return (s, rest)
    | _ => malformed
  | cs => do
    let (path, rest) ← key (skipSpace cs)
    let s ← s.enter Entries.openTable path
    match rest with
    | ']' :: rest => return (s, rest)
    | _ => malformed

def isKeyStart (c : Char) : Bool :=
  isBareKeyChar c || c = '"' || c = '\''

/-- One line's statement, if it has one. -/
def statement (s : State) : Reader State
  | '[' :: rest => do
    let (s, rest) ← header s rest
    return (s, skipSpace rest)
  | c :: rest =>
    if isKeyStart c then do
      let ((path, found), rest) ← pair (value (rest.length + 1)) (c :: rest)
      let s ← s.give path found
      return (s, skipSpace rest)
    else .ok (s, c :: rest)
  | [] => .ok (s, [])

/-- The statements from the current line on. A statement ends with its line. -/
def statements : Nat → State → Text → Except Failure State
  | 0, s, _ => .ok s
  | bound + 1, s, cs => do
    let (s, cs) ← statement s (skipSpace cs)
    match ← skipComment cs with
    | [] => return s
    | '\n' :: rest => statements bound s rest
    | _ => malformed

/-- Ends every line with a single newline character. -/
def normalizeNewlines : Text → Text
  | '\r' :: '\n' :: rest => '\n' :: normalizeNewlines rest
  | '\r' :: rest => '\n' :: normalizeNewlines rest
  | c :: rest => c :: normalizeNewlines rest
  | [] => []

/-- The root table of a document. -/
def parse (source : Text) : Except Failure (List (Text × Value)) := do
  let source := normalizeNewlines source
  let s ← statements (source.length + 1) State.empty source
  return Node.entriesToValues s.root

end EffectLang.Toml
