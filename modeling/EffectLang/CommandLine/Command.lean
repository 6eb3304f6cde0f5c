import EffectLang.CommandLine.Arguments

/-! The commands and how they are written. -/
namespace EffectLang.CommandLine

inductive Command where
  /-- Print the canonical text of an expression. -/
  | format (expression : Text)
  /-- Print the canonical text and the type. -/
  | check (expression : Text) (manifest : Option Text) (attrs props : List Text)
  /-- Print a table of the tokens. -/
  | tokens (expression : Text) (whitespace : Bool)
  /-- Print the expression in colours. -/
  | highlight (expression : Text) (cursor : Option Int)
  /-- Print the completions of a word. -/
  | complete (word : Text) (manifest : Option Text)

def flag (name : String) (letter : Option Char) : OptionSpec :=
  ⟨name.toList, letter, false⟩

def valued (name : String) (letter : Option Char) : OptionSpec :=
  ⟨name.toList, letter, true⟩

def manifestOption : OptionSpec :=
  valued "--manifest" (some 'm')

/-- The options before the name of the command. -/
def commonOptions : List OptionSpec :=
  [flag "--verbose" (some 'v')]

/-- The one argument that a command has to have. -/
def single? : List Text → Option Text
  | [argument] => some argument
  | _ => none

namespace Command

def ofFormat? (arguments : List Text) : Option Command := do
  let a ← readArguments? [] true none arguments
  return .format (← single? a.positional)

def ofCheck? (arguments : List Text) : Option Command := do
  let specs := [manifestOption, valued "--attr" none, valued "--prop" none]
  let a ← readArguments? specs true none arguments
  return .check (← single? a.positional) (a.value? "--manifest") (a.values "--attr")
    (a.values "--prop")

def ofTokens? (arguments : List Text) : Option Command := do
  let a ← readArguments? [flag "--whitespace" none] true none arguments
  return .tokens (← single? a.positional) (a.has "--whitespace")

def ofHighlight? (arguments : List Text) : Option Command := do
  let a ← readArguments? [valued "--cursor" (some 'c')] true none arguments
  let expression ← single? a.positional
  match a.value? "--cursor" with
  | none => return .highlight expression none
  | some cursor => return .highlight expression (some (← integerOfText? cursor))

def ofComplete? (arguments : List Text) : Option Command := do
  let a ← readArguments? [manifestOption] true none arguments
  let word ← if a.positional = [] then some [] else single? a.positional
  return .complete word (a.value? "--manifest")

/-- The command that the arguments ask for, or none when they are misused. -/
def ofArguments? (arguments : List Text) : Option Command := do
  let a ← readArguments? commonOptions false none arguments
  match a.positional with
  | [] => none
  | name :: arguments =>
    if name = "fmt".toList then ofFormat? arguments
    else if name = "check".toList then ofCheck? arguments
    else if name = "tokens".toList then ofTokens? arguments
    else if name = "highlight".toList then ofHighlight? arguments
    else if name = "complete".toList then ofComplete? arguments
    else none

/-- The manifest that a command names. -/
def manifest? : Command → Option Text
  | check _ manifest _ _ | complete _ manifest => manifest
  | _ => none

end Command

/-- How the commands are written. -/
def usageText : String :=
  "Usage: [--verbose] fmt EXPRESSION\n" ++
  "       [--verbose] check EXPRESSION [--manifest FILE] [--attr NAME=TYPE]...\n" ++
  "             [--prop NAME=TYPE]...\n" ++
  "       [--verbose] tokens EXPRESSION [--whitespace]\n" ++
  "       [--verbose] highlight EXPRESSION [--cursor OFFSET]\n" ++
  "       [--verbose] complete [WORD] [--manifest FILE]"

end EffectLang.CommandLine
