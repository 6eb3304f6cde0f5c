import EffectLang.Number.Reading

/-! Arguments of a command line: options, which begin with a hyphen, and positional arguments. An
option has a long name and possibly a letter; letters can be joined, and a value follows its
option directly, after an equals sign, or as the next argument, whatever that is. -/
namespace EffectLang.CommandLine

/-- An option of a command. -/
structure OptionSpec where
  name : Text
  letter : Option Char
  takesValue : Bool

/-- An option as given; a flag has an empty value. -/
abbrev GivenOption := Text × Text

/-- The options and the positional arguments of a command, in order. -/
structure Arguments where
  options : List GivenOption
  positional : List Text

namespace Arguments

def addOption (given : GivenOption) (a : Arguments) : Arguments :=
  { a with options := given :: a.options }

def addOptions (given : List GivenOption) (a : Arguments) : Arguments :=
  { a with options := given ++ a.options }

def addPositional (argument : Text) (a : Arguments) : Arguments :=
  { a with positional := argument :: a.positional }

/-- The values of an option, in order. -/
def values (a : Arguments) (name : String) : List Text :=
  (a.options.filter (·.1 = name.toList)).map Prod.snd

/-- The value of an option that counts: the last one. -/
def value? (a : Arguments) (name : String) : Option Text :=
  (a.values name).getLast?

def has (a : Arguments) (name : String) : Bool :=
  (a.value? name).isSome

end Arguments

/-- Options that are read, and the name of one whose value is still to come. -/
abbrev ReadOptions := List GivenOption × Option Text

/-- A long option, with a value after an equals sign if there is one. -/
def readLong? (specs : List OptionSpec) (argument : Text) : Option ReadOptions := do
  let name := argument.takeWhile (· ≠ '=')
  let spec ← specs.find? (·.name = name)
  match spec.takesValue, argument.dropWhile (· ≠ '=') with
  | true, _ :: value => return ([(name, value)], none)
  | true, [] => return ([], some name)
  | false, [] => return ([(name, [])], none)
  | false, _ => none

/-- Joined letters. The first one that takes a value takes the rest of the argument. -/
def readLetters? (specs : List OptionSpec) : Text → Option ReadOptions
  | [] => some ([], none)
  | c :: rest => do
    let spec ← specs.find? (·.letter = some c)
    if spec.takesValue then
      if rest = [] then return ([], some spec.name) else return ([(spec.name, rest)], none)
    else
      let (options, pending) ← readLetters? specs rest
      return ((spec.name, []) :: options, pending)

/-- An argument that begins with a hyphen. -/
def readOption? (specs : List OptionSpec) (argument : Text) : Option ReadOptions :=
  match argument with
  | '-' :: '-' :: _ => readLong? specs argument
  | _ :: letters => readLetters? specs letters
  | [] => none

/-- Whether an argument is an option. A lone hyphen is none. -/
def isOption : Text → Bool
  | '-' :: _ :: _ => true
  | _ => false

/-- Reads all arguments, or fails on options that are unknown or lack a value. After a double
hyphen there are only positional arguments; when options do not mix with positional arguments,
the first of those has the same effect. -/
def readArguments? (specs : List OptionSpec) (mixed : Bool) (pending : Option Text) :
    List Text → Option Arguments
  | [] => if pending.isNone then some ⟨[], []⟩ else none
  | argument :: rest =>
    match pending with
    | some name => (readArguments? specs mixed none rest).map (.addOption (name, argument))
    | none =>
      if argument = ['-', '-'] then some ⟨[], rest⟩
      else if isOption argument then do
        let (options, pending) ← readOption? specs argument
        return (← readArguments? specs mixed pending rest).addOptions options
      else if mixed then (readArguments? specs mixed none rest).map (.addPositional argument)
      else some ⟨[], argument :: rest⟩

end EffectLang.CommandLine
