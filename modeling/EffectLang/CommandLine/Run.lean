import EffectLang.CommandLine.Command
import EffectLang.CommandLine.Surroundings
import EffectLang.Editor.Completion
import EffectLang.Editor.Highlight
import EffectLang.Expr.Parse
import EffectLang.Expr.Stack
import EffectLang.Terminal.Console
import EffectLang.Terminal.Frame

/-! What each command writes and how it ends, as a function of the files it can read, of the console
and of the room that the stack has for the levels of an expression. Tables and highlighted text are
those of a console that breaks no line. -/
namespace EffectLang.CommandLine
open Terminal

/-- How a command ends: its exit code, its output, and the name of a failure that no command
handles. -/
structure Outcome where
  exit : Nat
  output : Text
  failure : Option String
deriving DecidableEq

namespace Outcome

def done (output : Text) : Outcome :=
  ⟨0, output, none⟩

/-- The arguments are misused. -/
def usage : Outcome :=
  ⟨2, [], none⟩

/-- The command is given up. -/
def unhandled (failure : String) : Outcome :=
  ⟨1, [], some failure⟩

/-- The stack is used up. -/
def exhausted : Outcome :=
  .unhandled "RecursionError"

/-- The same end after more output. -/
def after (output : Text) (o : Outcome) : Outcome :=
  { o with output := output ++ o.output }

end Outcome

/-- The levels of an expression that the stack has room for when it is printed: a level takes three
calls, and there are a thousand less those of the command itself. -/
def stackRoom : Nat := 320

section
variable (console : Console) (room : Nat)

/-- A text on the console, with its brackets. -/
def consoleLine (start text : Text) : Text :=
  console.printLine (start ++ showMarkup (escapeMarkup text))

/-- How a command ends whose manifest does not load. -/
def LoadFailure.outcome : LoadFailure → Outcome
  | unreadable failure => .unhandled failure.name
  | unusable (.refused e) => ⟨1, consoleLine console "error: ".toList e.message, none⟩
  | unusable _ => .unhandled "ValueError"

/-! ## Commands -/

/-- The error, the source under it, and a mark under the place. -/
def parseErrorReport (source : Text) (e : ParseError) : Text :=
  consoleLine console ("error (".toList ++ e.cause.category.toList ++ "): ".toList) e.message ++
    consoleLine console [' ', ' '] source ++
    console.printLine (List.replicate (2 + e.pos.toNat) ' ' ++ ['^'])

/-- How a command ends whose expression cannot be read. -/
def parseFailureOutcome (source : Text) : ParseFailure → Outcome
  | .malformed e => ⟨1, parseErrorReport console source e, none⟩
  | .numeralTooLong _ => .unhandled "ValueError"

def runFormat (expression : Text) : Outcome :=
  match Expr.parse expression with
  | .error failure => parseFailureOutcome console expression failure
  | .ok e =>
    match e.textWithin room with
    | none => .exhausted
    | some text => .done (consoleLine console [] text)

/-- The last line of a check, and its exit code. -/
def typeReport : Option ResultType → Nat × Text
  | none => (2, "type: unknown (undeclared attribute or property)".toList)
  | some .error => (2, "type: error (operand types do not match)".toList)
  | some type => (0, "type: ".toList ++ type.spelling)

/-- Checks an expression under declarations. Inference takes one call for a level where printing
takes three. -/
def checkUnder (declared : Declarations) (expression : Text) : Outcome :=
  match Expr.parse expression with
  | .error failure => parseFailureOutcome console expression failure
  | .ok e =>
    match e.textWithin room with
    | none => .exhausted
    | some text =>
      match e.resultTypeWithin declared.context (3 * room) with
      | none => Outcome.exhausted.after (consoleLine console [] text)
      | some type =>
        let (exit, line) := typeReport type
        ⟨exit, consoleLine console [] text ++ console.printLine line, none⟩

def runCheck (s : Surroundings) (expression : Text) (manifest : Option Text)
    (attrs props : List Text) : Outcome :=
  match s.declarations manifest with
  | .error failure => failure.outcome console
  | .ok declared =>
    match declared.withEntries attrs props with
    | .error _ => .usage
    | .ok declared => checkUnder console room declared expression

def tokenColumns : List Column :=
  [⟨"Kind".toList, .left⟩, ⟨"Text".toList, .left⟩, ⟨"Span".toList, .right⟩]

def tokenRow (token : Token) : List Text :=
  [token.kind.name.toList, showMarkup (escapeMarkup token.text.quoted), token.spanText]

def runTokens (expression : Text) (whitespace : Bool) : Outcome :=
  let tokens := tokenize expression
  let shown := if whitespace then tokens else significant tokens
  .done (renderTable "Tokens".toList tokenColumns (shown.map tokenRow))

/-- The terminal codes of a highlight. Matched parentheses are reversed. -/
def highlightStyle (span : HighlightSpan) : String :=
  let style := match span.highlight with
    | .number => "36"
    | .string => "32"
    | .callee => "35"
    | .operator => "1"
    | .identifier => "34"
    | .builtIn => "33"
    | .punctuation => "2"
    | .error => "1;31"
  if span.isMatched then style ++ ";7" else style

/-- The pieces of a text that spans cut out of it, and the bare ones between them. The text begins
at the given offset. -/
def cutPieces (offset : Nat) (text : Text) : List HighlightSpan → List Piece
  | [] => [⟨none, text⟩]
  | span :: rest =>
    let before := span.start - offset
    let inside := span.stop - span.start
    ⟨none, text.take before⟩ :: ⟨some (highlightStyle span), (text.drop before).take inside⟩ ::
      cutPieces span.stop (text.drop (before + inside)) rest

def runHighlight (s : Surroundings) (expression : Text) (cursor : Option Int) : Outcome :=
  let tokens := tokenize expression
  let pair := (cursor.bind (matchingPair? tokens)).map fun (opening, closing) =>
    ((opening : Int), (closing : Int))
  .done (printPieces s.color (cutPieces 0 (sanitize expression) (highlightSpans pair tokens)))

/-- Attributes are those of the manifest, unless it has none. -/
def offeredAttributes (declared : Declarations) : Option (List Text) :=
  match declared.attributes.names with
  | [] => none
  | names => some names

/-- A completion as markup: label, kind and insertion between tabs. Its parts are escaped one by
one, so a bracket of the label and one of the insertion can still make a tag, but no second one. -/
def completionMarkup (item : Completion) : Text :=
  escapeMarkup item.label ++ ['\t'] ++ item.kind.name.toList ++ ['\t'] ++
    escapeMarkup item.insertion

/-- How the command ends at a line whose markup is refused. -/
def refusedMarkup : MarkupFailure → Outcome
  | .closesNothing => .unhandled "MarkupError"
  | .brokenColor => .unhandled "ValueError"

/-- A line for each completion, up to one whose markup is refused. -/
def listCompletions : List Completion → Outcome
  | [] => .done []
  | item :: rest =>
    let markup := completionMarkup item
    match markupFailure? markup with
    | some failure => refusedMarkup failure
    | none => (listCompletions rest).after (console.printLine (showMarkup markup))

def runComplete (s : Surroundings) (word : Text) (manifest : Option Text) : Outcome :=
  match s.declarations manifest with
  | .error failure => failure.outcome console
  | .ok declared =>
    listCompletions console
      (completions word (offeredAttributes declared) declared.properties.names)

def Command.run (s : Surroundings) : Command → Outcome
  | .format expression => runFormat console room expression
  | .check expression manifest attrs props =>
    runCheck console room s expression manifest attrs props
  | .tokens expression whitespace => runTokens expression whitespace
  | .highlight expression cursor => runHighlight s expression cursor
  | .complete word manifest => runComplete console s word manifest

/-- The paths of the manifests that running the arguments may read. -/
def manifestPaths (arguments : List Text) : List Text :=
  match Command.ofArguments? arguments with
  | some command => [command.manifest?.elim Surroundings.manifestName normalizePath]
  | none => []

/-- Runs the command that the arguments ask for. -/
def runOn (s : Surroundings) (arguments : List Text) : Outcome :=
  match Command.ofArguments? arguments with
  | some command => command.run console room s
  | none => .usage

end

/-- Runs the command that the arguments ask for on a console that breaks no line. -/
def run (s : Surroundings) (arguments : List Text) : Outcome :=
  runOn .unbroken stackRoom s arguments

end EffectLang.CommandLine
