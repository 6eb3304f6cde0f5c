import EffectLang.CommandLine.Run
import EffectLang.Declarations
import EffectLang.Editor.Completion
import EffectLang.Editor.Highlight
import EffectLang.Expr.Parse
import EffectLang.Expr.Print
import EffectLang.Expr.Typing
import EffectLang.Literal.Raw
import EffectLang.Main
import EffectLang.Manifest
import EffectLang.Proofs.Grammar.Derivation
import EffectLang.Proofs.Grammar.Soundness
import EffectLang.Proofs.Grammar.Completeness
import EffectLang.Proofs.Grammar.Unambiguous
import EffectLang.Proofs.Number.Nearest
import EffectLang.Proofs.Number.ReadBack
import EffectLang.Proofs.Number.LiteralText
import EffectLang.Proofs.Number.Value
import EffectLang.Proofs.Number.DoubleRounding
import EffectLang.Proofs.Number.SignificantDigits
import EffectLang.Proofs.Number.Shortest
import EffectLang.Proofs.Token.Lexeme
import EffectLang.Proofs.Token.Lexing
import EffectLang.Proofs.Print.Writing
import EffectLang.Proofs.Print.Spelling
import EffectLang.Proofs.Print.Normal
import EffectLang.Proofs.Print.Style
import EffectLang.Proofs.Print.Roundtrip
import EffectLang.Proofs.Print.Legible
import EffectLang.Proofs.Print.Image
import EffectLang.Proofs.Typing.Inference
import EffectLang.Proofs.Grammar.Foresight
import EffectLang.Proofs.Grammar.Viable
import EffectLang.Proofs.Token.Respelling
import EffectLang.Proofs.Grammar.Earliest
import EffectLang.Proofs.Grammar.Rejection
import EffectLang.Proofs.Token.Conversion
import EffectLang.Proofs.Grammar.Parts
import EffectLang.Proofs.Grammar.Correspondence
import EffectLang.Proofs.Grammar.Nesting
import EffectLang.Proofs.Token.Spacing
import EffectLang.Proofs.Token.Respacing
import EffectLang.Proofs.Print.Characters
import EffectLang.Proofs.Print.Parentheses
import EffectLang.Proofs.Token.FloatToken
import EffectLang.Proofs.Terminal.Markup
import EffectLang.Proofs.Terminal.Breaking
import EffectLang.Proofs.CommandLine.Format
import EffectLang.Proofs.Typing.Declared
import EffectLang.Proofs.Grammar.Folding
import EffectLang.Proofs.Editor.Pairing
import EffectLang.Proofs.Editor.Matching
import EffectLang.Proofs.Editor.Closing
import EffectLang.Proofs.Grammar.Location
import EffectLang.Proofs.Token.Marking
import EffectLang.Proofs.Token.Tiling
import EffectLang.Proofs.Grammar.Naming
import EffectLang.Proofs.Editor.Spans
import EffectLang.Proofs.Editor.Inserting
import EffectLang.Proofs.CommandLine.Declaring
import EffectLang.Proofs.CommandLine.Check
import EffectLang.Proofs.Grammar.Height
import EffectLang.Proofs.Number.Narrowing
import EffectLang.Proofs.Token.SingleWord
import EffectLang.Proofs.Grammar.Cursor
import EffectLang.Proofs.Grammar.Progress
