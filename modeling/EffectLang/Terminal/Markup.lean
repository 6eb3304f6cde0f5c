import EffectLang.Terminal.TagStyle

/-! Markup. It is the console library's, which is not part of the program; restated here is what its
documentation says of markup and of escaping it. Tags in square brackets style the text between them
and are not shown themselves. A backslash before a tag takes its meaning away, and escaping a text
puts one before each of its tags. A tag that begins with a slash closes an earlier one, and one with
nothing to close is an error. Emoji codes in the text between tags are replaced. Only what is shown
matters here, and whether the style can be read. -/
namespace EffectLang.Terminal

/-- The characters that can follow the bracket of a tag. -/
def isTagStart (c : Char) : Bool :=
  ('a' ≤ c && c ≤ 'z') || c = '#' || c = '/' || c = '@'

/-- Whether a text begins with a tag: the closing bracket comes before any further opening one. -/
def beginsWithTag : Text → Bool
  | '[' :: c :: rest =>
    isTagStart c && (rest.dropWhile fun d => d ≠ '[' && d ≠ ']').head? = some ']'
  | _ => false

/-- Puts backslashes before the tags in a text: one for the tag, and one for each backslash that
precedes it already. `run` counts those. -/
def escapeTags (run : Nat) : Text → Text
  | [] => []
  | c :: rest =>
    if beginsWithTag (c :: rest) then
      List.replicate (run + 1) '\\' ++ c :: escapeTags 0 rest
    else c :: escapeTags (if c = '\\' then run + 1 else 0) rest

/-- Whether a text ends in exactly one backslash. -/
def endsInBackslash (text : Text) : Bool :=
  match text.reverse with
  | '\\' :: '\\' :: _ => false
  | '\\' :: _ => true
  | _ => false

/-- Markup that shows the text with its brackets. A single backslash at the end is doubled, so that
it cannot escape what is put after it. -/
def escapeMarkup (text : Text) : Text :=
  let escaped := escapeTags 0 text
  if endsInBackslash escaped then escaped ++ ['\\'] else escaped

/-- A part of markup: text that is shown, or what stands between the brackets of a tag. -/
inductive MarkupPart where
  | text (shown : Text)
  | tag (body : Text)
deriving DecidableEq

/-- Where the reader of markup stands: in plain text, with what is read of it and the number of
backslashes just before; in an escaped tag; or in a tag that counts. Texts are kept reversed. -/
inductive MarkupState where
  | plain (read : Text) (run : Nat)
  | escapedTag (read : Text)
  | tag (read : Text)

/-- The parts of markup. -/
def markupParts : MarkupState → Text → List MarkupPart
  | .plain read _, [] => [.text read.reverse]
  | .escapedTag read, [] => [.text read.reverse]
  | .tag read, [] => [.tag read.reverse]
  | .plain read run, c :: rest =>
    if beginsWithTag (c :: rest) then
      .text (read.drop run).reverse :: .text (List.replicate (run / 2) '\\') ::
        markupParts (if run % 2 = 1 then .escapedTag [c] else .tag []) rest
    else markupParts (.plain (c :: read) (if c = '\\' then run + 1 else 0)) rest
  | .escapedTag read, c :: rest =>
    if c = ']' then .text (c :: read).reverse :: markupParts (.plain [] 0) rest
    else markupParts (.escapedTag (c :: read)) rest
  | .tag read, c :: rest =>
    if c = ']' then .tag read.reverse :: markupParts (.plain [] 0) rest
    else markupParts (.tag (c :: read)) rest

/-- A backslash before a bracket that begins no tag is dropped, too. -/
def dropBracketEscapes : Text → Text
  | '\\' :: '[' :: rest => '[' :: dropBracketEscapes rest
  | c :: rest => c :: dropBracketEscapes rest
  | [] => []

namespace MarkupPart

/-- What a part shows. -/
def render : MarkupPart → Text
  | text shown => replaceCodes (dropBracketEscapes shown)
  | tag _ => []

/-- The body of a tag. -/
def tag? : MarkupPart → Option Text
  | text _ => none
  | tag body => some body

end MarkupPart

/-- What markup shows. -/
def showMarkup (markup : Text) : Text :=
  (markupParts (.plain [] 0) markup).flatMap MarkupPart.render

/-- Why markup is refused. -/
inductive MarkupFailure where
  /-- A closing tag has nothing to close. -/
  | closesNothing
  /-- The style of a tag has a colour with a component that is no number. -/
  | brokenColor
deriving DecidableEq

/-- Why a tag with no other before it is refused. An equals sign ends the name of a tag; the name
of an opening tag counts in lower case, and its style is read from the name and what follows. -/
def tagFailure? (body : Text) : Option MarkupFailure :=
  match body.takeWhile (· ≠ '=') with
  | '/' :: name =>
    if meetsBrokenColor (styleWords name) then some .brokenColor else some .closesNothing
  | name =>
    let parameters := body.drop (name.length + 1)
    let words := styleWords (name.map lowerCase) ++ styleWords parameters
    if meetsBrokenColor words then some .brokenColor else none

/-- Why markup with one tag at most is refused. -/
def markupFailure? (markup : Text) : Option MarkupFailure :=
  ((markupParts (.plain [] 0) markup).findSome? MarkupPart.tag?).bind tagFailure?

end EffectLang.Terminal
