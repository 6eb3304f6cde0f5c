import EffectLang.Token.Scan

/-! Marking reference names: the word that follows `attr(` or `prop(` is the name of an attribute
or of a property, whatever it would be elsewhere. A callable name that is itself marked calls
nothing, so the word after it is left alone. -/
namespace EffectLang

/-- What the tokens read so far announce: nothing, an opening parenthesis, or a name. The kind is
that of the announced name. -/
inductive Announced where
  | nothing
  | parenthesis (kind : TokenKind)
  | name (kind : TokenKind)

namespace Announced

/-- What is announced after an unmarked significant token. -/
def after (announced : Announced) : TokenKind → Announced
  | .callee .attr => parenthesis .attributeName
  | .callee .prop => parenthesis .propertyName
  | .leftParen =>
    match announced with
    | parenthesis kind => name kind
    | _ => nothing
  | _ => nothing

end Announced

/-- Marks the names that the calls among the tokens announce. -/
def markFrom (announced : Announced) : List Token → List Token
  | [] => []
  | token :: rest =>
    if token.isSignificant then
      match announced, token.kind.isWord with
      | .name kind, true => { token with kind } :: markFrom .nothing rest
      | _, _ => token :: markFrom (announced.after token.kind) rest
    else token :: markFrom announced rest

def markReferences (tokens : List Token) : List Token :=
  markFrom .nothing tokens

/-- The tokens of a source text. -/
def tokenize (source : Text) : List Token :=
  markReferences (scan 0 source)

/-- Marking changes neither texts nor offsets. -/
theorem map_text_start_markFrom (announced : Announced) (tokens : List Token) :
    (markFrom announced tokens).map (fun t => (t.text, t.start)) =
      tokens.map fun t => (t.text, t.start) := by
  induction tokens generalizing announced with
  | nil => rfl
  | cons token rest ih =>
    simp only [markFrom]
    split
    · split <;> simp [ih]
    · simp [ih]

end EffectLang
