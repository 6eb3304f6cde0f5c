import EffectLang.Token.Mark
import EffectLang.Expr.Print
import EffectLang.Proofs.Grammar.Derivation
import EffectLang.Proofs.Token.Lexeme

/-!
# Significant tokens, one at a time

`lex start text` is what the reader is given for a text that starts at an offset where no name is
announced. It takes lexemes off the front of the text; the four tokens of a reference are taken
together, because the name between them is marked.
-/

namespace EffectLang
open Vocabulary (ofSpelling?)

/-! ## The kinds of words -/

theorem wordKind_callee (f : Callee) : wordKind f.spelling = .callee f := by
  cases f <;> rfl

theorem wordKind_builtIn (value : BuiltIn) : wordKind value.spelling = .builtIn value := by
  cases value <;> rfl

theorem isWord_callee (f : Callee) : Text.isWord f.spelling = true := by
  cases f <;> rfl

theorem isWord_builtIn (value : BuiltIn) : Text.isWord value.spelling = true := by
  cases value <;> rfl

/-- Every word is of a kind of words. -/
theorem isWord_wordKind (word : Text) : (wordKind word).isWord = true := by
  unfold wordKind
  split
  · rfl
  · split <;> rfl

/-- A unary operator other than negation is what a call of its name means. -/
theorem exists_callee_unary {op : UnaryOp} (h : op ≠ .neg) :
    ∃ f : Callee, f.spelling = op.spelling ∧ f.form = .unary op := by
  cases op with
  | abs => exact ⟨.abs, rfl, rfl⟩
  | norm => exact ⟨.norm, rfl, rfl⟩
  | sin => exact ⟨.sin, rfl, rfl⟩
  | cos => exact ⟨.cos, rfl, rfl⟩
  | neg => exact absurd rfl h
  | all => exact ⟨.all, rfl, rfl⟩
  | any => exact ⟨.any, rfl, rfl⟩

/-- A binary operator that is written as a call is what a call of its name means, unless it builds
a vector. -/
theorem exists_callee_binary {op : BinaryOp} (h : op.isCall = true) (h2 : op ≠ .vec2)
    (h3 : op ≠ .vec3) : ∃ f : Callee, f.spelling = op.spelling ∧ f.form = .binary op := by
  cases op with
  | dot => exact ⟨.dot, rfl, rfl⟩
  | cross => exact ⟨.cross, rfl, rfl⟩
  | min => exact ⟨.min, rfl, rfl⟩
  | max => exact ⟨.max, rfl, rfl⟩
  | vec2 => exact absurd rfl h2
  | vec3 => exact absurd rfl h3
  | _ => cases h

/-! ## Boundaries -/

/-- The text ends here, or a space, a comma or a closing parenthesis follows. -/
def Text.Boundary (text : Text) : Prop :=
  ∀ c ∈ text.head?, c = ' ' ∨ c = ',' ∨ c = ')'

namespace Text

theorem Boundary.nil : Boundary [] := by
  intro c hc
  cases hc

theorem Boundary.space (cs : Text) : Boundary (' ' :: cs) := by
  simp [Boundary]

theorem Boundary.comma (cs : Text) : Boundary (',' :: cs) := by
  simp [Boundary]

theorem Boundary.rightParen (cs : Text) : Boundary (')' :: cs) := by
  simp [Boundary]

/-- A class without these three characters stops at a boundary. -/
theorem Boundary.stops {p : Char → Bool} {text : Text} (h : text.Boundary)
    (hp : p ' ' = false ∧ p ',' = false ∧ p ')' = false) : text.Stops p := by
  intro c hc
  rcases h c hc with rfl | rfl | rfl
  · exact hp.1
  · exact hp.2.1
  · exact hp.2.2

end Text

/-! ## Lexemes off the front -/

/-- The significant tokens of a text that starts at the given offset. -/
def lex (start : Nat) (text : Text) : List Token :=
  significant (markFrom .nothing (scan start text))

@[simp] theorem lex_nil (start : Nat) : lex start [] = [] := by
  simp [lex, markFrom]

theorem significant_tokenize (source : Text) : significant (tokenize source) = lex 0 source := rfl

theorem significant_cons {t : Token} (h : t.isSignificant = true) (ts : List Token) :
    significant (t :: ts) = t :: significant ts := by
  simp [significant, h]

/-- Unless a name is announced, a significant token is kept as it is. -/
theorem markFrom_cons {announced : Announced} {t : Token} (ts : List Token)
    (h : t.isSignificant = true) (hname : ∀ kind, announced ≠ .name kind) :
    markFrom announced (t :: ts) = t :: markFrom (announced.after t.kind) ts := by
  rw [markFrom, if_pos h]
  intro kind hannounced
  exact absurd hannounced (hname kind)

/-- A token that is no word is kept even then. -/
theorem markFrom_cons_of_not_isWord {announced : Announced} {t : Token} (ts : List Token)
    (h : t.isSignificant = true) (hword : t.kind.isWord = false) :
    markFrom announced (t :: ts) = t :: markFrom (announced.after t.kind) ts := by
  rw [markFrom, if_pos h]
  intro kind _ hword'
  rw [hword] at hword'
  cases hword'

theorem nothing_ne_name (kind : TokenKind) : Announced.nothing ≠ .name kind := nofun

/-- A word where a name is announced is marked. -/
theorem markFrom_name {kind : TokenKind} {t : Token} (ts : List Token)
    (h : t.isSignificant = true) (hword : t.kind.isWord = true) :
    markFrom (.name kind) (t :: ts) = { t with kind } :: markFrom .nothing ts := by
  rw [markFrom, if_pos h]
  exact hword

/-- A token that announces nothing. -/
theorem Lexeme.lex_eq {kind : TokenKind} {text rest : Text} (h : Lexeme kind text rest)
    (hkind : kind ≠ .whitespace) (hafter : Announced.nothing.after kind = .nothing) (start : Nat) :
    lex start (text ++ rest) = ⟨kind, text, start⟩ :: lex (start + text.length) rest := by
  have hsignificant : Token.isSignificant ⟨kind, text, start⟩ = true := decide_eq_true hkind
  unfold lex
  rw [h.scan_eq, markFrom_cons _ hsignificant nothing_ne_name,
    significant_cons hsignificant, hafter]

theorem isSignificant_of_isWord {t : Token} (h : t.kind.isWord = true) :
    t.isSignificant = true := by
  refine decide_eq_true ?_
  intro hkind
  rw [hkind] at h
  cases h

/-- The token of a name in a reference: the word, or the name between quotes. -/
inductive Token.Names (token : Token) (name : Text) : Prop
  | word : name.isWord = true → token.kind.isWord = true → token.text = name → Names token name
  | quoted : token.kind = .string → token.text = '"' :: name ++ ['"'] → Names token name

/-- A name is a word or a string, so its token is of no other kind. -/
theorem Token.Names.kind_ne {token : Token} {name : Text} {kind : TokenKind}
    (h : token.Names name) (hword : kind.isWord = false) (hstring : kind ≠ .string) :
    token.kind ≠ kind := by
  rintro rfl
  cases h with
  | word _ htoken => exact absurd htoken (Bool.eq_false_iff.mp hword)
  | quoted htoken => exact hstring htoken

/-- Such a token stands for the name, unless there is none between the quotes. -/
theorem Token.Names.referenceName {token : Token} {name : Text} (h : token.Names name)
    (hne : name ≠ []) : token.ReferenceName name := by
  cases h with
  | word _ htoken htext =>
    rw [← htext]
    exact .word htoken
  | quoted hstring htext => exact .quoted hstring (by simp [htext]) hne

/-- The name of a reference between its parentheses: one token that stands for it. -/
theorem lex_name {kind : TokenKind} {name rest : Text} (hkind : kind.isWord = true)
    (hquote : '"' ∉ name) (hrest : rest.Stops Text.isWordChar) (start : Nat) :
    ∃ (token : Token) (stop : Nat), token.Names name ∧
      significant (markFrom (.name kind) (scan start (Expr.nameText name ++ rest))) =
        token :: lex stop rest := by
  unfold Expr.nameText
  split
  · next hword =>
    have hsignificant : Token.isSignificant ⟨kind, name, start⟩ = true :=
      isSignificant_of_isWord hkind
    refine ⟨⟨kind, name, start⟩, start + name.length, .word hword hkind rfl, ?_⟩
    rw [(Lexeme.word hword hrest).scan_eq, markFrom_name _
      (isSignificant_of_isWord (isWord_wordKind name)) (isWord_wordKind name),
      significant_cons hsignificant]
    rfl
  · refine ⟨⟨.string, '"' :: name ++ ['"'], start⟩, start + ('"' :: name ++ ['"']).length,
      .quoted rfl rfl, ?_⟩
    rw [(Lexeme.string hquote).scan_eq, markFrom_cons_of_not_isWord _ rfl rfl, significant_cons rfl]
    rfl

/-- The four tokens of a reference. -/
theorem lex_reference {f : Callee} {kind : TokenKind} {name : Text}
    (hf : Announced.nothing.after (.callee f) = .parenthesis kind) (hkind : kind.isWord = true)
    (hquote : '"' ∉ name) (start : Nat) (rest : Text) :
    ∃ (head opening token closing : Token) (stop : Nat),
      lex start (f.spelling ++ '(' :: (Expr.nameText name ++ ')' :: rest)) =
        head :: opening :: token :: closing :: lex stop rest ∧
      head.kind = .callee f ∧ opening.kind = .leftParen ∧ token.Names name ∧
      closing.kind = .rightParen := by
  have hparen : Text.Stops Text.isWordChar ('(' :: (Expr.nameText name ++ ')' :: rest)) :=
    Text.stops_cons.mpr (by decide)
  have hword := Lexeme.word (isWord_callee f) hparen
  rw [wordKind_callee] at hword
  obtain ⟨token, stop, htoken, hname⟩ := lex_name hkind hquote
    (Text.stops_cons.mpr (by decide) : Text.Stops Text.isWordChar (')' :: rest))
    (start + f.spelling.length + 1)
  refine ⟨⟨.callee f, f.spelling, start⟩, ⟨.leftParen, ['('], start + f.spelling.length⟩, token,
    ⟨.rightParen, [')'], stop⟩, stop + 1, ?_, rfl, rfl, htoken, rfl⟩
  have hopening : Lexeme .leftParen ['('] (Expr.nameText name ++ ')' :: rest) := .leftParen
  have hclosing : Lexeme .rightParen [')'] rest := .rightParen
  have hlex : lex start (f.spelling ++ '(' :: (Expr.nameText name ++ ')' :: rest)) =
      ⟨.callee f, f.spelling, start⟩ ::
        significant (markFrom (.parenthesis kind) (scan (start + f.spelling.length)
          (['('] ++ (Expr.nameText name ++ ')' :: rest)))) := by
    unfold lex
    rw [hword.scan_eq, markFrom_cons _ rfl nothing_ne_name, significant_cons rfl, hf]
    rfl
  rw [hlex, hopening.scan_eq, markFrom_cons_of_not_isWord _ rfl rfl, significant_cons rfl]
  -- now the name itself is announced, and after it nothing is
  refine congrArg _ (congrArg _ (hname.trans (congrArg _ ?_)))
  exact hclosing.lex_eq nofun rfl stop

theorem lex_space {rest : Text} (h : rest.Stops isSpace) (start : Nat) :
    lex start (' ' :: rest) = lex (start + 1) rest := by
  unfold lex
  rw [show ' ' :: rest = [' '] ++ rest from rfl, (Lexeme.space h).scan_eq]
  rfl

end EffectLang
