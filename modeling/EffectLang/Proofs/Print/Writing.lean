import EffectLang.Proofs.Grammar.Unambiguous
import EffectLang.Proofs.Token.Lexing

/-!
# Texts and their tokens

`Writes p text` says that `text`, where a boundary follows it, is cut into tokens with the property
`p`. There is one law for each way in which the printer puts a text together, for any properties of
its parts.
-/

namespace EffectLang

/-! ## Cutting a text -/

/-- Tokens with the given property are cut off the front of `before`, and `after` is left. -/
def Cuts (p : List Token → Prop) (before after : Text) : Prop :=
  ∀ start, ∃ ts stop, lex start before = ts ++ lex stop after ∧ p ts ∧ ∀ t ∈ ts, t.Convertible

namespace Cuts
variable {p q : List Token → Prop} {a b c : Text}

theorem imp (h : Cuts p a b) (hpq : ∀ ts, p ts → q ts) : Cuts q a b := by
  intro start
  obtain ⟨ts, stop, hlex, hp, hts⟩ := h start
  exact ⟨ts, stop, hlex, hpq ts hp, hts⟩

theorem append (h : Cuts p a b) (h' : Cuts q b c) :
    Cuts (fun ts => ∃ xs ys, ts = xs ++ ys ∧ p xs ∧ q ys) a c := by
  intro start
  obtain ⟨xs, middle, hlex, hp, hxs⟩ := h start
  obtain ⟨ys, stop, hlex', hq, hys⟩ := h' middle
  refine ⟨xs ++ ys, stop, ?_, ⟨xs, ys, rfl, hp, hq⟩, ?_⟩
  · rw [hlex, hlex', List.append_assoc]
  · exact List.forall_mem_append.mpr ⟨hxs, hys⟩

end Cuts

/-- A single token of the given kind. -/
def IsToken (kind : TokenKind) (ts : List Token) : Prop :=
  ∃ token, ts = [token] ∧ token.kind = kind

theorem convertible_of_kind {t : Token} (h : t.kind ≠ .integer) : t.Convertible :=
  fun hkind => absurd hkind h

/-- A lexeme that announces nothing is cut off as one token. -/
theorem Lexeme.cuts {kind : TokenKind} {text rest : Text} (h : Lexeme kind text rest)
    (hkind : kind ≠ .whitespace ∧ kind ≠ .integer)
    (hafter : Announced.nothing.after kind = .nothing) :
    Cuts (IsToken kind) (text ++ rest) rest := by
  intro start
  refine ⟨[⟨kind, text, start⟩], start + text.length, h.lex_eq hkind.1 hafter start,
    ⟨_, rfl, rfl⟩, ?_⟩
  simpa using convertible_of_kind (t := ⟨kind, text, start⟩) hkind.2

theorem cuts_leftParen (rest : Text) : Cuts (IsToken .leftParen) ('(' :: rest) rest :=
  Lexeme.leftParen.cuts (by decide) rfl

theorem cuts_rightParen (rest : Text) : Cuts (IsToken .rightParen) (')' :: rest) rest :=
  Lexeme.rightParen.cuts (by decide) rfl

theorem cuts_minus (rest : Text) : Cuts (IsToken (.operator .sub)) ('-' :: rest) rest :=
  Lexeme.minus.cuts (by decide) rfl

theorem cuts_space {rest : Text} (h : rest.Stops isSpace) :
    Cuts (· = []) (' ' :: rest) rest := by
  intro start
  exact ⟨[], start + 1, lex_space h start, rfl, by simp⟩

/-- The comma between two arguments, and the space after it. -/
theorem cuts_comma {rest : Text} (h : rest.Stops isSpace) :
    Cuts (IsToken .comma) (',' :: ' ' :: rest) rest := by
  have hcomma : Cuts (IsToken .comma) ([','] ++ ' ' :: rest) (' ' :: rest) :=
    Lexeme.comma.cuts (by decide) rfl
  refine (hcomma.append (cuts_space h)).imp ?_
  rintro _ ⟨xs, _, rfl, hxs, rfl⟩
  rwa [List.append_nil]

/-- An operator between spaces. -/
theorem cuts_operator {op : BinaryOp} {rest : Text} (hop : op.isCall = false)
    (h : rest.Stops isSpace) :
    Cuts (IsToken (.operator op)) (' ' :: (op.spelling ++ ' ' :: rest)) rest := by
  have hspace : Text.Stops isSpace (op.spelling ++ ' ' :: rest) := by
    cases op <;> exact Text.stops_cons.mpr (by decide)
  have hsign : Cuts (IsToken (.operator op)) (op.spelling ++ ' ' :: rest) (' ' :: rest) :=
    (Lexeme.operator hop).cuts ⟨nofun, nofun⟩ rfl
  refine ((cuts_space hspace).append (hsign.append (cuts_space h))).imp ?_
  rintro _ ⟨_, _, rfl, rfl, xs, _, rfl, hxs, rfl⟩
  rwa [List.nil_append, List.append_nil]

/-- Only the callable names of references announce anything. -/
theorem after_callee {f : Callee} (hattr : f.form ≠ .attr) (hprop : f.form ≠ .prop) :
    Announced.nothing.after (.callee f) = .nothing := by
  cases f <;> first | rfl | exact absurd rfl hattr | exact absurd rfl hprop

/-- The name and the opening parenthesis of a call, other than that of a reference. -/
theorem cuts_callee (f : Callee) (rest : Text)
    (hf : Announced.nothing.after (.callee f) = .nothing) :
    Cuts (fun ts => ∃ head opening, ts = [head, opening] ∧ head.kind = .callee f ∧
      opening.kind = .leftParen) (f.spelling ++ '(' :: rest) rest := by
  have hparen : Text.Stops Text.isWordChar ('(' :: rest) := Text.stops_cons.mpr (by decide)
  have hword := Lexeme.word (isWord_callee f) hparen
  rw [wordKind_callee] at hword
  have hcallee := hword.cuts ⟨nofun, nofun⟩ hf
  refine (hcallee.append (cuts_leftParen rest)).imp ?_
  rintro _ ⟨_, _, rfl, ⟨head, rfl, hhead⟩, opening, rfl, hopening⟩
  exact ⟨head, opening, rfl, hhead, hopening⟩

/-! ## First characters -/

theorem exists_first_append {text : Text} (h : ∃ c ∈ text.head?, isSpace c = false)
    (rest : Text) : ∃ c ∈ (text ++ rest).head?, isSpace c = false := by
  obtain ⟨c, hc, hspace⟩ := h
  cases text with
  | nil => cases hc
  | cons c' cs => exact ⟨c, hc, hspace⟩

theorem exists_first_of_isWord {word : Text} (h : word.isWord = true) :
    ∃ c ∈ word.head?, isSpace c = false := by
  cases word with
  | nil => cases h
  | cons c cs =>
    simp only [Text.isWord, Bool.and_eq_true] at h
    exact ⟨c, rfl, (isWordStart_excludes h.1).1⟩

theorem exists_first_of_isDigits {digits : Text} (h : digits.IsDigits) :
    ∃ c ∈ digits.head?, isSpace c = false := by
  cases digits with
  | nil => exact absurd rfl h.ne_nil
  | cons c cs => exact ⟨c, rfl, (isDigit_excludes (h.isDigit c List.mem_cons_self)).1⟩

theorem exists_first_call (f : Callee) (arguments : List Text) :
    ∃ c ∈ (callText f.spelling arguments).head?, isSpace c = false := by
  simp only [callText, List.append_assoc]
  exact exists_first_append (exists_first_of_isWord (isWord_callee f)) _

/-! ## Written tokens -/

/-- The text, where a boundary follows it, is cut into tokens with the given property. It does not
begin with a space. -/
structure Writes (p : List Token → Prop) (text : Text) : Prop where
  first : ∃ c ∈ text.head?, isSpace c = false
  cuts : ∀ rest, rest.Boundary → Cuts p (text ++ rest) rest

namespace Writes
variable {p q r : List Token → Prop} {text tx ty tz : Text}

theorem imp (h : Writes p text) (hpq : ∀ ts, p ts → q ts) : Writes q text where
  first := h.first
  cuts rest hrest := (h.cuts rest hrest).imp hpq

theorem stops (h : Writes p text) (rest : Text) : (text ++ rest).Stops isSpace := by
  obtain ⟨c, hc, hspace⟩ := h.first
  cases text with
  | nil => cases hc
  | cons c' cs =>
    obtain rfl := Option.some.inj hc
    exact Text.stops_cons.mpr hspace

/-- Tokens around an operator. -/
theorem between {op : BinaryOp} (hop : op.isCall = false) (hx : Writes p tx) (hy : Writes q ty) :
    Writes (fun ts => ∃ (xs ys : List Token) (sign : Token), ts = xs ++ sign :: ys ∧ p xs ∧
      sign.kind = .operator op ∧ q ys) (tx ++ [' '] ++ op.spelling ++ [' '] ++ ty) where
  first := by
    simp only [List.append_assoc]
    exact exists_first_append hx.first _
  cuts rest hrest := by
    have hleft := hx.cuts _ (.space (op.spelling ++ ' ' :: (ty ++ rest)))
    have hsign := cuts_operator hop (hy.stops rest)
    simp only [List.append_assoc, List.cons_append, List.nil_append]
    refine (hleft.append (hsign.append (hy.cuts rest hrest))).imp ?_
    rintro _ ⟨xs, _, rfl, hxs, _, ys, rfl, ⟨sign, rfl, hkind⟩, hys⟩
    exact ⟨xs, ys, sign, rfl, hxs, hkind, hys⟩

/-- Tokens and the parenthesis that closes a group or a call after them. -/
theorem closed (h : Writes p text) (rest : Text) :
    Cuts (fun ts => ∃ (xs : List Token) (closing : Token), ts = xs ++ [closing] ∧ p xs ∧
      closing.kind = .rightParen) (text ++ ')' :: rest) rest := by
  have hinner := h.cuts _ (.rightParen rest)
  refine (hinner.append (cuts_rightParen rest)).imp ?_
  rintro _ ⟨xs, _, rfl, hxs, closing, rfl, hclose⟩
  exact ⟨xs, closing, rfl, hxs, hclose⟩

theorem group (h : Writes p text) :
    Writes (fun ts => ∃ (xs : List Token) (opening closing : Token),
      ts = opening :: (xs ++ [closing]) ∧ opening.kind = .leftParen ∧ p xs ∧
      closing.kind = .rightParen) ('(' :: text ++ [')']) where
  first := ⟨'(', rfl, by decide⟩
  cuts rest hrest := by
    simp only [List.append_assoc, List.cons_append, List.nil_append]
    refine ((cuts_leftParen _).append (h.closed rest)).imp ?_
    rintro _ ⟨_, _, rfl, ⟨opening, rfl, hopen⟩, xs, closing, rfl, hxs, hclose⟩
    exact ⟨xs, opening, closing, rfl, hopen, hxs, hclose⟩

theorem negation (h : Writes p text) :
    Writes (fun ts => ∃ (xs : List Token) (sign : Token), ts = sign :: xs ∧
      sign.kind = .operator .sub ∧ p xs) ('-' :: text) where
  first := ⟨'-', rfl, by decide⟩
  cuts rest hrest := by
    refine ((cuts_minus _).append (h.cuts rest hrest)).imp ?_
    rintro _ ⟨_, xs, rfl, ⟨sign, rfl, hkind⟩, hxs⟩
    exact ⟨xs, sign, rfl, hkind, hxs⟩

/-- One token that announces nothing. -/
theorem token (kind : TokenKind) (hfirst : ∃ c ∈ text.head?, isSpace c = false)
    (hlexeme : ∀ rest, rest.Boundary → Lexeme kind text rest)
    (hafter : Announced.nothing.after kind = .nothing) (hkind : kind ≠ .whitespace)
    (hlimit : kind = .integer → text.length ≤ numeralDigitLimit) :
    Writes (fun ts => ∃ start, ts = [⟨kind, text, start⟩]) text where
  first := hfirst
  cuts rest hrest start := by
    refine ⟨[⟨kind, text, start⟩], start + text.length,
      (hlexeme rest hrest).lex_eq hkind hafter start, ⟨start, rfl⟩, ?_⟩
    intro t ht
    obtain rfl := List.mem_singleton.mp ht
    exact hlimit

/-- A numeral without a point. -/
theorem integer {digits : Text} (h : digits.IsDigits) (hlimit : digits.length ≤ numeralDigitLimit) :
    Writes (fun ts => ∃ start, ts = [⟨.integer, digits, start⟩]) digits := by
  refine token .integer (exists_first_of_isDigits h) (fun rest hrest => ?_) rfl nofun
    fun _ => hlimit
  exact .integer h (hrest.stops (by decide)) (hrest.stops (by decide))

/-- A numeral with digits around a point. -/
theorem float {whole fraction : Text} (h : whole.IsDigits) (hfraction : fraction.IsDigits) :
    Writes (fun ts => ∃ start, ts = [⟨.float, whole ++ '.' :: fraction, start⟩])
      (whole ++ '.' :: fraction) := by
  refine token .float (exists_first_append (exists_first_of_isDigits h) _) (fun rest hrest => ?_)
    rfl nofun nofun
  exact .float h hfraction (hrest.stops (by decide))

theorem builtIn (value : BuiltIn) :
    Writes (fun ts => ∃ start, ts = [⟨.builtIn value, value.spelling, start⟩])
      value.spelling := by
  have hword := isWord_builtIn value
  refine token (.builtIn value) (exists_first_of_isWord hword) (fun rest hrest => ?_) rfl nofun
    nofun
  rw [← wordKind_builtIn]
  exact .word hword (hrest.stops (by decide))

/-- A reference by a callable name. -/
theorem reference {f : Callee} {kind : TokenKind} {name : Text}
    (hf : Announced.nothing.after (.callee f) = .parenthesis kind) (hkind : kind.isWord = true)
    (hquote : '"' ∉ name) :
    Writes (fun ts => ∃ head opening token closing : Token, ts = [head, opening, token, closing] ∧
      head.kind = .callee f ∧ opening.kind = .leftParen ∧ token.Names name ∧
      closing.kind = .rightParen) (callText f.spelling [Expr.nameText name]) where
  first := exists_first_call f _
  cuts rest hrest start := by
    obtain ⟨head, opening, token, closing, stop, hlex, hhead, hopening, htoken, hclosing⟩ :=
      lex_reference hf hkind hquote start rest
    refine ⟨[head, opening, token, closing], stop, ?_,
      ⟨head, opening, token, closing, rfl, hhead, hopening, htoken, hclosing⟩, ?_⟩
    · simpa [callText, List.append_assoc] using hlex
    · simp only [List.forall_mem_cons]
      exact ⟨convertible_of_kind (by simp [hhead]), convertible_of_kind (by simp [hopening]),
        convertible_of_kind (htoken.kind_ne rfl nofun), convertible_of_kind (by simp [hclosing]),
        nofun⟩

/-- An argument and the comma after it, up to the next argument. -/
theorem argument (h : Writes p text) {rest : Text} (hrest : rest.Stops isSpace) :
    Cuts (fun ts => ∃ (xs : List Token) (comma : Token), ts = xs ++ [comma] ∧ p xs ∧
      comma.kind = .comma) (text ++ ',' :: ' ' :: rest) rest := by
  have hargument := h.cuts _ (.comma (' ' :: rest))
  refine (hargument.append (cuts_comma hrest)).imp ?_
  rintro _ ⟨xs, _, rfl, hxs, comma, rfl, hcomma⟩
  exact ⟨xs, comma, rfl, hxs, hcomma⟩

section Calls
variable {f : Callee} (hf : Announced.nothing.after (.callee f) = .nothing)
include hf

theorem callOfOne (hx : Writes p tx) :
    Writes (fun ts => ∃ (xs : List Token) (head opening closing : Token),
      ts = head :: opening :: (xs ++ [closing]) ∧ head.kind = .callee f ∧
      opening.kind = .leftParen ∧ p xs ∧ closing.kind = .rightParen)
      (callText f.spelling [tx]) where
  first := exists_first_call f _
  cuts rest hrest := by
    have hhead := cuts_callee f (tx ++ ')' :: rest) hf
    simp only [callText, Text.join_singleton, List.append_assoc, List.cons_append,
      List.nil_append]
    refine (hhead.append (hx.closed rest)).imp ?_
    rintro _ ⟨_, _, rfl, ⟨head, opening, rfl, hhead, hopen⟩, xs, closing, rfl, hxs, hclose⟩
    exact ⟨xs, head, opening, closing, rfl, hhead, hopen, hxs, hclose⟩

theorem callOfTwo (hx : Writes p tx) (hy : Writes q ty) :
    Writes (fun ts => ∃ (xs ys : List Token) (head opening comma closing : Token),
      ts = head :: opening :: (xs ++ comma :: (ys ++ [closing])) ∧ head.kind = .callee f ∧
      opening.kind = .leftParen ∧ p xs ∧ comma.kind = .comma ∧ q ys ∧ closing.kind = .rightParen)
      (callText f.spelling [tx, ty]) where
  first := exists_first_call f _
  cuts rest hrest := by
    have hhead := cuts_callee f (tx ++ ',' :: ' ' :: (ty ++ ')' :: rest)) hf
    have hfirst := hx.argument (hy.stops (')' :: rest))
    simp only [callText, Text.join_cons_cons, Text.join_singleton, List.append_assoc,
      List.cons_append, List.nil_append]
    refine (hhead.append (hfirst.append (hy.closed rest))).imp ?_
    rintro _ ⟨_, _, rfl, ⟨head, opening, rfl, hhead, hopen⟩, _, _, rfl,
      ⟨xs, comma, rfl, hxs, hcomma⟩, ys, closing, rfl, hys, hclose⟩
    exact ⟨xs, ys, head, opening, comma, closing, by simp, hhead, hopen, hxs, hcomma, hys, hclose⟩

theorem callOfThree (hx : Writes p tx) (hy : Writes q ty) (hz : Writes r tz) :
    Writes (fun ts => ∃ (xs ys zs : List Token) (head opening comma comma' closing : Token),
      ts = head :: opening :: (xs ++ comma :: (ys ++ comma' :: (zs ++ [closing]))) ∧
      head.kind = .callee f ∧ opening.kind = .leftParen ∧ p xs ∧ comma.kind = .comma ∧ q ys ∧
      comma'.kind = .comma ∧ r zs ∧ closing.kind = .rightParen)
      (callText f.spelling [tx, ty, tz]) where
  first := exists_first_call f _
  cuts rest hrest := by
    have hhead := cuts_callee f
      (tx ++ ',' :: ' ' :: (ty ++ ',' :: ' ' :: (tz ++ ')' :: rest))) hf
    have hfirst := hx.argument (hy.stops (',' :: ' ' :: (tz ++ ')' :: rest)))
    have hsecond := hy.argument (hz.stops (')' :: rest))
    simp only [callText, Text.join_cons_cons, Text.join_singleton, List.append_assoc,
      List.cons_append, List.nil_append]
    refine (hhead.append (hfirst.append (hsecond.append (hz.closed rest)))).imp ?_
    rintro _ ⟨_, _, rfl, ⟨head, opening, rfl, hhead, hopen⟩, _, _, rfl,
      ⟨xs, comma, rfl, hxs, hcomma⟩, _, _, rfl, ⟨ys, comma', rfl, hys, hcomma'⟩, zs, closing, rfl,
      hzs, hclose⟩
    exact ⟨xs, ys, zs, head, opening, comma, comma', closing, by simp, hhead, hopen, hxs, hcomma,
      hys, hcomma', hzs, hclose⟩

end Calls

/-- The tokens of a text with nothing after it. -/
theorem tokens (h : Writes p text) :
    p (significant (tokenize text)) ∧ ∀ t ∈ significant (tokenize text), t.Convertible := by
  obtain ⟨ts, stop, hlex, hts, hconv⟩ := h.cuts [] .nil 0
  rw [lex_nil, List.append_nil, List.append_nil] at hlex
  rw [significant_tokenize, hlex]
  exact ⟨hts, hconv⟩

end Writes
end EffectLang
