import EffectLang.Proofs.Print.Writing

/-!
# Texts that spell expressions

`Spells phrase d text e` says that `text`, where a boundary follows it, is cut into tokens that
are a phrase of depth `d` and denote `e`. There is one law for each rule of the grammar, so a
text that is put together as the printer does it spells what the grammar makes of its parts.
-/

namespace EffectLang

/-- The text spells `e` as a phrase of depth `d`, whatever boundary follows. It does not begin
with a space. -/
structure Spells (phrase : Phrase) (d : Nat) (text : Text) (e : Expr) : Prop where
  first : ∃ c ∈ text.head?, isSpace c = false
  cuts : ∀ rest, rest.Boundary → Cuts (Derives phrase d · e) (text ++ rest) rest

namespace Spells
variable {phrase : Phrase} {d dx dy dz : Nat} {text tx ty tz : Text} {e x y z : Expr}

/-- The tokens of a spelling are a phrase. -/
theorem writes (h : Spells phrase d text e) : Writes (Derives phrase d · e) text :=
  ⟨h.first, h.cuts⟩

/-- A text whose tokens the grammar derives something from spells it. -/
theorem of_writes {p : List Token → Prop} (h : Writes p text)
    (hrule : ∀ ts, p ts → Derives phrase d ts e) : Spells phrase d text e :=
  ⟨h.first, (h.imp hrule).cuts⟩

/-- Whatever is derived from the tokens of a spelling is spelled too. -/
theorem imp {phrase' : Phrase} {d' : Nat} {e' : Expr} (h : Spells phrase d text e)
    (hrule : ∀ ts, Derives phrase d ts e → Derives phrase' d' ts e') :
    Spells phrase' d' text e' :=
  of_writes h.writes hrule

/-- An atom is an expression. -/
theorem expression (h : Spells .atom d text e) : Spells .expression d text e :=
  h.imp fun _ hts => .uncompared (.term (.factor hts))

/-! ### Operators, groups and negations -/

/-- Two phrases around an operator. -/
theorem between {left right : Phrase} {op : BinaryOp} (hop : op.isCall = false)
    (hx : Spells left dx tx x) (hy : Spells right dy ty y)
    (hrule : ∀ xs ys (sign : Token), Derives left dx xs x → sign.kind = .operator op →
      Derives right dy ys y → Derives phrase d (xs ++ sign :: ys) (.binary op x y)) :
    Spells phrase d (tx ++ [' '] ++ op.spelling ++ [' '] ++ ty) (.binary op x y) := by
  refine of_writes (hx.writes.between hop hy.writes) ?_
  rintro _ ⟨xs, ys, sign, rfl, hxs, hkind, hys⟩
  exact hrule xs ys sign hxs hkind hys

theorem group (h : Spells .expression d text e) :
    Spells .atom (d + 1) ('(' :: text ++ [')']) e := by
  refine of_writes h.writes.group ?_
  rintro _ ⟨xs, opening, closing, rfl, hopen, hxs, hclose⟩
  exact .group hopen hxs hclose

theorem negation (h : Spells .atom d text e) :
    Spells .atom (d + 1) ('-' :: text) (.unary .neg e) := by
  refine of_writes h.writes.negation ?_
  rintro _ ⟨xs, sign, rfl, hkind, hxs⟩
  exact .negation hkind hxs

/-! ### Atoms of one token -/

/-- A word that is neither callable nor a built-in value is the attribute of that name. -/
theorem name {word : Text} (hword : word.isWord = true) (hkind : wordKind word = .identifier) :
    Spells .atom 0 word (.attr word) := by
  have hlexeme (rest : Text) (hrest : rest.Boundary) : Lexeme .identifier word rest := by
    rw [← hkind]
    exact .word hword (hrest.stops (by decide))
  refine of_writes (.token .identifier (exists_first_of_isWord hword) hlexeme rfl nofun nofun) ?_
  rintro _ ⟨start, rfl⟩
  exact .name rfl

theorem builtIn (value : BuiltIn) : Spells .atom 0 value.spelling (.builtIn value) := by
  refine of_writes (.builtIn value) ?_
  rintro _ ⟨start, rfl⟩
  exact .builtIn rfl

/-- The digits of a number below the bound are that integer. -/
theorem integer {n : Nat} (h : n < Literal.integerBound) :
    Spells .atom 0 (digitsOf n) (.literal (.integer (.ofNat n))) := by
  have hvalue : ofDigits (digitsOf n) = n := ofDigits_digitsOf n
  refine of_writes (.integer (isDigits_digitsOf n) (length_digitsOf_le (Nat.le_of_lt h))) ?_
  rintro _ ⟨start, rfl⟩
  have hnumber : Token.Number ⟨.integer, digitsOf n, start⟩ (.integer (.ofNat n)) := by
    rw [← hvalue] at h
    rw [← congrArg Int32.ofNat hvalue]
    exact .integer rfl h
  exact .number hnumber

/-- Digits around a point are the float that they round to, if it is finite. -/
theorem float {whole fraction : Text} {v : Single} (h : whole.IsDigits)
    (hfraction : fraction.IsDigits)
    (hv : ((pointDecimal (whole ++ '.' :: fraction)).toDouble false).toSingle = v)
    (hfinite : v.isFinite = true) :
    Spells .atom 0 (whole ++ '.' :: fraction) (.literal (.float v)) := by
  refine of_writes (.float h hfraction) ?_
  rintro _ ⟨start, rfl⟩
  exact .number (.float rfl hv hfinite)

/-! ### References -/

theorem attrCall {name : Text} (hne : name ≠ []) (hquote : '"' ∉ name) :
    Spells .atom 1 (callText Callee.attr.spelling [Expr.nameText name]) (.attr name) := by
  refine of_writes (.reference rfl rfl hquote) ?_
  rintro _ ⟨head, opening, token, closing, rfl, hhead, hopening, htoken, hclosing⟩
  exact .attrCall hhead rfl hopening (htoken.referenceName hne) hclosing

theorem propCall {name : Text} (hne : name ≠ []) (hquote : '"' ∉ name) :
    Spells .atom 1 (callText Callee.prop.spelling [Expr.nameText name]) (.prop name) := by
  refine of_writes (.reference rfl rfl hquote) ?_
  rintro _ ⟨head, opening, token, closing, rfl, hhead, hopening, htoken, hclosing⟩
  exact .propCall hhead rfl hopening (htoken.referenceName hne) hclosing

/-! ### Calls -/

theorem unaryCall {f : Callee} {op : UnaryOp} (hf : f.form = .unary op)
    (hx : Spells .expression dx tx x) :
    Spells .atom (dx + 1) (callText f.spelling [tx]) (.unary op x) := by
  have hafter := after_callee (f := f) (by simp [hf]) (by simp [hf])
  refine of_writes (.callOfOne hafter hx.writes) ?_
  rintro _ ⟨xs, head, opening, closing, rfl, hhead, hopen, hxs, hclose⟩
  exact .unaryCall hhead hf hopen hxs hclose

theorem binaryCall {f : Callee} {op : BinaryOp} (hf : f.form = .binary op)
    (hx : Spells .expression dx tx x) (hy : Spells .expression dy ty y) :
    Spells .atom (max dx dy + 1) (callText f.spelling [tx, ty]) (.binary op x y) := by
  have hafter := after_callee (f := f) (by simp [hf]) (by simp [hf])
  refine of_writes (.callOfTwo hafter hx.writes hy.writes) ?_
  rintro _ ⟨xs, ys, head, opening, comma, closing, rfl, hhead, hopen, hxs, hcomma, hys, hclose⟩
  exact .binaryCall hhead hf hopen hxs hcomma hys hclose

theorem vec2Call (hx : Spells .expression dx tx x) (hy : Spells .expression dy ty y) :
    Spells .atom (max dx dy + 1) (callText Callee.vec2.spelling [tx, ty])
      (VectorRule.folding.vec2 x y) := by
  refine of_writes (.callOfTwo rfl hx.writes hy.writes) ?_
  rintro _ ⟨xs, ys, head, opening, comma, closing, rfl, hhead, hopen, hxs, hcomma, hys, hclose⟩
  exact .vec2Call hhead rfl hopen hxs hcomma hys hclose (Expr.vec2Call_iff.mpr rfl)

theorem vec3Call (hx : Spells .expression dx tx x) (hy : Spells .expression dy ty y)
    (hz : Spells .expression dz tz z) :
    Spells .atom (max dx (max dy dz) + 1) (callText Callee.vec3.spelling [tx, ty, tz])
      (VectorRule.folding.vec3 x y z) := by
  refine of_writes (.callOfThree rfl hx.writes hy.writes hz.writes) ?_
  rintro _ ⟨xs, ys, zs, head, opening, comma, comma', closing, rfl, hhead, hopen, hxs, hcomma, hys,
    hcomma', hzs, hclose⟩
  exact .vec3Call hhead rfl hopen hxs hcomma hys hcomma' hzs hclose (Expr.vec3Call_iff.mpr rfl)

/-! ### Whole sources -/

/-- The tokens of a text that spells an expression, with nothing after it. -/
theorem derives (h : Spells .expression d text e) :
    Derives .expression d (significant (tokenize text)) e ∧
      ∀ t ∈ significant (tokenize text), t.Convertible :=
  h.writes.tokens

/-- Reading a text that spells an expression: it gives the tree, or the text is too deep. -/
theorem parse_settles (h : Spells .expression d text e) :
    Settles nestingLimit d (Expr.parse text) (.ok e) :=
  Grammar.read_settles rfl h.derives.1 h.derives.2 nestingLimit

end Spells
end EffectLang
