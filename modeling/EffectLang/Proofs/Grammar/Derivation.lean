import EffectLang.Expr.Parse

/-!
# The grammar of expressions

`Derives phrase depth tokens e` says that the significant tokens `tokens` are a phrase of the
grammar that denotes the tree `e`, and that at most `depth` groups, negations and calls are open
at once while it is read:

    expression      additive | additive cmp additive
    additive        multiplicative | additive (+ or -) multiplicative
    multiplicative  atom | multiplicative (* or /) atom
    atom            ( expression ) | - atom | number | call | name | built-in value

The two chains recurse on the left, so their operators associate to the left. Nothing here speaks
of readers, errors or a limit on the depth.
-/

namespace EffectLang

/-! ## Constant vector components -/

/-- A float literal under any number of negations, and the value that it stands for. -/
inductive Expr.Constant : Expr → Single → Prop
  | literal (v : Single) : Constant (.literal (.float v)) v
  | negation {e : Expr} {v : Single} : Constant e v → Constant (.unary .neg e) v.neg

/-- A float literal under any number of negations. -/
def Expr.IsConstant (e : Expr) : Prop :=
  ∃ v, e.Constant v

/-- What a call of `vec2` denotes: a literal when both arguments are constant, else a node. -/
inductive Expr.Vec2Call : Expr → Expr → Expr → Prop
  | literal {x y : Expr} {a b : Single} :
      x.Constant a → y.Constant b → Vec2Call x y (.literal (.vec2 a b))
  | node {x y : Expr} : ¬ (x.IsConstant ∧ y.IsConstant) → Vec2Call x y (.vec2Node x y)

/-- What a call of `vec3` denotes: a literal when all arguments are constant, else a node that
holds the node of the first two. -/
inductive Expr.Vec3Call : Expr → Expr → Expr → Expr → Prop
  | literal {x y z : Expr} {a b c : Single} :
      x.Constant a → y.Constant b → z.Constant c → Vec3Call x y z (.literal (.vec3 a b c))
  | node {x y z : Expr} :
      ¬ (x.IsConstant ∧ y.IsConstant ∧ z.IsConstant) → Vec3Call x y z (.vec3Node x y z)

/-! ## Tokens that stand for something by themselves -/

/-- The literal of a number token: an integer below the bound, or a float that is finite in 32
bits. -/
inductive Token.Number : Token → Literal → Prop
  | integer {token : Token} :
      token.kind = .integer → ofDigits token.text < Literal.integerBound →
        Number token (.integer (.ofNat (ofDigits token.text)))
  | float {token : Token} {v : Single} :
      token.kind = .float → ((pointDecimal token.text).toDouble false).toSingle = v →
        v.isFinite = true → Number token (.float v)

/-- The name in a reference: any word, or a string between whose quotes there is something. -/
inductive Token.ReferenceName : Token → Text → Prop
  | word {token : Token} : token.kind.isWord = true → ReferenceName token token.text
  | quoted {token : Token} {name : Text} :
      token.kind = .string → (token.text.drop 1).dropLast = name → name ≠ [] →
        ReferenceName token name

theorem Token.ReferenceName.kind_ne_integer {token : Token} {name : Text}
    (h : token.ReferenceName name) : token.kind ≠ .integer := by
  intro hkind
  cases h with
  | word hword => simp [hkind, TokenKind.isWord] at hword
  | quoted hstring => simp [hkind] at hstring

/-! ## Phrases -/

/-- The nonterminals, from the loosest to the tightest. -/
inductive Phrase where
  | expression | additive | multiplicative | atom
deriving DecidableEq

/-- The grammar. The depth of a phrase is that of its deepest part; a group, a negation and a call
are one deeper than what they hold. -/
inductive Derives : Phrase → Nat → List Token → Expr → Prop
  | uncompared {d : Nat} {ts : List Token} {e : Expr} :
      Derives .additive d ts e → Derives .expression d ts e
  | comparison {dl dr : Nat} {ls rs : List Token} {l r : Expr} {sign : Token} {op : BinaryOp} :
      Derives .additive dl ls l → sign.kind = .operator op → op.isComparison = true →
        Derives .additive dr rs r →
        Derives .expression (max dl dr) (ls ++ sign :: rs) (.binary op l r)
  | term {d : Nat} {ts : List Token} {e : Expr} :
      Derives .multiplicative d ts e → Derives .additive d ts e
  | sum {dl dr : Nat} {ls rs : List Token} {l r : Expr} {sign : Token} {op : BinaryOp} :
      Derives .additive dl ls l → sign.kind = .operator op → op.isAdditive = true →
        Derives .multiplicative dr rs r →
        Derives .additive (max dl dr) (ls ++ sign :: rs) (.binary op l r)
  | factor {d : Nat} {ts : List Token} {e : Expr} :
      Derives .atom d ts e → Derives .multiplicative d ts e
  | product {dl dr : Nat} {ls rs : List Token} {l r : Expr} {sign : Token} {op : BinaryOp} :
      Derives .multiplicative dl ls l → sign.kind = .operator op → op.isMultiplicative = true →
        Derives .atom dr rs r →
        Derives .multiplicative (max dl dr) (ls ++ sign :: rs) (.binary op l r)
  | group {d : Nat} {ts : List Token} {e : Expr} {opening closing : Token} :
      opening.kind = .leftParen → Derives .expression d ts e → closing.kind = .rightParen →
        Derives .atom (d + 1) (opening :: (ts ++ [closing])) e
  | negation {d : Nat} {ts : List Token} {e : Expr} {sign : Token} :
      sign.kind = .operator .sub → Derives .atom d ts e →
        Derives .atom (d + 1) (sign :: ts) (.unary .neg e)
  | number {token : Token} {v : Literal} :
      token.Number v → Derives .atom 0 [token] (.literal v)
  | name {token : Token} :
      token.kind = .identifier → Derives .atom 0 [token] (.attr token.text)
  | builtIn {token : Token} {value : BuiltIn} :
      token.kind = .builtIn value → Derives .atom 0 [token] (.builtIn value)
  | attrCall {head opening name closing : Token} {f : Callee} {text : Text} :
      head.kind = .callee f → f.form = .attr → opening.kind = .leftParen →
        name.ReferenceName text → closing.kind = .rightParen →
        Derives .atom 1 [head, opening, name, closing] (.attr text)
  | propCall {head opening name closing : Token} {f : Callee} {text : Text} :
      head.kind = .callee f → f.form = .prop → opening.kind = .leftParen →
        name.ReferenceName text → closing.kind = .rightParen →
        Derives .atom 1 [head, opening, name, closing] (.prop text)
  | unaryCall {d : Nat} {xs : List Token} {x : Expr} {head opening closing : Token} {f : Callee}
      {op : UnaryOp} :
      head.kind = .callee f → f.form = .unary op → opening.kind = .leftParen →
        Derives .expression d xs x → closing.kind = .rightParen →
        Derives .atom (d + 1) (head :: opening :: (xs ++ [closing])) (.unary op x)
  | binaryCall {dx dy : Nat} {xs ys : List Token} {x y : Expr}
      {head opening comma closing : Token} {f : Callee} {op : BinaryOp} :
      head.kind = .callee f → f.form = .binary op → opening.kind = .leftParen →
        Derives .expression dx xs x → comma.kind = .comma → Derives .expression dy ys y →
        closing.kind = .rightParen →
        Derives .atom (max dx dy + 1) (head :: opening :: (xs ++ comma :: (ys ++ [closing])))
          (.binary op x y)
  | vec2Call {dx dy : Nat} {xs ys : List Token} {x y e : Expr}
      {head opening comma closing : Token} {f : Callee} :
      head.kind = .callee f → f.form = .vec2 → opening.kind = .leftParen →
        Derives .expression dx xs x → comma.kind = .comma → Derives .expression dy ys y →
        closing.kind = .rightParen → Expr.Vec2Call x y e →
        Derives .atom (max dx dy + 1) (head :: opening :: (xs ++ comma :: (ys ++ [closing]))) e
  | vec3Call {dx dy dz : Nat} {xs ys zs : List Token} {x y z e : Expr}
      {head opening comma comma' closing : Token} {f : Callee} :
      head.kind = .callee f → f.form = .vec3 → opening.kind = .leftParen →
        Derives .expression dx xs x → comma.kind = .comma → Derives .expression dy ys y →
        comma'.kind = .comma → Derives .expression dz zs z → closing.kind = .rightParen →
        Expr.Vec3Call x y z e →
        Derives .atom (max dx (max dy dz) + 1)
          (head :: opening :: (xs ++ comma :: (ys ++ comma' :: (zs ++ [closing])))) e

/-! ## Constants are what the reader folds -/

namespace Expr

theorem constant_iff {e : Expr} {v : Single} : e.Constant v ↔ e.signedFloat? = some v := by
  constructor
  · intro h
    induction h with
    | literal v => rfl
    | negation _ ih => simp [signedFloat?, ih]
  · intro h
    fun_induction signedFloat? e generalizing v with
    | case1 a =>
      obtain rfl := Option.some.inj h
      exact .literal a
    | case2 e ih =>
      obtain ⟨a, ha, rfl⟩ := Option.map_eq_some_iff.mp h
      exact .negation (ih ha)
    | case3 => cases h

theorem isConstant_iff {e : Expr} : e.IsConstant ↔ e.signedFloat?.isSome := by
  simp only [IsConstant, constant_iff, Option.isSome_iff_exists]

/-- The relation for `vec2` is the folding rule. -/
theorem vec2Call_iff {x y e : Expr} : Vec2Call x y e ↔ VectorRule.folding.vec2 x y = e := by
  constructor
  · intro h
    cases h with
    | literal hx hy => simp [VectorRule.folding, constant_iff.mp hx, constant_iff.mp hy]
    | node h =>
      simp only [isConstant_iff, Option.isSome_iff_exists] at h
      simp only [VectorRule.folding]
      split
      · next hx hy => exact absurd ⟨⟨_, hx⟩, ⟨_, hy⟩⟩ h
      · rfl
  · intro h
    simp only [VectorRule.folding] at h
    split at h
    · next hx hy =>
      subst h
      exact .literal (constant_iff.mpr hx) (constant_iff.mpr hy)
    · next hne =>
      subst h
      refine .node fun ⟨⟨a, ha⟩, ⟨b, hb⟩⟩ => ?_
      exact hne a b (constant_iff.mp ha) (constant_iff.mp hb)

/-- The relation for `vec3` is the folding rule. -/
theorem vec3Call_iff {x y z e : Expr} :
    Vec3Call x y z e ↔ VectorRule.folding.vec3 x y z = e := by
  constructor
  · intro h
    cases h with
    | literal hx hy hz =>
      simp [VectorRule.folding, constant_iff.mp hx, constant_iff.mp hy, constant_iff.mp hz]
    | node h =>
      simp only [isConstant_iff, Option.isSome_iff_exists] at h
      simp only [VectorRule.folding]
      split
      · next hx hy hz => exact absurd ⟨⟨_, hx⟩, ⟨_, hy⟩, ⟨_, hz⟩⟩ h
      · rfl
  · intro h
    simp only [VectorRule.folding] at h
    split at h
    · next hx hy hz =>
      subst h
      exact .literal (constant_iff.mpr hx) (constant_iff.mpr hy) (constant_iff.mpr hz)
    · next hne =>
      subst h
      refine .node fun ⟨⟨a, ha⟩, ⟨b, hb⟩, ⟨c, hc⟩⟩ => ?_
      exact hne a b c (constant_iff.mp ha) (constant_iff.mp hb) (constant_iff.mp hc)

end Expr
end EffectLang
