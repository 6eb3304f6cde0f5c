import EffectLang.Proofs.Grammar.Correspondence
import EffectLang.Proofs.Print.Image

/-!
# Folding vectors while reading

`Expr.parseKeeping` reads as `Expr.parse` does, but keeps every vector call as a node. `Folds e e'`
says that `e'` comes from `e` by folding each vector call of constants, and nothing else, into a
literal. Folding is the only difference between the two ways of reading: they fail alike, the trees
are related in this way, and they have the same type.

The readers correspond by a weaker relation, `Replaced`, that leaves open which calls of constants
are folded. That all of them are follows from the tree that is read, which is in normal form.
-/

namespace EffectLang

/-- Reads an expression and keeps every vector call as a node. -/
def Expr.parseKeeping (source : Text) : Except ParseFailure Expr :=
  Grammar.read ⟨source.length, .keeping⟩ nestingLimit (significant (tokenize source))

/-! ## Bits -/

/-- The bits of a number of 32 bits with the first one, which is the sign, flipped. -/
def flipSign (bits : Nat) : Nat :=
  if bits < 0x80000000 then bits + 0x80000000 else bits - 0x80000000

namespace BinaryFloat

theorem bits_neg (v : Single) : v.neg.bits = flipSign v.bits := by
  obtain ⟨negative, magnitude, hlt⟩ := v
  have hlimit : Format.single.limit = 0x80000000 := by decide
  rw [hlimit] at hlt
  cases negative <;> simp [bits, neg, flipSign, hlimit, hlt, Nat.add_comm]

theorem bits_injective {f : Format} {v w : BinaryFloat f} (h : v.bits = w.bits) : v = w := by
  obtain ⟨negative, magnitude, hlt⟩ := v
  obtain ⟨negative', magnitude', hlt'⟩ := w
  cases negative <;> cases negative' <;> simp [bits] at h <;> simp <;> omega

end BinaryFloat

namespace Expr

/-- The bits that an argument gives a vector: those of a float literal, with the sign flipped once
for each negation in front of it. -/
inductive HasBits : Expr → Nat → Prop
  | literal (v : Single) : HasBits (.literal (.float v)) v.bits
  | negation {x : Expr} {bits : Nat} : HasBits x bits → HasBits (.unary .neg x) (flipSign bits)

/-- Every vector call whose arguments are all float literals with or without negations in front of
them is replaced by the literal of their bits. All other nodes stay. -/
inductive Folds : Expr → Expr → Prop
  | literal (v : Literal) : Folds (.literal v) (.literal v)
  | attr (name : Text) : Folds (.attr name) (.attr name)
  | prop (name : Text) : Folds (.prop name) (.prop name)
  | builtIn (value : BuiltIn) : Folds (.builtIn value) (.builtIn value)
  | unary {op : UnaryOp} {x x' : Expr} : Folds x x' → Folds (.unary op x) (.unary op x')
  | binary {op : BinaryOp} {x x' y y' : Expr} :
      op ≠ .vec2 → op ≠ .vec3 → Folds x x' → Folds y y' → Folds (.binary op x y) (.binary op x' y')
  | vec2Literal {x y : Expr} {a b : Single} :
      x.HasBits a.bits → y.HasBits b.bits → Folds (.vec2Node x y) (.literal (.vec2 a b))
  | vec2Kept {x x' y y' : Expr} :
      ¬ (x.IsConstant ∧ y.IsConstant) → Folds x x' → Folds y y' →
        Folds (.vec2Node x y) (.vec2Node x' y')
  | vec3Literal {x y z : Expr} {a b c : Single} :
      x.HasBits a.bits → y.HasBits b.bits → z.HasBits c.bits →
        Folds (.vec3Node x y z) (.literal (.vec3 a b c))
  | vec3Kept {x x' y y' z z' : Expr} :
      ¬ (x.IsConstant ∧ y.IsConstant ∧ z.IsConstant) → Folds x x' → Folds y y' → Folds z z' →
        Folds (.vec3Node x y z) (.vec3Node x' y' z')

theorem Constant.hasBits {x : Expr} {v : Single} (h : x.Constant v) : x.HasBits v.bits := by
  induction h with
  | literal v => exact .literal v
  | @negation x v _ ih =>
    rw [BinaryFloat.bits_neg]
    exact .negation ih

namespace HasBits
variable {x : Expr} {bits bits' : Nat}

theorem isConstant (h : x.HasBits bits) : x.IsConstant := by
  induction h with
  | literal v => exact ⟨v, .literal v⟩
  | negation _ ih =>
    obtain ⟨v, hv⟩ := ih
    exact ⟨v.neg, .negation hv⟩

theorem unique (h : x.HasBits bits) (h' : x.HasBits bits') : bits = bits' := by
  induction h generalizing bits' with
  | literal v => cases h'; rfl
  | negation _ ih =>
    cases h' with
    | negation h' => rw [ih h']

theorem resultType {context : TypeContext} (h : x.HasBits bits) :
    x.resultType context = some .float := by
  obtain ⟨v, hv⟩ := h.isConstant
  exact hv.resultType

end HasBits

/-! ## Trees in which calls of constants are replaced -/

/-- Some of the vector calls of constants are replaced by their literals. -/
inductive Replaced : Expr → Expr → Prop
  | literal (v : Literal) : Replaced (.literal v) (.literal v)
  | attr (name : Text) : Replaced (.attr name) (.attr name)
  | prop (name : Text) : Replaced (.prop name) (.prop name)
  | builtIn (value : BuiltIn) : Replaced (.builtIn value) (.builtIn value)
  | unary {op : UnaryOp} {x x' : Expr} : Replaced x x' → Replaced (.unary op x) (.unary op x')
  | binary {op : BinaryOp} {x x' y y' : Expr} :
      Replaced x x' → Replaced y y' → Replaced (.binary op x y) (.binary op x' y')
  | vec2 {x y : Expr} {a b : Single} :
      x.Constant a → y.Constant b → Replaced (.vec2Node x y) (.literal (.vec2 a b))
  | vec3 {x y z : Expr} {a b c : Single} :
      x.Constant a → y.Constant b → z.Constant c →
        Replaced (.vec3Node x y z) (.literal (.vec3 a b c))

namespace Replaced
variable {e e' x x' y y' z z' : Expr}

theorem constant_iff (h : Replaced x x') {v : Single} : x.Constant v ↔ x'.Constant v := by
  constructor
  · intro hx
    induction hx generalizing x' with
    | literal v => cases h; exact .literal v
    | negation _ ih =>
      cases h with
      | unary h => exact .negation (ih h)
  · intro hx'
    induction hx' generalizing x with
    | literal v => cases h; exact .literal v
    | negation _ ih =>
      cases h with
      | unary h => exact .negation (ih h)

theorem isConstant_iff (h : Replaced x x') : x.IsConstant ↔ x'.IsConstant := by
  simp only [IsConstant, h.constant_iff]

theorem foldVec2 (hx : Replaced x x') (hy : Replaced y y') :
    Replaced (vec2Node x y) (VectorRule.folding.vec2 x' y') := by
  generalize hfold : VectorRule.folding.vec2 x' y' = e
  cases vec2Call_iff.mpr hfold with
  | literal hx' hy' => exact .vec2 (hx.constant_iff.mpr hx') (hy.constant_iff.mpr hy')
  | node => exact .binary hx hy

theorem foldVec3 (hx : Replaced x x') (hy : Replaced y y') (hz : Replaced z z') :
    Replaced (vec3Node x y z) (VectorRule.folding.vec3 x' y' z') := by
  generalize hfold : VectorRule.folding.vec3 x' y' z' = e
  cases vec3Call_iff.mpr hfold with
  | literal hx' hy' hz' =>
    exact .vec3 (hx.constant_iff.mpr hx') (hy.constant_iff.mpr hy') (hz.constant_iff.mpr hz')
  | node => exact .binary (.binary hx hy) hz

/-- Where no vector node of constants is left, all of them are replaced. -/
theorem folds (h : Replaced e e') (hunfolded : e'.Unfolded) : e.Folds e' := by
  fun_induction Unfolded e' generalizing e with
  | case1 op x' ih =>
    cases h with
    | unary h => exact .unary (ih h hunfolded)
  | case2 x' y' z' ihx ihy ihz =>
    -- the node of two components inside is kept because the whole is
    obtain ⟨hconstant, hux, huy, huz⟩ := hunfolded
    cases h with
    | binary hxy hz =>
      cases hxy with
      | binary hx hy =>
        refine .vec3Kept ?_ (ihx hx hux) (ihy hy huy) (ihz hz huz)
        rwa [hx.isConstant_iff, hy.isConstant_iff, hz.isConstant_iff]
  | case3 => cases hunfolded
  | case4 x' y' ihx ihy =>
    obtain ⟨hconstant, hux, huy⟩ := hunfolded
    cases h with
    | binary hx hy =>
      refine .vec2Kept ?_ (ihx hx hux) (ihy hy huy)
      rwa [hx.isConstant_iff, hy.isConstant_iff]
  | case5 op x' y' _ h3 h2 ihx ihy =>
    cases h with
    | binary hx hy => exact .binary h2 h3 (ihx hx hunfolded.1) (ihy hy hunfolded.2)
  | case6 e' hunary _ _ _ hbinary =>
    cases h with
    | literal v => exact .literal v
    | attr name => exact .attr name
    | prop name => exact .prop name
    | builtIn value => exact .builtIn value
    | unary => exact absurd rfl (hunary _ _)
    | binary => exact absurd rfl (hbinary _ _ _)
    | vec2 hx hy => exact .vec2Literal hx.hasBits hy.hasBits
    | vec3 hx hy hz => exact .vec3Literal hx.hasBits hy.hasBits hz.hasBits

end Replaced

/-! ## Folding -/

namespace Folds
variable {e e' e'' : Expr}

theorem resultType_eq (h : e.Folds e') (context : TypeContext) :
    e'.resultType context = e.resultType context := by
  induction h with
  | literal | attr | prop | builtIn => rfl
  | unary _ ih => simp only [Expr.resultType, ih]
  | binary _ _ _ _ ihx ihy => exact resultType_binary ihx ihy
  | vec2Literal hx hy =>
    simp [vec2Node, Expr.resultType, hx.resultType, hy.resultType, BinaryOp.resultType,
      Literal.type]
  | vec2Kept _ _ _ ihx ihy => exact resultType_binary ihx ihy
  | vec3Literal hx hy hz =>
    simp [vec3Node, Expr.resultType, hx.resultType, hy.resultType, hz.resultType,
      BinaryOp.resultType, Literal.type]
  | vec3Kept _ _ _ _ ihx ihy ihz => exact resultType_binary (resultType_binary ihx ihy) ihz

/-- There is one way to fold a tree. -/
theorem unique (h : e.Folds e') (h' : e.Folds e'') : e' = e'' := by
  induction h generalizing e'' with
  | literal | attr | prop | builtIn => cases h'; rfl
  | unary _ ih =>
    cases h' with
    | unary h' => rw [ih h']
  | binary h2 h3 _ _ ihx ihy =>
    cases h' with
    | binary _ _ hx' hy' => rw [ihx hx', ihy hy']
    | vec2Literal | vec2Kept => exact absurd rfl h2
    | vec3Literal | vec3Kept => exact absurd rfl h3
  | vec2Literal hx hy =>
    cases h' with
    | binary h2 => exact absurd rfl h2
    | vec2Literal hx' hy' =>
      rw [BinaryFloat.bits_injective (hx.unique hx'), BinaryFloat.bits_injective (hy.unique hy')]
    | vec2Kept hne => exact absurd ⟨hx.isConstant, hy.isConstant⟩ hne
  | vec2Kept hne _ _ ihx ihy =>
    cases h' with
    | binary h2 => exact absurd rfl h2
    | vec2Literal hx' hy' => exact absurd ⟨hx'.isConstant, hy'.isConstant⟩ hne
    | vec2Kept _ hx' hy' => rw [ihx hx', ihy hy']
  | vec3Literal hx hy hz =>
    cases h' with
    | binary _ h3 => exact absurd rfl h3
    | vec3Literal hx' hy' hz' =>
      rw [BinaryFloat.bits_injective (hx.unique hx'), BinaryFloat.bits_injective (hy.unique hy'),
        BinaryFloat.bits_injective (hz.unique hz')]
    | vec3Kept hne => exact absurd ⟨hx.isConstant, hy.isConstant, hz.isConstant⟩ hne
  | vec3Kept hne _ _ _ ihx ihy ihz =>
    cases h' with
    | binary _ h3 => exact absurd rfl h3
    | vec3Literal hx' hy' hz' =>
      exact absurd ⟨hx'.isConstant, hy'.isConstant, hz'.isConstant⟩ hne
    | vec3Kept _ hx' hy' hz' => rw [ihx hx', ihy hy', ihz hz']

end Folds

/-! ## Reading with and without folding -/

theorem compatible_folding (n : Nat) :
    Compatible Eq Eq Replaced ⟨n, .keeping⟩ ⟨n, .folding⟩ where
  look := by rintro t _ rfl; rfl
  at_token := by rintro t _ rfl cause text; rfl
  at_end := rfl
  digits _ := rfl
  literal := .literal
  attr := .attr
  prop := .prop
  builtIn := .builtIn
  unary _ := .unary
  binary _ := .binary
  vec2 := Replaced.foldVec2
  vec3 := Replaced.foldVec3

/-- Both ways of reading fail in the same way, or give trees of which one has some of the constant
calls of the other replaced. -/
theorem sameOutcome_parseKeeping (source : Text) :
    SameOutcome Eq Replaced (parseKeeping source) (parse source) := by
  have hc := compatible_folding source.length
  have hatom := correspond_atom hc (significant (tokenize source)).length nestingLimit
  unfold parseKeeping parse
  rw [Grammar.read_eq_readIn, Grammar.read_eq_readIn]
  exact holds_readIn (C := .plain Eq) hc hatom (beside_self (Nat.le_refl _))

theorem parse_eq_ok_iff_folds {source : Text} {e' : Expr} :
    parse source = .ok e' ↔ ∃ e, parseKeeping source = .ok e ∧ e.Folds e' := by
  have hsame := sameOutcome_parseKeeping source
  have hunfolded (e' : Expr) (h : parse source = .ok e') : e'.Unfolded :=
    (normal_of_parse h).1.vectors
  generalize parseKeeping source = x at hsame ⊢
  generalize parse source = y at hsame hunfolded ⊢
  cases hsame with
  | error h => exact ⟨nofun, fun ⟨_, hkeeping, _⟩ => nomatch hkeeping⟩
  | @ok e e'' h =>
    have hfolds := h.folds (hunfolded e'' rfl)
    constructor
    · intro heq
      obtain rfl : e'' = e' := Except.ok.inj heq
      exact ⟨e, rfl, hfolds⟩
    · rintro ⟨e₀, heq, hfolds'⟩
      obtain rfl : e = e₀ := Except.ok.inj heq
      rw [hfolds.unique hfolds']

/-- Folding while reading is folding what is read without it: the same sources are rejected, with
the same errors, and of the others the trees are folded, which changes no type. -/
theorem parse_folds_parseKeeping (source : Text) :
    (∀ f, parse source = .error f ↔ parseKeeping source = .error f) ∧
    (∀ e', parse source = .ok e' ↔ ∃ e, parseKeeping source = .ok e ∧ e.Folds e') ∧
    ∀ e e', parseKeeping source = .ok e → parse source = .ok e' →
      ∀ context, e'.resultType context = e.resultType context := by
  refine ⟨fun f => ?_, fun e' => parse_eq_ok_iff_folds, fun e e' he he' context => ?_⟩
  · have hsame := sameOutcome_parseKeeping source
    generalize parseKeeping source = x at hsame ⊢
    generalize parse source = y at hsame ⊢
    cases hsame with
    | ok h => exact ⟨nofun, nofun⟩
    | error h => rw [h]
  · obtain ⟨e₀, he₀, hfolds⟩ := parse_eq_ok_iff_folds.mp he'
    obtain rfl : e = e₀ := Except.ok.inj (he.symm.trans he₀)
    exact hfolds.resultType_eq context

/-- The vector inside is folded, with its signs, and the one around it is not. -/
theorem parse_folds_inner_vector :
    ∃ e e' : Expr,
      parseKeeping "vec3(vec2(--0.0, -1.5), 1.0, 2)".toList = .ok e ∧
      parse "vec3(vec2(--0.0, -1.5), 1.0, 2)".toList = .ok e' ∧
      e' = vec3Node (.literal (.vec2 (.ofBits 0) (.ofBits 0xbfc00000)))
        (.literal (.float (.ofBits 0x3f800000))) (.literal (.integer 2)) ∧
      e.Folds e' ∧ ∀ context, e'.resultType context = e.resultType context := by
  have hread : parse "vec3(vec2(--0.0, -1.5), 1.0, 2)".toList =
      .ok (vec3Node (.literal (.vec2 (.ofBits 0) (.ofBits 0xbfc00000)))
        (.literal (.float (.ofBits 0x3f800000))) (.literal (.integer 2))) := by
    decide +kernel
  obtain ⟨e, hkeeping, hfolds⟩ := ((parse_folds_parseKeeping _).2.1 _).mp hread
  exact ⟨e, _, hkeeping, hread, rfl, hfolds,
    (parse_folds_parseKeeping _).2.2 e _ hkeeping hread⟩

end Expr
end EffectLang
