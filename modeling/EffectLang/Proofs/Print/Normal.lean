import EffectLang.Expr.Typing
import EffectLang.Proofs.Token.Shape

/-!
# What a printed tree reads back as

Some trees have a text that denotes another tree: a negative literal reads as a negation, and a
vector node of constants reads as a literal. `normalize` makes these changes. It keeps types.
-/

namespace EffectLang

/-! ## Trees with a text -/

/-- A literal that can be written: its numbers are finite, and the integer has an opposite. -/
def Literal.Printable : Literal → Prop
  | .float v => v.isFinite = true
  | .integer n => -(Literal.integerBound : Int) < n.toInt
  | .vec2 x y => x.isFinite = true ∧ y.isFinite = true
  | .vec3 x y z => x.isFinite = true ∧ y.isFinite = true ∧ z.isFinite = true

namespace Expr

/-- The literals of a tree, from left to right. -/
def literals : Expr → List Literal
  | literal v => [v]
  | unary _ x => x.literals
  | binary _ x y => x.literals ++ y.literals
  | _ => []

/-- The names of attributes and properties in a tree, from left to right. -/
def names : Expr → List Text
  | attr name | prop name => [name]
  | unary _ x => x.names
  | binary _ x y => x.names ++ y.names
  | _ => []

/-- The left operand of every vector of three components is a vector node of two. -/
def VectorsNested : Expr → Prop
  | unary _ x => x.VectorsNested
  | binary .vec3 (binary .vec2 x y) z => x.VectorsNested ∧ y.VectorsNested ∧ z.VectorsNested
  | binary .vec3 _ _ => False
  | binary _ x y => x.VectorsNested ∧ y.VectorsNested
  | _ => True

theorem vectorsNested_binary {op : BinaryOp} {x y : Expr} (h : op ≠ .vec3) :
    (binary op x y).VectorsNested ↔ x.VectorsNested ∧ y.VectorsNested := by
  cases op <;> first | exact Iff.rfl | exact absurd rfl h

/-- Every literal of the tree is good, and every name can be written. -/
structure LeavesAre (good : Literal → Prop) (e : Expr) : Prop where
  literals : ∀ v ∈ e.literals, good v
  names : ∀ name ∈ e.names, name.Quotable

namespace LeavesAre
variable {good : Literal → Prop} {x y : Expr}

theorem operand {op : UnaryOp} (h : (unary op x).LeavesAre good) : x.LeavesAre good :=
  ⟨h.literals, h.names⟩

theorem left {op : BinaryOp} (h : (binary op x y).LeavesAre good) : x.LeavesAre good :=
  ⟨(List.forall_mem_append.mp h.literals).1, (List.forall_mem_append.mp h.names).1⟩

theorem right {op : BinaryOp} (h : (binary op x y).LeavesAre good) : y.LeavesAre good :=
  ⟨(List.forall_mem_append.mp h.literals).2, (List.forall_mem_append.mp h.names).2⟩

theorem binary {op : BinaryOp} (hx : x.LeavesAre good) (hy : y.LeavesAre good) :
    (Expr.binary op x y).LeavesAre good :=
  ⟨List.forall_mem_append.mpr ⟨hx.literals, hy.literals⟩,
    List.forall_mem_append.mpr ⟨hx.names, hy.names⟩⟩

end LeavesAre

/-- A tree whose text is an expression. -/
structure Printable (e : Expr) : Prop extends e.LeavesAre Literal.Printable where
  vectors : e.VectorsNested

namespace Printable

theorem operand {op : UnaryOp} {x : Expr} (h : (unary op x).Printable) : x.Printable :=
  ⟨h.toLeavesAre.operand, h.vectors⟩

theorem operands {op : BinaryOp} {x y : Expr} (h : (binary op x y).Printable)
    (hop : op ≠ .vec3) : x.Printable ∧ y.Printable := by
  obtain ⟨hx, hy⟩ := (vectorsNested_binary hop).mp h.vectors
  exact ⟨⟨h.left, hx⟩, ⟨h.right, hy⟩⟩

theorem components {x y z : Expr} (h : (binary .vec3 (binary .vec2 x y) z).Printable) :
    x.Printable ∧ y.Printable ∧ z.Printable := by
  obtain ⟨hx, hy, hz⟩ := h.vectors
  exact ⟨⟨h.left.left, hx⟩, ⟨h.left.right, hy⟩, ⟨h.right, hz⟩⟩

/-- A binary node is no vector of three components unless its left operand is one of two. -/
theorem ne_vec3 {op : BinaryOp} {x y : Expr} (h : (binary op x y).Printable)
    (hnested : ∀ a b, op = .vec3 → x = binary .vec2 a b → False) : op ≠ .vec3 := by
  rintro rfl
  have hvectors := h.vectors
  rw [VectorsNested] at hvectors
  · exact hvectors
  · intro a b hx
    exact hnested a b rfl hx

end Printable

end Expr

/-! ## The normal form -/

/-- A number as it reads back: one with a sign is the negation of its opposite. -/
def Single.normalize (v : Single) : Expr :=
  if v.negative then .unary .neg (.literal (.float v.neg)) else .literal (.float v)

/-- A literal as it reads back. Vectors hold their signs. -/
def Literal.normalize : Literal → Expr
  | .float v => v.normalize
  | .integer n => if n < 0 then .unary .neg (.literal (.integer (-n))) else .literal (.integer n)
  | v => .literal v

/-- A tree as it reads back: negative literals are negations, and vector nodes of constants are
literals. The node of two components inside one of three is no vector by itself. -/
def Expr.normalize : Expr → Expr
  | literal v => v.normalize
  | unary op x => unary op x.normalize
  | binary .vec3 (binary .vec2 x y) z =>
    VectorRule.folding.vec3 x.normalize y.normalize z.normalize
  | binary .vec2 x y => VectorRule.folding.vec2 x.normalize y.normalize
  | binary op x y => binary op x.normalize y.normalize
  | e => e

theorem Expr.normalize_binary {op : BinaryOp} (h2 : op ≠ .vec2) (h3 : op ≠ .vec3) (x y : Expr) :
    (binary op x y).normalize = binary op x.normalize y.normalize := by
  cases op <;> first | rfl | exact absurd rfl h2 | exact absurd rfl h3

/-! ## Trees in normal form -/

/-- A literal that reading can give: its numbers are finite, and only the components of vectors
have signs. -/
def Literal.Unsigned : Literal → Prop
  | .float v => v.isFinite = true ∧ v.negative = false
  | .integer n => 0 ≤ n.toInt
  | .vec2 x y => x.isFinite = true ∧ y.isFinite = true
  | .vec3 x y z => x.isFinite = true ∧ y.isFinite = true ∧ z.isFinite = true

namespace Expr

/-- Vectors of three components are nested, and no vector node has constants only. -/
def Unfolded : Expr → Prop
  | unary _ x => x.Unfolded
  | binary .vec3 (binary .vec2 x y) z =>
    ¬ (x.IsConstant ∧ y.IsConstant ∧ z.IsConstant) ∧ x.Unfolded ∧ y.Unfolded ∧ z.Unfolded
  | binary .vec3 _ _ => False
  | binary .vec2 x y => ¬ (x.IsConstant ∧ y.IsConstant) ∧ x.Unfolded ∧ y.Unfolded
  | binary _ x y => x.Unfolded ∧ y.Unfolded
  | _ => True

theorem unfolded_binary {op : BinaryOp} {x y : Expr} (h2 : op ≠ .vec2) (h3 : op ≠ .vec3) :
    (binary op x y).Unfolded ↔ x.Unfolded ∧ y.Unfolded := by
  cases op <;> first | exact Iff.rfl | exact absurd rfl h2 | exact absurd rfl h3

/-- A tree that reading leaves as it is. -/
structure Normal (e : Expr) : Prop extends e.LeavesAre Literal.Unsigned where
  vectors : e.Unfolded

end Expr

theorem Literal.Unsigned.printable {v : Literal} (h : v.Unsigned) : v.Printable := by
  cases v with
  | float v => exact h.1
  | integer n =>
    have hbound : 0 < (Literal.integerBound : Int) := by decide
    exact Int.lt_of_lt_of_le (Int.neg_neg_of_pos hbound) h
  | vec2 x y => exact h
  | vec3 x y z => exact h

theorem Literal.Unsigned.normalize_eq {v : Literal} (h : v.Unsigned) :
    v.normalize = .literal v := by
  cases v with
  | float v => simp [Literal.normalize, Single.normalize, h.2]
  | integer n =>
    have hsign : ¬ n < 0 := fun hlt => Int.not_lt.mpr h (Int32.lt_iff_toInt_lt.mp hlt)
    rw [Literal.normalize, if_neg hsign]
  | vec2 x y => rfl
  | vec3 x y z => rfl

namespace Expr

theorem Unfolded.vectorsNested {e : Expr} (h : e.Unfolded) : e.VectorsNested := by
  fun_induction Unfolded e with
  | case1 op x ih => exact ih h
  | case2 x y z ihx ihy ihz => exact ⟨ihx h.2.1, ihy h.2.2.1, ihz h.2.2.2⟩
  | case3 => cases h
  | case4 x y ihx ihy => exact ⟨ihx h.2.1, ihy h.2.2⟩
  | case5 op x y _ h3 _ ihx ihy => exact (vectorsNested_binary h3).mpr ⟨ihx h.1, ihy h.2⟩
  | case6 e hunary _ _ _ hbinary =>
    cases e with
    | unary op x => exact absurd rfl (hunary op x)
    | binary op x y => exact absurd rfl (hbinary op x y)
    | _ => trivial

theorem Normal.printable {e : Expr} (h : e.Normal) : e.Printable where
  literals v hv := (h.literals v hv).printable
  names := h.names
  vectors := h.vectors.vectorsNested

/-- A tree in normal form is its own normal form. -/
theorem normalize_of_normal {e : Expr} (h : e.Normal) : e.normalize = e := by
  fun_induction normalize e with
  | case1 v => exact (h.literals v List.mem_cons_self).normalize_eq
  | case2 op x ih => rw [ih ⟨h.operand, h.vectors⟩]
  | case3 x y z ihx ihy ihz =>
    -- some component is no constant, so nothing is folded
    obtain ⟨hconstant, hx, hy, hz⟩ := h.vectors
    rw [ihx ⟨h.left.left, hx⟩, ihy ⟨h.left.right, hy⟩, ihz ⟨h.right, hz⟩]
    exact vec3Call_iff.mp (.node hconstant)
  | case4 x y ihx ihy =>
    obtain ⟨hconstant, hx, hy⟩ := h.vectors
    rw [ihx ⟨h.left, hx⟩, ihy ⟨h.right, hy⟩]
    exact vec2Call_iff.mp (.node hconstant)
  | case5 op x y hnested h2 ihx ihy =>
    have h3 := h.printable.ne_vec3 hnested
    obtain ⟨hx, hy⟩ := (unfolded_binary h2 h3).mp h.vectors
    rw [ihx ⟨h.left, hx⟩, ihy ⟨h.right, hy⟩]
  | case6 => rfl

end Expr

/-! ## Types -/

namespace Expr
variable {context : TypeContext}

theorem Constant.resultType {e : Expr} {v : Single} (h : e.Constant v) :
    e.resultType context = some .float := by
  induction h with
  | literal v => rfl
  | negation _ ih => simp [Expr.resultType, ih, UnaryOp.resultType]

theorem resultType_binary {op : BinaryOp} {x x' y y' : Expr}
    (hx : x.resultType context = x'.resultType context)
    (hy : y.resultType context = y'.resultType context) :
    (binary op x y).resultType context = (binary op x' y').resultType context := by
  simp only [Expr.resultType, hx, hy]

/-- Folding a vector does not change its type. -/
theorem resultType_foldVec2 (x y : Expr) :
    (VectorRule.folding.vec2 x y).resultType context = (vec2Node x y).resultType context := by
  generalize hfold : VectorRule.folding.vec2 x y = e
  cases vec2Call_iff.mpr hfold with
  | literal hx hy =>
    simp [vec2Node, Expr.resultType, hx.resultType, hy.resultType, BinaryOp.resultType,
      Literal.type]
  | node => rfl

theorem resultType_foldVec3 (x y z : Expr) :
    (VectorRule.folding.vec3 x y z).resultType context = (vec3Node x y z).resultType context := by
  generalize hfold : VectorRule.folding.vec3 x y z = e
  cases vec3Call_iff.mpr hfold with
  | literal hx hy hz =>
    simp [vec3Node, Expr.resultType, hx.resultType, hy.resultType, hz.resultType,
      BinaryOp.resultType, Literal.type]
  | node => rfl

theorem resultType_normalizeSingle (v : Single) :
    v.normalize.resultType context = some .float := by
  unfold Single.normalize
  split <;> rfl

theorem resultType_normalizeLiteral (v : Literal) :
    v.normalize.resultType context = some v.type := by
  cases v with
  | float v => exact resultType_normalizeSingle v
  | integer n =>
    rw [Literal.normalize]
    split <;> rfl
  | vec2 x y => rfl
  | vec3 x y z => rfl

/-- A tree and what it reads back as have the same type. -/
theorem resultType_normalize (e : Expr) :
    e.normalize.resultType context = e.resultType context := by
  fun_induction normalize e with
  | case1 v => exact resultType_normalizeLiteral v
  | case2 op x ih => simp only [Expr.resultType, ih]
  | case3 x y z ihx ihy ihz =>
    rw [resultType_foldVec3]
    exact resultType_binary (resultType_binary ihx ihy) ihz
  | case4 x y ihx ihy =>
    rw [resultType_foldVec2]
    exact resultType_binary ihx ihy
  | case5 op x y _ _ ihx ihy => exact resultType_binary ihx ihy
  | case6 => rfl

end Expr
end EffectLang
