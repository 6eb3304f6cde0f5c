import EffectLang.Editor.Completion
import EffectLang.Proofs.Print.Normal
import EffectLang.Proofs.Print.Spelling

/-!
# How deep a text is

A tree has a canonical text, in which every attribute is a call, and a shallower one, in which an
attribute is a bare name where that reads back. Both are one text with a style of writing names.
The depth of that text is computed from the tree, and the text spells the normal form at exactly
this depth.
-/

namespace EffectLang

/-- How attributes are written, and how many levels that takes. -/
structure NameStyle where
  text : Text → Text
  depth : Text → Nat
  spells : ∀ name : Text, name.Quotable → Spells .atom (depth name) (text name) (.attr name)

namespace NameStyle

/-- Every attribute is a call. -/
def calls : NameStyle where
  text name := callText Callee.attr.spelling [Expr.nameText name]
  depth _ := 1
  spells _ h := .attrCall h.1 h.2

/-- An attribute is a bare name where that reads back, as completions insert it. -/
def bare : NameStyle where
  text := Completion.attrInsertion
  depth name := if name.isWord ∧ wordKind name = .identifier then 0 else 1
  spells name h := by
    unfold Completion.attrInsertion
    split
    · next hname => exact .name hname.1 hname.2
    · exact .attrCall h.1 h.2

end NameStyle

/-! ## Depths -/

/-- A sign is a negation. -/
def Single.depth (v : Single) : Nat :=
  if v.negative then 1 else 0

def Literal.depth : Literal → Nat
  | .float v => v.depth
  | .integer n => if n < 0 then 1 else 0
  | .vec2 x y => max x.depth y.depth + 1
  | .vec3 x y z => max x.depth (max y.depth z.depth) + 1

namespace Expr

/-- Parentheses are a level. -/
def encloseDepth (precedence required depth : Nat) : Nat :=
  if precedence < required then depth + 1 else depth

/-- The depth of the text of a tree: negations, calls and vector literals are one level each, and
so are the parentheses that precedences ask for. A vector of three components is one call. -/
def depth (style : NameStyle) : Expr → Nat
  | literal v => v.depth
  | attr name => style.depth name
  | prop _ => 1
  | builtIn _ => 0
  | unary .neg x => encloseDepth x.precedence atomPrecedence (x.depth style) + 1
  | unary _ x => x.depth style + 1
  | binary .vec3 (binary .vec2 x y) z =>
    max (x.depth style) (max (y.depth style) (z.depth style)) + 1
  | binary op x y =>
    if op.isCall then max (x.depth style) (y.depth style) + 1
    else
      max (encloseDepth x.precedence (leftPrecedence op) (x.depth style))
        (encloseDepth y.precedence (rightPrecedence op) (y.depth style))

theorem precedence_call {op : BinaryOp} (h : op.isCall = true) (x y : Expr) :
    (binary op x y).precedence = atomPrecedence := by
  cases op <;> first | rfl | cases h

theorem depth_unary {style : NameStyle} {op : UnaryOp} (h : op ≠ .neg) (x : Expr) :
    (unary op x).depth style = x.depth style + 1 := by
  cases op <;> first | rfl | exact absurd rfl h

theorem depth_call {style : NameStyle} {op : BinaryOp} (h : op.isCall = true) (h3 : op ≠ .vec3)
    (x y : Expr) :
    (binary op x y).depth style = max (x.depth style) (y.depth style) + 1 := by
  cases op <;> first | rfl | exact absurd rfl h3 | cases h

theorem depth_operator {style : NameStyle} {op : BinaryOp} (h : op.isCall = false) (x y : Expr) :
    (binary op x y).depth style =
      max (encloseDepth x.precedence (leftPrecedence op) (x.depth style))
        (encloseDepth y.precedence (rightPrecedence op) (y.depth style)) := by
  cases op <;> first | rfl | cases h

/-- The text of a tree with attributes written in a style. -/
def textIn (style : NameStyle) : Expr → Text
  | literal v => v.text
  | attr name => style.text name
  | prop name => callText Callee.prop.spelling [nameText name]
  | builtIn value => value.spelling
  | unary .neg x => '-' :: enclose x.precedence atomPrecedence (x.textIn style)
  | unary op x => callText op.spelling [x.textIn style]
  | binary .vec3 (binary .vec2 x y) z =>
    callText BinaryOp.vec3.spelling [x.textIn style, y.textIn style, z.textIn style]
  | binary op x y =>
    if op.isCall then callText op.spelling [x.textIn style, y.textIn style]
    else
      enclose x.precedence (leftPrecedence op) (x.textIn style) ++ [' '] ++ op.spelling ++ [' '] ++
        enclose y.precedence (rightPrecedence op) (y.textIn style)

/-- The canonical text writes every attribute as a call. -/
theorem textIn_calls (e : Expr) : e.textIn .calls = e.text := by
  fun_induction text e with
  | case1 v => rfl
  | case2 name => rfl
  | case3 name => rfl
  | case4 value => rfl
  | case5 x ih => rw [textIn, ih]
  | case6 op x hop ih =>
    rw [textIn, ih]
    exact hop
  | case7 x y z ihx ihy ihz => rw [textIn, ihx, ihy, ihz]
  | case8 op x y hnested hcall ihx ihy =>
    rw [textIn, if_pos hcall, ihx, ihy]
    exact hnested
  | case9 op x y hnested hcall ihx ihy =>
    rw [textIn, if_neg hcall, ihx, ihy]
    exact hnested

end Expr

/-! ## Phrases by precedence -/

/-- The phrase of an expression of the given precedence. -/
def Phrase.ofPrecedence : Nat → Phrase
  | 0 | 1 => .expression
  | 2 => .additive
  | 3 => .multiplicative
  | _ => .atom

/-- The three rules with an operator, as one. -/
theorem Derives.operator {op : BinaryOp} {dl dr : Nat} {ls rs : List Token} {l r : Expr}
    {sign : Token} (hop : op.isCall = false)
    (hl : Derives (.ofPrecedence (Expr.leftPrecedence op)) dl ls l)
    (hkind : sign.kind = .operator op)
    (hr : Derives (.ofPrecedence (Expr.rightPrecedence op)) dr rs r) :
    Derives (.ofPrecedence op.precedence) (max dl dr) (ls ++ sign :: rs) (.binary op l r) := by
  cases op <;> first
    | exact .comparison hl hkind rfl hr
    | exact .sum hl hkind rfl hr
    | exact .product hl hkind rfl hr
    | cases hop

theorem Expr.leftPrecedence_le (op : BinaryOp) : leftPrecedence op ≤ atomPrecedence := by
  cases op <;> decide

theorem Expr.rightPrecedence_le {op : BinaryOp} (h : op.isCall = false) :
    rightPrecedence op ≤ atomPrecedence := by
  cases op <;> first | decide | cases h

namespace Spells
variable {p q d : Nat} {text : Text} {e : Expr}

/-- A phrase is a looser one as well. -/
theorem weaken (h : Spells (.ofPrecedence p) d text e) (hle : q ≤ p) :
    Spells (.ofPrecedence q) d text e := by
  induction hle with
  | refl => exact h
  | @step p _ ih =>
    refine ih ?_
    -- comparisons are expressions already, so the first step is none
    match p with
    | 0 => exact h
    | 1 => exact h.imp fun _ => .uncompared
    | 2 => exact h.imp fun _ => .term
    | 3 => exact h.imp fun _ => .factor
    | _ + 4 => exact h

/-- A text in its place, with parentheses where they are needed. -/
theorem enclose {required : Nat} (h : Spells (.ofPrecedence p) d text e)
    (hrequired : required ≤ Expr.atomPrecedence) :
    Spells (.ofPrecedence required) (Expr.encloseDepth p required d)
      (Expr.enclose p required text) e := by
  unfold Expr.enclose Expr.encloseDepth
  split
  · have hgroup : Spells (.ofPrecedence Expr.atomPrecedence) (d + 1) ('(' :: text ++ [')']) e :=
      (h.weaken (Nat.zero_le p)).group
    exact hgroup.weaken hrequired
  · next hlt => exact h.weaken (Nat.le_of_not_lt hlt)

end Spells

/-! ## Literals -/

namespace Single

/-- A finite number spells the literal or the negation that it reads back as. -/
theorem spells {v : Single} (h : v.isFinite = true) :
    Spells .atom v.depth v.text v.normalize := by
  obtain ⟨whole, fraction, hwhole, hfraction, htext, hvalue⟩ := exists_text h
  have hbody : Spells .atom 0 (whole ++ '.' :: fraction) (.literal (.float v.unsigned)) :=
    .float hwhole hfraction hvalue h
  rw [htext]
  unfold depth normalize
  split
  · next hnegative =>
    have hneg : v.neg = v.unsigned := BinaryFloat.eq_of_parts (by simp [hnegative]; rfl) rfl
    rw [hneg]
    exact hbody.negation
  · next hnegative =>
    have hsame : v.unsigned = v :=
      BinaryFloat.eq_of_parts (Bool.eq_false_iff.mpr hnegative).symm rfl
    rw [hsame] at hbody
    exact hbody

/-- What a number reads back as stands for the number. -/
theorem constant_normalize (v : Single) : v.normalize.Constant v := by
  unfold normalize
  split
  · have hneg := Expr.Constant.negation (.literal v.neg)
    rwa [BinaryFloat.neg_neg] at hneg
  · exact .literal v

end Single

namespace Literal

theorem spells_integer {n : Int32} (h : -(Literal.integerBound : Int) < n.toInt) :
    Spells .atom (integer n).depth (integer n).text (integer n).normalize := by
  have hlt := n.toInt_lt
  have hlow : -2 ^ 31 < n.toInt := by
    rw [integerBound] at h
    omega
  have hbound : n.toInt.natAbs < integerBound := by
    rw [integerBound]
    omega
  have hdigits := Spells.integer hbound
  have hsign : n < 0 ↔ n.toInt < 0 := Int32.lt_iff_toInt_lt
  rw [depth, text, integerText, normalize]
  by_cases hneg : n.toInt < 0
  -- the least integer is excluded: it is its own opposite
  · have hvalue : Int32.ofNat n.toInt.natAbs = -n := by
      rw [← Int32.toInt_inj, Int32.toInt_ofNat_of_lt hbound, Int32.toInt_neg,
        Int.bmod_eq_of_le (by omega) (by omega)]
      omega
    rw [hvalue] at hdigits
    rw [if_pos (hsign.mpr hneg), if_pos hneg, if_pos (hsign.mpr hneg)]
    exact hdigits.negation
  · have hvalue : Int32.ofNat n.toInt.natAbs = n := by
      rw [← Int32.toInt_inj, Int32.toInt_ofNat_of_lt hbound]
      omega
    rw [hvalue] at hdigits
    rw [if_neg (mt hsign.mp hneg), if_neg hneg, if_neg (mt hsign.mp hneg)]
    exact hdigits

theorem spells {v : Literal} (h : v.Printable) : Spells .atom v.depth v.text v.normalize := by
  cases v with
  | float v => exact Single.spells h
  | integer n => exact spells_integer h
  | vec2 x y =>
    have hfold : VectorRule.folding.vec2 x.normalize y.normalize = .literal (.vec2 x y) :=
      Expr.vec2Call_iff.mp (.literal x.constant_normalize y.constant_normalize)
    have hcall := Spells.vec2Call (Single.spells h.1).expression (Single.spells h.2).expression
    rw [hfold] at hcall
    exact hcall
  | vec3 x y z =>
    have hfold : VectorRule.folding.vec3 x.normalize y.normalize z.normalize =
        .literal (.vec3 x y z) :=
      Expr.vec3Call_iff.mp
        (.literal x.constant_normalize y.constant_normalize z.constant_normalize)
    have hcall := Spells.vec3Call (Single.spells h.1).expression
      (Single.spells h.2.1).expression (Single.spells h.2.2).expression
    rw [hfold] at hcall
    exact hcall

end Literal

/-! ## Trees -/

namespace Expr

/-- The text of a tree spells its normal form, at the depth of the tree. -/
theorem spells (style : NameStyle) {e : Expr} (h : e.Printable) :
    Spells (.ofPrecedence e.precedence) (e.depth style) (e.textIn style) e.normalize := by
  fun_induction textIn style e with
  | case1 v => exact Literal.spells (h.literals v List.mem_cons_self)
  | case2 name => exact style.spells name (h.names name List.mem_cons_self)
  | case3 name =>
    obtain ⟨hne, hquote⟩ := h.names name List.mem_cons_self
    exact .propCall hne hquote
  | case4 value => exact .builtIn value
  | case5 x ih =>
    have hx := ih h.operand
    exact (hx.enclose (Nat.le_refl _)).negation
  | case6 op x hop ih =>
    have hx := ih h.operand
    obtain ⟨f, hspelling, hform⟩ := exists_callee_unary hop
    rw [depth, ← hspelling]
    · exact .unaryCall hform (hx.weaken (Nat.zero_le _))
    · exact hop
  | case7 x y z ihx ihy ihz =>
    obtain ⟨hx, hy, hz⟩ := h.components
    exact .vec3Call ((ihx hx).weaken (Nat.zero_le _)) ((ihy hy).weaken (Nat.zero_le _))
      ((ihz hz).weaken (Nat.zero_le _))
  | case8 op x y hnested hcall ihx ihy =>
    have hop := h.ne_vec3 hnested
    obtain ⟨hx, hy⟩ := h.operands hop
    have hx := (ihx hx).weaken (Nat.zero_le _)
    have hy := (ihy hy).weaken (Nat.zero_le _)
    rw [precedence_call hcall, depth_call hcall hop]
    by_cases hvec2 : op = .vec2
    · subst hvec2
      exact .vec2Call hx hy
    · obtain ⟨f, hspelling, hform⟩ := exists_callee_binary hcall hvec2 hop
      rw [← hspelling, normalize_binary hvec2 hop]
      exact .binaryCall hform hx hy
  | case9 op x y hnested hcall ihx ihy =>
    have hop : op ≠ .vec2 ∧ op ≠ .vec3 := by
      constructor <;> (rintro rfl; exact hcall rfl)
    have hcall := Bool.eq_false_iff.mpr hcall
    obtain ⟨hx, hy⟩ := h.operands hop.2
    rw [depth_operator hcall, normalize_binary hop.1 hop.2]
    exact ((ihx hx).enclose (leftPrecedence_le op)).between hcall
      ((ihy hy).enclose (rightPrecedence_le hcall)) fun _ _ _ => .operator hcall

end Expr
end EffectLang
