import EffectLang.Expr.Stack
import EffectLang.Proofs.Print.Roundtrip

/-!
# How high trees are

Printing, inference and comparison descend through a tree level by level, so they need as much stack
as the tree is high. The limit on nesting does not bound the height: a chain of operators at one
level of nesting makes a tree that is as high as the chain is long. It is the limit and the number of
operators in the source, together, that bound it.
-/

namespace EffectLang
namespace Expr

/-- The number of levels of a tree. -/
def height : Expr → Nat
  | unary _ x => x.height + 1
  | binary _ x y => max x.height y.height + 1
  | _ => 1

/-- The levels of a tree that printing descends through. A vector of three components and the one of
two in it are one level. -/
def textHeight : Expr → Nat
  | unary _ x => x.textHeight + 1
  | binary .vec3 (binary .vec2 x y) z =>
    max (max x.textHeight y.textHeight) z.textHeight + 1
  | binary _ x y => max x.textHeight y.textHeight + 1
  | _ => 1

/-! ## Recursion with a bounded stack -/

/-- Comparison with room for that many levels. Operands are compared only if the operators are the
same, and the right ones only if the left ones are. -/
def equalWithin : Nat → Expr → Expr → Option Bool
  | 0, _, _ => none
  | room + 1, e, e' =>
    match e, e' with
    | unary op x, unary op' x' => if op = op' then x.equalWithin room x' else some false
    | binary op x y, binary op' x' y' =>
      if op = op' then do
        if ← x.equalWithin room x' then y.equalWithin room y' else return false
      else some false
    | leaf, leaf' => some (decide (leaf = leaf'))

/-- All three have an answer with room for that many levels, and it is the right one. -/
structure FitsStack (room : Nat) (e : Expr) : Prop where
  text : e.textWithin room = some e.text
  type : ∀ context, e.resultTypeWithin context room = some (e.resultType context)
  equal : ∀ e', e.equalWithin room e' = some (decide (e = e'))

theorem height_pos (e : Expr) : 0 < e.height := by
  cases e <;> simp [height]

theorem textHeight_pos (e : Expr) : 0 < e.textHeight := by
  fun_cases textHeight <;> exact Nat.succ_pos _

theorem textHeight_le_height (e : Expr) : e.textHeight ≤ e.height := by
  fun_induction textHeight e <;> simp only [height] <;> omega

/-- Printing has an answer exactly if there is room for the levels that it descends through. -/
theorem textWithin_eq (room : Nat) (e : Expr) :
    e.textWithin room = if e.textHeight ≤ room then some e.text else none := by
  induction room generalizing e with
  | zero => rw [textWithin, if_neg (Nat.not_le.mpr e.textHeight_pos)]
  | succ room ih =>
    unfold textWithin
    split
    · next x =>
      rw [ih]
      by_cases hx : x.textHeight ≤ room <;> simp [textHeight, text, hx]
    · next op x hop =>
      have htext : (unary op x).text = callText op.spelling [x.text] := by
        cases op <;> first | rfl | exact absurd rfl hop
      rw [ih, htext]
      by_cases hx : x.textHeight ≤ room <;> simp [textHeight, hx]
    · next x y z =>
      rw [ih, ih, ih]
      by_cases hx : x.textHeight ≤ room <;> by_cases hy : y.textHeight ≤ room <;>
        by_cases hz : z.textHeight ≤ room <;> simp [textHeight, text, hx, hy, hz]
    · next op x y hnested =>
      rw [ih, ih, textHeight, text]
      · by_cases hx : x.textHeight ≤ room <;> by_cases hy : y.textHeight ≤ room <;> simp [hx, hy]
      · exact hnested
      · exact hnested
    · next hunary hnested hbinary =>
      rw [textHeight, if_pos (Nat.le_add_left 1 room)]
      · exact hunary
      · exact hnested
      · exact hbinary

theorem textWithin_of_height_le {room : Nat} {e : Expr} (h : e.height ≤ room) :
    e.textWithin room = some e.text := by
  rw [textWithin_eq, if_pos (Nat.le_trans e.textHeight_le_height h)]

theorem resultTypeWithin_of_height_le {context : TypeContext} {room : Nat} {e : Expr}
    (h : e.height ≤ room) : e.resultTypeWithin context room = some (e.resultType context) := by
  induction room generalizing e with
  | zero => exact absurd e.height_pos (Nat.not_lt.mpr h)
  | succ room ih =>
    cases e with
    | unary op x =>
      have hx : x.height ≤ room := Nat.le_of_succ_le_succ h
      rw [resultTypeWithin, ih hx]
      cases hX : x.resultType context <;> simp [resultType, hX]
    | binary op x y =>
      simp only [height] at h
      rw [resultTypeWithin, ih (by omega : x.height ≤ room), ih (by omega : y.height ≤ room)]
      cases hX : x.resultType context <;> cases hY : y.resultType context <;>
        simp [resultType, hX, hY]
    | _ => rfl

theorem equalWithin_of_height_le {room : Nat} {e : Expr} (h : e.height ≤ room) (e' : Expr) :
    e.equalWithin room e' = some (decide (e = e')) := by
  induction room generalizing e e' with
  | zero => exact absurd e.height_pos (Nat.not_lt.mpr h)
  | succ room ih =>
    unfold equalWithin
    split
    · next op x op' x' =>
      have hx : x.height ≤ room := Nat.le_of_succ_le_succ h
      rw [ih hx]
      by_cases hop : op = op' <;> simp [hop]
    · next op x y op' x' y' =>
      simp only [height] at h
      rw [ih (by omega : x.height ≤ room), ih (by omega : y.height ≤ room)]
      by_cases hop : op = op' <;> by_cases hx : x = x' <;> simp [hop, hx]
    · rfl

theorem fitsStack_of_height_le {room : Nat} {e : Expr} (h : e.height ≤ room) : e.FitsStack room :=
  ⟨textWithin_of_height_le h, fun _ => resultTypeWithin_of_height_le h, equalWithin_of_height_le h⟩

end Expr

/-! ## Sources -/

/-- The operators that make chains. -/
def TokenKind.isArithmetic : TokenKind → Bool
  | .operator op => op.isAdditive || op.isMultiplicative
  | _ => false

/-- The number of operators of arithmetic among the tokens. A minus sign counts wherever it
stands. -/
def operatorCount (ts : List Token) : Nat :=
  ts.countP (·.kind.isArithmetic)

theorem operatorCount_append (xs ys : List Token) :
    operatorCount (xs ++ ys) = operatorCount xs + operatorCount ys :=
  List.countP_append

theorem operatorCount_cons (t : Token) (ts : List Token) :
    operatorCount (t :: ts) = t.kind.isArithmetic.toNat + operatorCount ts := by
  cases h : t.kind.isArithmetic <;> simp [operatorCount, h, Nat.add_comm]

theorem toNat_isArithmetic {sign : Token} {op : BinaryOp} (hkind : sign.kind = .operator op)
    (hop : op.isAdditive = true ∨ op.isMultiplicative = true) :
    sign.kind.isArithmetic.toNat = 1 := by
  have harithmetic : sign.kind.isArithmetic = true := by
    simpa [hkind, TokenKind.isArithmetic] using hop
  rw [harithmetic, Bool.toNat_true]

/-- The levels of a tree without any nesting. Comparisons do not make chains. -/
def Phrase.levels : Phrase → Nat
  | .expression => 2
  | _ => 1

/-- A level of nesting makes three levels of the tree at most, and an operator makes one. -/
theorem Derives.height_le {phrase : Phrase} {d : Nat} {ts : List Token} {e : Expr}
    (h : Derives phrase d ts e) : e.height ≤ 3 * d + phrase.levels + operatorCount ts := by
  induction h with
  | uncompared _ ih =>
    dsimp only [Phrase.levels] at ih ⊢
    omega
  | comparison _ _ _ _ ihl ihr =>
    simp only [Expr.height, Phrase.levels, operatorCount_append, operatorCount_cons] at ihl ihr ⊢
    omega
  | term _ ih | factor _ ih => exact ih
  | sum _ hkind hop _ ihl ihr =>
    have hsign := toNat_isArithmetic hkind (.inl hop)
    simp only [Expr.height, Phrase.levels, operatorCount_append, operatorCount_cons, hsign]
      at ihl ihr ⊢
    omega
  | product _ hkind hop _ ihl ihr =>
    have hsign := toNat_isArithmetic hkind (.inr hop)
    simp only [Expr.height, Phrase.levels, operatorCount_append, operatorCount_cons, hsign]
      at ihl ihr ⊢
    omega
  | group _ _ _ ih =>
    simp only [Phrase.levels, operatorCount_append, operatorCount_cons] at ih ⊢
    omega
  | negation _ _ ih =>
    simp only [Expr.height, Phrase.levels, operatorCount_cons] at ih ⊢
    omega
  | number | name | builtIn | attrCall | propCall =>
    simp only [Expr.height, Phrase.levels]
    omega
  | unaryCall _ _ _ _ _ ih =>
    simp only [Expr.height, Phrase.levels, operatorCount_append, operatorCount_cons] at ih ⊢
    omega
  | binaryCall _ _ _ _ _ _ _ ihx ihy =>
    simp only [Expr.height, Phrase.levels, operatorCount_append, operatorCount_cons] at ihx ihy ⊢
    omega
  | vec2Call _ _ _ _ _ _ _ he ihx ihy =>
    cases he <;>
      simp only [Expr.vec2Node, Expr.height, Phrase.levels, operatorCount_append,
        operatorCount_cons] at ihx ihy ⊢ <;>
      omega
  | vec3Call _ _ _ _ _ _ _ _ _ he ihx ihy ihz =>
    -- the node of three components holds that of two
    cases he <;>
      simp only [Expr.vec3Node, Expr.height, Phrase.levels, operatorCount_append,
        operatorCount_cons] at ihx ihy ihz ⊢ <;>
      omega

namespace Expr

/-- A tree that reading gives is as high as the limit on nesting and the operators in the source
allow. With room for its levels on the stack, printing, inference and comparison have their
answers. -/
theorem height_le_of_parse {source : Text} {e : Expr} (h : parse source = .ok e) :
    e.height ≤ 3 * nestingLimit + 2 + operatorCount (significant (tokenize source)) ∧
      ∀ room, e.height ≤ room → e.FitsStack room := by
  obtain ⟨d, hd, hderives⟩ := Grammar.read_sound rfl h
  have hheight := hderives.height_le
  refine ⟨?_, fun room => fitsStack_of_height_le⟩
  dsimp only [Phrase.levels] at hheight
  omega

/-- A product in a sum in a call, which three operators of arithmetic and one level of nesting allow:
room for its five levels is enough. -/
theorem height_le_of_parse_call :
    parse "sin(a*a+a-a)".toList = .ok (unary .sin (binary .sub (binary .add
      (binary .mul (attr ['a']) (attr ['a'])) (attr ['a'])) (attr ['a']))) ∧
    operatorCount (significant (tokenize "sin(a*a+a-a)".toList)) = 3 ∧
    (unary .sin (binary .sub (binary .add (binary .mul (attr ['a']) (attr ['a'])) (attr ['a']))
      (attr ['a']))).FitsStack 5 := by
  have hparse : parse "sin(a*a+a-a)".toList = .ok (unary .sin (binary .sub (binary .add
      (binary .mul (attr ['a']) (attr ['a'])) (attr ['a'])) (attr ['a']))) := by
    decide +kernel
  exact ⟨hparse, by decide +kernel, (height_le_of_parse hparse).2 5 (by decide)⟩

/-! ## Chains -/

/-- A chain of additions of one summand. -/
def chain (x : Expr) : Nat → Expr
  | 0 => x
  | n + 1 => binary .add (x.chain n) x

section Chain
variable {x : Expr} {room n : Nat}

theorem height_chain : (x.chain n).height = x.height + n := by
  induction n with
  | zero => rfl
  | succ n ih =>
    simp only [chain, height, ih]
    omega

/-- A chain has no parentheses. -/
theorem depth_chain {style : NameStyle} (hx : x.precedence = atomPrecedence) :
    (x.chain n).depth style = x.depth style := by
  induction n with
  | zero => rfl
  | succ n ih =>
    have hleft : ¬ (x.chain n).precedence < leftPrecedence .add := by
      cases n with
      | zero =>
        rw [chain, hx]
        decide
      | succ n => exact Nat.lt_irrefl _
    have hright : ¬ x.precedence < rightPrecedence .add := by
      rw [hx]
      decide
    rw [chain, depth_operator rfl, encloseDepth, if_neg hleft, encloseDepth, if_neg hright, ih,
      Nat.max_self]

theorem normal_chain (hx : x.Normal) : (x.chain n).Normal := by
  induction n with
  | zero => exact hx
  | succ n ih => exact ⟨ih.toLeavesAre.binary hx.toLeavesAre, ih.vectors, hx.vectors⟩

theorem textHeight_chain : (x.chain n).textHeight = x.textHeight + n := by
  induction n with
  | zero => rfl
  | succ n ih =>
    rw [chain, textHeight, ih]
    · omega
    · exact nofun

/-- Room for one level less than a chain has is not enough: the descent is along the left operands,
one for each operator. -/
theorem textWithin_chain (h : room ≤ n) : (x.chain n).textWithin room = none := by
  have hpos := x.textHeight_pos
  rw [textWithin_eq, textHeight_chain, if_neg (by omega)]

theorem resultTypeWithin_chain (context : TypeContext) (h : room ≤ n) :
    (x.chain n).resultTypeWithin context room = none := by
  induction room generalizing n with
  | zero => rfl
  | succ room ih =>
    cases n with
    | zero => exact absurd h (Nat.not_succ_le_zero room)
    | succ n => simp [chain, resultTypeWithin, ih (Nat.le_of_succ_le_succ h)]

theorem equalWithin_chain (h : room ≤ n) : (x.chain n).equalWithin room (x.chain n) = none := by
  induction room generalizing n with
  | zero => rfl
  | succ room ih =>
    cases n with
    | zero => exact absurd h (Nat.not_succ_le_zero room)
    | succ n => simp [chain, equalWithin, ih (Nat.le_of_succ_le_succ h)]

/-- A chain is not nested, so it is read from its text if its summand is. -/
theorem parse_chain (hnormal : x.Normal) (hx : x.precedence = atomPrecedence)
    (hdepth : x.depth .bare ≤ nestingLimit) :
    parse ((x.chain n).textIn .bare) = .ok (x.chain n) := by
  refine (normal_chain hnormal).parse_textIn ?_
  rwa [depth_chain hx]

end Chain

/-- No bound holds for all trees that are read, and no stack is large enough for all of them. Chains
of additions are not nested, and their trees are as high as the chains are long. -/
theorem not_exists_height_bound :
    (¬ ∃ bound, ∀ source e, parse source = .ok e → e.height ≤ bound) ∧
    ∀ room, ∃ source e, parse source = .ok e ∧ e.textWithin room = none ∧
      (∀ context, e.resultTypeWithin context room = none) ∧ e.equalWithin room e = none := by
  have hnormal : (attr ['a']).Normal :=
    ⟨⟨nofun, List.forall_mem_singleton.mpr ⟨by decide, by decide⟩⟩, trivial⟩
  have hparse (n : Nat) :
      parse (((attr ['a']).chain n).textIn .bare) = .ok ((attr ['a']).chain n) :=
    parse_chain hnormal rfl (by decide)
  constructor
  · rintro ⟨bound, hbound⟩
    have hle := hbound _ _ (hparse bound)
    rw [height_chain] at hle
    have hpos := height_pos (attr ['a'])
    omega
  · intro room
    exact ⟨_, _, hparse room, textWithin_chain le_rfl,
      fun context => resultTypeWithin_chain context le_rfl, equalWithin_chain le_rfl⟩

end Expr
end EffectLang
