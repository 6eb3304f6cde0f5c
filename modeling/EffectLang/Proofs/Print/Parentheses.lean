import EffectLang.Proofs.Print.Legible

/-!
# How many parentheses a text has

A parenthesis that does not begin the arguments of a call is there to group. The tokens that denote
a tree hold at least as many of these as its shape asks for, because the grammar leaves an operand
that is too loose no other way into its place. The canonical text holds exactly that many, so no
source of a tree has fewer.
-/

namespace EffectLang

/-! ## Parentheses that group -/

def TokenKind.isCallee : TokenKind → Bool
  | callee _ => true
  | _ => false

/-- The number of opening parentheses that do not directly follow a callable name. The flag says
whether the tokens themselves follow one. -/
def groupingsAfter (called : Bool) : List Token → Nat
  | [] => 0
  | t :: ts =>
    (if t.kind = .leftParen ∧ called = false then 1 else 0) + groupingsAfter t.kind.isCallee ts

/-- The number of parentheses that open a group and no call. -/
def groupings (tokens : List Token) : Nat :=
  groupingsAfter false tokens

section
variable {t head opening closing : Token} {f : Callee}

theorem groupings_cons (h : t.kind ≠ .leftParen) (hcallee : t.kind.isCallee = false)
    (ts : List Token) : groupings (t :: ts) = groupings ts := by
  simp [groupings, groupingsAfter, h, hcallee]

theorem groupings_open (h : opening.kind = .leftParen) (ts : List Token) :
    groupings (opening :: ts) = groupings ts + 1 := by
  simp [groupings, groupingsAfter, h, TokenKind.isCallee, Nat.add_comm]

theorem groupings_call (hhead : head.kind = .callee f) (hopen : opening.kind = .leftParen)
    (ts : List Token) : groupings (head :: opening :: ts) = groupings ts := by
  simp [groupings, groupingsAfter, hhead, hopen, TokenKind.isCallee]

/-- Tokens around one that begins neither a group nor a call. -/
theorem groupings_around (h : t.kind ≠ .leftParen) (hcallee : t.kind.isCallee = false)
    (xs ys : List Token) : groupings (xs ++ t :: ys) = groupings xs + groupings ys := by
  have happend (called : Bool) :
      groupingsAfter called (xs ++ t :: ys) = groupingsAfter called xs + groupings ys := by
    induction xs generalizing called with
    | nil => simp [groupings, groupingsAfter, h, hcallee]
    | cons x xs ih => rw [List.cons_append, groupingsAfter, groupingsAfter, ih, Nat.add_assoc]
  exact happend false

theorem groupings_between {op : BinaryOp} (h : t.kind = .operator op) (xs ys : List Token) :
    groupings (xs ++ t :: ys) = groupings xs + groupings ys :=
  groupings_around (by simp [h]) (by rw [h]; rfl) xs ys

theorem groupings_argument (h : t.kind = .comma) (xs ys : List Token) :
    groupings (xs ++ t :: ys) = groupings xs + groupings ys :=
  groupings_around (by simp [h]) (by rw [h]; rfl) xs ys

theorem groupings_closed (h : closing.kind = .rightParen) (xs : List Token) :
    groupings (xs ++ [closing]) = groupings xs :=
  groupings_around (by simp [h]) (by rw [h]; rfl) xs []

end

/-! ## What the shape of a tree asks for -/

/-- The number of groups in the canonical text of a tree: an operand that is looser than its place
asks is one. -/
def Expr.groupCount : Expr → Nat
  | unary .neg x => encloseDepth x.precedence atomPrecedence x.groupCount
  | unary _ x => x.groupCount
  | binary op x y =>
    if op.isCall then x.groupCount + y.groupCount
    else
      encloseDepth x.precedence (leftPrecedence op) x.groupCount +
        encloseDepth y.precedence (rightPrecedence op) y.groupCount
  | _ => 0

namespace Expr

theorem groupCount_unary {op : UnaryOp} (h : op ≠ .neg) (x : Expr) :
    (unary op x).groupCount = x.groupCount := by
  cases op <;> first | rfl | exact absurd rfl h

theorem groupCount_call {op : BinaryOp} (h : op.isCall = true) (x y : Expr) :
    (binary op x y).groupCount = x.groupCount + y.groupCount :=
  if_pos h

theorem groupCount_operator {op : BinaryOp} (h : op.isCall = false) (x y : Expr) :
    (binary op x y).groupCount = encloseDepth x.precedence (leftPrecedence op) x.groupCount +
      encloseDepth y.precedence (rightPrecedence op) y.groupCount :=
  if_neg (Bool.eq_false_iff.mp h)

/-- A place that asks for nothing needs no parentheses, and neither does an atom anywhere. -/
theorem encloseDepth_of_atom {e : Expr} (h : e.precedence = atomPrecedence) (phrase : Phrase)
    (n : Nat) : encloseDepth e.precedence phrase.precedence n = n := by
  rw [h]
  cases phrase <;> rfl

end Expr

/-! ## Sources -/

/-- The tokens of a phrase hold a group for every operand that is looser than its place asks, the
tree itself included. -/
theorem Derives.groupings_le {phrase : Phrase} {d : Nat} {ts : List Token} {e : Expr}
    (h : Derives phrase d ts e) :
    Expr.encloseDepth e.precedence phrase.precedence e.groupCount ≤ groupings ts := by
  induction h with
  | uncompared _ ih | term _ ih | factor _ ih =>
    exact Nat.le_trans (Expr.encloseDepth_mono (by decide)) ih
  | @comparison dl dr ls rs l r sign op _ hkind hop _ ihl ihr
  | @sum dl dr ls rs l r sign op _ hkind hop _ ihl ihr
  | @product dl dr ls rs l r sign op _ hkind hop _ ihl ihr =>
    rw [groupings_between hkind]
    -- an operator of the class asks of its operands what the rule does; one outside is excluded
    cases op <;> first
      | exact Nat.add_le_add ihl ihr
      | cases hop
  | group hopen _ hclose ih =>
    rw [groupings_open hopen, groupings_closed hclose]
    refine Nat.le_trans (Expr.encloseDepth_le _ _ _) (Nat.succ_le_succ ?_)
    rwa [Phrase.precedence, Expr.encloseDepth_zero] at ih
  | negation hkind _ ih =>
    rw [groupings_cons (by simp [hkind]) (by rw [hkind]; rfl)]
    exact ih
  | number | name | builtIn | attrCall | propCall => exact Nat.zero_le _
  | unaryCall hhead hform hopen _ hclose ih =>
    rw [groupings_call hhead hopen, groupings_closed hclose,
      Expr.groupCount_unary (Callee.ne_neg_of_form hform)]
    exact ih
  | binaryCall hhead hform hopen _ hcomma _ hclose ihx ihy =>
    obtain ⟨hcall, -, -⟩ := Callee.isCall_of_form hform
    rw [groupings_call hhead hopen, groupings_argument hcomma, groupings_closed hclose,
      Expr.encloseDepth_of_atom (Expr.precedence_call hcall _ _), Expr.groupCount_call hcall]
    exact Nat.add_le_add ihx ihy
  | vec2Call hhead _ hopen _ hcomma _ hclose he ihx ihy =>
    rw [groupings_call hhead hopen, groupings_argument hcomma, groupings_closed hclose]
    cases he with
    | literal => exact Nat.zero_le _
    | node => exact Nat.add_le_add ihx ihy
  | vec3Call hhead _ hopen _ hcomma _ hcomma' _ hclose he ihx ihy ihz =>
    rw [groupings_call hhead hopen, groupings_argument hcomma, groupings_argument hcomma',
      groupings_closed hclose, ← Nat.add_assoc]
    cases he with
    | literal => exact Nat.zero_le _
    | node => exact Nat.add_le_add (Nat.add_le_add ihx ihy) ihz

/-! ## Canonical texts -/

namespace Writes
variable {text tx ty tz : Text} {m n k : Nat}

theorem groupings_negation (h : Writes (groupings · = n) text) :
    Writes (groupings · = n) ('-' :: text) := by
  refine h.negation.imp ?_
  rintro _ ⟨xs, sign, rfl, hkind, hxs⟩
  rw [groupings_cons (by simp [hkind]) (by rw [hkind]; rfl), hxs]

theorem groupings_enclose (h : Writes (groupings · = n) text) (precedence required : Nat) :
    Writes (groupings · = Expr.encloseDepth precedence required n)
      (Expr.enclose precedence required text) := by
  unfold Expr.enclose Expr.encloseDepth
  split
  · refine h.group.imp ?_
    rintro _ ⟨xs, opening, closing, rfl, hopen, hxs, hclose⟩
    rw [groupings_open hopen, groupings_closed hclose, hxs]
  · exact h

theorem groupings_between {op : BinaryOp} (hop : op.isCall = false)
    (hx : Writes (groupings · = m) tx) (hy : Writes (groupings · = n) ty) :
    Writes (groupings · = m + n) (tx ++ [' '] ++ op.spelling ++ [' '] ++ ty) := by
  refine (hx.between hop hy).imp ?_
  rintro _ ⟨xs, ys, sign, rfl, hxs, hkind, hys⟩
  rw [EffectLang.groupings_between hkind, hxs, hys]

theorem groupings_reference {f : Callee} {kind : TokenKind} {name : Text}
    (hf : Announced.nothing.after (.callee f) = .parenthesis kind) (hkind : kind.isWord = true)
    (hquote : '"' ∉ name) :
    Writes (groupings · = 0) (callText f.spelling [Expr.nameText name]) := by
  refine (Writes.reference hf hkind hquote).imp ?_
  rintro _ ⟨head, opening, token, closing, rfl, hhead, hopen, hname, hclose⟩
  have hne : token.kind ≠ .leftParen := hname.kind_ne rfl nofun
  rw [groupings_call hhead hopen, ← List.singleton_append, groupings_closed hclose]
  simp [groupings, groupingsAfter, hne]

section
variable {f : Callee} (hf : Announced.nothing.after (.callee f) = .nothing)
include hf

theorem groupings_callOfOne (hx : Writes (groupings · = n) tx) :
    Writes (groupings · = n) (callText f.spelling [tx]) := by
  refine (Writes.callOfOne hf hx).imp ?_
  rintro _ ⟨xs, head, opening, closing, rfl, hhead, hopen, hxs, hclose⟩
  rw [groupings_call hhead hopen, groupings_closed hclose, hxs]

theorem groupings_callOfTwo (hx : Writes (groupings · = m) tx)
    (hy : Writes (groupings · = n) ty) :
    Writes (groupings · = m + n) (callText f.spelling [tx, ty]) := by
  refine (Writes.callOfTwo hf hx hy).imp ?_
  rintro _ ⟨xs, ys, head, opening, comma, closing, rfl, hhead, hopen, hxs, hcomma, hys, hclose⟩
  rw [groupings_call hhead hopen, groupings_argument hcomma, groupings_closed hclose, hxs, hys]

theorem groupings_callOfThree (hx : Writes (groupings · = m) tx)
    (hy : Writes (groupings · = n) ty) (hz : Writes (groupings · = k) tz) :
    Writes (groupings · = m + n + k) (callText f.spelling [tx, ty, tz]) := by
  refine (Writes.callOfThree hf hx hy hz).imp ?_
  rintro _ ⟨xs, ys, zs, head, opening, comma, comma', closing, rfl, hhead, hopen, hxs, hcomma, hys,
    hcomma', hzs, hclose⟩
  rw [groupings_call hhead hopen, groupings_argument hcomma, groupings_argument hcomma',
    groupings_closed hclose, hxs, hys, hzs, Nat.add_assoc]

end

end Writes

theorem Single.writes_groupings {v : Single} (h : v.isFinite = true) :
    Writes (groupings · = 0) v.text := by
  obtain ⟨whole, fraction, hwhole, hfraction, htext, -⟩ := exists_text h
  have hbody : Writes (groupings · = 0) (whole ++ '.' :: fraction) := by
    refine (Writes.float hwhole hfraction).imp ?_
    rintro _ ⟨start, rfl⟩
    rfl
  rw [htext]
  split
  · exact hbody.groupings_negation
  · exact hbody

theorem Literal.writes_groupings {v : Literal} (h : v.IsFinite) :
    Writes (groupings · = 0) v.text := by
  cases v with
  | float v => exact Single.writes_groupings h
  | integer n =>
    have hlow := n.le_toInt
    have hlt := n.toInt_lt
    have hlength : (digitsOf n.toInt.natAbs).length ≤ numeralDigitLimit := by
      refine length_digitsOf_le ?_
      rw [integerBound]
      omega
    have hdigits : Writes (groupings · = 0) (digitsOf n.toInt.natAbs) := by
      refine (Writes.integer (isDigits_digitsOf _) hlength).imp ?_
      rintro _ ⟨start, rfl⟩
      rfl
    rw [text, integerText]
    split
    · exact hdigits.groupings_negation
    · exact hdigits
  | vec2 x y =>
    exact Writes.groupings_callOfTwo (f := .vec2) rfl (Single.writes_groupings h.1)
      (Single.writes_groupings h.2)
  | vec3 x y z =>
    exact Writes.groupings_callOfThree (f := .vec3) rfl (Single.writes_groupings h.1)
      (Single.writes_groupings h.2.1) (Single.writes_groupings h.2.2)

namespace Expr

/-- The canonical text of a legible tree holds the groups that the shape of the tree asks for. -/
theorem writes_groupings {e : Expr} (h : e.Legible) :
    Writes (groupings · = e.groupCount) e.text := by
  fun_induction text e with
  | case1 v => exact Literal.writes_groupings (h.literals v List.mem_cons_self)
  | case2 name | case3 name =>
    exact .groupings_reference rfl rfl (h.names name List.mem_cons_self)
  | case4 value =>
    refine (Writes.builtIn value).imp ?_
    rintro _ ⟨start, rfl⟩
    rfl
  | case5 x ih =>
    exact ((ih h.operand).groupings_enclose x.precedence atomPrecedence).groupings_negation
  | case6 op x hop ih =>
    obtain ⟨f, hspelling, hform⟩ := exists_callee_unary hop
    rw [← hspelling, groupCount_unary hop]
    exact .groupings_callOfOne (after_callee (by simp [hform]) (by simp [hform])) (ih h.operand)
  | case7 x y z ihx ihy ihz =>
    exact .groupings_callOfThree (f := .vec3) rfl (ihx h.left.left) (ihy h.left.right)
      (ihz h.right)
  | case8 op x y _ hcall ihx ihy =>
    obtain ⟨f, hspelling, hafter, -, -⟩ := exists_callee_of_isCall hcall
    rw [← hspelling, groupCount_call hcall]
    exact .groupings_callOfTwo hafter (ihx h.left) (ihy h.right)
  | case9 op x y _ hcall ihx ihy =>
    have hcall := Bool.eq_false_iff.mpr hcall
    rw [groupCount_operator hcall]
    exact .groupings_between hcall ((ihx h.left).groupings_enclose x.precedence (leftPrecedence op))
      ((ihy h.right).groupings_enclose y.precedence (rightPrecedence op))

theorem Normal.legible {e : Expr} (h : e.Normal) : e.Legible where
  literals v hv := by
    have hprintable := (h.literals v hv).printable
    cases v with
    | integer n => trivial
    | _ => exact hprintable
  names name hname := (h.names name hname).2

/-- The canonical text denotes the tree that was read, and holds no more parentheses that group than
the source that it was read from, nor than any other source. -/
theorem groupings_text_le {source : Text} {e : Expr} (h : Expr.parse source = .ok e) :
    Derives .expression (e.depth .calls) (significant (tokenize e.text)) e ∧
    groupings (significant (tokenize e.text)) ≤ groupings (significant (tokenize source)) := by
  obtain ⟨hnormal, -⟩ := normal_of_parse h
  obtain ⟨d, -, hderives⟩ := Grammar.read_sound rfl h
  have htext := (spells_text hnormal.printable).derives.1
  rw [normalize_of_normal hnormal] at htext
  refine ⟨htext, ?_⟩
  calc groupings (significant (tokenize e.text))
      = e.groupCount := (writes_groupings hnormal.legible).tokens.1
    _ = encloseDepth e.precedence Phrase.expression.precedence e.groupCount :=
        (encloseDepth_zero _ _).symm
    _ ≤ groupings (significant (tokenize source)) := hderives.groupings_le

/-- Of the four groups in the source, the sums on either side of the product and of the difference
keep theirs. -/
theorem groupings_text_of_nested_groups :
    Expr.parse "((1+x))*sin((y))-(2-z)".toList =
      .ok (binary .sub
        (binary .mul (binary .add (literal (.integer 1)) (attr ['x'])) (unary .sin (attr ['y'])))
        (binary .sub (literal (.integer 2)) (attr ['z']))) ∧
    groupings (significant (tokenize (binary .sub
        (binary .mul (binary .add (literal (.integer 1)) (attr ['x'])) (unary .sin (attr ['y'])))
        (binary .sub (literal (.integer 2)) (attr ['z']))).text)) = 2 ∧
    groupings (significant (tokenize "((1+x))*sin((y))-(2-z)".toList)) = 4 ∧
    groupings (significant (tokenize (binary .sub
        (binary .mul (binary .add (literal (.integer 1)) (attr ['x'])) (unary .sin (attr ['y'])))
        (binary .sub (literal (.integer 2)) (attr ['z']))).text)) ≤
      groupings (significant (tokenize "((1+x))*sin((y))-(2-z)".toList)) := by
  have hread : Expr.parse "((1+x))*sin((y))-(2-z)".toList =
      .ok (binary .sub
        (binary .mul (binary .add (literal (.integer 1)) (attr ['x'])) (unary .sin (attr ['y'])))
        (binary .sub (literal (.integer 2)) (attr ['z']))) := by
    decide +kernel
  exact ⟨hread, by decide +kernel, by decide +kernel, (groupings_text_le hread).2⟩

end Expr
end EffectLang
