import EffectLang.Proofs.Grammar.Parts
import EffectLang.Proofs.Print.Roundtrip
import EffectLang.Proofs.Typing.Inference

/-!
# Texts that do not mislead

Not every tree is what some source denotes. The least integer is out of range when its sign is taken
off, an empty name cannot be quoted, and a vector of three components whose left operand is no
vector of two is written as a call with too few arguments. The tokens of such a text show that it is
no expression. So the text of a tree whose numbers are finite and whose names hold no quotation mark
either reads as a tree that means the same, or is rejected.
-/

namespace EffectLang

/-! ## Legible trees -/

/-- Every number in the literal is finite. -/
def Literal.IsFinite : Literal → Prop
  | .float v => v.isFinite = true
  | .integer _ => True
  | .vec2 x y => x.isFinite = true ∧ y.isFinite = true
  | .vec3 x y z => x.isFinite = true ∧ y.isFinite = true ∧ z.isFinite = true

namespace Expr

/-- The numbers of the tree are written with digits, and its names end where their quotes do. -/
structure Legible (e : Expr) : Prop where
  literals : ∀ v ∈ e.literals, v.IsFinite
  names : ∀ name ∈ e.names, '"' ∉ name

namespace Legible
variable {x y : Expr}

theorem operand {op : UnaryOp} (h : (unary op x).Legible) : x.Legible :=
  ⟨h.literals, h.names⟩

theorem left {op : BinaryOp} (h : (binary op x y).Legible) : x.Legible :=
  ⟨(List.forall_mem_append.mp h.literals).1, (List.forall_mem_append.mp h.names).1⟩

theorem right {op : BinaryOp} (h : (binary op x y).Legible) : y.Legible :=
  ⟨(List.forall_mem_append.mp h.literals).2, (List.forall_mem_append.mp h.names).2⟩

end Legible

/-! ## What the tokens show -/

/-- The tokens show whether the tree has a text: there are not too many commas in them, enough of
them only if the vectors are nested, and the tokens are proper only if the leaves can be written. -/
structure ShowsIn (e : Expr) (ts : List Token) : Prop where
  commas : 0 ≤ missingCommas ts
  vectors : missingCommas ts = 0 → e.VectorsNested
  leaves : (∀ t ∈ ts, t.Proper) → e.LeavesAre Literal.Printable

namespace ShowsIn
variable {e x y z : Expr} {ts xs ys zs : List Token}

/-- Where a phrase is derived from the tokens, the tree has a text. -/
theorem printable {phrase : Phrase} {d : Nat} {e' : Expr} (h : e.ShowsIn ts)
    (hderives : Derives phrase d ts e') : e.Printable :=
  ⟨h.leaves hderives.proper, h.vectors hderives.missingCommas_eq⟩

theorem of_derives {phrase : Phrase} {d : Nat} {e' : Expr} (he : e.Printable)
    (h : Derives phrase d ts e') : e.ShowsIn ts where
  commas := Int.le_of_eq h.missingCommas_eq.symm
  vectors _ := he.vectors
  leaves _ := he.toLeavesAre

/-- More tokens, which ask for no commas and are none. -/
theorem within (h : e.ShowsIn xs) (hcommas : missingCommas ts = missingCommas xs)
    (hsub : ∀ t ∈ xs, t ∈ ts) : e.ShowsIn ts where
  commas := hcommas ▸ h.commas
  vectors hnone := h.vectors (hcommas ▸ hnone)
  leaves hts := h.leaves fun t ht => hts t (hsub t ht)

theorem unary (op : UnaryOp) (h : x.ShowsIn ts) : (Expr.unary op x).ShowsIn ts where
  commas := h.commas
  vectors hnone := h.vectors hnone
  leaves hts := ⟨(h.leaves hts).literals, (h.leaves hts).names⟩

/-- The tokens of two operands with others, which may ask for commas but have none to spare. -/
theorem binary {op : BinaryOp} (hx : x.ShowsIn xs) (hy : y.ShowsIn ys)
    (hcommas : missingCommas xs + missingCommas ys ≤ missingCommas ts)
    (hvectors : missingCommas ts = 0 → x.VectorsNested → y.VectorsNested →
      (Expr.binary op x y).VectorsNested)
    (hxs : ∀ t ∈ xs, t ∈ ts) (hys : ∀ t ∈ ys, t ∈ ts) : (Expr.binary op x y).ShowsIn ts where
  commas := Int.le_trans (Int.add_nonneg hx.commas hy.commas) hcommas
  vectors hnone := by
    have hx0 := hx.commas
    have hy0 := hy.commas
    exact hvectors hnone (hx.vectors (by omega)) (hy.vectors (by omega))
  leaves hts :=
    (hx.leaves fun t ht => hts t (hxs t ht)).binary (hy.leaves fun t ht => hts t (hys t ht))

/-- The tokens of three components with others. -/
theorem vec3 (hx : x.ShowsIn xs) (hy : y.ShowsIn ys) (hz : z.ShowsIn zs)
    (hcommas : missingCommas ts = missingCommas xs + missingCommas ys + missingCommas zs)
    (hxs : ∀ t ∈ xs, t ∈ ts) (hys : ∀ t ∈ ys, t ∈ ts) (hzs : ∀ t ∈ zs, t ∈ ts) :
    (Expr.binary .vec3 (.binary .vec2 x y) z).ShowsIn ts := by
  have hx0 := hx.commas
  have hy0 := hy.commas
  have hz0 := hz.commas
  refine ⟨by omega, fun hnone => ⟨?_, ?_, ?_⟩, fun hts => ?_⟩
  · exact hx.vectors (by omega)
  · exact hy.vectors (by omega)
  · exact hz.vectors (by omega)
  · have hxy : (Expr.binary .vec2 x y).LeavesAre Literal.Printable :=
      (hx.leaves fun t ht => hts t (hxs t ht)).binary (hy.leaves fun t ht => hts t (hys t ht))
    exact hxy.binary (hz.leaves fun t ht => hts t (hzs t ht))

end ShowsIn

/-! ## Leaves -/

/-- The digits of the least integer are out of range. -/
theorem writes_leastInteger {n : Int32} (h : ¬ (Literal.integer n).Printable) :
    Writes (literal (.integer n)).ShowsIn (Literal.integer n).text := by
  have hbound : Literal.integerBound = 0x80000000 := rfl
  have hleast : n.toInt ≤ -(Literal.integerBound : Int) := Int.not_lt.mp h
  have hlow := n.le_toInt
  have hneg : n.toInt < 0 := by omega
  have hvalue : n.toInt.natAbs = Literal.integerBound := by omega
  have hdigits := Writes.integer (isDigits_digitsOf n.toInt.natAbs)
    (length_digitsOf_le (Nat.le_of_eq hvalue))
  have htext : (Literal.integer n).text = '-' :: digitsOf n.toInt.natAbs := if_pos hneg
  rw [htext]
  refine hdigits.negation.imp ?_
  rintro _ ⟨_, sign, rfl, hkind, start, rfl⟩
  generalize htoken : Token.mk .integer (digitsOf n.toInt.natAbs) start = token
  have hinteger : token.kind = .integer := by rw [← htoken]
  have hcommas : missingCommas [sign, token] = 0 := by
    rw [missingCommas_operator hkind, missingCommas_of_kind hinteger nofun nofun]
    rfl
  refine ⟨Int.le_of_eq hcommas.symm, fun _ => trivial, fun hts => ?_⟩
  have hlt := (hts token (by simp)).integer hinteger
  rw [← htoken, ofDigits_digitsOf, hvalue] at hlt
  exact absurd hlt (Nat.lt_irrefl _)

/-- Every literal with finite numbers but the least integer is an expression. -/
theorem writes_literal {v : Literal} (h : v.IsFinite) : Writes (literal v).ShowsIn v.text := by
  by_cases hprintable : v.Printable
  · have he : (literal v).Printable :=
      ⟨⟨List.forall_mem_singleton.mpr hprintable, List.forall_mem_nil _⟩, trivial⟩
    exact (Literal.spells hprintable).writes.imp fun _ => .of_derives he
  · cases v with
    | float v => exact absurd h hprintable
    | vec2 x y => exact absurd h hprintable
    | vec3 x y z => exact absurd h hprintable
    | integer n => exact writes_leastInteger hprintable

/-- Between the quotes of an empty name there is nothing, and every other name is an expression. -/
theorem writes_reference {e : Expr} {f : Callee} {kind : TokenKind} {name : Text}
    (hf : Announced.nothing.after (.callee f) = .parenthesis kind) (hkind : kind.isWord = true)
    (harity : f.arity = 1) (hquote : '"' ∉ name) (hvectors : e.VectorsNested)
    (hleaves : name ≠ [] → e.LeavesAre Literal.Printable) :
    Writes e.ShowsIn (callText f.spelling [nameText name]) := by
  refine (Writes.reference hf hkind hquote).imp ?_
  rintro _ ⟨head, opening, token, closing, rfl, hhead, hopen, hname, hclose⟩
  have hcomma : token.kind ≠ .comma := hname.kind_ne rfl nofun
  have hcommas := missingCommas_reference hhead hopen hclose harity hcomma
  refine ⟨Int.le_of_eq hcommas.symm, fun _ => hvectors, fun hts => hleaves ?_⟩
  rintro rfl
  cases hname with
  | word hword => cases hword
  | quoted hstring htext =>
    have hproper := (hts token (by simp)).string hstring
    simp [htext] at hproper

/-! ## Trees -/

theorem writes_enclose {e : Expr} {text : Text} (h : Writes e.ShowsIn text)
    (precedence required : Nat) : Writes e.ShowsIn (enclose precedence required text) := by
  unfold enclose
  split
  · refine h.group.imp ?_
    rintro _ ⟨xs, opening, closing, rfl, hopen, hxs, hclose⟩
    refine hxs.within ?_ (by simp +contextual)
    rw [missingCommas_of_kind hopen nofun nofun, missingCommas_closed hclose]
  · exact h

/-- A call with two arguments that is written for a binary node: only that of a vector of three
components lacks one. -/
theorem exists_callee_of_isCall {op : BinaryOp} (h : op.isCall = true) :
    ∃ f : Callee, f.spelling = op.spelling ∧ Announced.nothing.after (.callee f) = .nothing ∧
      2 ≤ f.arity ∧ (op = .vec3 → f.arity = 3) := by
  cases op with
  | dot => exact ⟨.dot, rfl, rfl, by decide, nofun⟩
  | cross => exact ⟨.cross, rfl, rfl, by decide, nofun⟩
  | min => exact ⟨.min, rfl, rfl, by decide, nofun⟩
  | max => exact ⟨.max, rfl, rfl, by decide, nofun⟩
  | vec2 => exact ⟨.vec2, rfl, rfl, by decide, nofun⟩
  | vec3 => exact ⟨.vec3, rfl, rfl, by decide, fun _ => rfl⟩
  | _ => cases h

/-- The tokens of the text of a legible tree show whether it has one. -/
theorem writes_text {e : Expr} (h : e.Legible) : Writes e.ShowsIn e.text := by
  fun_induction text e with
  | case1 v => exact writes_literal (h.literals v List.mem_cons_self)
  | case2 name =>
    have hquote := h.names name List.mem_cons_self
    exact writes_reference rfl rfl rfl hquote trivial fun hne =>
      ⟨List.forall_mem_nil _, List.forall_mem_singleton.mpr ⟨hne, hquote⟩⟩
  | case3 name =>
    have hquote := h.names name List.mem_cons_self
    exact writes_reference rfl rfl rfl hquote trivial fun hne =>
      ⟨List.forall_mem_nil _, List.forall_mem_singleton.mpr ⟨hne, hquote⟩⟩
  | case4 value =>
    exact (Spells.builtIn value).writes.imp fun _ =>
      .of_derives ⟨⟨List.forall_mem_nil _, List.forall_mem_nil _⟩, trivial⟩
  | case5 x ih =>
    refine (writes_enclose (ih h.operand) x.precedence atomPrecedence).negation.imp ?_
    rintro _ ⟨xs, sign, rfl, hkind, hxs⟩
    exact (hxs.within (missingCommas_operator hkind xs) (by simp +contextual)).unary .neg
  | case6 op x hop ih =>
    obtain ⟨f, hspelling, hform⟩ := exists_callee_unary hop
    rw [← hspelling]
    refine (Writes.callOfOne (after_callee (by simp [hform]) (by simp [hform]))
      (ih h.operand)).imp ?_
    rintro _ ⟨xs, head, opening, closing, rfl, hhead, hopen, hxs, hclose⟩
    refine (hxs.within ?_ (by simp +contextual)).unary op
    rw [missingCommas_callOfOne hhead hopen hclose, Callee.arity, hform]
    exact Int.zero_add _
  | case7 x y z ihx ihy ihz =>
    refine (Writes.callOfThree (f := .vec3) rfl (ihx h.left.left) (ihy h.left.right)
      (ihz h.right)).imp ?_
    rintro _ ⟨xs, ys, zs, head, opening, comma, comma', closing, rfl, hhead, hopen, hxs, hcomma,
      hys, hcomma', hzs, hclose⟩
    refine hxs.vec3 hys hzs ?_ (by simp +contextual) (by simp +contextual) (by simp +contextual)
    rw [missingCommas_callOfThree hhead hopen hcomma hcomma' hclose]
    simp [Callee.arity, Callee.form]
  | case8 op x y hnested hcall ihx ihy =>
    obtain ⟨f, hspelling, hafter, harity, hvec3⟩ := exists_callee_of_isCall hcall
    rw [← hspelling]
    refine (Writes.callOfTwo hafter (ihx h.left) (ihy h.right)).imp ?_
    rintro _ ⟨xs, ys, head, opening, comma, closing, rfl, hhead, hopen, hxs, hcomma, hys, hclose⟩
    have hcommas := missingCommas_callOfTwo hhead hopen hcomma hclose xs ys
    refine hxs.binary hys (by omega) (fun hnone hx hy => ?_) (by simp +contextual)
      (by simp +contextual)
    -- three components in two arguments leave a comma missing
    have hop : op ≠ .vec3 := by
      intro hop
      have hthree := hvec3 hop
      have hx0 := hxs.commas
      have hy0 := hys.commas
      omega
    exact (vectorsNested_binary hop).mpr ⟨hx, hy⟩
  | case9 op x y hnested hcall ihx ihy =>
    have hop : op ≠ .vec3 := by
      rintro rfl
      exact hcall rfl
    have hx := writes_enclose (ihx h.left) x.precedence (leftPrecedence op)
    have hy := writes_enclose (ihy h.right) y.precedence (rightPrecedence op)
    refine (hx.between (Bool.eq_false_iff.mpr hcall) hy).imp ?_
    rintro _ ⟨xs, ys, sign, rfl, hxs, hkind, hys⟩
    have hcommas := missingCommas_between hkind xs ys
    exact hxs.binary hys (Int.le_of_eq hcommas.symm)
      (fun _ hx hy => (vectorsNested_binary hop).mpr ⟨hx, hy⟩) (by simp +contextual)
      (by simp +contextual)

/-! ## Names and types -/

/-- The trees refer to the same attributes and properties, in the same order. -/
structure SameNames (e e' : Expr) : Prop where
  attrs : e.attrNames = e'.attrNames
  props : e.propNames = e'.propNames

namespace SameNames
variable {x x' y y' : Expr}

theorem trans {z : Expr} (h : x.SameNames y) (h' : y.SameNames z) : x.SameNames z :=
  ⟨h.attrs.trans h'.attrs, h.props.trans h'.props⟩

theorem binary {op : BinaryOp} (hx : x.SameNames x') (hy : y.SameNames y') :
    (Expr.binary op x y).SameNames (Expr.binary op x' y') where
  attrs := by rw [attrNames, attrNames, hx.attrs, hy.attrs]
  props := by rw [propNames, propNames, hx.props, hy.props]

end SameNames

/-- Constants refer to nothing. -/
theorem Constant.names_eq {e : Expr} {v : Single} (h : e.Constant v) :
    e.attrNames = [] ∧ e.propNames = [] := by
  induction h with
  | literal => exact ⟨rfl, rfl⟩
  | negation _ ih => exact ih

theorem sameNames_foldVec2 (x y : Expr) :
    (VectorRule.folding.vec2 x y).SameNames (vec2Node x y) := by
  generalize hfold : VectorRule.folding.vec2 x y = e
  cases vec2Call_iff.mpr hfold with
  | literal hx hy =>
    constructor <;> simp [vec2Node, attrNames, propNames, hx.names_eq, hy.names_eq]
  | node => exact ⟨rfl, rfl⟩

theorem sameNames_foldVec3 (x y z : Expr) :
    (VectorRule.folding.vec3 x y z).SameNames (vec3Node x y z) := by
  generalize hfold : VectorRule.folding.vec3 x y z = e
  cases vec3Call_iff.mpr hfold with
  | literal hx hy hz =>
    constructor <;> simp [vec3Node, attrNames, propNames, hx.names_eq, hy.names_eq, hz.names_eq]
  | node => exact ⟨rfl, rfl⟩

/-- A literal reads back as literals and negations. -/
theorem sameNames_normalizeLiteral (v : Literal) : v.normalize.SameNames (literal v) := by
  cases v with
  | float v =>
    rw [Literal.normalize, Single.normalize]
    split <;> exact ⟨rfl, rfl⟩
  | integer n =>
    rw [Literal.normalize]
    split <;> exact ⟨rfl, rfl⟩
  | vec2 x y => exact ⟨rfl, rfl⟩
  | vec3 x y z => exact ⟨rfl, rfl⟩

/-- A tree and what it reads back as refer to the same names. -/
theorem sameNames_normalize (e : Expr) : e.normalize.SameNames e := by
  fun_induction normalize e with
  | case1 v => exact sameNames_normalizeLiteral v
  | case2 op x ih => exact ⟨ih.attrs, ih.props⟩
  | case3 x y z ihx ihy ihz =>
    exact (sameNames_foldVec3 _ _ _).trans ((ihx.binary ihy).binary ihz)
  | case4 x y ihx ihy => exact (sameNames_foldVec2 _ _).trans (ihx.binary ihy)
  | case5 op x y _ _ ihx ihy => exact ihx.binary ihy
  | case6 => exact ⟨rfl, rfl⟩

/-! ## Reading the text -/

/-- The text of a legible tree never misleads: it is read exactly if it is an expression within the
nesting limit, which it is for no tree with the least integer, an empty name or a vector of three
components made of two parts. What is read refers to the same attributes and properties, and has the
same type, whatever types the names have. -/
theorem parse_text_of_legible {e : Expr} (h : e.Legible) :
    ((∃ e', Expr.parse e.text = .ok e') ↔ e.Printable ∧ e.depth .calls ≤ nestingLimit) ∧
    ∀ e', Expr.parse e.text = .ok e' →
      e'.attrNames = e.attrNames ∧ e'.propNames = e.propNames ∧
      ∀ context : TypeContext, e'.resultType context = e.resultType context := by
  have hread {e' : Expr} (hparse : Expr.parse e.text = .ok e') :
      (e.Printable ∧ e.depth .calls ≤ nestingLimit) ∧ e' = e.normalize := by
    obtain ⟨d, hd, hderives⟩ := Grammar.read_sound rfl hparse
    have hprintable := (writes_text h).tokens.1.printable hderives
    obtain ⟨hdepth, htree⟩ := hderives.unique (spells_text hprintable).derives.1
    exact ⟨⟨hprintable, hdepth ▸ hd⟩, htree⟩
  refine ⟨⟨?_, ?_⟩, ?_⟩
  · rintro ⟨e', hparse⟩
    exact (hread hparse).1
  · rintro ⟨hprintable, hdepth⟩
    exact ⟨e.normalize, (spells_text hprintable).parse_settles.1 hdepth⟩
  · intro e' hparse
    obtain ⟨-, rfl⟩ := hread hparse
    have hnames := sameNames_normalize e
    exact ⟨hnames.attrs, hnames.props, fun _ => resultType_normalize e⟩

/-- A vector node with a negative number and a quoted name. -/
theorem parse_text_of_negative_component :
    ∃ e', Expr.parse (binary .vec2 (literal (.float (.ofBits 0xbf800000)))
        (prop "a b".toList)).text = .ok e' ∧
      e'.propNames = ["a b".toList] ∧
      ∀ context : TypeContext, e'.resultType context =
        (binary .vec2 (literal (.float (.ofBits 0xbf800000))) (prop "a b".toList)).resultType
          context := by
  have hfinite : (BinaryFloat.ofBits 0xbf800000 : Single).isFinite = true := by decide
  have hlegible : (binary .vec2 (literal (.float (.ofBits 0xbf800000)))
      (prop "a b".toList)).Legible := ⟨List.forall_mem_singleton.mpr hfinite, by decide⟩
  have hprintable : (binary .vec2 (literal (.float (.ofBits 0xbf800000)))
      (prop "a b".toList)).Printable := by
    refine ⟨⟨List.forall_mem_singleton.mpr hfinite, ?_⟩, trivial, trivial⟩
    simp [names, Text.Quotable]
  obtain ⟨hread, hsame⟩ := parse_text_of_legible hlegible
  obtain ⟨e', hparse⟩ := hread.mpr ⟨hprintable, by decide⟩
  obtain ⟨-, hprops, htype⟩ := hsame e' hparse
  exact ⟨e', hparse, hprops, htype⟩

/-- A name with quotation marks reads as a sum of two attributes, and an infinite number as an
attribute. -/
theorem parse_text_misleads :
    Expr.parse (attr "x\") + attr(\"y".toList).text =
      .ok (binary .add (attr ['x']) (attr ['y'])) ∧
    (∃ name ∈ (binary .add (attr ['x']) (attr ['y'])).attrNames,
      name ∉ (attr "x\") + attr(\"y".toList).attrNames) ∧
    Expr.parse (literal (.float (.infinity false))).text = .ok (attr "inf".toList) ∧
    (∃ name ∈ (attr "inf".toList).attrNames,
      name ∉ (literal (.float (.infinity false))).attrNames) := by
  decide +kernel

end Expr
end EffectLang
