import EffectLang.Proofs.Print.Style

/-!
# What reading can give

Whatever the tokens of a source derive is in normal form, and its shallowest text is no deeper
than the source. So the trees that reading gives are those in normal form whose shallowest text is
within the nesting limit: that text is a source for them.
-/

namespace EffectLang

/-! ## Depths -/

namespace Expr

@[simp] theorem encloseDepth_zero (precedence depth : Nat) :
    encloseDepth precedence 0 depth = depth :=
  if_neg (Nat.not_lt_zero precedence)

theorem encloseDepth_mono {precedence required required' depth : Nat} (h : required ≤ required') :
    encloseDepth precedence required depth ≤ encloseDepth precedence required' depth := by
  unfold encloseDepth
  split <;> split <;> omega

theorem encloseDepth_le (precedence required depth : Nat) :
    encloseDepth precedence required depth ≤ depth + 1 := by
  unfold encloseDepth
  split <;> omega

theorem encloseDepth_atom {precedence required depth : Nat} (h : required ≤ precedence) :
    encloseDepth precedence required depth = depth :=
  if_neg (Nat.not_lt.mpr h)

end Expr

/-- The precedence that a phrase has to have. -/
def Phrase.precedence : Phrase → Nat
  | .expression => 0
  | .additive => 2
  | .multiplicative => 3
  | .atom => Expr.atomPrecedence

/-! ## Constants -/

namespace Expr
variable {e : Expr} {v : Single}

/-- The value of a constant of finite literals is finite. -/
theorem Constant.isFinite (h : e.Constant v) (he : e.LeavesAre Literal.Unsigned) :
    v.isFinite = true := by
  induction h with
  | literal v => exact (he.literals _ List.mem_cons_self).1
  | negation _ ih => exact ih he.operand

/-- A constant with a sign has a negation in its text. -/
theorem Constant.depth_le (h : e.Constant v) (he : e.LeavesAre Literal.Unsigned)
    (style : NameStyle) : v.depth ≤ e.depth style := by
  cases h with
  | literal v =>
    obtain ⟨-, hsign⟩ := he.literals _ List.mem_cons_self
    exact Nat.le_refl _
  | @negation x v =>
    -- whatever the sign is after an odd or even number of negations, it costs at most one level
    have hone : Single.depth v.neg ≤ 1 := by
      unfold Single.depth
      split <;> omega
    exact Nat.le_trans hone (Nat.le_add_left 1 _)

end Expr

/-! ## From sources to trees -/

theorem Token.Number.unsigned {t : Token} {v : Literal} (h : t.Number v) :
    v.Unsigned ∧ v.depth = 0 := by
  cases h with
  | integer _ hlt =>
    have hvalue := Int32.toInt_ofNat_of_lt hlt
    have hsign : 0 ≤ (Int32.ofNat (ofDigits t.text)).toInt := by omega
    refine ⟨hsign, if_neg fun hneg => ?_⟩
    exact Int.not_lt.mpr hsign (Int32.lt_iff_toInt_lt.mp hneg)
  | @float v _ hv hfinite =>
    have hsign : v.negative = false := by
      rw [← hv]
      exact BinaryFloat.negative_convert _
    refine ⟨⟨hfinite, hsign⟩, if_neg ?_⟩
    simp [hsign]

namespace Expr
variable {x y z : Expr} {dx dy dz : Nat}

/-- The tree is in normal form, and its shallowest text, in a place that asks for a precedence, has
at most the given depth. -/
def Fits (required d : Nat) (e : Expr) : Prop :=
  e.Normal ∧ encloseDepth e.precedence required (e.depth .bare) ≤ d

theorem Fits.loosen {required required' d : Nat} {e : Expr} (h : e.Fits required' d)
    (hle : required ≤ required') : e.Fits required d :=
  ⟨h.1, Nat.le_trans (encloseDepth_mono hle) h.2⟩

theorem Fits.depth_le {d : Nat} {e : Expr} (h : e.Fits 0 d) : e.depth .bare ≤ d := by
  have hdepth := h.2
  rwa [encloseDepth_zero] at hdepth

/-- An operator between operands that fit beside it. -/
theorem fits_operator {op : BinaryOp} {required : Nat} (hop : op.isCall = false)
    (hrequired : required ≤ op.precedence) (hx : x.Fits (leftPrecedence op) dx)
    (hy : y.Fits (rightPrecedence op) dy) : (binary op x y).Fits required (max dx dy) := by
  have hvector : op ≠ .vec2 ∧ op ≠ .vec3 := by
    constructor <;> (rintro rfl; cases hop)
  refine ⟨⟨hx.1.binary hy.1.toLeavesAre, ?_⟩, ?_⟩
  · exact (unfolded_binary hvector.1 hvector.2).mpr ⟨hx.1.vectors, hy.1.vectors⟩
  · rw [precedence, encloseDepth_atom hrequired, depth_operator hop]
    exact max_le_max hx.2 hy.2

theorem fits_call {op : BinaryOp} (hcall : op.isCall = true) (h2 : op ≠ .vec2) (h3 : op ≠ .vec3)
    (hx : x.Fits 0 dx) (hy : y.Fits 0 dy) :
    (binary op x y).Fits atomPrecedence (max dx dy + 1) := by
  refine ⟨⟨hx.1.binary hy.1.toLeavesAre, ?_⟩, ?_⟩
  · exact (unfolded_binary h2 h3).mpr ⟨hx.1.vectors, hy.1.vectors⟩
  · rw [precedence_call hcall, encloseDepth_atom (Nat.le_refl _), depth_call hcall h3]
    exact Nat.succ_le_succ (max_le_max hx.depth_le hy.depth_le)

theorem fits_vec2 {e : Expr} (hx : x.Fits 0 dx) (hy : y.Fits 0 dy) (he : Vec2Call x y e) :
    e.Fits atomPrecedence (max dx dy + 1) := by
  cases he with
  | literal ha hb =>
    have hfinite := And.intro (ha.isFinite hx.1.toLeavesAre) (hb.isFinite hy.1.toLeavesAre)
    refine ⟨⟨⟨List.forall_mem_singleton.mpr hfinite, nofun⟩, trivial⟩, ?_⟩
    exact Nat.succ_le_succ (max_le_max
      (Nat.le_trans (ha.depth_le hx.1.toLeavesAre .bare) hx.depth_le)
      (Nat.le_trans (hb.depth_le hy.1.toLeavesAre .bare) hy.depth_le))
  | node hconstant =>
    refine ⟨⟨hx.1.binary hy.1.toLeavesAre, hconstant, hx.1.vectors, hy.1.vectors⟩, ?_⟩
    exact Nat.succ_le_succ (max_le_max hx.depth_le hy.depth_le)

theorem fits_vec3 {e : Expr} (hx : x.Fits 0 dx) (hy : y.Fits 0 dy) (hz : z.Fits 0 dz)
    (he : Vec3Call x y z e) : e.Fits atomPrecedence (max dx (max dy dz) + 1) := by
  cases he with
  | literal ha hb hc =>
    have hfinite := And.intro (ha.isFinite hx.1.toLeavesAre)
      (And.intro (hb.isFinite hy.1.toLeavesAre) (hc.isFinite hz.1.toLeavesAre))
    refine ⟨⟨⟨List.forall_mem_singleton.mpr hfinite, nofun⟩, trivial⟩, Nat.succ_le_succ ?_⟩
    exact max_le_max (Nat.le_trans (ha.depth_le hx.1.toLeavesAre .bare) hx.depth_le)
      (max_le_max (Nat.le_trans (hb.depth_le hy.1.toLeavesAre .bare) hy.depth_le)
        (Nat.le_trans (hc.depth_le hz.1.toLeavesAre .bare) hz.depth_le))
  | node hconstant =>
    refine ⟨⟨(hx.1.binary hy.1.toLeavesAre).binary hz.1.toLeavesAre,
      hconstant, hx.1.vectors, hy.1.vectors, hz.1.vectors⟩, ?_⟩
    exact Nat.succ_le_succ
      (max_le_max hx.depth_le (max_le_max hy.depth_le hz.depth_le))

end Expr

theorem Callee.ne_neg_of_form {f : Callee} {op : UnaryOp} (h : f.form = .unary op) :
    op ≠ .neg := by
  rintro rfl
  cases f <;> cases h

theorem Callee.isCall_of_form {f : Callee} {op : BinaryOp} (h : f.form = .binary op) :
    op.isCall = true ∧ op ≠ .vec2 ∧ op ≠ .vec3 := by
  cases f <;> cases h <;> exact ⟨rfl, nofun, nofun⟩

/-- What lexed tokens derive is in normal form, and its shallowest text, with the parentheses that
the phrase asks for, is no deeper than the derivation. -/
theorem Derives.fits {phrase : Phrase} {d : Nat} {ts : List Token} {e : Expr}
    (h : Derives phrase d ts e) (hts : ∀ t ∈ ts, t.Lexed) : e.Fits phrase.precedence d := by
  induction h with
  | uncompared _ ih => exact (ih hts).loosen (by decide)
  | term _ ih => exact (ih hts).loosen (by decide)
  | factor _ ih => exact (ih hts).loosen (by decide)
  | @comparison dl dr ls rs l r sign op _ _ hop _ ihl ihr
  | @sum dl dr ls rs l r sign op _ _ hop _ ihl ihr
  | @product dl dr ls rs l r sign op _ _ hop _ ihl ihr =>
    simp only [List.forall_mem_append, List.forall_mem_cons] at hts
    have hleft := ihl hts.1
    have hright := ihr hts.2.2
    -- an operator of the class asks of its operands what the rule does; one outside is excluded
    cases op <;> first
      | exact Expr.fits_operator rfl (by decide) hleft hright
      | cases hop
  | group _ _ _ ih =>
    simp only [List.forall_mem_append, List.forall_mem_cons] at hts
    have hinner := ih hts.2.1
    refine ⟨hinner.1, Nat.le_trans (Expr.encloseDepth_le _ _ _) ?_⟩
    exact Nat.succ_le_succ hinner.depth_le
  | negation _ _ ih =>
    obtain ⟨-, hts⟩ := List.forall_mem_cons.mp hts
    have hoperand := ih hts
    exact ⟨⟨⟨hoperand.1.literals, hoperand.1.names⟩, hoperand.1.vectors⟩,
      Nat.succ_le_succ hoperand.2⟩
  | @number token v h =>
    obtain ⟨hv, hdepth⟩ := h.unsigned
    refine ⟨⟨⟨List.forall_mem_singleton.mpr hv, nofun⟩, trivial⟩, Nat.le_of_eq ?_⟩
    exact hdepth
  | @name token hkind =>
    have hlexed := List.forall_mem_singleton.mp hts
    have hword := hlexed.word (by rw [hkind]; rfl)
    refine ⟨⟨⟨nofun, List.forall_mem_singleton.mpr (quotable_of_isWord hword)⟩, trivial⟩, ?_⟩
    have hdepth : (Expr.attr token.text).depth .bare = 0 :=
      if_pos ⟨hword, hlexed.identifier hkind⟩
    exact Nat.le_of_eq hdepth
  | builtIn h => exact ⟨⟨⟨nofun, nofun⟩, trivial⟩, Nat.le_refl 0⟩
  | attrCall _ _ _ hname _ =>
    simp only [List.forall_mem_cons] at hts
    have hquotable := hts.2.2.1.quotable hname
    refine ⟨⟨⟨nofun, List.forall_mem_singleton.mpr hquotable⟩, trivial⟩, ?_⟩
    -- the source wrote a call, where a bare name may have done
    show (if _ then 0 else 1) ≤ 1
    split <;> omega
  | propCall _ _ _ hname _ =>
    simp only [List.forall_mem_cons] at hts
    have hquotable := hts.2.2.1.quotable hname
    exact ⟨⟨⟨nofun, List.forall_mem_singleton.mpr hquotable⟩, trivial⟩, Nat.le_refl 1⟩
  | unaryCall _ hform _ _ _ ih =>
    simp only [List.forall_mem_append, List.forall_mem_cons] at hts
    have hoperand := ih hts.2.2.1
    refine ⟨⟨⟨hoperand.1.literals, hoperand.1.names⟩, hoperand.1.vectors⟩, ?_⟩
    rw [Expr.depth_unary (Callee.ne_neg_of_form hform)]
    exact Nat.succ_le_succ hoperand.depth_le
  | binaryCall _ hform _ _ _ _ _ ihx ihy =>
    simp only [List.forall_mem_append, List.forall_mem_cons] at hts
    obtain ⟨hcall, h2, h3⟩ := Callee.isCall_of_form hform
    exact Expr.fits_call hcall h2 h3 (ihx hts.2.2.1) (ihy hts.2.2.2.2.1)
  | vec2Call _ hform _ _ _ _ _ he ihx ihy =>
    simp only [List.forall_mem_append, List.forall_mem_cons] at hts
    exact Expr.fits_vec2 (ihx hts.2.2.1) (ihy hts.2.2.2.2.1) he
  | vec3Call _ hform _ _ _ _ _ _ _ he ihx ihy ihz =>
    simp only [List.forall_mem_append, List.forall_mem_cons] at hts
    exact Expr.fits_vec3 (ihx hts.2.2.1) (ihy hts.2.2.2.2.1) (ihz hts.2.2.2.2.2.2.1) he

namespace Expr

/-- A tree that reading gives is in normal form, and its shallowest text is within the limit. -/
theorem normal_of_parse {source : Text} {e : Expr} (h : Expr.parse source = .ok e) :
    e.Normal ∧ e.depth .bare ≤ nestingLimit := by
  obtain ⟨d, hd, hderives⟩ := Grammar.read_sound rfl h
  have hfits := hderives.fits fun _ => lexed_of_mem_tokenize
  exact ⟨hfits.1, Nat.le_trans hfits.depth_le hd⟩

/-! ## From trees to sources -/

/-- A tree in normal form is what its shallowest text denotes. -/
theorem Normal.parse_textIn {e : Expr} (h : e.Normal) (hdepth : e.depth .bare ≤ nestingLimit) :
    Expr.parse (e.textIn .bare) = .ok e := by
  have hspells := (spells .bare h.printable).weaken (Nat.zero_le _)
  rw [normalize_of_normal h] at hspells
  exact hspells.parse_settles.1 hdepth

/-- The trees that reading some source gives: their literals are those of tokens, their names can
be written, no vector node has constants only, and their shallowest text is within the limit. -/
theorem exists_parse_iff (e : Expr) :
    (∃ source, Expr.parse source = .ok e) ↔
      (∀ v ∈ e.literals, v.Unsigned) ∧ (∀ name ∈ e.names, name ≠ [] ∧ '"' ∉ name) ∧
        e.Unfolded ∧ e.depth .bare ≤ nestingLimit := by
  constructor
  · rintro ⟨source, h⟩
    obtain ⟨hnormal, hdepth⟩ := normal_of_parse h
    exact ⟨hnormal.literals, hnormal.names, hnormal.vectors, hdepth⟩
  · rintro ⟨hliterals, hnames, hvectors, hdepth⟩
    have hnormal : e.Normal := ⟨⟨hliterals, hnames⟩, hvectors⟩
    exact ⟨e.textIn .bare, hnormal.parse_textIn hdepth⟩

end Expr
end EffectLang
