import EffectLang.Proofs.Print.Image

/-!
# Printing and reading

The canonical text of a tree reads as the normal form of the tree, unless it is nested too deep.
So a tree that was read is read again from its text, with one exception: the text writes every
attribute as a call, and at the nesting limit there is no room for a call in place of a bare name.
Even then the text is that of no other tree, because its tokens denote one tree at most.
-/

namespace EffectLang.Expr

/-! ## Trees of any shape -/

/-- The canonical text as a phrase. -/
theorem spells_text {e : Expr} (h : e.Printable) :
    Spells .expression (e.depth .calls) e.text e.normalize := by
  have hspells := (spells .calls h).weaken (Nat.zero_le _)
  rwa [textIn_calls] at hspells

/-- What a text denotes is in normal form, however deep the text is. -/
theorem normal_normalize {e : Expr} (h : e.Printable) : e.normalize.Normal := by
  have hfits := (spells_text h).derives.1.fits fun _ => lexed_of_mem_tokenize
  exact hfits.1

/-- Printing and reading once more changes nothing. -/
theorem normalize_normalize {e : Expr} (h : e.Printable) :
    e.normalize.normalize = e.normalize :=
  normalize_of_normal (normal_normalize h)

/-- The tokens of the text of a tree are an expression of the tree's depth that denotes the normal
form. Up to the nesting limit the text is read as that, beyond it the nesting is too deep. A tree
and its normal form have the same type. -/
theorem parse_text_eq_normalize {e : Expr} (h : e.Printable) :
    Derives .expression (e.depth .calls) (significant (tokenize e.text)) e.normalize ∧
    (e.depth .calls ≤ nestingLimit → Expr.parse e.text = .ok e.normalize) ∧
    (nestingLimit < e.depth .calls → TooDeep (Expr.parse e.text)) ∧
    ∀ context : TypeContext, e.normalize.resultType context = e.resultType context := by
  have hspells := spells_text h
  obtain ⟨hfits, hdeep⟩ := hspells.parse_settles
  exact ⟨hspells.derives.1, hfits, hdeep, fun _ => resultType_normalize e⟩

/-- A vector node with a negative number, a quoted name and a negative integer. -/
theorem parse_text_of_mixed_vector :
    Expr.parse (binary .vec3
        (binary .vec2 (literal (.float (.ofBits 0xbf800000))) (attr "a b".toList))
        (literal (.integer (-7)))).text =
      .ok (binary .vec3
        (binary .vec2 (unary .neg (literal (.float (.ofBits 0x3f800000)))) (attr "a b".toList))
        (unary .neg (literal (.integer 7)))) := by
  have hprintable : (binary .vec3
      (binary .vec2 (literal (.float (.ofBits 0xbf800000))) (attr "a b".toList))
      (literal (.integer (-7)))).Printable := by
    refine ⟨⟨?_, ?_⟩, trivial, trivial, trivial⟩
    · have hfinite : (BinaryFloat.ofBits 0xbf800000 : Single).isFinite = true := by decide
      have hbound : -(Literal.integerBound : Int) < Int32.toInt (-7) := by decide
      exact List.forall_mem_cons.mpr ⟨hfinite, List.forall_mem_singleton.mpr hbound⟩
    · simp [names, Text.Quotable]
  exact (parse_text_eq_normalize hprintable).2.1 (by decide)

/-! ## Trees that were read -/

theorem encloseDepth_le_add {depth depth' k : Nat} (h : depth ≤ depth' + k)
    (precedence required : Nat) :
    encloseDepth precedence required depth ≤ encloseDepth precedence required depth' + k := by
  unfold encloseDepth
  split <;> omega

/-- A style that needs some more levels for names needs no more than that for trees. -/
theorem depth_le_add {style style' : NameStyle} {k : Nat}
    (h : ∀ name, style.depth name ≤ style'.depth name + k) (e : Expr) :
    e.depth style ≤ e.depth style' + k := by
  fun_induction depth style e with
  | case1 v => exact Nat.le_add_right _ k
  | case2 name => exact h name
  | case3 name => exact Nat.le_add_right _ k
  | case4 value => exact Nat.le_add_right _ k
  | case5 x ih =>
    have hx := encloseDepth_le_add ih x.precedence atomPrecedence
    rw [depth]
    omega
  | case6 op x hop ih =>
    rw [depth_unary hop]
    omega
  | case7 x y z ihx ihy ihz =>
    rw [depth]
    omega
  | case8 op x y hnested hcall ihx ihy =>
    rw [depth, if_pos hcall]
    · omega
    · exact hnested
  | case9 op x y hnested hcall ihx ihy =>
    have hx := encloseDepth_le_add ihx x.precedence (leftPrecedence op)
    have hy := encloseDepth_le_add ihy y.precedence (rightPrecedence op)
    rw [depth_operator (Bool.eq_false_iff.mpr hcall)]
    omega

/-- The canonical text is at most one level deeper than the shallowest one. -/
theorem depth_calls_le (e : Expr) : e.depth .calls ≤ e.depth .bare + 1 := by
  refine depth_le_add (fun name => ?_) e
  exact Nat.le_add_left 1 _

/-- A tree that was read from a source is read again from its text exactly if the text is within
the nesting limit, and then printing it again gives the same text. Otherwise the text is nested one
level too deep. -/
theorem parse_text_iff_of_parse {source : Text} {e : Expr} (h : Expr.parse source = .ok e) :
    (Expr.parse e.text = .ok e ↔ e.depth .calls ≤ nestingLimit) ∧
    (e.depth .calls ≤ nestingLimit → (Expr.parse e.text).map text = .ok e.text) ∧
    (nestingLimit < e.depth .calls →
      e.depth .calls = nestingLimit + 1 ∧ TooDeep (Expr.parse e.text)) := by
  obtain ⟨hnormal, hdepth⟩ := normal_of_parse h
  obtain ⟨hfits, hdeep⟩ := (spells_text hnormal.printable).parse_settles
  rw [normalize_of_normal hnormal] at hfits
  refine ⟨⟨fun hread => ?_, hfits⟩, fun hle => ?_, fun hlt => ⟨?_, hdeep hlt⟩⟩
  -- beyond the limit reading fails, so it has not given the tree
  · refine Nat.le_of_not_lt fun hlt => ?_
    obtain ⟨token, htoken⟩ := hdeep hlt
    rw [hread] at htoken
    cases htoken
  · rw [hfits hle]
    rfl
  -- the source has the shallowest depth at least, and was within the limit
  · have hle := depth_calls_le e
    omega

/-- A comparison of a negated name and a vector that is no literal. -/
theorem parse_text_of_compared_names :
    Expr.parse "-x<vec2(-.5,y)".toList = .ok (binary .less (unary .neg (attr ['x']))
      (binary .vec2 (unary .neg (literal (.float (.ofBits 0x3f000000)))) (attr ['y']))) ∧
    Expr.parse (binary .less (unary .neg (attr ['x']))
      (binary .vec2 (unary .neg (literal (.float (.ofBits 0x3f000000)))) (attr ['y']))).text =
        .ok (binary .less (unary .neg (attr ['x']))
          (binary .vec2 (unary .neg (literal (.float (.ofBits 0x3f000000)))) (attr ['y']))) := by
  have hread : Expr.parse "-x<vec2(-.5,y)".toList = .ok (binary .less (unary .neg (attr ['x']))
      (binary .vec2 (unary .neg (literal (.float (.ofBits 0x3f000000)))) (attr ['y']))) := by
    decide +kernel
  exact ⟨hread, (parse_text_iff_of_parse hread).1.mpr (by decide)⟩

/-- A bare name under as many negations as there are levels is read, but its text is not. -/
theorem parse_text_fails_at_limit :
    Expr.parse (List.replicate 64 '-' ++ ['x']) = .ok (Nat.repeat (unary .neg) 64 (attr ['x'])) ∧
    Expr.parse (Nat.repeat (unary .neg) 64 (attr ['x'])).text =
      .error (.malformed ⟨.nestingTooDeep, "attr".toList, 64⟩) := by
  exact ⟨by decide +kernel, by decide +kernel⟩

/-! ## Texts tell trees apart -/

/-- Two trees in normal form with one text are one tree, however deep the text is. -/
theorem Normal.eq_of_text_eq {e e' : Expr} (h : e.Normal) (h' : e'.Normal)
    (htext : e.text = e'.text) : e = e' := by
  have hderives := (spells_text h.printable).derives.1
  have hderives' := (spells_text h'.printable).derives.1
  rw [normalize_of_normal h] at hderives
  rw [normalize_of_normal h', ← htext] at hderives'
  exact (hderives.unique hderives').2

/-- Two trees that were read have the same text exactly if they are the same tree, the numbers in
them bit by bit. -/
theorem text_eq_text_iff {source source' : Text} {e e' : Expr} (h : Expr.parse source = .ok e)
    (h' : Expr.parse source' = .ok e') : e.text = e'.text ↔ e = e' := by
  obtain ⟨hnormal, -⟩ := normal_of_parse h
  obtain ⟨hnormal', -⟩ := normal_of_parse h'
  exact ⟨hnormal.eq_of_text_eq hnormal', congrArg text⟩

/-- Zeros of either sign at the nesting limit, beside a name whose text is too deep to be read. -/
theorem text_ne_text_of_zeros :
    Expr.parse (List.replicate 64 '-' ++ "x+vec2(0.,-0.)".toList) =
      .ok (binary .add (Nat.repeat (unary .neg) 64 (attr ['x']))
        (literal (.vec2 (.zero false) (.zero true)))) ∧
    Expr.parse (List.replicate 64 '-' ++ "x+vec2(0.,0.)".toList) =
      .ok (binary .add (Nat.repeat (unary .neg) 64 (attr ['x']))
        (literal (.vec2 (.zero false) (.zero false)))) ∧
    (binary .add (Nat.repeat (unary .neg) 64 (attr ['x']))
        (literal (.vec2 (.zero false) (.zero true)))).text ≠
      (binary .add (Nat.repeat (unary .neg) 64 (attr ['x']))
        (literal (.vec2 (.zero false) (.zero false)))).text := by
  have h : Expr.parse (List.replicate 64 '-' ++ "x+vec2(0.,-0.)".toList) =
      .ok (binary .add (Nat.repeat (unary .neg) 64 (attr ['x']))
        (literal (.vec2 (.zero false) (.zero true)))) := by
    decide +kernel
  have h' : Expr.parse (List.replicate 64 '-' ++ "x+vec2(0.,0.)".toList) =
      .ok (binary .add (Nat.repeat (unary .neg) 64 (attr ['x']))
        (literal (.vec2 (.zero false) (.zero false)))) := by
    decide +kernel
  exact ⟨h, h', mt (text_eq_text_iff h h').mp (by decide)⟩

end EffectLang.Expr
