import EffectLang.Proofs.Print.Style
import EffectLang.Text.Blank
import EffectLang.Text.Width

/-!
# The characters of a text

A text is written with digits, words, signs, parentheses, quotes and spaces. Only the names in it
can have other characters, and it never ends in one of those.
-/

namespace EffectLang

/-! ## Characters of the syntax -/

/-- The characters that stand in a text for something other than a name. -/
def syntaxChars : Text :=
  "0123456789abcdefghijklmnopqrstuvwxyz_.,()+-*/<>=!\" ".toList

def isSyntaxChar (c : Char) : Bool :=
  syntaxChars.contains c

theorem isSyntaxChar_of_isDigit {c : Char} (h : c.isDigit = true) : isSyntaxChar c = true := by
  have hdigits : "0123456789".toList.all isSyntaxChar = true := by decide
  exact List.all_eq_true.mp hdigits c (mem_digits_of_isDigit h)

/-- The only blank of the syntax is the space. -/
theorem eq_space_of_isBlank {c : Char} (hchar : isSyntaxChar c = true)
    (hblank : Text.isBlank c = true) : c = ' ' := by
  have hchars : syntaxChars.all (fun d => !Text.isBlank d || d = ' ') = true := by decide
  have hspace := List.all_eq_true.mp hchars c (List.contains_iff_mem.mp hchar)
  simpa [hblank] using hspace

/-- No character of the syntax is without a cell. -/
theorem cells_ne_zero_of_isSyntaxChar {c : Char} (h : isSyntaxChar c = true) :
    Text.cells c ≠ 0 := by
  have hchars : syntaxChars.all (fun d => Text.cells d ≠ 0) = true := by decide
  exact of_decide_eq_true (List.all_eq_true.mp hchars c (List.contains_iff_mem.mp h))

/-! ## What texts are made of -/

/-- Every character of the text is one of the syntax or stands in one of the names. -/
def Text.MadeOf (names : List Text) (text : Text) : Prop :=
  ∀ c ∈ text, isSyntaxChar c = true ∨ ∃ name ∈ names, c ∈ name

namespace Text.MadeOf
variable {names names' : List Text} {text text' : Text}

theorem of_all (h : text.all isSyntaxChar = true) : text.MadeOf names :=
  fun c hc => .inl (List.all_eq_true.mp h c hc)

theorem of_digits (h : text.IsDigits) : text.MadeOf names :=
  fun c hc => .inl (isSyntaxChar_of_isDigit (h.isDigit c hc))

theorem of_mem (h : text ∈ names) : text.MadeOf names :=
  fun _ hc => .inr ⟨text, h, hc⟩

theorem append (h : text.MadeOf names) (h' : text'.MadeOf names) : (text ++ text').MadeOf names :=
  List.forall_mem_append.mpr ⟨h, h'⟩

theorem cons {c : Char} (hc : isSyntaxChar c = true) (h : text.MadeOf names) :
    MadeOf names (c :: text) :=
  List.forall_mem_cons.mpr ⟨.inl hc, h⟩

theorem mono (h : text.MadeOf names) (hsub : names ⊆ names') : text.MadeOf names' :=
  fun c hc => (h c hc).imp_right fun ⟨name, hname, hmem⟩ => ⟨name, hsub hname, hmem⟩

theorem join {parts : List Text} (h : ∀ part ∈ parts, part.MadeOf names) :
    (Text.join [',', ' '] parts).MadeOf names := by
  fun_induction Text.join [',', ' '] parts with
  | case1 => exact of_all rfl
  | case2 part => exact h part List.mem_cons_self
  | case3 part rest _ ih =>
    obtain ⟨hpart, hrest⟩ := List.forall_mem_cons.mp h
    exact (hpart.append (of_all (by decide))).append (ih hrest)

theorem call {f : Text} {arguments : List Text} (hf : f.all isSyntaxChar = true)
    (h : ∀ argument ∈ arguments, argument.MadeOf names) : (callText f arguments).MadeOf names :=
  (((of_all hf).append (of_all (by decide))).append (join h)).append (of_all (by decide))

theorem enclose (h : text.MadeOf names) (precedence required : Nat) :
    (Expr.enclose precedence required text).MadeOf names := by
  unfold Expr.enclose
  split
  · exact (cons (by decide) h).append (of_all (by decide))
  · exact h

end Text.MadeOf

/-- The last character is one of the syntax. -/
def Text.EndsInSyntax (text : Text) : Prop :=
  ∃ c ∈ text.getLast?, isSyntaxChar c = true

namespace Text.EndsInSyntax
variable {text : Text}

theorem concat (text : Text) {c : Char} (hc : isSyntaxChar c = true) :
    EndsInSyntax (text ++ [c]) :=
  ⟨c, List.getLast?_concat, hc⟩

theorem append (h : text.EndsInSyntax) (front : Text) : EndsInSyntax (front ++ text) := by
  obtain ⟨c, hc, hchar⟩ := h
  refine ⟨c, ?_, hchar⟩
  rw [List.getLast?_append, hc]
  rfl

theorem of_digits (h : text.IsDigits) : text.EndsInSyntax :=
  ⟨text.getLast h.ne_nil, List.getLast?_eq_some_getLast h.ne_nil,
    isSyntaxChar_of_isDigit (h.isDigit _ (List.getLast_mem h.ne_nil))⟩

theorem call (f : Text) (arguments : List Text) : EndsInSyntax (callText f arguments) :=
  concat _ (by decide)

theorem enclose (h : text.EndsInSyntax) (precedence required : Nat) :
    (Expr.enclose precedence required text).EndsInSyntax := by
  unfold Expr.enclose
  split
  · exact concat _ (by decide)
  · exact h

end Text.EndsInSyntax

/-! ## Literals -/

theorem Single.madeOf_text {v : Single} (h : v.isFinite = true) (names : List Text) :
    v.text.MadeOf names ∧ v.text.EndsInSyntax := by
  obtain ⟨whole, fraction, hwhole, hfraction, htext, -⟩ := exists_text h
  rw [htext]
  constructor
  · refine .append ?_ ((Text.MadeOf.of_digits hwhole).append (.cons (by decide)
      (.of_digits hfraction)))
    split <;> exact .of_all (by decide)
  · exact ((Text.EndsInSyntax.of_digits hfraction).append ['.']).append whole |>.append _

theorem madeOf_integerText (n : Int) (names : List Text) :
    (integerText n).MadeOf names ∧ (integerText n).EndsInSyntax := by
  have hdigits := isDigits_digitsOf n.natAbs
  rw [integerText]
  split
  · exact ⟨.cons (by decide) (.of_digits hdigits),
      (Text.EndsInSyntax.of_digits hdigits).append ['-']⟩
  · exact ⟨.of_digits hdigits, .of_digits hdigits⟩

theorem Literal.madeOf_text {v : Literal} (h : v.Printable) (names : List Text) :
    v.text.MadeOf names ∧ v.text.EndsInSyntax := by
  cases v with
  | float v => exact v.madeOf_text h names
  | integer n => exact madeOf_integerText n.toInt names
  | vec2 x y =>
    refine ⟨.call (by decide) ?_, .call _ _⟩
    exact List.forall_mem_cons.mpr ⟨(x.madeOf_text h.1 names).1,
      List.forall_mem_singleton.mpr (y.madeOf_text h.2 names).1⟩
  | vec3 x y z =>
    refine ⟨.call (by decide) ?_, .call _ _⟩
    exact List.forall_mem_cons.mpr ⟨(x.madeOf_text h.1 names).1,
      List.forall_mem_cons.mpr ⟨(y.madeOf_text h.2.1 names).1,
        List.forall_mem_singleton.mpr (z.madeOf_text h.2.2 names).1⟩⟩

/-! ## Trees -/

namespace Expr

theorem madeOf_nameText {name : Text} {names : List Text} (h : name ∈ names) :
    (nameText name).MadeOf names := by
  unfold nameText
  split
  · exact .of_mem h
  · exact (Text.MadeOf.cons (by decide) (.of_mem h)).append (.of_all (by decide))

/-- The text of a tree is made of its names, and ends in something else. -/
theorem madeOf_text {e : Expr} (h : e.Printable) :
    e.text.MadeOf e.names ∧ e.text.EndsInSyntax := by
  fun_induction text e with
  | case1 v => exact v.madeOf_text (h.literals v List.mem_cons_self) _
  | case2 name | case3 name =>
    refine ⟨.call (by decide) ?_, .call _ _⟩
    exact List.forall_mem_singleton.mpr (madeOf_nameText List.mem_cons_self)
  | case4 value =>
    cases value <;> exact ⟨.of_all (by decide), ⟨_, rfl, by decide⟩⟩
  | case5 x ih =>
    obtain ⟨hx, hlast⟩ := ih h.operand
    exact ⟨.cons (by decide) (hx.enclose _ _), (hlast.enclose _ _).append ['-']⟩
  | case6 op x hop ih =>
    refine ⟨.call (by cases op <;> decide) ?_, .call _ _⟩
    exact List.forall_mem_singleton.mpr (ih h.operand).1
  | case7 x y z ihx ihy ihz =>
    obtain ⟨hx, hy, hz⟩ := h.components
    refine ⟨.call (by decide) ?_, .call _ _⟩
    have hxy := List.subset_append_left (x.names ++ y.names) z.names
    exact List.forall_mem_cons.mpr ⟨((ihx hx).1.mono (List.subset_append_left _ _)).mono hxy,
      List.forall_mem_cons.mpr ⟨((ihy hy).1.mono (List.subset_append_right _ _)).mono hxy,
        List.forall_mem_singleton.mpr ((ihz hz).1.mono (List.subset_append_right _ _))⟩⟩
  | case8 op x y hnested hcall ihx ihy =>
    obtain ⟨hx, hy⟩ := h.operands (h.ne_vec3 hnested)
    refine ⟨.call (by cases op <;> decide) ?_, .call _ _⟩
    exact List.forall_mem_cons.mpr ⟨(ihx hx).1.mono (List.subset_append_left _ _),
      List.forall_mem_singleton.mpr ((ihy hy).1.mono (List.subset_append_right _ _))⟩
  | case9 op x y hnested hcall ihx ihy =>
    obtain ⟨hx, hy⟩ := h.operands (h.ne_vec3 hnested)
    obtain ⟨hleft, -⟩ := ihx hx
    obtain ⟨hright, hlast⟩ := ihy hy
    have hop : op.spelling.MadeOf (binary op x y).names := by
      cases op <;> exact .of_all (by decide)
    have hspace : Text.MadeOf (binary op x y).names [' '] := .of_all (by decide)
    refine ⟨?_, (hlast.enclose _ _).append _⟩
    have hbefore := ((hleft.mono (List.subset_append_left _ _)).enclose x.precedence
      (leftPrecedence op)).append hspace
    exact ((hbefore.append hop).append hspace).append
      ((hright.mono (List.subset_append_right _ _)).enclose _ _)

theorem getLast?_text_ne {e : Expr} (h : e.Printable) : e.text.getLast? ≠ some '\\' := by
  obtain ⟨c, hc, hchar⟩ := (madeOf_text h).2
  rintro hlast
  rw [hlast] at hc
  obtain rfl := Option.some.inj hc
  exact absurd hchar (by decide)

/-- Where no name has a blank, a text has no blanks but spaces. -/
theorem eq_space_of_mem_text {e : Expr} (h : e.Printable)
    (hnames : ∀ name ∈ e.names, ∀ c ∈ name, Text.isBlank c = false) :
    ∀ c ∈ e.text, Text.isBlank c = true → c = ' ' := by
  intro c hc hblank
  rcases (madeOf_text h).1 c hc with hchar | ⟨name, hname, hmem⟩
  · exact eq_space_of_isBlank hchar hblank
  · rw [hnames name hname c hmem] at hblank
    cases hblank

/-! ## Names between quotes -/

/-- A constant has no names. -/
theorem Constant.names {e : Expr} {v : Single} (h : e.Constant v) : e.names = [] := by
  induction h with
  | literal => rfl
  | negation _ ih => exact ih

theorem Vec2Call.names {x y e : Expr} (h : Vec2Call x y e) : e.names = x.names ++ y.names := by
  cases h with
  | literal hx hy =>
    rw [hx.names, hy.names]
    rfl
  | node => rfl

theorem Vec3Call.names {x y z e : Expr} (h : Vec3Call x y z e) :
    e.names = x.names ++ y.names ++ z.names := by
  cases h with
  | literal hx hy hz =>
    rw [hx.names, hy.names, hz.names]
    rfl
  | node => rfl

end Expr

/-- If the token is a string, then one of the names stands between its quotes. -/
def Token.QuotesOneOf (names : List Text) (t : Token) : Prop :=
  t.kind = .string → (t.text.drop 1).dropLast ∈ names

namespace Token.QuotesOneOf
variable {names names' : List Text} {t : Token}

theorem of_kind {kind : TokenKind} (h : t.kind = kind) (hne : kind ≠ .string) :
    t.QuotesOneOf names :=
  fun hstring => absurd (h.symm.trans hstring) hne

theorem of_referenceName {name : Text} (h : t.ReferenceName name) : t.QuotesOneOf [name] := by
  intro hstring
  cases h with
  | word hword =>
    rw [hstring] at hword
    cases hword
  | quoted _ htext => exact List.mem_singleton.mpr htext

theorem left {ts : List Token} (h : ∀ t ∈ ts, t.QuotesOneOf names) (names' : List Text) :
    ∀ t ∈ ts, t.QuotesOneOf (names ++ names') :=
  fun t ht hstring => List.mem_append_left _ (h t ht hstring)

theorem right {ts : List Token} (h : ∀ t ∈ ts, t.QuotesOneOf names') (names : List Text) :
    ∀ t ∈ ts, t.QuotesOneOf (names ++ names') :=
  fun t ht hstring => List.mem_append_right _ (h t ht hstring)

end Token.QuotesOneOf

/-- What stands between the quotes of a string in a phrase is a name of the tree. -/
theorem Derives.quotesOneOf {phrase : Phrase} {d : Nat} {ts : List Token} {e : Expr}
    (h : Derives phrase d ts e) : ∀ t ∈ ts, t.QuotesOneOf e.names := by
  induction h with
  | uncompared _ ih | term _ ih | factor _ ih => exact ih
  | comparison _ hkind _ _ ihl ihr | sum _ hkind _ _ ihl ihr | product _ hkind _ _ ihl ihr =>
    simp only [List.forall_mem_append, List.forall_mem_cons]
    exact ⟨.left ihl _, .of_kind hkind nofun, .right ihr _⟩
  | group hopen _ hclose ih =>
    simp only [List.forall_mem_append, List.forall_mem_cons]
    exact ⟨.of_kind hopen nofun, ih, .of_kind hclose nofun, nofun⟩
  | negation hkind _ ih => exact List.forall_mem_cons.mpr ⟨.of_kind hkind nofun, ih⟩
  | number h =>
    cases h with
    | integer hkind | float hkind => exact List.forall_mem_singleton.mpr (.of_kind hkind nofun)
  | name h | builtIn h => exact List.forall_mem_singleton.mpr (.of_kind h nofun)
  | attrCall hhead _ hopen hname hclose | propCall hhead _ hopen hname hclose =>
    simp only [List.forall_mem_cons]
    exact ⟨.of_kind hhead nofun, .of_kind hopen nofun, .of_referenceName hname,
      .of_kind hclose nofun, nofun⟩
  | unaryCall hhead _ hopen _ hclose ih =>
    simp only [List.forall_mem_append, List.forall_mem_cons]
    exact ⟨.of_kind hhead nofun, .of_kind hopen nofun, ih, .of_kind hclose nofun, nofun⟩
  | binaryCall hhead _ hopen _ hcomma _ hclose ihx ihy =>
    simp only [List.forall_mem_append, List.forall_mem_cons]
    exact ⟨.of_kind hhead nofun, .of_kind hopen nofun, .left ihx _, .of_kind hcomma nofun,
      .right ihy _, .of_kind hclose nofun, nofun⟩
  | vec2Call hhead _ hopen _ hcomma _ hclose he ihx ihy =>
    simp only [List.forall_mem_append, List.forall_mem_cons, he.names]
    exact ⟨.of_kind hhead nofun, .of_kind hopen nofun, .left ihx _, .of_kind hcomma nofun,
      .right ihy _, .of_kind hclose nofun, nofun⟩
  | vec3Call hhead _ hopen _ hcomma _ hcomma' _ hclose he ihx ihy ihz =>
    simp only [List.forall_mem_append, List.forall_mem_cons, he.names]
    exact ⟨.of_kind hhead nofun, .of_kind hopen nofun, .left (.left ihx _) _,
      .of_kind hcomma nofun, .left (.right ihy _) _, .of_kind hcomma' nofun, .right ihz _,
      .of_kind hclose nofun, nofun⟩

end EffectLang
