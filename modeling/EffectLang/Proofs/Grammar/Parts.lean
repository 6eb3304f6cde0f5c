import EffectLang.Proofs.Grammar.Derivation

/-!
# What a phrase is made of

A phrase holds no token in error, no integer out of range and no empty name. Every comma in it
stands between two arguments of a call, and every call has as many of them as its arity asks for, so
the two numbers are the same. Tokens that break one of these rules are no phrase, whatever their
order is.
-/

namespace EffectLang

/-! ## Proper tokens -/

/-- A token that a phrase can hold: it is not in error, an integer is in range, and there is
something between the quotes of a string. -/
structure Token.Proper (t : Token) : Prop where
  kind_ne_error : t.kind ≠ .error
  integer : t.kind = .integer → ofDigits t.text < Literal.integerBound
  string : t.kind = .string → (t.text.drop 1).dropLast ≠ []

theorem Token.Proper.of_kind {t : Token} {kind : TokenKind} (h : t.kind = kind)
    (herror : kind ≠ .error) (hinteger : kind ≠ .integer) (hstring : kind ≠ .string) :
    t.Proper where
  kind_ne_error := by rwa [h]
  integer hkind := absurd (h.symm.trans hkind) hinteger
  string hkind := absurd (h.symm.trans hkind) hstring

theorem Token.Number.proper {t : Token} {v : Literal} (h : t.Number v) : t.Proper := by
  cases h with
  | integer hkind hlt =>
    exact ⟨by rw [hkind]; nofun, fun _ => hlt, fun h => absurd (hkind.symm.trans h) nofun⟩
  | float hkind => exact .of_kind hkind nofun nofun nofun

theorem Token.ReferenceName.proper {t : Token} {name : Text} (h : t.ReferenceName name) :
    t.Proper := by
  cases h with
  | word hword =>
    have hother {kind : TokenKind} (hkind : kind.isWord = false) : t.kind ≠ kind := by
      rintro rfl
      exact absurd hword (Bool.eq_false_iff.mp hkind)
    exact .of_kind rfl (hother rfl) (hother rfl) (hother rfl)
  | quoted hstring hname hne =>
    exact ⟨by rw [hstring]; nofun, fun h => absurd (hstring.symm.trans h) nofun,
      fun _ => by rwa [hname]⟩

/-- A phrase is made of proper tokens. -/
theorem Derives.proper {phrase : Phrase} {d : Nat} {ts : List Token} {e : Expr}
    (h : Derives phrase d ts e) : ∀ t ∈ ts, t.Proper := by
  induction h with
  | uncompared _ ih | term _ ih | factor _ ih => exact ih
  | comparison _ hkind _ _ ihl ihr | sum _ hkind _ _ ihl ihr | product _ hkind _ _ ihl ihr =>
    simp only [List.forall_mem_append, List.forall_mem_cons]
    exact ⟨ihl, .of_kind hkind nofun nofun nofun, ihr⟩
  | group hopen _ hclose ih =>
    simp only [List.forall_mem_append, List.forall_mem_cons]
    exact ⟨.of_kind hopen nofun nofun nofun, ih, .of_kind hclose nofun nofun nofun, nofun⟩
  | negation hkind _ ih => exact List.forall_mem_cons.mpr ⟨.of_kind hkind nofun nofun nofun, ih⟩
  | number h => exact List.forall_mem_singleton.mpr h.proper
  | name h | builtIn h => exact List.forall_mem_singleton.mpr (.of_kind h nofun nofun nofun)
  | attrCall hhead _ hopen hname hclose | propCall hhead _ hopen hname hclose =>
    simp only [List.forall_mem_cons]
    exact ⟨.of_kind hhead nofun nofun nofun, .of_kind hopen nofun nofun nofun, hname.proper,
      .of_kind hclose nofun nofun nofun, nofun⟩
  | unaryCall hhead _ hopen _ hclose ih =>
    simp only [List.forall_mem_append, List.forall_mem_cons]
    exact ⟨.of_kind hhead nofun nofun nofun, .of_kind hopen nofun nofun nofun, ih,
      .of_kind hclose nofun nofun nofun, nofun⟩
  | binaryCall hhead _ hopen _ hcomma _ hclose ihx ihy
  | vec2Call hhead _ hopen _ hcomma _ hclose _ ihx ihy =>
    simp only [List.forall_mem_append, List.forall_mem_cons]
    exact ⟨.of_kind hhead nofun nofun nofun, .of_kind hopen nofun nofun nofun, ihx,
      .of_kind hcomma nofun nofun nofun, ihy, .of_kind hclose nofun nofun nofun, nofun⟩
  | vec3Call hhead _ hopen _ hcomma _ hcomma' _ hclose _ ihx ihy ihz =>
    simp only [List.forall_mem_append, List.forall_mem_cons]
    exact ⟨.of_kind hhead nofun nofun nofun, .of_kind hopen nofun nofun nofun, ihx,
      .of_kind hcomma nofun nofun nofun, ihy, .of_kind hcomma' nofun nofun nofun, ihz,
      .of_kind hclose nofun nofun nofun, nofun⟩

/-! ## Commas -/

/-- The commas that the calls among the tokens ask for, less those that there are. A callable name
is called when a parenthesis follows. -/
def missingCommas : List Token → Int
  | [] => 0
  | t :: ts =>
    (match t.kind with
      | .callee f => if nextIs .leftParen ts then (f.arity : Int) - 1 else 0
      | .comma => -1
      | _ => 0) + missingCommas ts

section
variable {t head opening : Token} {xs ys ts : List Token} {f : Callee}

theorem missingCommas_cons (hcallee : ∀ f, t.kind ≠ .callee f) (hcomma : t.kind ≠ .comma)
    (ts : List Token) : missingCommas (t :: ts) = missingCommas ts := by
  rw [missingCommas]
  split
  · next f hf => exact absurd hf (hcallee f)
  · next h => exact absurd h hcomma
  · exact Int.zero_add _

theorem missingCommas_of_kind {kind : TokenKind} (h : t.kind = kind)
    (hcallee : ∀ f, kind ≠ .callee f) (hcomma : kind ≠ .comma) (ts : List Token) :
    missingCommas (t :: ts) = missingCommas ts := by
  subst h
  exact missingCommas_cons hcallee hcomma ts

theorem missingCommas_operator {op : BinaryOp} (h : t.kind = .operator op) (ts : List Token) :
    missingCommas (t :: ts) = missingCommas ts :=
  missingCommas_of_kind h nofun nofun ts

theorem missingCommas_comma (h : t.kind = .comma) (ts : List Token) :
    missingCommas (t :: ts) = missingCommas ts - 1 := by
  rw [missingCommas, h]
  show -1 + missingCommas ts = missingCommas ts - 1
  omega

theorem missingCommas_call (hhead : head.kind = .callee f) (hopen : opening.kind = .leftParen)
    (ts : List Token) :
    missingCommas (head :: opening :: ts) = (f.arity : Int) - 1 + missingCommas ts := by
  have hnext : nextIs .leftParen (opening :: ts) = true := decide_eq_true hopen
  rw [missingCommas, hhead, missingCommas_of_kind hopen nofun nofun]
  dsimp only
  rw [if_pos hnext]

/-- A name in a reference is not called. -/
theorem missingCommas_uncalled (hcomma : t.kind ≠ .comma) (hnext : nextIs .leftParen ts = false) :
    missingCommas (t :: ts) = missingCommas ts := by
  rw [missingCommas]
  split
  · rw [if_neg (Bool.eq_false_iff.mp hnext), Int.zero_add]
  · next h => exact absurd h hcomma
  · exact Int.zero_add _

/-- Unless a parenthesis follows, nothing is called across the seam. -/
theorem missingCommas_append (h : nextIs .leftParen ys = false) :
    missingCommas (xs ++ ys) = missingCommas xs + missingCommas ys := by
  induction xs with
  | nil => simp [missingCommas]
  | cons t xs ih =>
    have hnext : nextIs .leftParen (xs ++ ys) = nextIs .leftParen xs := by
      cases xs with
      | nil => exact h
      | cons u xs => rfl
    rw [List.cons_append, missingCommas, missingCommas, hnext, ih, Int.add_assoc]

theorem not_called_of_kind {kind : TokenKind} (h : t.kind = kind) (hne : kind ≠ .leftParen)
    (ts : List Token) : nextIs .leftParen (t :: ts) = false :=
  decide_eq_false (by rwa [h])

/-- Tokens around a sign. -/
theorem missingCommas_between {sign : Token} {op : BinaryOp} (h : sign.kind = .operator op)
    (xs ys : List Token) :
    missingCommas (xs ++ sign :: ys) = missingCommas xs + missingCommas ys := by
  rw [missingCommas_append (not_called_of_kind h nofun ys), missingCommas_operator h]

theorem missingCommas_closed {closing : Token} (h : closing.kind = .rightParen)
    (xs : List Token) : missingCommas (xs ++ [closing]) = missingCommas xs := by
  rw [missingCommas_append (not_called_of_kind h nofun []), missingCommas_of_kind h nofun nofun]
  exact Int.add_zero _

/-- Tokens before a comma. -/
theorem missingCommas_argument {comma : Token} (h : comma.kind = .comma) (xs ys : List Token) :
    missingCommas (xs ++ comma :: ys) = missingCommas xs + missingCommas ys - 1 := by
  rw [missingCommas_append (not_called_of_kind h nofun ys), missingCommas_comma h]
  omega

section
variable {name comma comma' closing : Token} (hhead : head.kind = .callee f)
  (hopen : opening.kind = .leftParen) (hcomma : comma.kind = .comma)
  (hcomma' : comma'.kind = .comma) (hclose : closing.kind = .rightParen)
include hhead hopen hclose

/-- The four tokens of a reference. -/
theorem missingCommas_reference (hf : f.arity = 1) (hname : name.kind ≠ .comma) :
    missingCommas [head, opening, name, closing] = 0 := by
  rw [missingCommas_call hhead hopen, hf,
    missingCommas_uncalled hname (not_called_of_kind hclose nofun []),
    missingCommas_of_kind hclose nofun nofun]
  rfl

theorem missingCommas_callOfOne (xs : List Token) :
    missingCommas (head :: opening :: (xs ++ [closing])) =
      (f.arity : Int) - 1 + missingCommas xs := by
  rw [missingCommas_call hhead hopen, missingCommas_closed hclose]

include hcomma

theorem missingCommas_callOfTwo (xs ys : List Token) :
    missingCommas (head :: opening :: (xs ++ comma :: (ys ++ [closing]))) =
      (f.arity : Int) - 2 + missingCommas xs + missingCommas ys := by
  rw [missingCommas_call hhead hopen, missingCommas_argument hcomma, missingCommas_closed hclose]
  omega

include hcomma'

theorem missingCommas_callOfThree (xs ys zs : List Token) :
    missingCommas (head :: opening :: (xs ++ comma :: (ys ++ comma' :: (zs ++ [closing])))) =
      (f.arity : Int) - 3 + missingCommas xs + missingCommas ys + missingCommas zs := by
  rw [missingCommas_call hhead hopen, missingCommas_argument hcomma,
    missingCommas_argument hcomma', missingCommas_closed hclose]
  omega

end

end

theorem Token.ReferenceName.kind_ne_comma {token : Token} {name : Text}
    (h : token.ReferenceName name) : token.kind ≠ .comma := by
  intro hkind
  cases h with
  | word hword => simp [hkind, TokenKind.isWord] at hword
  | quoted hstring => simp [hkind] at hstring

/-- In a phrase no comma is missing, and none is too many. -/
theorem Derives.missingCommas_eq {phrase : Phrase} {d : Nat} {ts : List Token} {e : Expr}
    (h : Derives phrase d ts e) : missingCommas ts = 0 := by
  induction h with
  | uncompared _ ih | term _ ih | factor _ ih => exact ih
  | comparison _ hkind _ _ ihl ihr | sum _ hkind _ _ ihl ihr | product _ hkind _ _ ihl ihr =>
    rw [missingCommas_between hkind, ihl, ihr]
    rfl
  | group hopen _ hclose ih =>
    rw [missingCommas_of_kind hopen nofun nofun, missingCommas_closed hclose, ih]
  | negation hkind _ ih => rw [missingCommas_operator hkind, ih]
  | number h =>
    cases h with
    | integer hkind | float hkind => exact missingCommas_of_kind hkind nofun nofun []
  | name hkind | builtIn hkind => exact missingCommas_of_kind hkind nofun nofun []
  | attrCall hhead hform hopen hname hclose | propCall hhead hform hopen hname hclose =>
    exact missingCommas_reference hhead hopen hclose (by simp [Callee.arity, hform])
      hname.kind_ne_comma
  | unaryCall hhead hform hopen _ hclose ih =>
    rw [missingCommas_callOfOne hhead hopen hclose, ih, Callee.arity, hform]
    rfl
  | binaryCall hhead hform hopen _ hcomma _ hclose ihx ihy
  | vec2Call hhead hform hopen _ hcomma _ hclose _ ihx ihy =>
    rw [missingCommas_callOfTwo hhead hopen hcomma hclose, ihx, ihy, Callee.arity, hform]
    rfl
  | vec3Call hhead hform hopen _ hcomma _ hcomma' _ hclose _ ihx ihy ihz =>
    rw [missingCommas_callOfThree hhead hopen hcomma hcomma' hclose, ihx, ihy, ihz, Callee.arity,
      hform]
    rfl

end EffectLang
