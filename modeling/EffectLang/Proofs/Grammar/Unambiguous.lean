import EffectLang.Proofs.Grammar.Completeness

/-!
# The grammar is unambiguous

A list of tokens is at most one expression, of one depth. The reader decides it: with room for the
depth of one derivation it returns that derivation's tree, and any other derivation says the same
of it. Integers with too many digits are no obstacle, since leading zeros can be dropped without
changing what is derived.
-/

namespace EffectLang

/-- The integers below the bound have few digits. -/
theorem length_digitsOf_le {n : Nat} (h : n ≤ Literal.integerBound) :
    (digitsOf n).length ≤ numeralDigitLimit := by
  have hdigits : (digitsOf n).length ≤ 10 :=
    (Nat.length_toDigits_le_iff (by decide) (by decide)).mpr (Nat.lt_of_le_of_lt h (by decide))
  exact Nat.le_trans hdigits (by decide)

/-! ## Changing how tokens are written -/

/-- A change to tokens that keeps what they stand for: kinds, the texts of all but integers, and
the values of integers. -/
structure Token.Respelling where
  respell : Token → Token
  kind_eq : ∀ t, (respell t).kind = t.kind
  text_eq : ∀ t, t.kind ≠ .integer → (respell t).text = t.text
  value_eq : ∀ t, t.kind = .integer → ofDigits t.text < Literal.integerBound →
    ofDigits (respell t).text = ofDigits t.text

namespace Token.Respelling
variable (f : Respelling)

theorem number {t : Token} {v : Literal} (h : t.Number v) : (f.respell t).Number v := by
  cases h with
  | integer hkind hlt =>
    have hvalue := f.value_eq t hkind hlt
    rw [← hvalue] at hlt ⊢
    exact .integer ((f.kind_eq t).trans hkind) hlt
  | float hkind hv hfinite =>
    have htext : (f.respell t).text = t.text := f.text_eq t (by simp [hkind])
    exact .float ((f.kind_eq t).trans hkind) (by rwa [htext]) hfinite

theorem referenceName {t : Token} {name : Text} (h : t.ReferenceName name) :
    (f.respell t).ReferenceName name := by
  have htext := f.text_eq t h.kind_ne_integer
  cases h with
  | word hword =>
    rw [← htext]
    exact .word (by rwa [f.kind_eq])
  | quoted hstring hname hne =>
    exact .quoted ((f.kind_eq t).trans hstring) (by rwa [htext]) hne

/-- What a list of tokens derives depends on what the tokens stand for only. -/
theorem derives {phrase : Phrase} {d : Nat} {ts : List Token} {e : Expr}
    (h : Derives phrase d ts e) : Derives phrase d (ts.map f.respell) e := by
  have kind {t : Token} {k : TokenKind} (ht : t.kind = k) : (f.respell t).kind = k :=
    (f.kind_eq t).trans ht
  induction h with
  | uncompared _ ih => exact .uncompared ih
  | term _ ih => exact .term ih
  | factor _ ih => exact .factor ih
  | comparison _ hkind hop _ ihl ihr =>
    simpa using Derives.comparison ihl (kind hkind) hop ihr
  | sum _ hkind hop _ ihl ihr => simpa using Derives.sum ihl (kind hkind) hop ihr
  | product _ hkind hop _ ihl ihr => simpa using Derives.product ihl (kind hkind) hop ihr
  | group hopen _ hclose ih => simpa using Derives.group (kind hopen) ih (kind hclose)
  | negation hkind _ ih => exact .negation (kind hkind) ih
  | number h => exact .number (f.number h)
  | @name token hkind =>
    rw [← f.text_eq token (by simp [hkind])]
    exact .name (kind hkind)
  | builtIn hkind => exact .builtIn (kind hkind)
  | attrCall hhead hform hopen hname hclose =>
    exact .attrCall (kind hhead) hform (kind hopen) (f.referenceName hname) (kind hclose)
  | propCall hhead hform hopen hname hclose =>
    exact .propCall (kind hhead) hform (kind hopen) (f.referenceName hname) (kind hclose)
  | unaryCall hhead hform hopen _ hclose ih =>
    simpa using Derives.unaryCall (kind hhead) hform (kind hopen) ih (kind hclose)
  | binaryCall hhead hform hopen _ hcomma _ hclose ihx ihy =>
    simpa using Derives.binaryCall (kind hhead) hform (kind hopen) ihx (kind hcomma) ihy
      (kind hclose)
  | vec2Call hhead hform hopen _ hcomma _ hclose he ihx ihy =>
    simpa using Derives.vec2Call (kind hhead) hform (kind hopen) ihx (kind hcomma) ihy
      (kind hclose) he
  | vec3Call hhead hform hopen _ hcomma _ hcomma' _ hclose he ihx ihy ihz =>
    simpa using Derives.vec3Call (kind hhead) hform (kind hopen) ihx (kind hcomma) ihy
      (kind hcomma') ihz (kind hclose) he

/-- Integers within the bound are written with their significant digits, longer ones with none. -/
def shorten : Respelling where
  respell t :=
    if t.kind = .integer then
      { t with text :=
          if ofDigits t.text < Literal.integerBound then digitsOf (ofDigits t.text) else [] }
    else t
  kind_eq t := by split <;> rfl
  text_eq t ht := by rw [if_neg ht]
  value_eq t ht hlt := by
    rw [if_pos ht]
    dsimp only
    rw [if_pos hlt, ofDigits_digitsOf]

theorem shorten_convertible (t : Token) : (shorten.respell t).Convertible := by
  intro hkind
  rw [shorten.kind_eq] at hkind
  show (if t.kind = .integer then _ else t).text.length ≤ numeralDigitLimit
  rw [if_pos hkind]
  dsimp only
  split
  · next hlt => exact length_digitsOf_le (Nat.le_of_lt hlt)
  · exact Nat.zero_le _

end Token.Respelling

/-! ## One derivation -/

/-- Two derivations of one list of tokens agree on the tree, and on the depth. -/
theorem Derives.unique {ts : List Token} {d d' : Nat} {e e' : Expr}
    (h : Derives .expression d ts e) (h' : Derives .expression d' ts e') : d = d' ∧ e = e' := by
  let g : Grammar := ⟨0, .folding⟩
  let ts' := ts.map Token.Respelling.shorten.respell
  have hconv : ∀ t ∈ ts', t.Convertible := by
    intro t ht
    obtain ⟨t, -, rfl⟩ := List.mem_map.mp ht
    exact Token.Respelling.shorten_convertible t
  have hread := g.read_settles rfl (Token.Respelling.shorten.derives h) hconv
  have hread' := g.read_settles rfl (Token.Respelling.shorten.derives h') hconv
  -- less room than one of them needs would be too deep and enough at once
  have hdepth {a b : Nat} {x y : Expr} (hx : ∀ room, Settles room a (g.read room ts') (.ok x))
      (hy : ∀ room, Settles room b (g.read room ts') (.ok y)) : b ≤ a := by
    refine Nat.le_of_not_lt fun hlt => ?_
    obtain ⟨token, htoken⟩ := (hy a).2 hlt
    rw [(hx a).1 (Nat.le_refl a)] at htoken
    cases htoken
  have hd : d = d' := Nat.le_antisymm (hdepth hread' hread) (hdepth hread hread')
  subst hd
  have hok : Except.ok e = Except.ok e' :=
    ((hread d).1 (Nat.le_refl d)).symm.trans ((hread' d).1 (Nat.le_refl d))
  exact ⟨rfl, Except.ok.inj hok⟩

/-! ## What is accepted -/

/-- A source is read with success exactly when its significant tokens are an expression of the
grammar, of depth at most the nesting limit, and then the result is the tree that they derive. No
tokens derive two trees. -/
theorem Expr.parse_eq_ok_iff_derives :
    (∀ source, (∀ t ∈ significant (tokenize source), t.Convertible) → ∀ e,
      Expr.parse source = .ok e ↔
        ∃ d, d ≤ nestingLimit ∧ Derives .expression d (significant (tokenize source)) e) ∧
    (∀ ts d d' e e', Derives .expression d ts e → Derives .expression d' ts e' → e = e') := by
  refine ⟨fun source hconv e => ⟨?_, ?_⟩, fun ts d d' e e' h h' => (h.unique h').2⟩
  · intro h
    exact Grammar.read_sound rfl h
  · rintro ⟨d, hd, h⟩
    exact (Grammar.read_settles rfl h hconv nestingLimit).1 hd

/-- A successful result is found by evaluation. -/
theorem ok_of_toOption {ε α : Type} {x : Except ε α} {a : α} (h : x.toOption = some a) :
    x = .ok a := by
  cases x with
  | error e => cases h
  | ok b => rw [Option.some.inj h]

instance (t : Token) : Decidable t.Convertible :=
  inferInstanceAs (Decidable (_ → _))

/-- A comparison of a negated group and a call, with a vector that is kept as a node. -/
theorem Expr.derives_of_mixed_source :
    (∀ t ∈ significant (tokenize "-(a + 007.25) < min(b, vec2(c, 2) * 3)".toList),
      t.Convertible) ∧
    ∃ d, d ≤ nestingLimit ∧
      Derives .expression d
        (significant (tokenize "-(a + 007.25) < min(b, vec2(c, 2) * 3)".toList))
        (.binary .less
          (.unary .neg (.binary .add (.attr ['a']) (.literal (.float (.ofBits 0x40e80000)))))
          (.binary .min (.attr ['b'])
            (.binary .mul (.binary .vec2 (.attr ['c']) (.literal (.integer 2)))
              (.literal (.integer 3))))) := by
  have hconv : ∀ t ∈ significant (tokenize "-(a + 007.25) < min(b, vec2(c, 2) * 3)".toList),
      t.Convertible := by
    decide +kernel
  refine ⟨hconv, (Expr.parse_eq_ok_iff_derives.1 _ hconv _).mp (ok_of_toOption ?_)⟩
  decide +kernel

end EffectLang
