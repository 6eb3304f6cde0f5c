import EffectLang.Proofs.Grammar.Derivation

/-!
# What a reader accepts, the grammar derives

A reader that succeeds has taken a phrase off the front of its tokens, and with room for `n` levels
that phrase is at most `n` deep. The chains come first, for any operators and operands; the atoms
follow by induction on the room.
-/

namespace EffectLang

/-- A computation that succeeds goes through its first step. -/
theorem ok_of_bind {ε α β : Type} {x : Except ε α} {f : α → Except ε β} {b : β}
    (h : x >>= f = .ok b) : ∃ a, x = .ok a ∧ f a = .ok b := by
  cases x with
  | error e => cases h
  | ok a => exact ⟨a, rfl, h⟩

/-- A phrase of at most the given depth. -/
def DerivesWithin (phrase : Phrase) (room : Nat) (ts : List Token) (e : Expr) : Prop :=
  ∃ d, d ≤ room ∧ Derives phrase d ts e

/-- Whatever the reader returns, it has taken tokens that stand for it. -/
def Reader.Sound (reader : Reader Expr) (stands : List Token → Expr → Prop) : Prop :=
  ∀ {ts e rest}, reader ts = .ok (e, rest) → ∃ used, ts = used ++ rest ∧ stands used e

/-! ## Chains and comparisons -/

theorem of_nextOperator? {accepts : BinaryOp → Bool} {ts rest : List Token} {op : BinaryOp}
    (h : nextOperator? accepts ts = some (op, rest)) :
    ∃ sign : Token, ts = sign :: rest ∧ sign.kind = .operator op ∧ accepts op = true := by
  unfold nextOperator? at h
  split at h
  · split at h
    · next ha =>
      simp only [Option.some.injEq, Prod.mk.injEq] at h
      obtain ⟨rfl, rfl⟩ := h
      exact ⟨_, rfl, rfl, ha⟩
    · cases h
  · cases h

section Chain
variable {accepts : BinaryOp → Bool} {operand : Reader Expr}
variable {one many : List Token → Expr → Prop}

/-- The loop extends what stands to its left by one operator and one operand at a time. -/
theorem chainRest_sound (hop : operand.Sound one)
    (hstep : ∀ {ls rs l r sign op}, many ls l → Token.kind sign = .operator op →
      accepts op = true → one rs r → many (ls ++ sign :: rs) (.binary op l r))
    {bound : Nat} {l e : Expr} {ls ts rest : List Token} (hl : many ls l)
    (h : chainRest accepts operand bound l ts = .ok (e, rest)) :
    ∃ used, ts = used ++ rest ∧ many (ls ++ used) e := by
  induction bound generalizing l ls ts with
  | zero =>
    simp only [chainRest, Except.ok.injEq, Prod.mk.injEq] at h
    obtain ⟨rfl, rfl⟩ := h
    exact ⟨[], rfl, by simpa using hl⟩
  | succ bound ih =>
    simp only [chainRest] at h
    split at h
    · simp only [Except.ok.injEq, Prod.mk.injEq] at h
      obtain ⟨rfl, rfl⟩ := h
      exact ⟨[], rfl, by simpa using hl⟩
    · next op ts' hnext =>
      obtain ⟨sign, rfl, hkind, hacc⟩ := of_nextOperator? hnext
      obtain ⟨⟨r, ts''⟩, hr, hrest⟩ := ok_of_bind h
      obtain ⟨rs, rfl, hone⟩ := hop hr
      obtain ⟨used, rfl, hmany⟩ := ih (hstep hl hkind hacc hone) hrest
      exact ⟨sign :: (rs ++ used), by simp, by simpa using hmany⟩

theorem chain_sound (hop : operand.Sound one) (hone : ∀ {ts e}, one ts e → many ts e)
    (hstep : ∀ {ls rs l r sign op}, many ls l → Token.kind sign = .operator op →
      accepts op = true → one rs r → many (ls ++ sign :: rs) (.binary op l r)) :
    Reader.Sound (chain accepts operand) many := by
  intro ts e rest h
  obtain ⟨⟨first, ts'⟩, hfirst, hrest⟩ := ok_of_bind h
  obtain ⟨ls, rfl, hls⟩ := hop hfirst
  obtain ⟨used, rfl, hmany⟩ := chainRest_sound hop hstep (hone hls) hrest
  exact ⟨ls ++ used, by simp, hmany⟩

end Chain

section Levels
variable {atom : Reader Expr} {room : Nat}

theorem multiplicative_sound (h : atom.Sound (DerivesWithin .atom room)) :
    Reader.Sound (multiplicative atom) (DerivesWithin .multiplicative room) := by
  refine chain_sound h (fun ⟨d, hd, he⟩ => ⟨d, hd, .factor he⟩) ?_
  rintro ls rs l r sign op ⟨dl, hdl, hl⟩ hkind hacc ⟨dr, hdr, hr⟩
  exact ⟨max dl dr, by omega, .product hl hkind hacc hr⟩

theorem additive_sound (h : atom.Sound (DerivesWithin .atom room)) :
    Reader.Sound (additive atom) (DerivesWithin .additive room) := by
  refine chain_sound (multiplicative_sound h) (fun ⟨d, hd, he⟩ => ⟨d, hd, .term he⟩) ?_
  rintro ls rs l r sign op ⟨dl, hdl, hl⟩ hkind hacc ⟨dr, hdr, hr⟩
  exact ⟨max dl dr, by omega, .sum hl hkind hacc hr⟩

theorem expression_sound (h : atom.Sound (DerivesWithin .atom room)) :
    Reader.Sound (expression atom) (DerivesWithin .expression room) := by
  intro ts e rest he
  obtain ⟨⟨l, ts'⟩, hl, he₁⟩ := ok_of_bind he
  obtain ⟨ls, rfl, dl, hdl, hls⟩ := additive_sound h hl
  dsimp only at he₁
  split at he₁
  · cases he₁
    exact ⟨ls, rfl, dl, hdl, .uncompared hls⟩
  · next op ts'' hnext =>
    obtain ⟨sign, rfl, hkind, hacc⟩ := of_nextOperator? hnext
    obtain ⟨⟨r, ts'''⟩, hr, he₂⟩ := ok_of_bind he₁
    obtain ⟨rs, rfl, dr, hdr, hrs⟩ := additive_sound h hr
    cases he₂
    exact ⟨ls ++ sign :: rs, by simp, max dl dr, by omega, .comparison hls hkind hacc hrs⟩

end Levels

/-! ## Atoms -/

theorem readInteger_sound {token : Token} {v : Literal} (hkind : token.kind = .integer)
    (h : readInteger token = .ok v) : token.Number v := by
  unfold readInteger at h
  split at h
  · cases h
  · dsimp only at h
    split at h
    · next hlt =>
      cases h
      exact .integer hkind hlt
    · cases h

theorem readFloat_sound {token : Token} {v : Literal} (hkind : token.kind = .float)
    (h : readFloat token = .ok v) : token.Number v := by
  unfold readFloat at h
  dsimp only at h
  split at h
  · next hfits =>
    cases h
    exact .float hkind rfl hfits
  · cases h

theorem leaf_sound {token : Token} {ts rest : List Token} {e : Expr}
    (h : leaf token ts = .ok (e, rest)) : ts = rest ∧ Derives .atom 0 [token] e := by
  unfold leaf at h
  split at h
  · next hkind =>
    obtain ⟨v, hv, h₁⟩ := ok_of_bind h
    cases h₁
    exact ⟨rfl, .number (readInteger_sound hkind hv)⟩
  · next hkind =>
    obtain ⟨v, hv, h₁⟩ := ok_of_bind h
    cases h₁
    exact ⟨rfl, .number (readFloat_sound hkind hv)⟩
  · next hkind =>
    split at h
    · cases h
    · cases h
      exact ⟨rfl, .name hkind⟩
  · next value hkind =>
    split at h
    · cases h
    · cases h
      exact ⟨rfl, .builtIn hkind⟩
  · cases h

theorem TokenKind.of_opensLevel {kind : TokenKind} (h : kind.opensLevel = true) :
    kind = .leftParen ∨ (∃ f, kind = .callee f) ∨ kind = .operator .sub := by
  unfold opensLevel at h
  split at h
  · exact .inl rfl
  · exact .inr (.inl ⟨_, rfl⟩)
  · exact .inr (.inr rfl)
  · cases h

namespace Grammar
variable {g : Grammar}

theorem of_next {ts rest : List Token} {token : Token} (h : g.next ts = .ok (token, rest)) :
    ts = token :: rest := by
  cases ts with
  | nil => cases h
  | cons t ts => cases h; rfl

/-- A computation that succeeds after an expected token. -/
theorem of_expect {β : Type} {kind : TokenKind} {cause : ParseError.Cause} {ts : List Token}
    {f : List Token → Except ParseFailure β} {b : β} (h : g.expect kind cause ts >>= f = .ok b) :
    ∃ (token : Token) (rest : List Token), ts = token :: rest ∧ token.kind = kind ∧
      f rest = .ok b := by
  obtain ⟨ts', hexpect, hb⟩ := ok_of_bind h
  obtain ⟨⟨token, rest⟩, hnext, h₁⟩ := ok_of_bind hexpect
  obtain rfl := of_next hnext
  dsimp only at h₁
  split at h₁
  · next hkind => cases h₁; exact ⟨token, _, rfl, hkind, hb⟩
  · cases h₁

/-- A computation that succeeds after the name of a reference. -/
theorem of_referenceName {β : Type} {ts : List Token}
    {f : Text × List Token → Except ParseFailure β} {b : β}
    (h : g.referenceName ts >>= f = .ok b) :
    ∃ (token : Token) (name : Text) (rest : List Token), ts = token :: rest ∧
      token.ReferenceName name ∧ f (name, rest) = .ok b := by
  obtain ⟨⟨name, ts'⟩, hname, hb⟩ := ok_of_bind h
  obtain ⟨⟨token, rest⟩, hnext, h₁⟩ := ok_of_bind hname
  obtain rfl := of_next hnext
  dsimp only at h₁
  split at h₁
  · next hword => cases h₁; exact ⟨token, _, _, rfl, .word hword, hb⟩
  · split at h₁
    · next hkind =>
      split at h₁
      · cases h₁
      · next hne =>
        cases h₁
        exact ⟨token, _, _, rfl, .quoted hkind rfl hne, hb⟩
    · cases h₁
    · cases h₁

section Call
variable {argument : Reader Expr} {room : Nat}

/-- A computation that succeeds after an argument. -/
theorem of_argument {β : Type} (harg : argument.Sound (DerivesWithin .expression room))
    {ts : List Token} {f : Expr × List Token → Except ParseFailure β} {b : β}
    (h : argument ts >>= f = .ok b) :
    ∃ (xs rest : List Token) (x : Expr) (d : Nat), ts = xs ++ rest ∧ d ≤ room ∧
      Derives .expression d xs x ∧ f (x, rest) = .ok b := by
  obtain ⟨⟨x, rest⟩, hx, hb⟩ := ok_of_bind h
  obtain ⟨xs, rfl, d, hd, hxs⟩ := harg hx
  exact ⟨xs, rest, x, d, rfl, hd, hxs, hb⟩

/-- A call whose opening parenthesis is taken: with its head it is an atom of one more level. -/
theorem call_sound (hg : g.vectors = .folding)
    (harg : argument.Sound (DerivesWithin .expression room)) {head opening : Token} {f : Callee}
    (hhead : head.kind = .callee f) (hopen : opening.kind = .leftParen)
    {ts rest : List Token} {e : Expr} (h : g.call argument f.form ts = .ok (e, rest)) :
    ∃ used, ts = used ++ rest ∧ DerivesWithin .atom (room + 1) (head :: opening :: used) e := by
  unfold call at h
  split at h
  · next hform =>
    obtain ⟨token, name, ts₁, rfl, htoken, h₁⟩ := of_referenceName h
    obtain ⟨closing, ts₂, rfl, hclose, h₂⟩ := of_expect h₁
    cases h₂
    exact ⟨[token, closing], rfl, 1, by omega, .attrCall hhead hform hopen htoken hclose⟩
  · next hform =>
    obtain ⟨token, name, ts₁, rfl, htoken, h₁⟩ := of_referenceName h
    obtain ⟨closing, ts₂, rfl, hclose, h₂⟩ := of_expect h₁
    cases h₂
    exact ⟨[token, closing], rfl, 1, by omega, .propCall hhead hform hopen htoken hclose⟩
  · next op hform =>
    obtain ⟨xs, ts₁, x, dx, rfl, hdx, hxs, h₁⟩ := of_argument harg h
    obtain ⟨closing, ts₂, rfl, hclose, h₂⟩ := of_expect h₁
    cases h₂
    exact ⟨xs ++ [closing], by simp, dx + 1, by omega,
      .unaryCall hhead hform hopen hxs hclose⟩
  · next op hform =>
    obtain ⟨xs, ts₁, x, dx, rfl, hdx, hxs, h₁⟩ := of_argument harg h
    obtain ⟨comma, ts₂, rfl, hcomma, h₂⟩ := of_expect h₁
    obtain ⟨ys, ts₃, y, dy, rfl, hdy, hys, h₃⟩ := of_argument harg h₂
    obtain ⟨closing, ts₄, rfl, hclose, h₄⟩ := of_expect h₃
    cases h₄
    exact ⟨xs ++ comma :: (ys ++ [closing]), by simp, max dx dy + 1, by omega,
      .binaryCall hhead hform hopen hxs hcomma hys hclose⟩
  -- a vector looks at its first token before it reads it, and takes nothing by that
  · next hform =>
    obtain ⟨-, -, h₀⟩ := ok_of_bind h
    obtain ⟨xs, ts₁, x, dx, rfl, hdx, hxs, h₁⟩ := of_argument harg h₀
    obtain ⟨comma, ts₂, rfl, hcomma, h₂⟩ := of_expect h₁
    obtain ⟨ys, ts₃, y, dy, rfl, hdy, hys, h₃⟩ := of_argument harg h₂
    obtain ⟨closing, ts₄, rfl, hclose, h₄⟩ := of_expect h₃
    cases h₄
    rw [hg]
    exact ⟨xs ++ comma :: (ys ++ [closing]), by simp, max dx dy + 1, by omega,
      .vec2Call hhead hform hopen hxs hcomma hys hclose (Expr.vec2Call_iff.mpr rfl)⟩
  · next hform =>
    obtain ⟨-, -, h₀⟩ := ok_of_bind h
    obtain ⟨xs, ts₁, x, dx, rfl, hdx, hxs, h₁⟩ := of_argument harg h₀
    obtain ⟨comma, ts₂, rfl, hcomma, h₂⟩ := of_expect h₁
    obtain ⟨ys, ts₃, y, dy, rfl, hdy, hys, h₃⟩ := of_argument harg h₂
    obtain ⟨comma', ts₄, rfl, hcomma', h₄⟩ := of_expect h₃
    obtain ⟨zs, ts₅, z, dz, rfl, hdz, hzs, h₅⟩ := of_argument harg h₄
    obtain ⟨closing, ts₆, rfl, hclose, h₆⟩ := of_expect h₅
    cases h₆
    rw [hg]
    exact ⟨xs ++ comma :: (ys ++ comma' :: (zs ++ [closing])), by simp,
      max dx (max dy dz) + 1, by omega,
      .vec3Call hhead hform hopen hxs hcomma hys hcomma' hzs hclose (Expr.vec3Call_iff.mpr rfl)⟩

end Call

theorem group_sound {atom : Reader Expr} {room start : Nat}
    (hatom : atom.Sound (DerivesWithin .atom room)) {opening : Token}
    (hopen : opening.kind = .leftParen) {ts rest : List Token} {e : Expr}
    (h : group atom start ts = .ok (e, rest)) :
    ∃ used, ts = used ++ rest ∧ DerivesWithin .atom (room + 1) (opening :: used) e := by
  obtain ⟨⟨inner, ts'⟩, hinner, h₁⟩ := ok_of_bind h
  obtain ⟨xs, rfl, d, hd, hxs⟩ := expression_sound hatom hinner
  dsimp only at h₁
  split at h₁
  · cases h₁
  · next closing ts'' =>
    split at h₁
    · next hclose =>
      cases h₁
      exact ⟨xs ++ [closing], by simp, d + 1, by omega, .group hopen hxs hclose⟩
    · cases h₁

theorem nested_sound {atom : Reader Expr} {room : Nat} (hg : g.vectors = .folding)
    (hatom : atom.Sound (DerivesWithin .atom room)) {opening : Token}
    (hopens : opening.kind.opensLevel = true) {ts rest : List Token} {e : Expr}
    (h : g.nested atom opening ts = .ok (e, rest)) :
    ∃ used, ts = used ++ rest ∧ DerivesWithin .atom (room + 1) (opening :: used) e := by
  unfold nested at h
  rcases TokenKind.of_opensLevel hopens with hkind | ⟨f, hkind⟩ | hkind <;> rw [hkind] at h
  · exact group_sound hatom hkind h
  · obtain ⟨paren, ts', rfl, hparen, h₁⟩ := of_expect h
    obtain ⟨used, rfl, hused⟩ := call_sound hg (expression_sound hatom) hkind hparen h₁
    exact ⟨paren :: used, by simp, hused⟩
  · obtain ⟨⟨x, ts'⟩, hx, h₁⟩ := ok_of_bind h
    obtain ⟨xs, rfl, d, hd, hxs⟩ := hatom hx
    cases h₁
    exact ⟨xs, rfl, d + 1, by omega, .negation hkind hxs⟩

theorem atom_sound (hg : g.vectors = .folding) (room : Nat) :
    Reader.Sound (g.atom room) (DerivesWithin .atom room) := by
  induction room with
  | zero =>
    intro ts e rest h
    obtain ⟨⟨token, ts'⟩, hnext, h₁⟩ := ok_of_bind h
    obtain rfl := of_next hnext
    dsimp only at h₁
    -- there is no room, so what opens a level is refused
    split at h₁
    · cases h₁
    · obtain ⟨rfl, hleaf⟩ := leaf_sound h₁
      exact ⟨[token], rfl, 0, Nat.le_refl 0, hleaf⟩
  | succ room ih =>
    intro ts e rest h
    obtain ⟨⟨token, ts'⟩, hnext, h₁⟩ := ok_of_bind h
    obtain rfl := of_next hnext
    dsimp only at h₁
    split at h₁
    · next hopens =>
      obtain ⟨used, rfl, hused⟩ := nested_sound hg ih hopens h₁
      exact ⟨token :: used, rfl, hused⟩
    · obtain ⟨rfl, hleaf⟩ := leaf_sound h₁
      exact ⟨[token], rfl, 0, Nat.zero_le _, hleaf⟩

/-- An accepted list of tokens is one expression, no deeper than the room. -/
theorem read_sound (hg : g.vectors = .folding) {room : Nat} {ts : List Token} {e : Expr}
    (h : g.read room ts = .ok e) : DerivesWithin .expression room ts e := by
  obtain ⟨⟨e', rest⟩, he, h₁⟩ := ok_of_bind h
  obtain ⟨used, rfl, hused⟩ := expression_sound (atom_sound hg room) he
  dsimp only at h₁
  split at h₁
  · cases h₁
    simpa using hused
  · cases h₁

end Grammar
end EffectLang
