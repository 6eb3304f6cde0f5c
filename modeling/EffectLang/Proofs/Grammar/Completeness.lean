import EffectLang.Proofs.Grammar.Soundness

/-!
# What the grammar derives, a reader accepts

A phrase of depth `d` is read with room for `d` levels or more, whatever follows it, as long as
what follows cannot extend it. With less room the reader fails, and says that the nesting is too
deep. Both halves are one statement, `Settles`, which composes along the steps of a reader.
-/

namespace EffectLang

/-- A computation that fails because its input is nested too deep. -/
def TooDeep {α : Type} (x : Except ParseFailure α) : Prop :=
  ∃ token : Token, x = malformedAt .nestingTooDeep token

theorem TooDeep.bind {α β : Type} {x : Except ParseFailure α} (h : TooDeep x)
    (f : α → Except ParseFailure β) : TooDeep (x >>= f) := by
  obtain ⟨token, rfl⟩ := h
  exact ⟨token, rfl⟩

/-- With room for `d` levels the computation `x` is `y`; with less it is too deep. -/
def Settles {α : Type} (room d : Nat) (x y : Except ParseFailure α) : Prop :=
  (d ≤ room → x = y) ∧ (room < d → TooDeep x)

namespace Settles
variable {α β : Type} {room d d' : Nat} {x y z : Except ParseFailure α}

theorem of_eq (h : x = y) : Settles room 0 x y :=
  ⟨fun _ => h, fun hlt => absurd hlt (Nat.not_lt_zero room)⟩

theorem trans (h : Settles room d x y) (h' : Settles room d' y z) :
    Settles room (max d d') x z := by
  constructor
  · intro hd
    rw [h.1 (by omega), h'.1 (by omega)]
  · intro hlt
    rcases Nat.lt_or_ge room d with hdeep | hfits
    · exact h.2 hdeep
    · rw [h.1 hfits]
      exact h'.2 (by omega)

theorem trans_eq (h : Settles room d x y) (h' : y = z) : Settles room d x z :=
  h' ▸ h

theorem bind {a : α} {f : α → Except ParseFailure β} {y : Except ParseFailure β}
    (h : Settles room d x (.ok a)) (h' : Settles room d' (f a) y) :
    Settles room (max d d') (x >>= f) y := by
  constructor
  · intro hd
    rw [h.1 (by omega)]
    exact h'.1 (by omega)
  · intro hlt
    rcases Nat.lt_or_ge room d with hdeep | hfits
    · exact (h.2 hdeep).bind f
    · rw [h.1 hfits]
      exact h'.2 (by omega)

theorem bind_ok {a : α} {f : α → Except ParseFailure β} {y : Except ParseFailure β}
    (h : Settles room d x (.ok a)) (h' : f a = y) : Settles room d (x >>= f) y := by
  simpa using h.bind (of_eq h')

end Settles

/-! ## Where a phrase ends -/

/-- What may follow a phrase so that the reader stops after it. No name is followed by an opening
parenthesis; a product or a sum is not followed by an operator that would extend it. -/
def Phrase.Ends : Phrase → List Token → Prop
  | .expression, rest => nextIs .leftParen rest = false ∧
      ∀ accepts, nextOperator? accepts rest = none
  | .additive, rest => nextIs .leftParen rest = false ∧
      nextOperator? BinaryOp.isMultiplicative rest = none
  | .multiplicative, rest | .atom, rest => nextIs .leftParen rest = false

theorem BinaryOp.not_isMultiplicative_of_isComparison {op : BinaryOp}
    (h : op.isComparison = true) : op.isMultiplicative = false := by
  cases op <;> first | rfl | cases h

theorem BinaryOp.not_isAdditive_of_isComparison {op : BinaryOp}
    (h : op.isComparison = true) : op.isAdditive = false := by
  cases op <;> first | rfl | cases h

theorem BinaryOp.not_isMultiplicative_of_isAdditive {op : BinaryOp}
    (h : op.isAdditive = true) : op.isMultiplicative = false := by
  cases op <;> first | rfl | cases h

theorem Phrase.Ends.of_sign {phrase : Phrase} {sign : Token} {op : BinaryOp} {rest : List Token}
    (h : sign.kind = .operator op) (hphrase : phrase ≠ .expression)
    (hop : op.isMultiplicative = false) : phrase.Ends (sign :: rest) := by
  obtain ⟨kind, text, start⟩ := sign
  subst h
  cases phrase <;> simp [Phrase.Ends, nextIs, nextOperator?, hop] at hphrase ⊢

theorem Phrase.Ends.of_kind {sign : Token} {rest : List Token}
    (hparen : sign.kind ≠ .leftParen) (hop : ∀ op, sign.kind ≠ .operator op) :
    Phrase.expression.Ends (sign :: rest) := by
  refine ⟨by simpa [nextIs] using hparen, fun accepts => ?_⟩
  unfold nextOperator?
  split
  · next op _ _ _ heq =>
    rw [List.cons.injEq] at heq
    exact absurd (by rw [heq.1]) (hop op)
  · rfl

theorem Phrase.Ends.nil : Phrase.expression.Ends [] :=
  ⟨rfl, fun _ => rfl⟩

theorem nextOperator?_sign {accepts : BinaryOp → Bool} {sign : Token} {op : BinaryOp}
    {rest : List Token} (h : sign.kind = .operator op) :
    nextOperator? accepts (sign :: rest) = if accepts op then some (op, rest) else none := by
  obtain ⟨kind, text, start⟩ := sign
  subst h
  rfl

/-! ## Chains -/

/-- A reader that takes at least one token whenever it succeeds. -/
def Reader.Consumes (reader : Reader Expr) : Prop :=
  ∀ {ts e rest}, reader ts = .ok (e, rest) → rest.length < ts.length

section Chain
variable {accepts : BinaryOp → Bool} {operand : Reader Expr}

/-- The bound on a chain is never what ends it: any two bounds that exceed the tokens agree. -/
theorem chainRest_bound (hop : operand.Consumes) {b b' : Nat} {l : Expr} {ts : List Token}
    (hb : ts.length ≤ b) (hb' : ts.length ≤ b') :
    chainRest accepts operand b l ts = chainRest accepts operand b' l ts := by
  induction b generalizing b' l ts with
  | zero =>
    obtain rfl := List.length_eq_zero_iff.mp (Nat.le_zero.mp hb)
    cases b' <;> rfl
  | succ b ih =>
    cases b' with
    | zero =>
      obtain rfl := List.length_eq_zero_iff.mp (Nat.le_zero.mp hb')
      rfl
    | succ b' =>
      simp only [chainRest]
      split
      · rfl
      · next op rest hnext =>
        obtain ⟨sign, rfl, -, -⟩ := of_nextOperator? hnext
        simp only [List.length_cons, Nat.add_le_add_iff_right] at hb hb'
        cases hr : operand rest with
        | error err => rfl
        | ok result =>
          obtain ⟨r, rest'⟩ := result
          -- a turn takes at least one token, so both bounds are enough for the tokens it leaves
          have hlt : rest'.length < rest.length := hop hr
          exact ih (by dsimp only; omega) (by dsimp only; omega)

theorem chainRest_stop {b : Nat} {l : Expr} {ts : List Token}
    (h : nextOperator? accepts ts = none) :
    chainRest accepts operand b l ts = .ok (l, ts) := by
  cases b with
  | zero => rfl
  | succ b => simp [chainRest, h]

/-- One turn of the loop: an operator, an operand, and the rest of the chain. -/
theorem chainRest_step (hop : operand.Consumes) {room d : Nat} {l r : Expr} {sign : Token}
    {op : BinaryOp} {rs rest : List Token} (hkind : sign.kind = .operator op)
    (hacc : accepts op = true) (hr : Settles room d (operand (rs ++ rest)) (.ok (r, rest))) :
    Settles room d
      (chainRest accepts operand (sign :: (rs ++ rest)).length l (sign :: (rs ++ rest)))
      (chainRest accepts operand rest.length (.binary op l r) rest) := by
  simp only [List.length_cons, chainRest, nextOperator?_sign hkind, hacc, if_true]
  refine hr.bind_ok ?_
  exact chainRest_bound hop (by simp) (Nat.le_refl _)

theorem chain_first {room d : Nat} {e : Expr} {ts rest : List Token}
    (h : Settles room d (operand (ts ++ rest)) (.ok (e, rest))) :
    Settles room d (chain accepts operand (ts ++ rest))
      (chainRest accepts operand rest.length e rest) :=
  h.bind_ok rfl

end Chain

namespace Grammar
variable {g : Grammar}

theorem length_pos_of_derives {phrase : Phrase} {d : Nat} {ts : List Token} {e : Expr}
    (h : Derives phrase d ts e) : 0 < ts.length := by
  induction h with
  | uncompared _ ih => exact ih
  | term _ ih => exact ih
  | factor _ ih => exact ih
  | _ => simp only [List.length_append, List.length_cons]; omega

theorem consumes_of_sound {reader : Reader Expr} {phrase : Phrase} {room : Nat}
    (h : reader.Sound (DerivesWithin phrase room)) : reader.Consumes := by
  intro ts e rest hr
  obtain ⟨used, rfl, d, -, hd⟩ := h hr
  have := length_pos_of_derives hd
  rw [List.length_append]
  omega

theorem atom_consumes (hg : g.vectors = .folding) (room : Nat) :
    Reader.Consumes (g.atom room) :=
  consumes_of_sound (atom_sound hg room)

theorem multiplicative_consumes (hg : g.vectors = .folding) (room : Nat) :
    Reader.Consumes (multiplicative (g.atom room)) :=
  consumes_of_sound (multiplicative_sound (atom_sound hg room))

/-! ## Atoms -/

@[simp] theorem next_cons (token : Token) (ts : List Token) :
    g.next (token :: ts) = .ok (token, ts) := rfl

theorem expect_cons {token : Token} {kind : TokenKind} {cause : ParseError.Cause}
    {ts : List Token} (h : token.kind = kind) : g.expect kind cause (token :: ts) = .ok ts := by
  simp [expect, h, bind, Except.bind, pure, Except.pure]

theorem referenceName_cons {token : Token} {name : Text} {ts : List Token}
    (h : token.ReferenceName name) : g.referenceName (token :: ts) = .ok (name, ts) := by
  cases h with
  | word hword => simp [referenceName, hword, bind, Except.bind, pure, Except.pure]
  | quoted hkind hname hne =>
    have hword : token.kind.isWord = false := by rw [hkind]; rfl
    simp only [referenceName, next_cons, bind, Except.bind, hkind, hname]
    cases name with
    | nil => exact absurd rfl hne
    | cons c cs => rfl

/-- An atom that opens no level is a leaf, whatever the room. -/
theorem atom_leaf {room : Nat} {token : Token} {ts : List Token}
    (h : token.kind.opensLevel = false) : g.atom room (token :: ts) = leaf token ts := by
  cases room <;> simp [atom, h, bind, Except.bind]

/-- An atom that opens a level needs room for one more than what it holds. -/
theorem atom_opens {room d : Nat} {token : Token} {ts : List Token}
    {y : Except ParseFailure (Expr × List Token)} (hopens : token.kind.opensLevel = true)
    (h : ∀ room, Settles room d (g.nested (g.atom room) token ts) y) :
    Settles room (d + 1) (g.atom room (token :: ts)) y := by
  cases room with
  | zero =>
    refine ⟨fun hle => absurd hle (Nat.not_succ_le_zero d), fun _ => ⟨token, ?_⟩⟩
    simp [atom, hopens, bind, Except.bind]
  | succ room =>
    have hnested : g.atom (room + 1) (token :: ts) = g.nested (g.atom room) token ts := by
      simp [atom, hopens, bind, Except.bind]
    rw [hnested]
    exact ⟨fun hle => (h room).1 (Nat.le_of_succ_le_succ hle),
      fun hlt => (h room).2 (Nat.lt_of_succ_lt_succ hlt)⟩

theorem readInteger_eq {token : Token}
    (hlimit : token.text.length ≤ numeralDigitLimit)
    (hlt : ofDigits token.text < Literal.integerBound) :
    readInteger token = .ok (.integer (.ofNat (ofDigits token.text))) := by
  rw [readInteger, if_neg (Nat.not_lt.mpr hlimit)]
  exact if_pos hlt

theorem readFloat_eq {token : Token}
    (hfits : ((pointDecimal token.text).toDouble false).toSingle.isFinite = true) :
    readFloat token =
      .ok (.float ((pointDecimal token.text).toDouble false).toSingle) := by
  unfold readFloat
  exact if_pos hfits

theorem leaf_integer {token : Token} {v : Literal} {ts : List Token}
    (hkind : token.kind = .integer) (h : readInteger token = .ok v) :
    leaf token ts = .ok (.literal v, ts) := by
  simp only [leaf, hkind, h]
  rfl

theorem leaf_float {token : Token} {v : Literal} {ts : List Token}
    (hkind : token.kind = .float) (h : readFloat token = .ok v) :
    leaf token ts = .ok (.literal v, ts) := by
  simp only [leaf, hkind, h]
  rfl

/-- The leaves that are numbers, provided that the digits of an integer can be converted. -/
theorem leaf_number {token : Token} {v : Literal} (h : token.Number v)
    (hlimit : token.kind = .integer → token.text.length ≤ numeralDigitLimit) (ts : List Token) :
    leaf token ts = .ok (.literal v, ts) := by
  cases h with
  | integer hkind hlt => exact leaf_integer hkind (readInteger_eq (hlimit hkind) hlt)
  | float hkind hv hfinite =>
    subst hv
    exact leaf_float hkind (readFloat_eq hfinite)

/-- One argument of a call and the token after it, before the rest `k` of the call. -/
theorem argument_step {β : Type} {room d d' : Nat} {argument : Reader Expr} {x : Expr}
    {xs rest : List Token} {mark : Token} {kind : TokenKind} {cause : ParseError.Cause}
    (k : Expr → List Token → Except ParseFailure β) {y : Except ParseFailure β}
    (hx : Settles room d (argument (xs ++ mark :: rest)) (.ok (x, mark :: rest)))
    (hmark : mark.kind = kind) (hk : Settles room d' (k x rest) y) :
    Settles room (max d d') (do
      let (x, ts) ← argument (xs ++ mark :: rest)
      let ts ← g.expect kind cause ts
      k x ts) y := by
  refine hx.bind ?_
  dsimp only
  rw [expect_cons hmark]
  exact hk

/-- The last argument of a call and its closing parenthesis. -/
theorem argument_last {β : Type} {room d : Nat} {argument : Reader Expr} {x : Expr}
    {xs rest : List Token} {closing : Token} {cause : ParseError.Cause}
    (k : Expr → List Token → Except ParseFailure β)
    (hx : Settles room d (argument (xs ++ closing :: rest)) (.ok (x, closing :: rest)))
    (hclose : closing.kind = .rightParen) :
    Settles room d (do
      let (x, ts) ← argument (xs ++ closing :: rest)
      let ts ← g.expect .rightParen cause ts
      k x ts) (k x rest) := by
  rw [← Nat.max_zero d]
  exact argument_step k hx hclose (Settles.of_eq rfl)

/-! ## Phrases -/

/-- A call whose opening parenthesis is taken, for arguments that settle. -/
theorem call_unary {argument : Reader Expr} {room d : Nat} {op : UnaryOp} {x : Expr}
    {xs rest : List Token} {closing : Token} (hclose : closing.kind = .rightParen)
    (hx : Settles room d (argument (xs ++ closing :: rest)) (.ok (x, closing :: rest))) :
    Settles room d (g.call argument (.unary op) (xs ++ closing :: rest))
      (.ok (.unary op x, rest)) := by
  exact argument_last (fun x ts => .ok (Expr.unary op x, ts)) hx hclose

theorem call_binary {argument : Reader Expr} {room dx dy : Nat} {op : BinaryOp} {x y : Expr}
    {xs ys rest : List Token} {comma closing : Token} (hcomma : comma.kind = .comma)
    (hclose : closing.kind = .rightParen)
    (hx : Settles room dx (argument (xs ++ comma :: (ys ++ closing :: rest)))
      (.ok (x, comma :: (ys ++ closing :: rest))))
    (hy : Settles room dy (argument (ys ++ closing :: rest)) (.ok (y, closing :: rest))) :
    Settles room (max dx dy) (g.call argument (.binary op) (xs ++ comma :: (ys ++ closing :: rest)))
      (.ok (.binary op x y, rest)) := by
  refine argument_step (fun x ts => do
    let (y, ts) ← argument ts
    let ts ← g.expect .rightParen .unexpectedToken ts
    .ok (Expr.binary op x y, ts)) hx hcomma ?_
  exact argument_last (fun y ts => .ok (Expr.binary op x y, ts)) hy hclose

theorem refuseEmptyVector_eq {ts : List Token} (h : nextIs .rightParen ts = false) :
    refuseEmptyVector ts = .ok () := by
  cases ts with
  | nil => rfl
  | cons t ts =>
    have hkind : t.kind ≠ .rightParen := by simpa [nextIs] using h
    exact if_neg hkind

theorem call_vec2 {argument : Reader Expr} {room dx dy : Nat} {x y : Expr}
    {xs ys rest : List Token} {comma closing : Token} (hcomma : comma.kind = .comma)
    (hclose : closing.kind = .rightParen)
    (hempty : nextIs .rightParen (xs ++ comma :: (ys ++ closing :: rest)) = false)
    (hx : Settles room dx (argument (xs ++ comma :: (ys ++ closing :: rest)))
      (.ok (x, comma :: (ys ++ closing :: rest))))
    (hy : Settles room dy (argument (ys ++ closing :: rest)) (.ok (y, closing :: rest))) :
    Settles room (max dx dy) (g.call argument .vec2 (xs ++ comma :: (ys ++ closing :: rest)))
      (.ok (g.vectors.vec2 x y, rest)) := by
  simp only [call, refuseEmptyVector_eq hempty]
  refine argument_step (fun x ts => do
    let (y, ts) ← argument ts
    let ts ← g.expect .rightParen .invalidVector ts
    .ok (g.vectors.vec2 x y, ts)) hx hcomma ?_
  exact argument_last (fun y ts => .ok (g.vectors.vec2 x y, ts)) hy hclose

theorem call_vec3 {argument : Reader Expr} {room dx dy dz : Nat} {x y z : Expr}
    {xs ys zs rest : List Token} {comma comma' closing : Token} (hcomma : comma.kind = .comma)
    (hcomma' : comma'.kind = .comma) (hclose : closing.kind = .rightParen)
    (hempty : nextIs .rightParen
      (xs ++ comma :: (ys ++ comma' :: (zs ++ closing :: rest))) = false)
    (hx : Settles room dx (argument (xs ++ comma :: (ys ++ comma' :: (zs ++ closing :: rest))))
      (.ok (x, comma :: (ys ++ comma' :: (zs ++ closing :: rest)))))
    (hy : Settles room dy (argument (ys ++ comma' :: (zs ++ closing :: rest)))
      (.ok (y, comma' :: (zs ++ closing :: rest))))
    (hz : Settles room dz (argument (zs ++ closing :: rest)) (.ok (z, closing :: rest))) :
    Settles room (max dx (max dy dz))
      (g.call argument .vec3 (xs ++ comma :: (ys ++ comma' :: (zs ++ closing :: rest))))
      (.ok (g.vectors.vec3 x y z, rest)) := by
  simp only [call, refuseEmptyVector_eq hempty]
  refine argument_step (fun x ts => do
    let (y, ts) ← argument ts
    let ts ← g.expect .comma .invalidVector ts
    let (z, ts) ← argument ts
    let ts ← g.expect .rightParen .invalidVector ts
    .ok (g.vectors.vec3 x y z, ts)) hx hcomma ?_
  refine argument_step (fun y ts => do
    let (z, ts) ← argument ts
    let ts ← g.expect .rightParen .invalidVector ts
    .ok (g.vectors.vec3 x y z, ts)) hy hcomma' ?_
  exact argument_last (fun z ts => .ok (g.vectors.vec3 x y z, ts)) hz hclose

theorem call_attr {argument : Reader Expr} {name : Text} {token closing : Token}
    {rest : List Token} (hname : token.ReferenceName name)
    (hclose : closing.kind = .rightParen) :
    g.call argument .attr (token :: closing :: rest) = .ok (.attr name, rest) := by
  simp [call, referenceName_cons hname, expect_cons hclose, bind, Except.bind, pure,
    Except.pure]

theorem call_prop {argument : Reader Expr} {name : Text} {token closing : Token}
    {rest : List Token} (hname : token.ReferenceName name)
    (hclose : closing.kind = .rightParen) :
    g.call argument .prop (token :: closing :: rest) = .ok (.prop name, rest) := by
  simp [call, referenceName_cons hname, expect_cons hclose, bind, Except.bind, pure,
    Except.pure]

/-- No phrase starts with a closing parenthesis. -/
theorem nextIs_rightParen_of_derives {phrase : Phrase} {d : Nat} {ts : List Token} {e : Expr}
    (h : Derives phrase d ts e) (rest : List Token) :
    nextIs .rightParen (ts ++ rest) = false := by
  induction h generalizing rest with
  | uncompared _ ih | term _ ih | factor _ ih => exact ih rest
  | comparison _ _ _ _ ih | sum _ _ _ _ ih | product _ _ _ _ ih =>
    rw [List.append_assoc]
    exact ih _
  | number h => cases h with
    | integer hkind => simp [nextIs, hkind]
    | float hkind => simp [nextIs, hkind]
  | group h | negation h | name h | builtIn h | attrCall h | propCall h | unaryCall h
  | binaryCall h | vec2Call h | vec3Call h => simp [nextIs, h]

/-- A callable name and its opening parenthesis hand over to the call. -/
theorem nested_callee {atom : Reader Expr} {head opening : Token} {f : Callee}
    {ts : List Token} (hhead : head.kind = .callee f) (hopen : opening.kind = .leftParen) :
    g.nested atom head (opening :: ts) = g.call (expression atom) f.form ts := by
  simp [nested, hhead, expect_cons hopen, bind, Except.bind]

theorem atom_callee {room d : Nat} {head opening : Token} {f : Callee} {ts : List Token}
    {y : Except ParseFailure (Expr × List Token)} (hhead : head.kind = .callee f)
    (hopen : opening.kind = .leftParen)
    (h : ∀ room, Settles room d (g.call (expression (g.atom room)) f.form ts) y) :
    Settles room (d + 1) (g.atom room (head :: opening :: ts)) y := by
  refine atom_opens (by rw [hhead]; rfl) fun room => ?_
  rw [nested_callee hhead hopen]
  exact h room

end Grammar

/-- A token whose digits can be converted, if it is an integer. -/
def Token.Convertible (token : Token) : Prop :=
  token.kind = .integer → token.text.length ≤ numeralDigitLimit

namespace Phrase

/-- The reader of a phrase. -/
def read (atom : Reader Expr) : Phrase → Reader Expr
  | .expression => EffectLang.expression atom
  | .additive => EffectLang.additive atom
  | .multiplicative => EffectLang.multiplicative atom
  | .atom => atom

/-- Where the reader of a phrase stands once it has read `e`: a chain may go on. -/
def resume (atom : Reader Expr) : Phrase → Expr → List Token →
    Except ParseFailure (Expr × List Token)
  | .expression, e, rest | .atom, e, rest => .ok (e, rest)
  | .additive, e, rest =>
    chainRest BinaryOp.isAdditive (EffectLang.multiplicative atom) rest.length e rest
  | .multiplicative, e, rest => chainRest BinaryOp.isMultiplicative atom rest.length e rest

end Phrase

namespace Grammar
variable {g : Grammar}

/-- The reader of a phrase follows the derivation: each case is one rule of the grammar. -/
theorem settles_of_derives (hg : g.vectors = .folding) {phrase : Phrase} {d : Nat}
    {ts : List Token} {e : Expr} (h : Derives phrase d ts e)
    (hts : ∀ t ∈ ts, t.Convertible) (room : Nat) {rest : List Token} (hrest : phrase.Ends rest) :
    Settles room d (phrase.read (g.atom room) (ts ++ rest))
      (phrase.resume (g.atom room) e rest) := by
  -- the room shrinks inside atoms, and the rest of a part is whatever the rule puts after it
  induction h generalizing room rest with
  | uncompared _ ih =>
    obtain ⟨hparen, hop⟩ := hrest
    have hread := (ih hts room ⟨hparen, hop _⟩).trans_eq (chainRest_stop (hop _))
    refine hread.bind_ok ?_
    dsimp only
    rw [hop]
    rfl
  | @comparison dl dr ls rs l r sign op _ hkind hcmp _ ihl ihr =>
    obtain ⟨hparen, hop⟩ := hrest
    simp only [List.forall_mem_append, List.forall_mem_cons] at hts
    -- a comparison extends neither the sum before it nor the product at the end of that sum
    have hends : Phrase.additive.Ends (sign :: (rs ++ rest)) := .of_sign hkind (by decide)
      (BinaryOp.not_isMultiplicative_of_isComparison hcmp)
    have hstop : nextOperator? BinaryOp.isAdditive (sign :: (rs ++ rest)) = none := by
      rw [nextOperator?_sign hkind, BinaryOp.not_isAdditive_of_isComparison hcmp]
      rfl
    have hl := (ihl hts.1 room hends).trans_eq (chainRest_stop hstop)
    have hr := (ihr hts.2.2 room ⟨hparen, hop _⟩).trans_eq (chainRest_stop (hop _))
    rw [List.append_assoc, List.cons_append]
    refine hl.bind ?_
    dsimp only
    rw [nextOperator?_sign hkind, hcmp]
    exact hr.bind_ok rfl
  | term _ ih =>
    obtain ⟨hparen, hop⟩ := hrest
    exact chain_first ((ih hts room hparen).trans_eq (chainRest_stop hop))
  | @sum dl dr ls rs l r sign op _ hkind hadd _ ihl ihr =>
    obtain ⟨hparen, hop⟩ := hrest
    simp only [List.forall_mem_append, List.forall_mem_cons] at hts
    have hends : Phrase.additive.Ends (sign :: (rs ++ rest)) := .of_sign hkind (by decide)
      (BinaryOp.not_isMultiplicative_of_isAdditive hadd)
    have hl := ihl hts.1 room hends
    have hr := (ihr hts.2.2 room hparen).trans_eq (chainRest_stop hop)
    rw [List.append_assoc, List.cons_append]
    exact hl.trans (chainRest_step (multiplicative_consumes hg room) hkind hadd hr)
  | factor _ ih => exact chain_first (ih hts room hrest)
  | @product dl dr ls rs l r sign op _ hkind hmul _ ihl ihr =>
    simp only [List.forall_mem_append, List.forall_mem_cons] at hts
    have hends : Phrase.multiplicative.Ends (sign :: (rs ++ rest)) := by
      simp [Phrase.Ends, nextIs, hkind]
    have hl := ihl hts.1 room hends
    have hr := ihr hts.2.2 room hrest
    rw [List.append_assoc, List.cons_append]
    exact hl.trans (chainRest_step (atom_consumes hg room) hkind hmul hr)
  | @group d ts e opening closing hopen _ hclose ih =>
    simp only [List.forall_mem_append, List.forall_mem_cons] at hts
    simp only [List.cons_append, List.append_assoc, List.nil_append]
    refine atom_opens (by rw [hopen]; rfl) fun room => ?_
    have hends : Phrase.expression.Ends (closing :: rest) :=
      .of_kind (by simp [hclose]) (by simp [hclose])
    have hinner := ih hts.2.1 room hends
    simp only [nested, hopen]
    refine hinner.bind_ok ?_
    dsimp only
    rw [if_pos hclose]
    rfl
  | @negation d ts e sign hkind _ ih =>
    simp only [List.forall_mem_cons] at hts
    refine atom_opens (by rw [hkind]; rfl) fun room => ?_
    have hoperand := ih hts.2 room hrest
    simp only [nested, hkind]
    exact hoperand.bind_ok rfl
  | number h =>
    have hleaf := leaf_number h (hts _ (List.mem_singleton_self _)) rest
    cases h with
    | integer hkind => exact .of_eq ((atom_leaf (by rw [hkind]; rfl)).trans hleaf)
    | float hkind => exact .of_eq ((atom_leaf (by rw [hkind]; rfl)).trans hleaf)
  | @name token hkind =>
    have hparen : nextIs .leftParen rest = false := hrest
    simp only [List.cons_append, List.nil_append]
    refine .of_eq ((atom_leaf (by rw [hkind]; rfl)).trans ?_)
    simp only [leaf, hkind, hparen]
    rfl
  | @builtIn token value hkind =>
    have hparen : nextIs .leftParen rest = false := hrest
    simp only [List.cons_append, List.nil_append]
    refine .of_eq ((atom_leaf (by rw [hkind]; rfl)).trans ?_)
    simp only [leaf, hkind, hparen]
    rfl
  | attrCall hhead hform hopen hname hclose =>
    refine atom_callee hhead hopen fun room => .of_eq ?_
    rw [hform]
    exact call_attr hname hclose
  | propCall hhead hform hopen hname hclose =>
    refine atom_callee hhead hopen fun room => .of_eq ?_
    rw [hform]
    exact call_prop hname hclose
  | @unaryCall d xs x head opening closing f op hhead hform hopen _ hclose ih =>
    simp only [List.forall_mem_append, List.forall_mem_cons] at hts
    simp only [List.cons_append, List.append_assoc, List.nil_append]
    refine atom_callee hhead hopen fun room => ?_
    have hends : Phrase.expression.Ends (closing :: rest) :=
      .of_kind (by simp [hclose]) (by simp [hclose])
    rw [hform]
    exact call_unary hclose (ih hts.2.2.1 room hends)
  | @binaryCall dx dy xs ys x y head opening comma closing f op hhead hform hopen _ hcomma _
      hclose ihx ihy =>
    simp only [List.forall_mem_append, List.forall_mem_cons] at hts
    simp only [List.cons_append, List.append_assoc, List.nil_append]
    refine atom_callee hhead hopen fun room => ?_
    rw [hform]
    exact call_binary hcomma hclose
      (ihx hts.2.2.1 room (.of_kind (by simp [hcomma]) (by simp [hcomma])))
      (ihy hts.2.2.2.2.1 room (.of_kind (by simp [hclose]) (by simp [hclose])))
  | @vec2Call dx dy xs ys x y e head opening comma closing f hhead hform hopen hx hcomma _
      hclose he ihx ihy =>
    simp only [List.forall_mem_append, List.forall_mem_cons] at hts
    simp only [List.cons_append, List.append_assoc, List.nil_append]
    refine atom_callee hhead hopen fun room => ?_
    have hfold : g.vectors.vec2 x y = e := by rw [hg]; exact Expr.vec2Call_iff.mp he
    rw [hform, ← hfold]
    exact call_vec2 hcomma hclose (nextIs_rightParen_of_derives hx _)
      (ihx hts.2.2.1 room (.of_kind (by simp [hcomma]) (by simp [hcomma])))
      (ihy hts.2.2.2.2.1 room (.of_kind (by simp [hclose]) (by simp [hclose])))
  | @vec3Call dx dy dz xs ys zs x y z e head opening comma comma' closing f hhead hform hopen
      hx hcomma _ hcomma' _ hclose he ihx ihy ihz =>
    simp only [List.forall_mem_append, List.forall_mem_cons] at hts
    simp only [List.cons_append, List.append_assoc, List.nil_append]
    refine atom_callee hhead hopen fun room => ?_
    have hfold : g.vectors.vec3 x y z = e := by rw [hg]; exact Expr.vec3Call_iff.mp he
    rw [hform, ← hfold]
    exact call_vec3 hcomma hcomma' hclose (nextIs_rightParen_of_derives hx _)
      (ihx hts.2.2.1 room (.of_kind (by simp [hcomma]) (by simp [hcomma])))
      (ihy hts.2.2.2.2.1 room (.of_kind (by simp [hcomma']) (by simp [hcomma'])))
      (ihz hts.2.2.2.2.2.2.1 room (.of_kind (by simp [hclose]) (by simp [hclose])))

/-- Reading all tokens of an expression: with room for its depth it gives the tree, otherwise the
nesting is too deep. -/
theorem read_settles (hg : g.vectors = .folding) {d : Nat} {ts : List Token} {e : Expr}
    (h : Derives .expression d ts e) (hts : ∀ t ∈ ts, t.Convertible) (room : Nat) :
    Settles room d (g.read room ts) (.ok e) := by
  have hread := settles_of_derives hg h hts room Phrase.Ends.nil
  rw [List.append_nil] at hread
  exact hread.bind_ok rfl

end Grammar
end EffectLang
