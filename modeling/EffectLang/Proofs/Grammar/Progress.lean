import EffectLang.Proofs.Grammar.Completeness
import EffectLang.Proofs.Grammar.Cursor

/-!
# Reading comes to an end

All procedures do the same with the cursor, `Moved`: it is moved forward over tokens that are there,
each of which is taken, and the levels that were opened are closed again. An atom takes a token
before it reads what is inside, and a turn of a loop takes two, so that a time beyond the number of
the tokens that are left is never up. Along the same induction the outcomes are those of the reader
that takes tokens off the front of a list.
-/

namespace EffectLang

namespace Cursor
variable {g : Grammar} {tokens : List Token} {c c' c'' : Cursor} {m n : Nat}

/-! ## Moves -/

/-- The cursor is moved forward by at least so many tokens. If it is moved at all then over tokens
that are there, and each of them is taken once. All levels that were opened are closed. -/
structure Moved (tokens : List Token) (least : Nat) (c c' : Cursor) : Prop where
  forward : c.pos + least ≤ c'.pos
  within : c.pos < c'.pos → c'.pos ≤ tokens.length
  depth_eq : c'.depth = c.depth
  taken_eq : c'.taken = c.taken ++ List.range' c.pos (c'.pos - c.pos)

/-- So many levels are open, and at most so many tokens are left. -/
structure Has (tokens : List Token) (left depth : Nat) (c : Cursor) : Prop where
  left_le : tokens.length - c.pos ≤ left
  depth_eq : c.depth = depth

namespace Moved

theorem refl (c : Cursor) : Moved tokens 0 c c where
  forward := Nat.le_refl _
  within h := absurd h (Nat.lt_irrefl _)
  depth_eq := rfl
  taken_eq := by simp

theorem weaken (h : Moved tokens n c c') (hle : m ≤ n) : Moved tokens m c c' :=
  { h with forward := Nat.le_trans (Nat.add_le_add_left hle _) h.forward }

theorem trans (h : Moved tokens m c c') (h' : Moved tokens n c' c'') :
    Moved tokens (n + m) c c'' where
  forward := by
    have := h.forward
    have := h'.forward
    omega
  within hlt := by
    rcases Nat.lt_or_ge c'.pos c''.pos with hlt' | hge
    · exact h'.within hlt'
    · have := h'.forward
      have := h.within (by omega)
      omega
  depth_eq := h'.depth_eq.trans h.depth_eq
  taken_eq := by
    have hpos := h.forward
    have hpos' := h'.forward
    have hstart : c'.pos = c.pos + (c'.pos - c.pos) := by omega
    have hcount : c''.pos - c.pos = (c'.pos - c.pos) + (c''.pos - c'.pos) := by omega
    rw [h'.taken_eq, h.taken_eq, List.append_assoc, hcount, ← List.range'_append_1, ← hstart]

theorem next (h : c.pos < tokens.length) : Moved tokens 1 c c.next where
  forward := Nat.le_refl _
  within _ := h
  depth_eq := rfl
  taken_eq := by simp [Cursor.next]

theorem has {left depth : Nat} (h : Moved tokens m c c') (hc : Has tokens left depth c) :
    Has tokens left depth c' where
  left_le := by
    have := h.forward
    have := hc.left_le
    omega
  depth_eq := h.depth_eq.trans hc.depth_eq

end Moved

/-- What a procedure does and what a reader does with the tokens from the cursor on: both fail
alike, or they return the same value, the cursor is moved, and the reader leaves the tokens from
there on. -/
inductive Advances (tokens : List Token) (least : Nat) (c : Cursor) {α : Type} :
    Option (Except ParseFailure (α × Cursor)) → Except ParseFailure (α × List Token) → Prop
  | failed (f : ParseFailure) : Advances tokens least c (some (.error f)) (.error f)
  | moved (a : α) {c' : Cursor} (h : Moved tokens least c c') :
    Advances tokens least c (some (.ok (a, c'))) (.ok (a, tokens.drop c'.pos))

/-- The procedure advances, from each cursor with so many open levels and so many tokens left. -/
def Follows (tokens : List Token) (left depth least : Nat) {α : Type} (x : Moving α)
    (reader : Reader α) : Prop :=
  ∀ c, Has tokens left depth c → Advances tokens least c (x.outcome c) (reader (tokens.drop c.pos))

/-! ## Steps -/

theorem drop_of_getElem? {t : Token} (h : tokens[c.pos]? = some t) :
    tokens.drop c.pos = t :: tokens.drop c.next.pos := by
  obtain ⟨hlt, rfl⟩ := List.getElem?_eq_some_iff.mp h
  exact List.drop_eq_getElem_cons hlt

theorem drop_of_getElem?_none (h : tokens[c.pos]? = none) : tokens.drop c.pos = [] :=
  List.drop_eq_nil_of_le (List.getElem?_eq_none_iff.mp h)

theorem moved_next_of_getElem? {t : Token} (h : tokens[c.pos]? = some t) :
    Moved tokens 1 c c.next :=
  .next (List.getElem?_eq_some_iff.mp h).1

namespace Advances
variable {α β : Type}

theorem weaken {r : Option (Except ParseFailure (α × Cursor))}
    {y : Except ParseFailure (α × List Token)} (h : Advances tokens n c r y) (hle : m ≤ n) :
    Advances tokens m c r y := by
  cases h with
  | failed f => exact .failed f
  | moved a h => exact .moved a (h.weaken hle)

theorem after {r : Option (Except ParseFailure (α × Cursor))}
    {y : Except ParseFailure (α × List Token)} (hmoved : Moved tokens m c c')
    (h : Advances tokens n c' r y) : Advances tokens (n + m) c r y := by
  cases h with
  | failed f => exact .failed f
  | moved a h => exact .moved a (hmoved.trans h)

theorem bind {x : Moving α} {y : Except ParseFailure (α × List Token)} {f : α → Moving β}
    {k : α × List Token → Except ParseFailure (β × List Token)}
    (hx : Advances tokens m c (x.outcome c) y)
    (hf : ∀ a c', Moved tokens m c c' →
      Advances tokens n c' ((f a).outcome c') (k (a, tokens.drop c'.pos))) :
    Advances tokens (n + m) c ((x >>= f).outcome c) (y >>= k) := by
  rw [outcome_bind]
  generalize x.outcome c = r at hx
  cases hx with
  | failed f => exact .failed f
  | moved a h => exact .after h (hf a _ h)

theorem pure (a : α) (c : Cursor) :
    Advances tokens 0 c ((Pure.pure a : Moving α).outcome c) (.ok (a, tokens.drop c.pos)) :=
  .moved a (.refl c)

/-- What a procedure does after it has looked at the token that has to be there. -/
theorem require {f : Token → Moving β}
    {k : Token × List Token → Except ParseFailure (β × List Token)}
    (h : ∀ t, tokens[c.pos]? = some t →
      Advances tokens n c ((f t).outcome c) (k (t, tokens.drop c.next.pos))) :
    Advances tokens n c ((Cursor.require g tokens >>= f).outcome c)
      (g.next (tokens.drop c.pos) >>= k) := by
  rw [outcome_require]
  cases ht : tokens[c.pos]? with
  | none =>
    rw [drop_of_getElem?_none ht]
    exact .failed _
  | some t =>
    rw [drop_of_getElem? ht]
    exact h t ht

theorem take {t : Token} (ht : tokens[c.pos]? = some t) {f : Token → Moving β}
    {y : Except ParseFailure (β × List Token)}
    (h : Advances tokens n c.next ((f t).outcome c.next) y) :
    Advances tokens (n + 1) c ((advance g tokens >>= f).outcome c) y := by
  rw [outcome_advance ht]
  exact .after (moved_next_of_getElem? ht) h

theorem expect {kind : TokenKind} {cause : ParseError.Cause} {f : Unit → Moving β}
    {k : List Token → Except ParseFailure (β × List Token)}
    (h : ∀ c', Moved tokens 1 c c' →
      Advances tokens n c' ((f ()).outcome c') (k (tokens.drop c'.pos))) :
    Advances tokens (n + 1) c ((Cursor.expect g tokens kind cause >>= f).outcome c)
      (g.expect kind cause (tokens.drop c.pos) >>= k) := by
  rw [Cursor.expect, Grammar.expect, bind_assoc, bind_assoc]
  refine Advances.require fun t ht => ?_
  dsimp only
  by_cases hkind : t.kind = kind
  · rw [if_pos hkind, if_pos hkind, bind_assoc, outcome_advance ht]
    have hmoved := moved_next_of_getElem? ht
    exact .after hmoved (h _ hmoved)
  · rw [if_neg hkind, if_neg hkind]
    exact .failed _

end Advances

/-! ## Names and leaves -/

theorem follows_referenceName {left depth : Nat} :
    Follows tokens left depth 1 (referenceName g tokens) g.referenceName := by
  intro c _
  rw [referenceName, Grammar.referenceName]
  refine Advances.require fun t ht => ?_
  have hname (name : Text) : Advances tokens 1 c
      ((do
        let _ ← advance g tokens
        return name : Moving Text).outcome c)
      (.ok (name, tokens.drop c.next.pos)) := Advances.take ht (.pure name _)
  dsimp only
  split
  · exact hname _
  · cases t.kind with
    | string =>
      cases (t.text.drop 1).dropLast with
      | nil => exact .failed _
      | cons first rest => exact hname _
    | _ => exact .failed _

theorem advances_refuseEmptyVector {β : Type} {f : Unit → Moving β}
    {y : Except ParseFailure (β × List Token)}
    (h : Advances tokens n c ((f ()).outcome c) y) :
    Advances tokens n c ((refuseEmptyVector tokens >>= f).outcome c)
      (Grammar.refuseEmptyVector (tokens.drop c.pos) >>= fun _ => y) := by
  rw [refuseEmptyVector, bind_assoc, outcome_look]
  cases ht : tokens[c.pos]? with
  | none =>
    rw [drop_of_getElem?_none ht]
    exact h
  | some t =>
    rw [drop_of_getElem? ht, Grammar.refuseEmptyVector]
    dsimp only
    split
    · exact .failed _
    · exact h

theorem advances_number {t : Token} (ht : tokens[c.pos]? = some t)
    (read : Token → Except ParseFailure Literal) :
    Advances tokens 1 c ((number g tokens read t).outcome c)
      (do return (.literal (← read t), tokens.drop c.next.pos)) := by
  refine Advances.take ht ?_
  cases read t with
  | error f => exact .failed f
  | ok v => exact .pure _ _

theorem nextIs_drop (kind : TokenKind) (c : Cursor) :
    nextIs kind (tokens.drop c.pos) = tokens[c.pos]?.any (·.kind = kind) := by
  cases ht : tokens[c.pos]? with
  | none =>
    rw [drop_of_getElem?_none ht]
    rfl
  | some t =>
    rw [drop_of_getElem? ht]
    rfl

theorem advances_bareName {t : Token} (ht : tokens[c.pos]? = some t) (e : Expr) :
    Advances tokens 1 c ((bareName g tokens e t).outcome c)
      (if nextIs .leftParen (tokens.drop c.next.pos) then malformedAt .unknownFunction t
        else .ok (e, tokens.drop c.next.pos)) := by
  refine Advances.take ht ?_
  rw [nextIs_drop, outcome_look]
  split
  · exact .failed _
  · exact .pure _ _

theorem advances_leaf {t : Token} (ht : tokens[c.pos]? = some t) :
    Advances tokens 1 c ((leaf g tokens t).outcome c)
      (EffectLang.leaf t (tokens.drop c.next.pos)) := by
  unfold leaf EffectLang.leaf
  cases t.kind with
  | integer | float => exact advances_number ht _
  | identifier | builtIn => exact advances_bareName ht _
  | _ => exact .failed _

/-! ## Operators -/

/-- A turn of the loop of a chain, for readers. -/
def turnReader (accepts : BinaryOp → Bool) (operand : Reader Expr) :
    Reader (Option (BinaryOp × Expr)) := fun tokens =>
  match nextOperator? accepts tokens with
  | none => return (none, tokens)
  | some (op, tokens) => do
    let (right, tokens) ← operand tokens
    return (some (op, right), tokens)

/-- What a turn of a loop does: it fails, it ends the loop where the cursor is, or it moves the
cursor over an operator and an operand. -/
inductive Turns (tokens : List Token) (c : Cursor) :
    Option (Except ParseFailure (Option (BinaryOp × Expr) × Cursor)) →
    Except ParseFailure (Option (BinaryOp × Expr) × List Token) → Prop
  | failed (f : ParseFailure) : Turns tokens c (some (.error f)) (.error f)
  | ended : Turns tokens c (some (.ok (none, c))) (.ok (none, tokens.drop c.pos))
  | turned (op : BinaryOp) (right : Expr) {c' : Cursor} (h : Moved tokens 2 c c') :
    Turns tokens c (some (.ok (some (op, right), c'))) (.ok (some (op, right), tokens.drop c'.pos))

/-- An operator is taken if there is one that is accepted. -/
theorem operator_cases (accepts : BinaryOp → Bool) (c : Cursor) :
    (nextOperator? accepts (tokens.drop c.pos) = none ∧
      (takeOperator? g tokens accepts).outcome c = some (.ok (none, c))) ∨
    ∃ op, Moved tokens 1 c c.next ∧
      nextOperator? accepts (tokens.drop c.pos) = some (op, tokens.drop c.next.pos) ∧
      (takeOperator? g tokens accepts).outcome c = some (.ok (some op, c.next)) := by
  rw [takeOperator?, outcome_look]
  cases ht : tokens[c.pos]? with
  | none =>
    rw [drop_of_getElem?_none ht]
    exact .inl ⟨rfl, rfl⟩
  | some t =>
    rw [drop_of_getElem? ht]
    obtain ⟨kind, text, start⟩ := t
    cases kind with
    | operator op =>
      rw [nextOperator?_sign rfl]
      dsimp only
      split
      · exact .inr ⟨op, moved_next_of_getElem? ht, rfl, by rw [outcome_advance ht]; rfl⟩
      · exact .inl ⟨rfl, rfl⟩
    | _ => exact .inl ⟨rfl, rfl⟩

/-- The bound of a chain is not reached. -/
theorem chainRest_eq_turnReader {accepts : BinaryOp → Bool} {operand : Reader Expr} {bound : Nat}
    {left : Expr} {ts : List Token} (h : ts.length ≤ bound) :
    EffectLang.chainRest accepts operand bound left ts = turnReader accepts operand ts >>= fun p =>
      match p.1 with
      | none => .ok (left, p.2)
      | some (op, right) =>
        EffectLang.chainRest accepts operand (bound - 1) (.binary op left right) p.2 := by
  cases hnext : nextOperator? accepts ts with
  | none =>
    rw [chainRest_stop hnext, turnReader, hnext]
    rfl
  | some found =>
    obtain ⟨sign, rfl, -, -⟩ := of_nextOperator? hnext
    rw [List.length_cons] at h
    obtain ⟨bound, rfl⟩ := Nat.exists_eq_add_one_of_ne_zero (by omega : bound ≠ 0)
    rw [EffectLang.chainRest, turnReader, hnext]
    dsimp only
    rw [bind_assoc]
    rfl

section
variable {left depth time : Nat} {operand : Moving Expr} {reader : Reader Expr}
  (h : Follows tokens left depth 1 operand reader)
include h

theorem turns_turn (accepts : BinaryOp → Bool) (hc : Has tokens left depth c) :
    Turns tokens c ((turn g tokens accepts operand).outcome c)
      (turnReader accepts reader (tokens.drop c.pos)) := by
  rw [turn, turnReader, outcome_bind]
  rcases operator_cases (g := g) accepts c with ⟨hnext, htake⟩ | ⟨op, hmoved, hnext, htake⟩
  · rw [hnext, htake]
    exact .ended
  · rw [hnext, htake]
    dsimp only
    have hoperand := h c.next (hmoved.has hc)
    rw [outcome_bind]
    generalize operand.outcome c.next = r at hoperand
    generalize reader (tokens.drop c.next.pos) = y at hoperand
    cases hoperand with
    | failed f => exact .failed f
    | moved right h => exact .turned op right (hmoved.trans h)

/-- A loop ends in time. The induction is on the time; each turn leaves fewer tokens. -/
theorem advances_loop {accepts : BinaryOp → Bool} {bound : Nat} {first : Expr}
    (hc : Has tokens left depth c) (htime : tokens.length - c.pos < time)
    (hbound : tokens.length - c.pos ≤ bound) :
    Advances tokens 0 c ((loop g tokens accepts operand time first).outcome c)
      (EffectLang.chainRest accepts reader bound first (tokens.drop c.pos)) := by
  induction time generalizing c first bound with
  | zero => omega
  | succ time ih =>
    have hturn := turns_turn (g := g) h accepts hc
    rw [loop, chainRest_eq_turnReader (by rwa [List.length_drop]), outcome_bind]
    generalize (turn g tokens accepts operand).outcome c = r at hturn
    generalize turnReader accepts reader (tokens.drop c.pos) = y at hturn
    cases hturn with
    | failed f => exact .failed f
    | ended => exact .pure first c
    | turned op right hmoved =>
      have hforward := hmoved.forward
      have hwithin := hmoved.within (by omega)
      refine .after (hmoved.weaken (Nat.zero_le _)) ?_
      exact ih (hmoved.has hc) (by omega) (by omega)

theorem follows_chain (accepts : BinaryOp → Bool) (htime : left < time) :
    Follows tokens left depth 1 (chain g tokens accepts operand time)
      (EffectLang.chain accepts reader) := by
  intro c hc
  rw [chain, EffectLang.chain]
  refine .bind (h c hc) fun first c' hmoved => ?_
  have hc' := hmoved.has hc
  have hleft := hc'.left_le
  exact advances_loop h hc' (by omega) (Nat.le_of_eq List.length_drop.symm)

end

section
variable {left depth time : Nat} {atom : Moving Expr} {reader : Reader Expr}
  (hatom : Follows tokens left depth 1 atom reader) (htime : left < time)
include hatom htime

theorem follows_multiplicative :
    Follows tokens left depth 1 (multiplicative g tokens atom time)
      (EffectLang.multiplicative reader) :=
  follows_chain hatom _ htime

theorem follows_additive :
    Follows tokens left depth 1 (additive g tokens atom time) (EffectLang.additive reader) :=
  follows_chain (follows_multiplicative hatom htime) _ htime

theorem follows_expression :
    Follows tokens left depth 1 (expression g tokens atom time)
      (EffectLang.expression reader) := by
  intro c hc
  have hsum := follows_additive (g := g) hatom htime
  rw [expression, EffectLang.expression]
  refine .bind (hsum c hc) fun first c' hmoved => ?_
  have hc' := hmoved.has hc
  dsimp only
  rw [outcome_bind]
  rcases operator_cases (g := g) BinaryOp.isComparison c' with
    ⟨hnext, htake⟩ | ⟨op, hmoved', hnext, htake⟩
  · rw [hnext, htake]
    exact .pure first c'
  · rw [hnext, htake]
    have hright := hsum c'.next (hmoved'.has hc')
    refine .after (hmoved'.weaken (Nat.zero_le _)) (.bind (hright.weaken (Nat.zero_le _)) ?_)
    exact fun right c'' _ => .pure _ c''

end

/-! ## Calls -/

theorem advances_closing (cause : ParseError.Cause) (e : Expr) (c : Cursor) :
    Advances tokens 1 c
      ((do
        expect g tokens .rightParen cause
        return e : Moving Expr).outcome c)
      (do
        let tokens ← g.expect .rightParen cause (tokens.drop c.pos)
        return (e, tokens)) :=
  .expect fun c' _ => .pure e c'

section
variable {left depth : Nat} {argument : Moving Expr} {reader : Reader Expr} {β : Type}
  (hargument : Follows tokens left depth 1 argument reader)
include hargument

theorem follows_nextArgument (cause : ParseError.Cause) :
    Follows tokens left depth 2 (nextArgument g tokens argument cause)
      (fun ts => g.expect .comma cause ts >>= reader) := by
  intro c hc
  rw [nextArgument]
  exact .expect fun c' hmoved => hargument c' (hmoved.has hc)

theorem advances_nextArgument {cause : ParseError.Cause} {f : Expr → Moving β}
    {k : Expr × List Token → Except ParseFailure (β × List Token)} (hc : Has tokens left depth c)
    (h : ∀ e c', Has tokens left depth c' →
      Advances tokens 1 c' ((f e).outcome c') (k (e, tokens.drop c'.pos))) :
    Advances tokens 1 c ((nextArgument g tokens argument cause >>= f).outcome c)
      (g.expect .comma cause (tokens.drop c.pos) >>= fun ts => reader ts >>= k) := by
  rw [← bind_assoc]
  have hnext := follows_nextArgument (g := g) hargument cause c hc
  exact .weaken (.bind hnext fun e c' hmoved => h e c' (hmoved.has hc)) (by omega)

theorem follows_call (form : CallForm) :
    Follows tokens left depth 1 (call g tokens argument form) (g.call reader form) := by
  have hreference (node : Text → Expr) : Follows tokens left depth 1
      (do
        let name ← referenceName g tokens
        expect g tokens .rightParen .unexpectedToken
        return node name)
      (fun ts => g.referenceName ts >>= fun p =>
        g.expect .rightParen .unexpectedToken p.2 >>= fun us => pure (node p.1, us)) := fun c hc =>
    .weaken (.bind (follows_referenceName c hc) fun name c' _ => advances_closing _ _ c') (by omega)
  intro c hc
  unfold call Grammar.call
  have hfirst {f : Expr → Moving Expr} {k : Expr × List Token → Except ParseFailure _}
      (h : ∀ e c', Has tokens left depth c' →
        Advances tokens 1 c' ((f e).outcome c') (k (e, tokens.drop c'.pos))) :
      Advances tokens 1 c ((argument >>= f).outcome c)
        (reader (tokens.drop c.pos) >>= k) :=
    .weaken (.bind (hargument c hc) fun e c' hmoved => h e c' (hmoved.has hc)) (by omega)
  cases form with
  | attr => exact hreference .attr c hc
  | prop => exact hreference .prop c hc
  | unary op => exact hfirst fun x c' _ => advances_closing _ _ c'
  | binary op =>
    refine hfirst fun x c' hc' => ?_
    exact advances_nextArgument hargument hc' fun y c'' _ => advances_closing _ _ c''
  | vec2 =>
    refine advances_refuseEmptyVector (hfirst fun x c' hc' => ?_)
    exact advances_nextArgument hargument hc' fun y c'' _ => advances_closing _ _ c''
  | vec3 =>
    refine advances_refuseEmptyVector (hfirst fun x c₁ hc₁ => ?_)
    refine advances_nextArgument hargument hc₁ fun y c₂ hc₂ => ?_
    exact advances_nextArgument hargument hc₂ fun z c₃ _ => advances_closing _ _ c₃

end

/-! ## Levels -/

/-- A level is closed again at the end. -/
theorem Advances.level {x : Moving Expr} {y : Except ParseFailure (Expr × List Token)}
    (h : Advances tokens n c.opened (x.outcome c.opened) y) :
    Advances tokens n c
      ((do
        let e ← x
        leave
        return e : Moving Expr).outcome c.opened) y := by
  rw [outcome_bind]
  generalize x.outcome c.opened = r at h
  cases h with
  | failed f => exact .failed f
  | @moved e c' h =>
    have hmoved : Moved tokens n c c'.closed :=
      { h with depth_eq := by simp [closed, h.depth_eq, opened] }
    exact .moved e hmoved

section
variable {left depth time : Nat} {inside : Moving Expr} {reader : Reader Expr}

theorem follows_group
    (hinside : Follows tokens left depth 1 inside (EffectLang.expression reader)) (start : Nat) :
    Follows tokens left depth 1 (group g tokens inside start) (Grammar.group reader start) := by
  intro c hc
  rw [group, Grammar.group]
  refine .bind (hinside c hc) fun inner c' _ => ?_
  dsimp only
  rw [outcome_look]
  cases ht : tokens[c'.pos]? with
  | none =>
    rw [drop_of_getElem?_none ht]
    exact .failed _
  | some closing =>
    rw [drop_of_getElem? ht]
    dsimp only
    split
    · exact .weaken (.take ht (.pure inner _)) (Nat.zero_le _)
    · exact .failed _

/-- What opens the level is taken first, so that one token less is left for what is inside. -/
theorem advances_nested {atom : Moving Expr} (hatom : Follows tokens left depth 1 atom reader)
    (htime : left < time) {t : Token} (ht : tokens[c.pos]? = some t)
    (hc : Has tokens (left + 1) depth c) :
    Advances tokens 1 c ((nested g tokens atom time t).outcome c)
      (g.nested reader t (tokens.drop c.next.pos)) := by
  have hexpression := follows_expression (g := g) hatom htime
  have hnext : Has tokens left depth c.next :=
    ⟨Nat.sub_le_of_le_add (by have := hc.left_le; simp only [next]; omega), hc.depth_eq⟩
  rw [nested, Grammar.nested.eq_def]
  refine .take ht ?_
  dsimp only
  cases t.kind with
  | leftParen => exact (follows_group hexpression t.start c.next hnext).weaken (Nat.zero_le _)
  | callee name =>
    have hcall := follows_call (g := g) hexpression name.form
    refine .weaken (.expect fun c' hmoved => hcall c' (hmoved.has hnext)) (Nat.zero_le _)
  | _ =>
    refine .bind ((hatom c.next hnext).weaken (Nat.zero_le _)) fun operand c' _ => ?_
    exact .pure _ c'

end

/-- A token that opens a level starts an atom if there is room for one more level. -/
theorem atom_eq (room : Nat) (ts : List Token) :
    g.atom room ts = g.next ts >>= fun p =>
      if p.1.kind.opensLevel then
        if room = 0 then malformedAt .nestingTooDeep p.1 else g.nested (g.atom (room - 1)) p.1 p.2
      else EffectLang.leaf p.1 p.2 := by
  cases room <;> rfl

/-- Atoms are read as with room for the levels that may still be opened. The induction is on the
time, of which there is more than tokens are left. -/
theorem follows_atom {left time : Nat} (htime : left < time) (depth : Nat) :
    Follows tokens left depth 1 (atom g tokens time) (g.atom (nestingLimit - depth)) := by
  induction time generalizing left depth with
  | zero => omega
  | succ time ih =>
    intro c hc
    rw [atom, atom_eq]
    refine .require fun t ht => ?_
    have hlt := (List.getElem?_eq_some_iff.mp ht).1
    have hleft := hc.left_le
    obtain ⟨left, rfl⟩ := Nat.exists_eq_add_one_of_ne_zero (by omega : left ≠ 0)
    dsimp only
    by_cases hopens : t.kind.opensLevel = true
    · rw [if_pos hopens, if_pos hopens, outcome_enter, hc.depth_eq]
      by_cases hdeep : nestingLimit < depth + 1
      · rw [if_pos hdeep, if_pos (by omega)]
        exact .failed _
      · rw [if_neg hdeep, if_neg (by omega), Nat.sub_sub]
        have hopened : Has tokens (left + 1) (depth + 1) c.opened :=
          ⟨hc.left_le, congrArg (· + 1) hc.depth_eq⟩
        have hinside := ih (Nat.lt_of_succ_lt_succ htime) (depth + 1)
        exact .level (advances_nested hinside (Nat.lt_of_succ_lt_succ htime) ht hopened)
    · rw [if_neg hopens, if_neg hopens]
      exact advances_leaf ht

/-! ## Coming to an end -/

/-- The procedure comes to an end with the outcome: it has it when it is given enough time, and more
time does not change it. -/
def Ends {α : Type} (x : Nat → Moving α) (c : Cursor)
    (r : Except ParseFailure (α × Cursor)) : Prop :=
  ∃ enough, ∀ time, enough ≤ time → (x time).outcome c = some r

namespace Ends
variable {α β : Type} {x : Nat → Moving α} {f : α → Moving β}

theorem bind {a : α} {r : Except ParseFailure (β × Cursor)} (h : Ends x c (.ok (a, c')))
    (hf : (f a).outcome c' = some r) : Ends (fun time => x time >>= f) c r := by
  obtain ⟨enough, h⟩ := h
  refine ⟨enough, fun time htime => ?_⟩
  rw [outcome_bind, h time htime]
  exact hf

theorem bind_error {failure : ParseFailure} (h : Ends x c (.error failure)) (f : α → Moving β) :
    Ends (fun time => x time >>= f) c (.error failure) := by
  obtain ⟨enough, h⟩ := h
  refine ⟨enough, fun time htime => ?_⟩
  rw [outcome_bind, h time htime]

end Ends

/-- The procedure comes to an end, and what it has done by then agrees with the reader. -/
def Progresses {α : Type} (tokens : List Token) (least : Nat) (c : Cursor) (x : Nat → Moving α)
    (y : Except ParseFailure (α × List Token)) : Prop :=
  ∃ r, Ends x c r ∧ Advances tokens least c (some r) y

/-- The turn comes to an end, and what it has done by then agrees with the reader. -/
def TurnProgresses (tokens : List Token) (c : Cursor)
    (x : Nat → Moving (Option (BinaryOp × Expr)))
    (y : Except ParseFailure (Option (BinaryOp × Expr) × List Token)) : Prop :=
  ∃ r, Ends x c r ∧ Turns tokens c (some r) y

/-- Where the cursor is moved to is given by its new place. -/
theorem Moved.eq_of_pos_eq (h : Moved tokens n c c') (h' : Moved tokens n c c'')
    (hpos : c'.pos = c''.pos) : c' = c'' :=
  Cursor.ext hpos (h.depth_eq.trans h'.depth_eq.symm) (by rw [h.taken_eq, h'.taken_eq, hpos])

/-- Where the cursor is moved to is given by the tokens that are left. -/
theorem Moved.eq_of_drop_eq (h : Moved tokens (n + 1) c c') (h' : Moved tokens (n + 1) c c'')
    (hdrop : tokens.drop c'.pos = tokens.drop c''.pos) : c' = c'' := by
  have hforward := h.forward
  have hforward' := h'.forward
  have hwithin := h.within (by omega)
  have hwithin' := h'.within (by omega)
  have hlength := congrArg List.length hdrop
  rw [List.length_drop, List.length_drop] at hlength
  exact h.eq_of_pos_eq h' (by omega)

section
variable {α : Type}

/-- There is one outcome that agrees with what the reader does. -/
theorem Advances.unique {r r' : Option (Except ParseFailure (α × Cursor))}
    {y : Except ParseFailure (α × List Token)} (h : Advances tokens (n + 1) c r y)
    (h' : Advances tokens (n + 1) c r' y) : r = r' := by
  generalize hy : y = y' at h'
  cases h with
  | failed f =>
    subst hy
    cases h'
    rfl
  | moved a hmoved =>
    cases h' with
    | failed f => cases hy
    | moved a' hmoved' =>
      injection hy with hy
      injection hy with ha hdrop
      rw [ha, hmoved.eq_of_drop_eq hmoved' hdrop]

theorem Turns.unique {r r' : Option (Except ParseFailure (Option (BinaryOp × Expr) × Cursor))}
    {y : Except ParseFailure (Option (BinaryOp × Expr) × List Token)} (h : Turns tokens c r y)
    (h' : Turns tokens c r' y) : r = r' := by
  generalize hy : y = y' at h'
  cases h with
  | failed f =>
    subst hy
    cases h'
    rfl
  | ended =>
    cases h' with
    | ended => rfl
    | failed | turned => cases hy
  | turned op right hmoved =>
    cases h' with
    | failed | ended => cases hy
    | turned op' right' hmoved' =>
      injection hy with hy
      injection hy with ha hdrop
      rw [ha, hmoved.eq_of_drop_eq hmoved' hdrop]

/-- More time than tokens are left is enough, if there is one outcome to have. -/
theorem exists_ends {P : Option (Except ParseFailure (α × Cursor)) → Prop} {x : Nat → Moving α}
    {left : Nat} (h : ∀ time, left < time → P ((x time).outcome c)) (hsome : ¬ P none)
    (hunique : ∀ {r r'}, P r → P r' → r = r') : ∃ r, Ends x c r ∧ P (some r) := by
  have hfirst := h (left + 1) (Nat.lt_succ_self _)
  cases hr : (x (left + 1)).outcome c with
  | none => exact absurd (hr ▸ hfirst) hsome
  | some r =>
    have hP := hr ▸ hfirst
    exact ⟨r, ⟨left + 1, fun time htime => hunique (h time htime) hP⟩, hP⟩

theorem Progresses.of_advances {x : Nat → Moving α}
    {y : Except ParseFailure (α × List Token)}
    (h : ∀ time, tokens.length - c.pos < time →
      Advances tokens (n + 1) c ((x time).outcome c) y) : Progresses tokens (n + 1) c x y :=
  exists_ends h nofun Advances.unique

theorem TurnProgresses.of_turns {x : Nat → Moving (Option (BinaryOp × Expr))}
    {y : Except ParseFailure (Option (BinaryOp × Expr) × List Token)}
    (h : ∀ time, tokens.length - c.pos < time → Turns tokens c ((x time).outcome c) y) :
    TurnProgresses tokens c x y :=
  exists_ends h nofun Turns.unique

end

/-- A whole list of tokens is read, or the reading fails. If it is read then the cursor is at the
end. -/
theorem exists_ends_read (g : Grammar) (tokens : List Token) :
    ∃ r, Ends (read g tokens) start r ∧ r.map Prod.fst = g.read nestingLimit tokens ∧
      ∀ e c, r = .ok (e, c) → Moved tokens 1 start c ∧ c.pos = tokens.length := by
  obtain ⟨r, hends, hadvances⟩ :
      Progresses tokens 1 start (fun time => expression g tokens (atom g tokens time) time)
        (EffectLang.expression (g.atom nestingLimit) tokens) :=
    .of_advances fun time htime =>
      follows_expression (follows_atom htime 0) htime start ⟨Nat.le_refl _, rfl⟩
  rw [Grammar.read]
  generalize EffectLang.expression (g.atom nestingLimit) tokens = y at hadvances
  cases hadvances with
  | failed f =>
    refine ⟨.error f, hends.bind_error _, rfl, ?_⟩
    intro e c h
    cases h
  | @moved e c hmoved =>
    dsimp only [bind, Except.bind]
    cases ht : tokens[c.pos]? with
    | none =>
      rw [drop_of_getElem?_none ht]
      refine ⟨.ok (e, c), hends.bind (by rw [outcome_look, ht]; rfl), rfl, ?_⟩
      intro e' c' h
      cases h
      exact ⟨hmoved,
        Nat.le_antisymm (hmoved.within hmoved.forward) (List.getElem?_eq_none_iff.mp ht)⟩
    | some t =>
      rw [drop_of_getElem? ht]
      refine ⟨malformedAt .unexpectedToken t, hends.bind (by rw [outcome_look, ht]; rfl), rfl, ?_⟩
      intro e' c' h
      cases h

/-- From every cursor each procedure comes to an end: it fails, or it moves the cursor over a token
or more and closes the levels it has opened. A turn of a loop takes two tokens or more, unless it
ends the loop. So every source is read to an end, with the outcome of `Expr.parse`, and if it is
accepted then each of its tokens was taken once. -/
theorem procedures_progress :
    (∀ (g : Grammar) (tokens : List Token) (c : Cursor),
      let one := atom g tokens
      let product := fun time => multiplicative g tokens (one time) time
      let whole := fun time => expression g tokens (one time) time
      let oneReader := g.atom (nestingLimit - c.depth)
      let rest := tokens.drop c.pos
      Progresses tokens 1 c whole (EffectLang.expression oneReader rest) ∧
      Progresses tokens 1 c (fun time => additive g tokens (one time) time)
        (EffectLang.additive oneReader rest) ∧
      Progresses tokens 1 c product (EffectLang.multiplicative oneReader rest) ∧
      Progresses tokens 1 c one (oneReader rest) ∧
      (∀ form, Progresses tokens 1 c (fun time => call g tokens (whole time) form)
        (g.call (EffectLang.expression oneReader) form rest)) ∧
      TurnProgresses tokens c (fun time => turn g tokens BinaryOp.isAdditive (product time))
        (turnReader BinaryOp.isAdditive (EffectLang.multiplicative oneReader) rest) ∧
      TurnProgresses tokens c (fun time => turn g tokens BinaryOp.isMultiplicative (one time))
        (turnReader BinaryOp.isMultiplicative oneReader rest) ∧
      ∀ cause, Progresses tokens 2 c (fun time => nextArgument g tokens (whole time) cause)
        (g.expect .comma cause rest >>= EffectLang.expression oneReader)) ∧
    ∀ source : Text, let tokens := significant (tokenize source)
      ∃ r, Ends (read ⟨source.length, .folding⟩ tokens) start r ∧
        r.map Prod.fst = Expr.parse source ∧
        ∀ e c, r = .ok (e, c) →
          c.pos = tokens.length ∧ c.depth = 0 ∧ c.taken = List.range tokens.length := by
  refine ⟨fun g tokens c => ?_, fun source => ?_⟩
  · have hc : Has tokens (tokens.length - c.pos) c.depth c := ⟨Nat.le_refl _, rfl⟩
    have hatom {time : Nat} (htime : tokens.length - c.pos < time) :
        Follows tokens (tokens.length - c.pos) c.depth 1 (atom g tokens time)
          (g.atom (nestingLimit - c.depth)) := follows_atom htime _
    have hproduct {time : Nat} (htime : tokens.length - c.pos < time) :=
      follows_multiplicative (g := g) (hatom htime) htime
    have hwhole {time : Nat} (htime : tokens.length - c.pos < time) :=
      follows_expression (g := g) (hatom htime) htime
    refine ⟨.of_advances fun _ h => hwhole h c hc,
      .of_advances fun _ h => follows_additive (hatom h) h c hc,
      .of_advances fun _ h => hproduct h c hc, .of_advances fun _ h => hatom h c hc,
      fun form => .of_advances fun _ h => follows_call (hwhole h) form c hc,
      .of_turns fun _ h => turns_turn (hproduct h) _ hc,
      .of_turns fun _ h => turns_turn (hatom h) _ hc,
      fun cause => .of_advances fun _ h => follows_nextArgument (hwhole h) cause c hc⟩
  · obtain ⟨r, hends, hparse, hread⟩ :=
      exists_ends_read ⟨source.length, .folding⟩ (significant (tokenize source))
    refine ⟨r, hends, hparse, fun e c h => ?_⟩
    obtain ⟨hmoved, hpos⟩ := hread e c h
    refine ⟨hpos, hmoved.depth_eq, ?_⟩
    rw [hmoved.taken_eq, hpos, List.range_eq_range']
    rfl

end Cursor

end EffectLang
