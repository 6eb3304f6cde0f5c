import Mathlib.Data.List.Forall2
import EffectLang.Proofs.Grammar.Foresight

/-!
# Readers with effects, and readers that correspond

The readers of the grammar take an atom's reader and build the reader of a phrase. `ReaderIn m` says
the same in any monad whose computations fail as readers do and may do more; in `Except` nothing
changes. A `Correspondence` relates computations of two such monads. When the readers of atoms
correspond, on tokens that are alike, the readers of every phrase do, for any relation between trees
that the nodes keep.
-/

namespace EffectLang

/-! ## Readers in a monad -/

/-- Takes a value off the front of the tokens, with the effects of a monad. -/
abbrev ReaderIn (m : Type → Type) (α : Type) := List Token → m (α × List Token)

section Readers
variable {m : Type → Type} [Monad m] [MonadLiftT (Except ParseFailure) m]

def chainRestIn (accepts : BinaryOp → Bool) (operand : ReaderIn m Expr) :
    Nat → Expr → ReaderIn m Expr
  | 0, left, tokens => pure (left, tokens)
  | bound + 1, left, tokens =>
    match nextOperator? accepts tokens with
    | none => pure (left, tokens)
    | some (op, tokens) => do
      let (right, tokens) ← operand tokens
      chainRestIn accepts operand bound (.binary op left right) tokens

def chainIn (accepts : BinaryOp → Bool) (operand : ReaderIn m Expr) : ReaderIn m Expr :=
  fun tokens => do
    let (first, tokens) ← operand tokens
    chainRestIn accepts operand tokens.length first tokens

def additiveIn (atom : ReaderIn m Expr) : ReaderIn m Expr :=
  chainIn BinaryOp.isAdditive (chainIn BinaryOp.isMultiplicative atom)

def expressionIn (atom : ReaderIn m Expr) : ReaderIn m Expr := fun tokens => do
  let (left, tokens) ← additiveIn atom tokens
  match nextOperator? BinaryOp.isComparison tokens with
  | none => return (left, tokens)
  | some (op, tokens) =>
    let (right, tokens) ← additiveIn atom tokens
    return (.binary op left right, tokens)

def groupIn (atom : ReaderIn m Expr) (start : Nat) : ReaderIn m Expr := fun tokens => do
  let (inner, tokens) ← expressionIn atom tokens
  match tokens with
  | [] => (malformed .unmatchedParenthesis [] start : Except ParseFailure (Expr × List Token))
  | token :: tokens =>
    if token.kind = .rightParen then return (inner, tokens)
    else (malformedAt .unexpectedToken token : Except ParseFailure (Expr × List Token))

namespace Grammar

def callIn (g : Grammar) (argument : ReaderIn m Expr) (form : CallForm) : ReaderIn m Expr :=
  fun tokens =>
  match form with
  | .attr => do
    let (name, tokens) ← g.referenceName tokens
    let tokens ← g.expect .rightParen .unexpectedToken tokens
    return (.attr name, tokens)
  | .prop => do
    let (name, tokens) ← g.referenceName tokens
    let tokens ← g.expect .rightParen .unexpectedToken tokens
    return (.prop name, tokens)
  | .unary op => do
    let (x, tokens) ← argument tokens
    let tokens ← g.expect .rightParen .unexpectedToken tokens
    return (.unary op x, tokens)
  | .binary op => do
    let (x, tokens) ← argument tokens
    let tokens ← g.expect .comma .unexpectedToken tokens
    let (y, tokens) ← argument tokens
    let tokens ← g.expect .rightParen .unexpectedToken tokens
    return (.binary op x y, tokens)
  | .vec2 => do
    refuseEmptyVector tokens
    let (x, tokens) ← argument tokens
    let tokens ← g.expect .comma .invalidVector tokens
    let (y, tokens) ← argument tokens
    let tokens ← g.expect .rightParen .invalidVector tokens
    return (g.vectors.vec2 x y, tokens)
  | .vec3 => do
    refuseEmptyVector tokens
    let (x, tokens) ← argument tokens
    let tokens ← g.expect .comma .invalidVector tokens
    let (y, tokens) ← argument tokens
    let tokens ← g.expect .comma .invalidVector tokens
    let (z, tokens) ← argument tokens
    let tokens ← g.expect .rightParen .invalidVector tokens
    return (g.vectors.vec3 x y z, tokens)

def nestedIn (g : Grammar) (atom : ReaderIn m Expr) (opening : Token) : ReaderIn m Expr :=
  fun tokens =>
  match opening.kind with
  | .leftParen => groupIn atom opening.start tokens
  | .callee name => do
    let tokens ← g.expect .leftParen .unexpectedToken tokens
    g.callIn (expressionIn atom) name.form tokens
  | _ => do
    let (operand, tokens) ← atom tokens
    return (.unary .neg operand, tokens)

end Grammar

/-- An expression that takes all tokens. -/
def readIn (atom : ReaderIn m Expr) (tokens : List Token) : m Expr := do
  let (e, tokens) ← expressionIn atom tokens
  match tokens with
  | [] => return e
  | token :: _ => (malformedAt .unexpectedToken token : Except ParseFailure Expr)

end Readers

/-! ## Without effects -/

section Plain
variable (atom : Reader Expr)

theorem chainRestIn_eq (accepts : BinaryOp → Bool) (operand : Reader Expr) (bound : Nat) :
    chainRestIn (m := Except ParseFailure) accepts operand bound =
      chainRest accepts operand bound := by
  induction bound with
  | zero => rfl
  | succ bound ih =>
    funext left tokens
    unfold chainRestIn chainRest
    rw [ih]
    rfl

theorem chainIn_eq (accepts : BinaryOp → Bool) (operand : Reader Expr) :
    chainIn (m := Except ParseFailure) accepts operand = chain accepts operand := by
  funext tokens
  unfold chainIn chain
  simp only [chainRestIn_eq]

theorem additiveIn_eq : additiveIn (m := Except ParseFailure) atom = additive atom := by
  unfold additiveIn
  rw [chainIn_eq, chainIn_eq]
  exact rfl

theorem expressionIn_eq : expressionIn (m := Except ParseFailure) atom = expression atom := by
  have hadditive := additiveIn_eq atom
  unfold expressionIn
  rw [hadditive]
  exact rfl

theorem Grammar.nestedIn_eq (g : Grammar) (opening : Token) :
    g.nestedIn (m := Except ParseFailure) atom opening = g.nested atom opening := by
  unfold nestedIn nested groupIn group
  simp only [expressionIn_eq]
  rfl

theorem Grammar.read_eq_readIn (g : Grammar) (room : Nat) (tokens : List Token) :
    g.read room tokens = readIn (m := Except ParseFailure) (g.atom room) tokens := by
  unfold readIn
  rw [expressionIn_eq]
  rfl

end Plain

/-! ## Computations that correspond -/

/-- Both succeed, or both fail, in ways that are related. -/
inductive SameOutcome (failure : ParseFailure → ParseFailure → Prop) {α β : Type}
    (result : α → β → Prop) : Except ParseFailure α → Except ParseFailure β → Prop
  | ok {a : α} {b : β} : result a b → SameOutcome failure result (.ok a) (.ok b)
  | error {f f' : ParseFailure} : failure f f' → SameOutcome failure result (.error f) (.error f')

/-- What it is for computations of two monads to correspond: the results are related, and so are the
failures. -/
structure Correspondence (m n : Type → Type) [Monad m] [Monad n]
    [MonadLiftT (Except ParseFailure) m] [MonadLiftT (Except ParseFailure) n] where
  failure : ParseFailure → ParseFailure → Prop
  holds : {α β : Type} → (α → β → Prop) → m α → n β → Prop
  mono : ∀ {α β : Type} {r s : α → β → Prop} {x : m α} {y : n β},
    (∀ a b, r a b → s a b) → holds r x y → holds s x y
  lift : ∀ {α β : Type} {r : α → β → Prop} {x : Except ParseFailure α} {y : Except ParseFailure β},
    SameOutcome failure r x y → holds r (liftM x) (liftM y)
  pure : ∀ {α β : Type} {r : α → β → Prop} {a : α} {b : β}, r a b → holds r (pure a) (pure b)
  bind : ∀ {α β γ δ : Type} {r : α → β → Prop} {s : γ → δ → Prop} {x : m α} {y : n β}
    {f : α → m γ} {h : β → n δ}, holds r x y → (∀ a b, r a b → holds s (f a) (h b)) →
      holds s (x >>= f) (y >>= h)

namespace SameOutcome
variable {failure : ParseFailure → ParseFailure → Prop} {α β γ δ : Type} {r : α → β → Prop}
  {s : γ → δ → Prop} {x : Except ParseFailure α} {y : Except ParseFailure β}
  {f : α → Except ParseFailure γ} {h : β → Except ParseFailure δ}

theorem mono {r' : α → β → Prop} (h : ∀ a b, r a b → r' a b) (hxy : SameOutcome failure r x y) :
    SameOutcome failure r' x y := by
  cases hxy with
  | ok hab => exact .ok (h _ _ hab)
  | error hf => exact .error hf

theorem bind (hxy : SameOutcome failure r x y)
    (hfh : ∀ a b, r a b → SameOutcome failure s (f a) (h b)) :
    SameOutcome failure s (x >>= f) (y >>= h) := by
  cases hxy with
  | ok hab => exact hfh _ _ hab
  | error hf => exact .error hf

/-- Outcomes that are the same are equal. -/
theorem eq {x y : Except ParseFailure α} (hxy : SameOutcome Eq Eq x y) : x = y := by
  cases hxy with
  | ok h | error h => rw [h]

/-- Where only the failures differ, they are changed. -/
theorem eq_mapError {change : ParseFailure → ParseFailure} {x y : Except ParseFailure α}
    (hxy : SameOutcome (fun f f' => f' = change f) Eq x y) : y = x.mapError change := by
  cases hxy with
  | ok h | error h => rw [h]; rfl

end SameOutcome

/-- Two plain computations correspond when their outcomes do. -/
def Correspondence.plain (failure : ParseFailure → ParseFailure → Prop) :
    Correspondence (Except ParseFailure) (Except ParseFailure) where
  failure
  holds := SameOutcome failure
  mono := SameOutcome.mono
  lift h := h
  pure := .ok
  bind := SameOutcome.bind

/-! ## Readers that correspond -/

/-- No more than so many tokens, each related to the one at the same place on the other side. -/
def Beside (place : Token → Token → Prop) (bound : Nat) (ts ts' : List Token) : Prop :=
  ts.length ≤ bound ∧ List.Forall₂ place ts ts'

/-- What related tokens, failures and trees have to do with one another for the readers of two
grammars to correspond. -/
structure Compatible (failure : ParseFailure → ParseFailure → Prop) (place : Token → Token → Prop)
    (tree : Expr → Expr → Prop) (g g' : Grammar) : Prop where
  look : ∀ {t t'}, place t t' → t'.look = t.look
  at_token : ∀ {t t'}, place t t' → ∀ cause text,
    failure (.malformed ⟨cause, text, t.start⟩) (.malformed ⟨cause, text, t'.start⟩)
  at_end : failure (.malformed ⟨.unexpectedEnd, [], g.sourceEnd⟩)
    (.malformed ⟨.unexpectedEnd, [], g'.sourceEnd⟩)
  digits : ∀ count, failure (.numeralTooLong count) (.numeralTooLong count)
  literal : ∀ v, tree (.literal v) (.literal v)
  attr : ∀ name, tree (.attr name) (.attr name)
  prop : ∀ name, tree (.prop name) (.prop name)
  builtIn : ∀ value, tree (.builtIn value) (.builtIn value)
  unary : ∀ op {x x'}, tree x x' → tree (.unary op x) (.unary op x')
  binary : ∀ op {x x' y y'}, tree x x' → tree y y' → tree (.binary op x y) (.binary op x' y')
  vec2 : ∀ {x x' y y'}, tree x x' → tree y y' →
    tree (g.vectors.vec2 x y) (g'.vectors.vec2 x' y')
  vec3 : ∀ {x x' y y' z z'}, tree x x' → tree y y' → tree z z' →
    tree (g.vectors.vec3 x y z) (g'.vectors.vec3 x' y' z')

/-- Nothing differs. -/
theorem compatible_refl (g : Grammar) : Compatible Eq Eq Eq g g where
  look := by rintro t _ rfl; rfl
  at_token := by rintro t _ rfl cause text; rfl
  at_end := rfl
  digits _ := rfl
  literal _ := rfl
  attr _ := rfl
  prop _ := rfl
  builtIn _ := rfl
  unary := by rintro op x _ rfl; rfl
  binary := by rintro op x _ y _ rfl rfl; rfl
  vec2 := by rintro x _ y _ rfl rfl; rfl
  vec3 := by rintro x _ y _ z _ rfl rfl rfl; rfl

section Tokens
variable {place : Token → Token → Prop} {bound : Nat} {t : Token} {ts us : List Token}

theorem Beside.of_nil (h : Beside place bound [] us) : us = [] :=
  List.forall₂_nil_left_iff.mp h.2

theorem Beside.of_cons (h : Beside place bound (t :: ts) us) :
    ∃ t' ts', us = t' :: ts' ∧ place t t' ∧ Beside place bound ts ts' := by
  obtain ⟨hlength, hforall⟩ := h
  obtain ⟨t', ts', hplace, hts, rfl⟩ := List.forall₂_cons_left_iff.mp hforall
  exact ⟨t', ts', rfl, hplace, Nat.le_of_succ_le hlength, hts⟩

theorem Beside.length_eq (h : Beside place bound ts us) : ts.length = us.length :=
  h.2.length_eq

theorem Beside.mono {bound' : Nat} (h : Beside place bound ts us) (hle : bound ≤ bound') :
    Beside place bound' ts us :=
  ⟨Nat.le_trans h.1 hle, h.2⟩

theorem beside_self {bound : Nat} {ts : List Token} (h : ts.length ≤ bound) :
    Beside Eq bound ts ts :=
  ⟨h, List.forall₂_eq_eq_eq ▸ rfl⟩

end Tokens

/-- The result is related, and so are the tokens that are left. -/
abbrev Taken (place : Token → Token → Prop) (bound : Nat) {α β : Type} (result : α → β → Prop) :
    α × List Token → β × List Token → Prop :=
  fun p q => result p.1 q.1 ∧ Beside place bound p.2 q.2

section Correspond
variable {m n : Type → Type} [Monad m] [Monad n] [MonadLiftT (Except ParseFailure) m]
  [MonadLiftT (Except ParseFailure) n]

/-- From no more than so many tokens, the two readers take related results and leave related
tokens. -/
def Correspond (C : Correspondence m n) (place : Token → Token → Prop) (bound : Nat) {α β : Type}
    (result : α → β → Prop) (R : ReaderIn m α) (R' : ReaderIn n β) : Prop :=
  ∀ ts ts', Beside place bound ts ts' → C.holds (Taken place bound result) (R ts) (R' ts')

end Correspond

section Plain
variable {failure : ParseFailure → ParseFailure → Prop} {place : Token → Token → Prop}
  {tree : Expr → Expr → Prop} {g g' : Grammar} {bound : Nat} {ts ts' : List Token} {t t' : Token}
variable (hc : Compatible failure place tree g g')
include hc

theorem Compatible.kind_eq (ht : place t t') : t'.kind = t.kind :=
  Token.kind_of_look (hc.look ht)

theorem Compatible.text_eq (ht : place t t') : t'.text = t.text :=
  Token.text_of_look (hc.look ht)

theorem Compatible.malformed {α β : Type} {r : α → β → Prop} (ht : place t t')
    (cause : ParseError.Cause) (text : Text) :
    SameOutcome failure r (malformed cause text t.start) (malformed cause text t'.start) :=
  .error (hc.at_token ht cause text)

theorem Compatible.malformedAt {α β : Type} {r : α → β → Prop} (ht : place t t')
    (cause : ParseError.Cause) :
    SameOutcome failure r (malformedAt cause t) (malformedAt cause t') := by
  unfold EffectLang.malformedAt
  rw [hc.text_eq ht]
  exact hc.malformed ht cause t.text

theorem Compatible.next (h : Beside place bound ts ts') :
    SameOutcome failure (Taken place bound place) (g.next ts) (g'.next ts') := by
  cases ts with
  | nil =>
    obtain rfl := h.of_nil
    exact .error hc.at_end
  | cons t ts =>
    obtain ⟨t', ts', rfl, ht, hts⟩ := h.of_cons
    exact .ok ⟨ht, hts⟩

theorem Compatible.expect (kind : TokenKind) (cause : ParseError.Cause)
    (h : Beside place bound ts ts') :
    SameOutcome failure (Beside place bound) (g.expect kind cause ts)
      (g'.expect kind cause ts') := by
  refine (hc.next h).bind ?_
  rintro ⟨t, ts⟩ ⟨t', ts'⟩ ⟨ht, hts⟩
  dsimp only at ht hts ⊢
  rw [hc.kind_eq ht]
  split
  · exact .ok hts
  · exact hc.malformedAt ht cause

theorem Compatible.referenceName (h : Beside place bound ts ts') :
    SameOutcome failure (Taken place bound Eq) (g.referenceName ts) (g'.referenceName ts') := by
  refine (hc.next h).bind ?_
  rintro ⟨t, ts⟩ ⟨t', ts'⟩ ⟨ht, hts⟩
  dsimp only at ht hts ⊢
  rw [hc.kind_eq ht, hc.text_eq ht]
  split
  · exact .ok ⟨rfl, hts⟩
  · split
    · split
      · exact hc.malformed ht _ _
      · exact .ok ⟨rfl, hts⟩
    · exact hc.malformed ht _ _
    · exact hc.malformedAt ht _

theorem Compatible.refuseEmptyVector (h : Beside place bound ts ts') :
    SameOutcome failure (fun _ _ => True) (Grammar.refuseEmptyVector ts)
      (Grammar.refuseEmptyVector ts') := by
  cases ts with
  | nil =>
    obtain rfl := h.of_nil
    exact .ok trivial
  | cons t ts =>
    obtain ⟨t', ts', rfl, ht, -⟩ := h.of_cons
    simp only [Grammar.refuseEmptyVector, hc.kind_eq ht]
    split
    · exact hc.malformedAt ht _
    · exact .ok trivial

theorem Compatible.nextIs_eq (kind : TokenKind) (h : Beside place bound ts ts') :
    nextIs kind ts' = nextIs kind ts := by
  cases ts with
  | nil => rw [h.of_nil]
  | cons t ts =>
    obtain ⟨t', ts', rfl, ht, -⟩ := h.of_cons
    simp only [nextIs, hc.kind_eq ht]

theorem Compatible.nextOperator? (accepts : BinaryOp → Bool) (h : Beside place bound ts ts') :
    nextOperator? accepts ts = none ∧ nextOperator? accepts ts' = none ∨
    ∃ op rest rest', nextOperator? accepts ts = some (op, rest) ∧
      nextOperator? accepts ts' = some (op, rest') ∧ Beside place bound rest rest' := by
  cases hnext : EffectLang.nextOperator? accepts ts with
  | none =>
    have hsame : SameNext ts ts' := by
      cases ts with
      | nil => rw [h.of_nil]; rfl
      | cons t ts =>
        obtain ⟨t', ts', rfl, ht, -⟩ := h.of_cons
        exact .cons (hc.kind_eq ht) ts ts'
    exact .inl ⟨rfl, hsame.nextOperator?_eq_none hnext⟩
  | some found =>
    obtain ⟨op, rest⟩ := found
    obtain ⟨sign, rfl, hkind, hacc⟩ := of_nextOperator? hnext
    obtain ⟨sign', rest', rfl, ht, hrest⟩ := h.of_cons
    refine .inr ⟨op, rest, rest', rfl, ?_, hrest⟩
    rw [nextOperator?_sign ((hc.kind_eq ht).trans hkind), if_pos hacc]

theorem Compatible.leaf (ht : place t t') (h : Beside place bound ts ts') :
    SameOutcome failure (Taken place bound tree) (leaf t ts) (leaf t' ts') := by
  have hcall (e : Expr) (he : tree e e) :
      SameOutcome failure (Taken place bound tree)
        (if nextIs .leftParen ts then EffectLang.malformedAt .unknownFunction t else .ok (e, ts))
        (if nextIs .leftParen ts' then EffectLang.malformedAt .unknownFunction t'
          else .ok (e, ts')) := by
    rw [hc.nextIs_eq .leftParen h]
    split
    · exact hc.malformedAt ht _
    · exact .ok ⟨he, h⟩
  have hnumber {x y : Except ParseFailure Literal} (hxy : SameOutcome failure Eq x y) :
      SameOutcome failure (Taken place bound tree)
        (x >>= fun v => .ok (.literal v, ts)) (y >>= fun v => .ok (.literal v, ts')) :=
    hxy.bind fun v v' hv => .ok ⟨hv ▸ hc.literal v, h⟩
  unfold EffectLang.leaf
  rw [hc.kind_eq ht, hc.text_eq ht]
  split
  · refine hnumber ?_
    unfold readInteger
    rw [hc.text_eq ht]
    split
    · exact .error (hc.digits _)
    · dsimp only
      split
      · exact .ok rfl
      · exact hc.malformedAt ht _
  · refine hnumber ?_
    unfold readFloat
    rw [hc.text_eq ht]
    dsimp only
    split
    · exact .ok rfl
    · exact hc.malformedAt ht _
  · exact hcall _ (hc.attr _)
  · exact hcall _ (hc.builtIn _)
  · exact hc.malformedAt ht _

end Plain

section Phrases
variable {m n : Type → Type} [Monad m] [Monad n] [MonadLiftT (Except ParseFailure) m]
  [MonadLiftT (Except ParseFailure) n]
variable {C : Correspondence m n} {place : Token → Token → Prop} {tree : Expr → Expr → Prop}
  {g g' : Grammar} {bound : Nat} {R : ReaderIn m Expr} {R' : ReaderIn n Expr}
variable (hc : Compatible C.failure place tree g g')
include hc

theorem correspond_chainRestIn (accepts : BinaryOp → Bool)
    (hR : Correspond C place bound tree R R') (turns : Nat) {left left' : Expr}
    (hleft : tree left left') :
    Correspond C place bound tree (chainRestIn accepts R turns left)
      (chainRestIn accepts R' turns left') := by
  induction turns generalizing left left' with
  | zero => exact fun ts ts' hts => C.pure ⟨hleft, hts⟩
  | succ turns ih =>
    intro ts ts' hts
    unfold chainRestIn
    rcases hc.nextOperator? accepts hts with ⟨hnone, hnone'⟩ | ⟨op, rest, rest', hop, hop', hrest⟩
    · rw [hnone, hnone']
      exact C.pure ⟨hleft, hts⟩
    · rw [hop, hop']
      refine C.bind (hR _ _ hrest) ?_
      rintro ⟨x, us⟩ ⟨x', us'⟩ ⟨hx, hus⟩
      exact ih (hc.binary op hleft hx) us us' hus

theorem correspond_chainIn (accepts : BinaryOp → Bool) (hR : Correspond C place bound tree R R') :
    Correspond C place bound tree (chainIn accepts R) (chainIn accepts R') := by
  intro ts ts' hts
  refine C.bind (hR ts ts' hts) ?_
  rintro ⟨x, us⟩ ⟨x', us'⟩ ⟨hx, hus⟩
  dsimp only at hus ⊢
  rw [← hus.length_eq]
  exact correspond_chainRestIn hc accepts hR us.length hx us us' hus

theorem correspond_expressionIn (hR : Correspond C place bound tree R R') :
    Correspond C place bound tree (expressionIn R) (expressionIn R') := by
  have hadditive := correspond_chainIn hc BinaryOp.isAdditive
    (correspond_chainIn hc BinaryOp.isMultiplicative hR)
  intro ts ts' hts
  refine C.bind (hadditive ts ts' hts) ?_
  rintro ⟨x, us⟩ ⟨x', us'⟩ ⟨hx, hus⟩
  dsimp only at hus ⊢
  rcases hc.nextOperator? BinaryOp.isComparison hus with
    ⟨hnone, hnone'⟩ | ⟨op, rest, rest', hop, hop', hrest⟩
  · rw [hnone, hnone']
    exact C.pure ⟨hx, hus⟩
  · rw [hop, hop']
    refine C.bind (hadditive rest rest' hrest) ?_
    rintro ⟨y, vs⟩ ⟨y', vs'⟩ ⟨hy, hvs⟩
    exact C.pure ⟨hc.binary op hx hy, hvs⟩

theorem correspond_groupIn (hR : Correspond C place bound tree R R') {t t' : Token}
    (ht : place t t') :
    Correspond C place bound tree (groupIn R t.start) (groupIn R' t'.start) := by
  intro ts ts' hts
  refine C.bind (correspond_expressionIn hc hR ts ts' hts) ?_
  rintro ⟨x, us⟩ ⟨x', us'⟩ ⟨hx, hus⟩
  cases us with
  | nil =>
    obtain rfl := hus.of_nil
    exact C.lift (hc.malformed ht _ _)
  | cons u us =>
    obtain ⟨u', us', rfl, hu, hus⟩ := Beside.of_cons hus
    dsimp only
    rw [hc.kind_eq hu]
    split
    · exact C.pure ⟨hx, hus⟩
    · exact C.lift (hc.malformedAt hu _)

/-- A token that is expected, and what comes after it. -/
theorem holds_expect {α β : Type} {r : α → β → Prop} {kind : TokenKind} {cause : ParseError.Cause}
    {K : List Token → m α} {K' : List Token → n β}
    (hK : ∀ ts ts', Beside place bound ts ts' → C.holds r (K ts) (K' ts')) {ts ts' : List Token}
    (hts : Beside place bound ts ts') :
    C.holds r (liftM (g.expect kind cause ts) >>= K) (liftM (g'.expect kind cause ts') >>= K') :=
  C.bind (C.lift (hc.expect kind cause hts)) hK

omit hc in
/-- An argument, and what comes after it. -/
theorem holds_argument {α β : Type} {r : α → β → Prop} (hR : Correspond C place bound tree R R')
    {K : Expr × List Token → m α} {K' : Expr × List Token → n β}
    (hK : ∀ x x' ts ts', tree x x' → Beside place bound ts ts' →
      C.holds r (K (x, ts)) (K' (x', ts'))) {ts ts' : List Token}
    (hts : Beside place bound ts ts') : C.holds r (R ts >>= K) (R' ts' >>= K') :=
  C.bind (hR ts ts' hts) fun ⟨_, _⟩ ⟨_, _⟩ ⟨hx, hrest⟩ => hK _ _ _ _ hx hrest

theorem correspond_callIn (hR : Correspond C place bound tree R R') (form : CallForm) :
    Correspond C place bound tree (g.callIn R form) (g'.callIn R' form) := by
  intro ts ts' hts
  cases form with
  | attr =>
    refine C.bind (C.lift (hc.referenceName hts)) ?_
    rintro ⟨name, us⟩ ⟨_, us'⟩ ⟨rfl, hus⟩
    exact holds_expect hc (fun vs vs' hvs => C.pure ⟨hc.attr name, hvs⟩) hus
  | prop =>
    refine C.bind (C.lift (hc.referenceName hts)) ?_
    rintro ⟨name, us⟩ ⟨_, us'⟩ ⟨rfl, hus⟩
    exact holds_expect hc (fun vs vs' hvs => C.pure ⟨hc.prop name, hvs⟩) hus
  | unary op =>
    refine holds_argument hR (fun x x' us us' hx hus => ?_) hts
    exact holds_expect hc (fun vs vs' hvs => C.pure ⟨hc.unary op hx, hvs⟩) hus
  | binary op =>
    refine holds_argument hR (fun x x' us us' hx hus => ?_) hts
    refine holds_expect hc (fun us us' hus => ?_) hus
    refine holds_argument hR (fun y y' us us' hy hus => ?_) hus
    exact holds_expect hc (fun vs vs' hvs => C.pure ⟨hc.binary op hx hy, hvs⟩) hus
  | vec2 =>
    refine C.bind (C.lift (hc.refuseEmptyVector hts)) fun _ _ _ => ?_
    refine holds_argument hR (fun x x' us us' hx hus => ?_) hts
    refine holds_expect hc (fun us us' hus => ?_) hus
    refine holds_argument hR (fun y y' us us' hy hus => ?_) hus
    exact holds_expect hc (fun vs vs' hvs => C.pure ⟨hc.vec2 hx hy, hvs⟩) hus
  | vec3 =>
    refine C.bind (C.lift (hc.refuseEmptyVector hts)) fun _ _ _ => ?_
    refine holds_argument hR (fun x x' us us' hx hus => ?_) hts
    refine holds_expect hc (fun us us' hus => ?_) hus
    refine holds_argument hR (fun y y' us us' hy hus => ?_) hus
    refine holds_expect hc (fun us us' hus => ?_) hus
    refine holds_argument hR (fun z z' us us' hz hus => ?_) hus
    exact holds_expect hc (fun vs vs' hvs => C.pure ⟨hc.vec3 hx hy hz, hvs⟩) hus

/-- What comes after a token that opens a level. -/
theorem correspond_nestedIn (hR : Correspond C place bound tree R R') {t t' : Token}
    (ht : place t t') : Correspond C place bound tree (g.nestedIn R t) (g'.nestedIn R' t') := by
  intro ts ts' hts
  unfold Grammar.nestedIn
  rw [hc.kind_eq ht]
  split
  · exact correspond_groupIn hc hR ht ts ts' hts
  · refine holds_expect hc (fun us us' hus => ?_) hts
    exact correspond_callIn hc (correspond_expressionIn hc hR) _ us us' hus
  · refine holds_argument hR (fun x x' us us' hx hus => ?_) hts
    exact C.pure ⟨hc.unary _ hx, hus⟩

theorem holds_readIn (hR : Correspond C place bound tree R R') {ts ts' : List Token}
    (hts : Beside place bound ts ts') : C.holds tree (readIn R ts) (readIn R' ts') := by
  refine C.bind (correspond_expressionIn hc hR ts ts' hts) ?_
  rintro ⟨x, us⟩ ⟨x', us'⟩ ⟨hx, hus⟩
  cases us with
  | nil =>
    obtain rfl := hus.of_nil
    exact C.pure hx
  | cons u us =>
    obtain ⟨u', us', rfl, hu, -⟩ := Beside.of_cons hus
    exact C.lift (hc.malformedAt hu _)

end Phrases

/-! ## The readers of the grammar -/

/-- With the same room, the readers of atoms of two grammars correspond. -/
theorem correspond_atom {failure : ParseFailure → ParseFailure → Prop}
    {place : Token → Token → Prop} {tree : Expr → Expr → Prop} {g g' : Grammar}
    (hc : Compatible failure place tree g g') (bound room : Nat) :
    Correspond (.plain failure) place bound tree (g.atom room) (g'.atom room) := by
  induction room with
  | zero =>
    intro ts ts' hts
    refine (hc.next hts).bind ?_
    rintro ⟨t, us⟩ ⟨t', us'⟩ ⟨ht, hus⟩
    dsimp only at ht hus ⊢
    rw [hc.kind_eq ht]
    split
    · exact hc.malformedAt ht _
    · exact hc.leaf ht hus
  | succ room ih =>
    intro ts ts' hts
    refine (hc.next hts).bind ?_
    rintro ⟨t, us⟩ ⟨t', us'⟩ ⟨ht, hus⟩
    dsimp only at ht hus ⊢
    rw [hc.kind_eq ht, ← Grammar.nestedIn_eq, ← Grammar.nestedIn_eq]
    split
    · exact correspond_nestedIn (C := .plain failure) hc ih ht us us' hus
    · exact hc.leaf ht hus

end EffectLang
