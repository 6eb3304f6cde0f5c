import EffectLang.Proofs.Editor.Matching
import EffectLang.Proofs.Grammar.Correspondence

/-!
# The parentheses that the reader closes

`Expr.parsePairs` reads as `Expr.parse` does. When it takes the parenthesis that closes a group or a
call, it notes that one together with the one that opened the same group or call. What it has noted
at the end are the pairs that are matched: between the two parentheses the reader takes balanced
tokens, and the pairs of balanced tokens do not depend on what is around them.
-/

namespace EffectLang

/-! ## Readers that note pairs -/

/-- A computation that fails as readers do and notes pairs of parentheses. -/
abbrev Noting := StateT (List ParenPair) (Except ParseFailure)

def note (pair : ParenPair) : Noting Unit :=
  modify (· ++ [pair])

def notedGroup (atom : ReaderIn Noting Expr) (start : Nat) : ReaderIn Noting Expr :=
  fun tokens => do
  let (inner, tokens) ← expressionIn atom tokens
  match tokens with
  | [] => (malformed .unmatchedParenthesis [] start : Except ParseFailure (Expr × List Token))
  | token :: tokens =>
    if token.kind = .rightParen then do
      note (start, token.start)
      return (inner, tokens)
    else (malformedAt .unexpectedToken token : Except ParseFailure (Expr × List Token))

namespace Grammar

/-- A token of the given kind. -/
def take (g : Grammar) (kind : TokenKind) (cause : ParseError.Cause) : Reader Token :=
  fun tokens => do
  let (token, tokens) ← g.next tokens
  if token.kind = kind then return (token, tokens) else malformedAt cause token

/-- Takes the parenthesis that closes what was opened at `start`, and notes the two. -/
def close (g : Grammar) (start : Nat) (cause : ParseError.Cause) (tokens : List Token) :
    Noting (List Token) := do
  let (closing, tokens) ← g.take .rightParen cause tokens
  note (start, closing.start)
  return tokens

/-- The arguments of a call whose parenthesis was opened at `start`. -/
def notedCall (g : Grammar) (argument : ReaderIn Noting Expr) (start : Nat) (form : CallForm) :
    ReaderIn Noting Expr := fun tokens =>
  match form with
  | .attr => do
    let (name, tokens) ← g.referenceName tokens
    let tokens ← g.close start .unexpectedToken tokens
    return (.attr name, tokens)
  | .prop => do
    let (name, tokens) ← g.referenceName tokens
    let tokens ← g.close start .unexpectedToken tokens
    return (.prop name, tokens)
  | .unary op => do
    let (x, tokens) ← argument tokens
    let tokens ← g.close start .unexpectedToken tokens
    return (.unary op x, tokens)
  | .binary op => do
    let (x, tokens) ← argument tokens
    let tokens ← g.expect .comma .unexpectedToken tokens
    let (y, tokens) ← argument tokens
    let tokens ← g.close start .unexpectedToken tokens
    return (.binary op x y, tokens)
  | .vec2 => do
    refuseEmptyVector tokens
    let (x, tokens) ← argument tokens
    let tokens ← g.expect .comma .invalidVector tokens
    let (y, tokens) ← argument tokens
    let tokens ← g.close start .invalidVector tokens
    return (g.vectors.vec2 x y, tokens)
  | .vec3 => do
    refuseEmptyVector tokens
    let (x, tokens) ← argument tokens
    let tokens ← g.expect .comma .invalidVector tokens
    let (y, tokens) ← argument tokens
    let tokens ← g.expect .comma .invalidVector tokens
    let (z, tokens) ← argument tokens
    let tokens ← g.close start .invalidVector tokens
    return (g.vectors.vec3 x y z, tokens)

def notedNested (g : Grammar) (atom : ReaderIn Noting Expr) (opening : Token) :
    ReaderIn Noting Expr := fun tokens =>
  match opening.kind with
  | .leftParen => notedGroup atom opening.start tokens
  | .callee name => do
    let (opening, tokens) ← g.take .leftParen .unexpectedToken tokens
    g.notedCall (expressionIn atom) opening.start name.form tokens
  | _ => do
    let (operand, tokens) ← atom tokens
    return (.unary .neg operand, tokens)

def notedAtom (g : Grammar) : Nat → ReaderIn Noting Expr
  | 0, tokens => do
    let (token, tokens) ← g.next tokens
    if token.kind.opensLevel then
      (malformedAt .nestingTooDeep token : Except ParseFailure (Expr × List Token))
    else leaf token tokens
  | room + 1, tokens => do
    let (token, tokens) ← g.next tokens
    if token.kind.opensLevel then g.notedNested (g.notedAtom room) token tokens
    else leaf token tokens

end Grammar

/-- Reads an expression, and notes the parentheses that open and close each of its groups and
calls. -/
def Expr.parsePairs (source : Text) : Except ParseFailure (Expr × List ParenPair) :=
  (readIn (Grammar.notedAtom ⟨source.length, .folding⟩ nestingLimit)
    (significant (tokenize source))).run []

/-! ## What is noted -/

/-- Balanced tokens and their pairs; or else, what follows an opening parenthesis up to the one that
closes it, and the pairs that are closed there. -/
inductive Paired : Option Nat → List Token → List ParenPair → Prop
  | balanced {ts : List Token} : Balanced ts → Paired none ts (parenPairs ts)
  | closed {start : Nat} {inside : List Token} {closing : Token} :
      Balanced inside → closing.kind = .rightParen →
        Paired (some start) (inside ++ [closing]) (parenPairs inside ++ [(start, closing.start)])

theorem parenPairs_singleton (t : Token) : parenPairs [t] = [] := by
  unfold parenPairs parenPairsFrom
  split
  · rfl
  · next hnil => cases hnil
  · rfl

namespace Paired
variable {opened : Option Nat} {xs ys : List Token} {pairs : List ParenPair}

theorem append (hxs : Balanced xs) (h : Paired opened ys pairs) :
    Paired opened (xs ++ ys) (parenPairs xs ++ pairs) := by
  have hpairs {zs : List Token} : parenPairs (xs ++ zs) = parenPairs xs ++ parenPairs zs := by
    rw [parenPairs, parenPairsFrom_append, hxs.openFrom_eq]
    rfl
  cases h with
  | balanced hys =>
    rw [← hpairs]
    exact .balanced (hxs.append hys)
  | closed hinside hclose =>
    rw [← List.append_assoc, ← List.append_assoc, ← hpairs]
    exact .closed (hxs.append hinside) hclose

theorem other {t : Token} (ht : t.kind.isParen = false) (h : Paired opened xs pairs) :
    Paired opened (t :: xs) pairs := by
  have happend := h.append (.other ht .nil : Balanced [t])
  rwa [parenPairs_singleton] at happend

/-- The closing parenthesis alone. -/
theorem closing (start : Nat) {closing : Token} (h : closing.kind = .rightParen) :
    Paired (some start) [closing] [(start, closing.start)] :=
  .closed .nil h

theorem enclosed {opening : Token} (hopen : opening.kind = .leftParen)
    (h : Paired (some opening.start) xs pairs) : Paired none (opening :: xs) pairs := by
  cases h with
  | @closed _ inside closing hinside hclose =>
    have hpairs := hinside.parenPairsFrom_enclosed hopen hclose [] []
    have hbalanced := Paired.balanced (hinside.parenthesized hopen hclose)
    rwa [parenPairs, hpairs] at hbalanced

end Paired

/-- The two computations fail alike, or take the same tokens off the front; the first one notes the
pairs of what it takes. -/
inductive Notes {α : Type} (opened : Option Nat) (ts : List Token)
    (x : Noting (α × List Token)) : Except ParseFailure (α × List Token) → Prop
  | error {f : ParseFailure} : (∀ noted, x.run noted = .error f) → Notes opened ts x (.error f)
  | ok {a : α} {used rest : List Token} {pairs : List ParenPair} :
      ts = used ++ rest → Paired opened used pairs →
        (∀ noted, x.run noted = .ok ((a, rest), noted ++ pairs)) → Notes opened ts x (.ok (a, rest))

namespace Notes
variable {α β γ : Type} {opened : Option Nat} {ts : List Token} {x : Noting (α × List Token)}
  {y : Except ParseFailure (α × List Token)}

theorem pure (a : α) (ts : List Token) : Notes none ts (Pure.pure (a, ts)) (.ok (a, ts)) := by
  refine .ok (List.nil_append ts).symm (.balanced .nil) fun noted => ?_
  exact congrArg (fun pairs => Except.ok ((a, ts), pairs)) (List.append_nil noted).symm

/-- A computation that takes balanced tokens, and what comes after it. -/
theorem bind (h : Notes none ts x y) {f : α × List Token → Noting (β × List Token)}
    {k : α × List Token → Except ParseFailure (β × List Token)}
    (hf : ∀ a rest, Notes opened rest (f (a, rest)) (k (a, rest))) :
    Notes opened ts (x >>= f) (y >>= k) := by
  cases h with
  | error hx =>
    refine .error fun noted => ?_
    rw [StateT.run_bind, hx]
    rfl
  | @ok a used rest _ hts hused hx =>
    cases hused with
    | balanced hused =>
      have hnext := hf a rest
      change Notes opened ts (x >>= f) (k (a, rest))
      generalize k (a, rest) = outcome at hnext
      cases hnext with
      | error hrest =>
        refine .error fun noted => ?_
        rw [StateT.run_bind, hx]
        exact hrest _
      | ok hrest hpaired hmore =>
        refine .ok (by rw [hts, hrest, List.append_assoc]) (hpaired.append hused) fun noted => ?_
        rw [StateT.run_bind, hx, ← List.append_assoc]
        exact hmore _

/-- A step that notes nothing. -/
theorem lift {z : Except ParseFailure γ} {f : γ → Noting (α × List Token)}
    {k : γ → Except ParseFailure (α × List Token)}
    (h : ∀ c, z = .ok c → Notes opened ts (f c) (k c)) :
    Notes opened ts (liftM z >>= f) (z >>= k) := by
  cases z with
  | error failure => exact .error fun _ => rfl
  | ok c => exact h c rfl

theorem other {t : Token} (ht : t.kind.isParen = false) (h : Notes opened ts x y) :
    Notes opened (t :: ts) x y := by
  cases h with
  | error hx => exact .error hx
  | ok hts hpaired hx => exact .ok (by rw [hts]; rfl) (hpaired.other ht) hx

theorem enclosed {opening : Token} (hopen : opening.kind = .leftParen)
    (h : Notes (some opening.start) ts x y) : Notes none (opening :: ts) x y := by
  cases h with
  | error hx => exact .error hx
  | ok hts hpaired hx => exact .ok (by rw [hts]; rfl) (hpaired.enclosed hopen) hx

end Notes

/-! ## Readers -/

/-- The reader takes balanced tokens, as the other one does, and notes their pairs. -/
def NotesPairs (R : ReaderIn Noting Expr) (reader : Reader Expr) : Prop :=
  ∀ ts, Notes none ts (R ts) (reader ts)

section Chains
variable {R : ReaderIn Noting Expr} {reader : Reader Expr} (h : NotesPairs R reader)
include h

theorem notesPairs_chainRestIn (accepts : BinaryOp → Bool) (bound : Nat) (left : Expr) :
    NotesPairs (chainRestIn accepts R bound left) (chainRest accepts reader bound left) := by
  induction bound generalizing left with
  | zero => exact fun ts => .pure left ts
  | succ bound ih =>
    intro ts
    unfold chainRestIn chainRest
    cases hnext : nextOperator? accepts ts with
    | none => exact .pure left ts
    | some found =>
      obtain ⟨op, rest⟩ := found
      obtain ⟨sign, rfl, hkind, -⟩ := of_nextOperator? hnext
      exact .other (by rw [hkind]; rfl) ((h rest).bind fun x us => ih _ us)

theorem notesPairs_chainIn (accepts : BinaryOp → Bool) :
    NotesPairs (chainIn accepts R) (chain accepts reader) :=
  fun ts => (h ts).bind fun x us => notesPairs_chainRestIn h accepts us.length x us

theorem notesPairs_expressionIn : NotesPairs (expressionIn R) (expression reader) := by
  have hadditive : NotesPairs (additiveIn R) (additive reader) :=
    notesPairs_chainIn (notesPairs_chainIn h BinaryOp.isMultiplicative) BinaryOp.isAdditive
  intro ts
  refine (hadditive ts).bind fun x us => ?_
  dsimp only
  cases hnext : nextOperator? BinaryOp.isComparison us with
  | none => exact .pure x us
  | some found =>
    obtain ⟨op, rest⟩ := found
    obtain ⟨sign, rfl, hkind, -⟩ := of_nextOperator? hnext
    exact .other (by rw [hkind]; rfl) ((hadditive rest).bind fun y vs => .pure _ vs)

end Chains

namespace Grammar
variable (g : Grammar) {R : ReaderIn Noting Expr} {reader : Reader Expr}

theorem notes_notedGroup (h : NotesPairs R reader) (start : Nat) (ts : List Token) :
    Notes (some start) ts (notedGroup R start ts) (group reader start ts) := by
  refine (notesPairs_expressionIn h ts).bind fun x us => ?_
  cases us with
  | nil => exact .error fun _ => rfl
  | cons t us =>
    dsimp only
    by_cases hclose : t.kind = .rightParen
    · rw [if_pos hclose, if_pos hclose]
      exact .ok rfl (.closing start hclose) fun _ => rfl
    · rw [if_neg hclose, if_neg hclose]
      exact .error fun _ => rfl

section Take
variable {α : Type} {opened : Option Nat} {ts : List Token}

/-- A token of the given kind, and what comes after it. -/
theorem notes_take {kind : TokenKind} {cause : ParseError.Cause}
    {f : Token × List Token → Noting (α × List Token)}
    {k : List Token → Except ParseFailure (α × List Token)}
    (h : ∀ t rest, ts = t :: rest → t.kind = kind → Notes opened ts (f (t, rest)) (k rest)) :
    Notes opened ts (liftM (g.take kind cause ts) >>= f) (g.expect kind cause ts >>= k) := by
  cases ts with
  | nil => exact .error fun _ => rfl
  | cons t ts =>
    by_cases hkind : t.kind = kind
    · have htake : g.take kind cause (t :: ts) = .ok (t, ts) := if_pos hkind
      rw [expect_cons hkind, htake]
      exact h t ts rfl hkind
    · have htake : g.take kind cause (t :: ts) = malformedAt cause t := if_neg hkind
      have hexpect : g.expect kind cause (t :: ts) = malformedAt cause t := if_neg hkind
      rw [hexpect, htake]
      exact .error fun _ => rfl

/-- The parenthesis that closes a call, and the call. -/
theorem notes_close (start : Nat) (cause : ParseError.Cause) (e : Expr) (ts : List Token) :
    Notes (some start) ts (g.close start cause ts >>= fun rest => pure (e, rest))
      (g.expect .rightParen cause ts >>= fun rest => .ok (e, rest)) := by
  rw [close, bind_assoc]
  refine g.notes_take fun closing rest hts hclose => ?_
  subst hts
  exact .ok rfl (.closing start hclose) fun _ => rfl

end Take

section After
variable {g} {opened : Option Nat} {ts : List Token}

/-- A comma, and what comes after it. -/
theorem notes_comma {cause : ParseError.Cause} {f : List Token → Noting (Expr × List Token)}
    {k : List Token → Except ParseFailure (Expr × List Token)}
    (h : ∀ rest, Notes opened rest (f rest) (k rest)) :
    Notes opened ts (liftM (g.expect .comma cause ts) >>= f) (g.expect .comma cause ts >>= k) := by
  refine .lift fun rest hexpect => ?_
  obtain ⟨comma, rest', rfl, hcomma, hrest⟩ :=
    of_expect (f := Except.ok) (b := rest) (by rw [hexpect]; rfl)
  obtain rfl := Except.ok.inj hrest
  exact (h rest').other (by rw [hcomma]; rfl)

/-- The name of a reference, and what comes after it. -/
theorem notes_referenceName {f : Text × List Token → Noting (Expr × List Token)}
    {k : Text × List Token → Except ParseFailure (Expr × List Token)}
    (h : ∀ name rest, Notes opened rest (f (name, rest)) (k (name, rest))) :
    Notes opened ts (liftM (g.referenceName ts) >>= f) (g.referenceName ts >>= k) := by
  refine .lift fun p hname => ?_
  obtain ⟨token, name, rest, rfl, htoken, hp⟩ :=
    of_referenceName (f := Except.ok) (b := p) (by rw [hname]; rfl)
  obtain rfl := Except.ok.inj hp
  exact (h name rest).other htoken.isParen_eq_false

end After

/-- A call whose opening parenthesis is taken. -/
theorem notes_notedCall {argument : ReaderIn Noting Expr} {plain : Reader Expr}
    (h : NotesPairs argument plain) (start : Nat) (form : CallForm) (ts : List Token) :
    Notes (some start) ts (g.notedCall argument start form ts) (g.call plain form ts) := by
  cases form with
  | attr => exact notes_referenceName fun name us => g.notes_close start _ _ us
  | prop => exact notes_referenceName fun name us => g.notes_close start _ _ us
  | unary op => exact (h ts).bind fun x us => g.notes_close start _ _ us
  | binary op =>
    refine (h ts).bind fun x us => notes_comma fun us => ?_
    exact (h us).bind fun y us => g.notes_close start _ _ us
  | vec2 =>
    refine .lift fun _ _ => (h ts).bind fun x us => notes_comma fun us => ?_
    exact (h us).bind fun y us => g.notes_close start _ _ us
  | vec3 =>
    refine .lift fun _ _ => (h ts).bind fun x us => notes_comma fun us => ?_
    refine (h us).bind fun y us => notes_comma fun us => ?_
    exact (h us).bind fun z us => g.notes_close start _ _ us

/-- An atom after the token that opens its level. -/
theorem notes_notedNested (h : NotesPairs R reader) {opening : Token}
    (hopens : opening.kind.opensLevel = true) (ts : List Token) :
    Notes none (opening :: ts) (g.notedNested R opening ts) (g.nested reader opening ts) := by
  unfold notedNested nested
  rcases TokenKind.of_opensLevel hopens with hkind | ⟨f, hkind⟩ | hkind <;> rw [hkind]
  · exact .enclosed hkind (notes_notedGroup h opening.start ts)
  · refine .other (by rw [hkind]; rfl) (g.notes_take fun t rest hts hopen => ?_)
    subst hts
    exact .enclosed hopen (g.notes_notedCall (notesPairs_expressionIn h) t.start f.form rest)
  · exact .other (by rw [hkind]; rfl) ((h ts).bind fun x us => .pure _ us)

/-- An atom of one token. -/
theorem notes_leaf (t : Token) (ts : List Token) :
    Notes none (t :: ts) (liftM (leaf t ts)) (leaf t ts) := by
  cases hleaf : leaf t ts with
  | error f => exact .error fun _ => rfl
  | ok p =>
    obtain ⟨e, rest⟩ := p
    obtain ⟨rfl, hatom⟩ := leaf_sound hleaf
    have hpaired := Paired.balanced hatom.balanced
    rw [parenPairs_singleton] at hpaired
    exact .ok rfl hpaired fun noted => congrArg (fun pairs => Except.ok ((e, ts), pairs))
      (List.append_nil noted).symm

theorem notesPairs_notedAtom (room : Nat) : NotesPairs (g.notedAtom room) (g.atom room) := by
  induction room with
  | zero =>
    intro ts
    cases ts with
    | nil => exact .error fun _ => rfl
    | cons t ts =>
      have hnoted : g.notedAtom 0 (t :: ts) = if t.kind.opensLevel then
          liftM (malformedAt .nestingTooDeep t : Except ParseFailure (Expr × List Token))
        else liftM (leaf t ts) := rfl
      have hplain : g.atom 0 (t :: ts) =
          if t.kind.opensLevel then malformedAt .nestingTooDeep t else leaf t ts := rfl
      rw [hnoted, hplain]
      split
      · exact .error fun _ => rfl
      · exact notes_leaf t ts
  | succ room ih =>
    intro ts
    cases ts with
    | nil => exact .error fun _ => rfl
    | cons t ts =>
      have hnoted : g.notedAtom (room + 1) (t :: ts) = if t.kind.opensLevel then
          g.notedNested (g.notedAtom room) t ts else liftM (leaf t ts) := rfl
      have hplain : g.atom (room + 1) (t :: ts) =
          if t.kind.opensLevel then g.nested (g.atom room) t ts else leaf t ts := rfl
      rw [hnoted, hplain]
      split
      · next hopens => exact g.notes_notedNested ih hopens ts
      · exact notes_leaf t ts

/-- The reader that notes pairs does what the other one does, and notes the pairs of all tokens. -/
theorem run_readIn_notedAtom (room : Nat) (ts : List Token) :
    (readIn (g.notedAtom room) ts).run [] = (g.read room ts).map fun e => (e, parenPairs ts) := by
  have h := notesPairs_expressionIn (g.notesPairs_notedAtom room) ts
  unfold readIn read
  generalize expressionIn (g.notedAtom room) ts = x at h ⊢
  generalize expression (g.atom room) ts = y at h ⊢
  cases h with
  | error hx =>
    rw [StateT.run_bind, hx]
    rfl
  | @ok e used rest _ hts hused hx =>
    cases hused with
    | balanced hused =>
      rw [StateT.run_bind, hx]
      cases rest with
      | nil =>
        rw [List.append_nil] at hts
        subst hts
        rfl
      | cons t rest => rfl

end Grammar

/-! ## Sources -/

/-- The reader notes the pairs that are found among the tokens. -/
theorem Expr.parsePairs_eq (source : Text) :
    parsePairs source = (parse source).map fun e => (e, parenPairs (tokenize source)) := by
  have hpairs : parenPairs (significant (tokenize source)) = parenPairs (tokenize source) :=
    parenPairsFrom_significant [] (tokenize source)
  rw [← hpairs]
  exact Grammar.run_readIn_notedAtom _ _ _

/-- Parentheses are significant. -/
theorem mem_significant_of_isParen {ts : List Token} {t : Token} (ht : t ∈ ts)
    (hparen : t.kind.isParen = true) : t ∈ significant ts := by
  refine List.mem_filter.mpr ⟨ht, decide_eq_true ?_⟩
  intro hspace
  rw [hspace] at hparen
  cases hparen

/-- In a source that is accepted, every parenthesis is one of a pair. -/
theorem Expr.exists_pair_of_parse {source : Text} {e : Expr} (h : parse source = .ok e) {t : Token}
    (ht : t ∈ tokenize source) (hparen : t.kind.isParen = true) :
    ∃ pair ∈ parenPairs (tokenize source), pair.Has t.start := by
  obtain ⟨d, -, hderives⟩ := Grammar.read_sound rfl h
  have hpair := hderives.balanced.exists_pair (mem_significant_of_isParen ht hparen) hparen
  rwa [parenPairs, parenPairsFrom_significant] at hpair

/-- Where the editor matches parentheses, the reader has closed them. The reader that notes what it
closes reads every source as the other one does. If a source is accepted, all its parentheses have
partners; and at an opening one the pair is found that ends where the reader has closed the group,
the call or the reference that begins there. -/
theorem Expr.matched_where_closed (source : Text) :
    (parsePairs source).map Prod.fst = parse source ∧
    ∀ e, parse source = .ok e → ∃ pairs, parsePairs source = .ok (e, pairs) ∧
      (∀ t ∈ tokenize source, t.kind.isParen = true → HasPartner (tokenize source) t.start) ∧
      ∀ t ∈ tokenize source, t.kind = .leftParen →
        ∃ closing ∈ tokenize source, closing.kind = .rightParen ∧
          (∀ offset, (t.start, offset) ∈ pairs ↔ offset = closing.start) ∧
          matchingPair? (tokenize source) t.start = some (t.start, closing.start) := by
  have hts := pairwise_start_lt source
  constructor
  · rw [parsePairs_eq]
    cases parse source <;> rfl
  intro e he
  refine ⟨parenPairs (tokenize source), by rw [parsePairs_eq, he]; rfl, ?_, ?_⟩
  · intro t ht hparen
    obtain ⟨pair, hpair, hhas⟩ := exists_pair_of_parse he ht hparen
    exact ⟨pair, (mem_parenPairs_iff hts).mp hpair, hhas⟩
  · intro t ht hopen
    obtain ⟨⟨start, stop⟩, hpair, hhas⟩ := exists_pair_of_parse he ht (by rw [hopen]; rfl)
    obtain rfl : start = t.start := hhas.resolve_right (snd_ne_start hts ht hopen hpair)
    obtain ⟨closing, hclosing, hclose, rfl⟩ := exists_rightParen_of_mem hpair
    refine ⟨closing, hclosing, hclose, fun offset => ⟨fun hmem => ?_, ?_⟩, ?_⟩
    · have heq := pair_unique hts hmem hpair (.inl rfl) (.inl rfl)
      exact congrArg Prod.snd heq
    · rintro rfl
      exact hpair
    · have hfound := (pairAt?_eq_some_iff hts).mpr
        ⟨hpair, (.inl rfl : ((t.start : Int) = t.start ∨ (closing.start : Int) = t.start))⟩
      unfold matchingPair?
      dsimp only
      rw [hfound]
      rfl

/-- A call around a reference and a group: its parenthesis is closed by the last one. -/
theorem Expr.matched_around_reference :
    Expr.parsePairs "max(attr(size),-(2+time))".toList =
      .ok (.binary .max (.attr "size".toList)
        (.unary .neg (.binary .add (.literal (.integer 2)) (.builtIn .time))),
        [(8, 13), (16, 23), (3, 24)]) ∧
    matchingPair? (tokenize "max(attr(size),-(2+time))".toList) 3 = some (3, 24) := by
  have hparse : Expr.parse "max(attr(size),-(2+time))".toList =
      .ok (.binary .max (.attr "size".toList)
        (.unary .neg (.binary .add (.literal (.integer 2)) (.builtIn .time)))) := by
    decide +kernel
  have hnoted : Expr.parsePairs "max(attr(size),-(2+time))".toList =
      .ok (.binary .max (.attr "size".toList)
        (.unary .neg (.binary .add (.literal (.integer 2)) (.builtIn .time))),
        [(8, 13), (16, 23), (3, 24)]) := by
    decide +kernel
  have hopen : ⟨.leftParen, ['('], 3⟩ ∈ tokenize "max(attr(size),-(2+time))".toList := by
    decide +kernel
  obtain ⟨pairs, hpairs, -, hclosed⟩ := (Expr.matched_where_closed _).2 _ hparse
  obtain ⟨closing, -, -, hstart, hfound⟩ := hclosed _ hopen rfl
  obtain rfl := congrArg Prod.snd (Except.ok.inj (hpairs.symm.trans hnoted))
  have hend : 24 = closing.start := (hstart 24).mp (by decide)
  rw [← hend] at hfound
  exact ⟨hnoted, hfound⟩

end EffectLang
