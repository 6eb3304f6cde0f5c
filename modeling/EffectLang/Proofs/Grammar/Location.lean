import EffectLang.Proofs.Editor.Pairing
import EffectLang.Proofs.Grammar.Earliest

/-!
# What errors point at

An error says where it was found and what stands there. `Located` lists what a failure can be about:
the end of the tokens, a group that is never closed, one token, or the name that a reference lacks.
Every reader fails in one of these ways, provided that it starts where an operand is due; that is
what keeps an open group from being mistaken for a call.

The group that the reader reports is the one that the editor's pairs leave open last: what was read
inside it is balanced, so its parenthesis is on top of the stack.
-/

namespace EffectLang

/-- A computation that fails does so in its first step or after it. -/
theorem error_of_bind {ε α β : Type} {x : Except ε α} {f : α → Except ε β} {e : ε}
    (h : x >>= f = .error e) : x = .error e ∨ ∃ a, x = .ok a ∧ f a = .error e := by
  cases x with
  | error e' => exact .inl (congrArg Except.error (Except.error.inj h))
  | ok a => exact .inr ⟨a, rfl, h⟩

/-! ## Failures -/

/-- Causes of errors that have the text and the offset of a token. -/
def ParseError.Cause.isAboutToken : Cause → Bool
  | unexpectedEnd | unmatchedParenthesis | invalidIdentifier => false
  | _ => true

/-- Tokens after which an operand is due: none, or the last one opens a parenthesis, separates
arguments or joins operands. -/
def OperandDue (ts : List Token) : Prop :=
  ∀ t ∈ ts.getLast?, t.kind = .leftParen ∨ t.kind = .comma ∨ ∃ op, t.kind = .operator op

/-- What a failure to read the tokens can be about. -/
inductive Located (sourceEnd : Nat) (ts : List Token) : ParseFailure → Prop
  | missing : Located sourceEnd ts (.malformed ⟨.unexpectedEnd, [], sourceEnd⟩)
  | unclosed {before inside : List Token} {opening : Token} :
      ts = before ++ opening :: inside → opening.kind = .leftParen → OperandDue before →
        Balanced inside →
        Located sourceEnd ts (.malformed ⟨.unmatchedParenthesis, [], opening.start⟩)
  | token {t : Token} {cause : ParseError.Cause} :
      t ∈ ts → cause.isAboutToken = true →
        Located sourceEnd ts (.malformed ⟨cause, t.text, t.start⟩)
  | name {before after : List Token} {head opening t : Token} {f : Callee} :
      ts = before ++ head :: opening :: t :: after → head.kind = .callee f →
        f.form = .attr ∨ f.form = .prop → opening.kind = .leftParen →
        (t.kind = .string → (t.text.drop 1).dropLast = []) →
        Located sourceEnd ts (.malformed ⟨.invalidIdentifier,
          if t.kind = .rightParen ∨ t.kind = .string then [] else t.text, t.start⟩)
  | digits {t : Token} :
      t ∈ ts → t.kind = .integer → numeralDigitLimit < t.text.length →
        Located sourceEnd ts (.numeralTooLong t.text.length)

namespace OperandDue
variable {t : Token}

theorem nil : OperandDue [] := nofun

theorem snoc (h : t.kind = .leftParen ∨ t.kind = .comma ∨ ∃ op, t.kind = .operator op)
    (ts : List Token) : OperandDue (ts ++ [t]) := by
  intro u hu
  rw [List.getLast?_concat] at hu
  obtain rfl := Option.some.inj hu
  exact h

theorem leftParen (h : t.kind = .leftParen) (ts : List Token) : OperandDue (ts ++ [t]) :=
  snoc (.inl h) ts

theorem comma (h : t.kind = .comma) (ts : List Token) : OperandDue (ts ++ [t]) :=
  snoc (.inr (.inl h)) ts

theorem operator {op : BinaryOp} (h : t.kind = .operator op) (ts : List Token) :
    OperandDue (ts ++ [t]) :=
  snoc (.inr (.inr ⟨op, h⟩)) ts

end OperandDue

/-- Whatever stands before, the reader fails in one of the ways listed, if an operand is due. -/
def Reader.Locates {α : Type} (sourceEnd : Nat) (reader : Reader α) : Prop :=
  ∀ {whole prior ts : List Token} {f : ParseFailure}, whole = prior ++ ts → OperandDue prior →
    reader ts = .error f → Located sourceEnd whole f

section Readers
variable {sourceEnd : Nat} {whole prior ts : List Token} {f : ParseFailure}

theorem located_of_malformedAt {α : Type} {t : Token} {cause : ParseError.Cause} (ht : t ∈ whole)
    (hcause : cause.isAboutToken = true)
    (h : (malformedAt cause t : Except ParseFailure α) = .error f) : Located sourceEnd whole f := by
  obtain rfl := Except.error.inj h
  exact .token ht hcause

/-! ## Chains and comparisons -/

section Chain
variable {accepts : BinaryOp → Bool} {operand : Reader Expr} {one : List Token → Expr → Prop}

/-- The loop fails in an operand, which is due after the operator before it. -/
theorem chainRest_located (hsound : operand.Sound one) (hop : Reader.Locates sourceEnd operand)
    {bound : Nat} {left : Expr} (hwhole : whole = prior ++ ts)
    (h : chainRest accepts operand bound left ts = .error f) : Located sourceEnd whole f := by
  induction bound generalizing left prior ts with
  | zero => cases h
  | succ bound ih =>
    simp only [chainRest] at h
    split at h
    · cases h
    · next op ts' hnext =>
      obtain ⟨sign, rfl, hkind, -⟩ := of_nextOperator? hnext
      rcases error_of_bind h with hoperand | ⟨⟨r, rest⟩, hr, hrest⟩
      · exact hop (by simpa using hwhole) (.operator hkind prior) hoperand
      · obtain ⟨used, rfl, -⟩ := hsound hr
        have hafter : whole = prior ++ sign :: used ++ rest := by simpa using hwhole
        exact ih hafter hrest

theorem chain_locates (hsound : operand.Sound one) (hop : Reader.Locates sourceEnd operand) :
    Reader.Locates sourceEnd (chain accepts operand) := by
  intro whole prior ts f hwhole hdue h
  rcases error_of_bind h with hfirst | ⟨⟨first, rest⟩, hfirst, hrest⟩
  · exact hop hwhole hdue hfirst
  · obtain ⟨used, rfl, -⟩ := hsound hfirst
    have hafter : whole = prior ++ used ++ rest := by simpa using hwhole
    exact chainRest_located hsound hop hafter hrest

end Chain

section Levels
variable {atom : Reader Expr} {room : Nat}

theorem additive_locates (hsound : atom.Sound (DerivesWithin .atom room))
    (hatom : Reader.Locates sourceEnd atom) : Reader.Locates sourceEnd (additive atom) :=
  chain_locates (multiplicative_sound hsound) (chain_locates hsound hatom)

theorem expression_locates (hsound : atom.Sound (DerivesWithin .atom room))
    (hatom : Reader.Locates sourceEnd atom) : Reader.Locates sourceEnd (expression atom) := by
  intro whole prior ts f hwhole hdue h
  rcases error_of_bind h with hleft | ⟨⟨l, rest⟩, hleft, h₁⟩
  · exact additive_locates hsound hatom hwhole hdue hleft
  · obtain ⟨ls, rfl, -⟩ := additive_sound hsound hleft
    dsimp only at h₁
    split at h₁
    · cases h₁
    · next op rest' hnext =>
      obtain ⟨sign, rfl, hkind, -⟩ := of_nextOperator? hnext
      rcases error_of_bind h₁ with hright | ⟨p, -, h₂⟩
      · exact additive_locates hsound hatom (by simpa using hwhole)
          (.operator hkind (prior ++ ls)) hright
      · cases h₂

end Levels

/-! ## Atoms -/

theorem readInteger_located {t : Token} (ht : t ∈ whole) (hkind : t.kind = .integer)
    (h : readInteger t = .error f) : Located sourceEnd whole f := by
  unfold readInteger at h
  split at h
  · next hlimit =>
    obtain rfl := Except.error.inj h
    exact .digits ht hkind hlimit
  · dsimp only at h
    split at h
    · cases h
    · exact located_of_malformedAt ht rfl h

theorem readFloat_located {t : Token} (ht : t ∈ whole) (h : readFloat t = .error f) :
    Located sourceEnd whole f := by
  unfold readFloat at h
  dsimp only at h
  split at h
  · cases h
  · exact located_of_malformedAt ht rfl h

theorem leaf_located {t : Token} (ht : t ∈ whole) (h : leaf t ts = .error f) :
    Located sourceEnd whole f := by
  unfold leaf at h
  split at h
  · next hkind =>
    rcases error_of_bind h with hvalue | ⟨v, -, h₁⟩
    · exact readInteger_located ht hkind hvalue
    · cases h₁
  · rcases error_of_bind h with hvalue | ⟨v, -, h₁⟩
    · exact readFloat_located ht hvalue
    · cases h₁
  · split at h
    · exact located_of_malformedAt ht rfl h
    · cases h
  · split at h
    · exact located_of_malformedAt ht rfl h
    · cases h
  · exact located_of_malformedAt ht rfl h

namespace Grammar
variable {g : Grammar}

theorem located_of_next {β : Type} {k : Token × List Token → Except ParseFailure β}
    (h : g.next ts >>= k = .error f) :
    Located g.sourceEnd whole f ∨ ∃ t rest, ts = t :: rest ∧ k (t, rest) = .error f := by
  cases ts with
  | nil =>
    obtain rfl := Except.error.inj h
    exact .inl .missing
  | cons t rest => exact .inr ⟨t, rest, rfl, h⟩

/-- A failure at an expected token or after it. -/
theorem located_of_expect {β : Type} {kind : TokenKind} {cause : ParseError.Cause}
    {k : List Token → Except ParseFailure β} (hcause : cause.isAboutToken = true)
    (hmem : ∀ t ∈ ts, t ∈ whole) (h : g.expect kind cause ts >>= k = .error f) :
    Located g.sourceEnd whole f ∨
      ∃ t rest, ts = t :: rest ∧ t.kind = kind ∧ k rest = .error f := by
  rcases error_of_bind h with hexpect | ⟨rest, hexpect, hk⟩
  · rcases located_of_next hexpect with hnext | ⟨t, rest, rfl, h₁⟩
    · exact .inl hnext
    · dsimp only at h₁
      split at h₁
      · cases h₁
      · exact .inl (located_of_malformedAt (hmem t List.mem_cons_self) hcause h₁)
  · have hok : g.expect kind cause ts >>= (fun rest => .ok rest) = .ok rest := by
      rw [hexpect]
      rfl
    obtain ⟨t, rest', rfl, hkind, hrest⟩ := of_expect hok
    obtain rfl := Except.ok.inj hrest
    exact .inr ⟨t, _, rfl, hkind, hk⟩

/-- A name is missing, or a token is none. -/
theorem error_of_referenceName (h : g.referenceName ts = .error f) :
    f = .malformed ⟨.unexpectedEnd, [], g.sourceEnd⟩ ∨
    ∃ t rest, ts = t :: rest ∧ (t.kind = .string → (t.text.drop 1).dropLast = []) ∧
      f = .malformed ⟨.invalidIdentifier,
        if t.kind = .rightParen ∨ t.kind = .string then [] else t.text, t.start⟩ := by
  cases ts with
  | nil => exact .inl (Except.error.inj h).symm
  | cons t rest =>
    refine .inr ⟨t, rest, rfl, ?_⟩
    unfold referenceName at h
    rw [next_cons] at h
    dsimp only [bind, Except.bind] at h
    split at h
    · cases h
    · split at h
      · next hkind =>
        split at h
        · next hempty =>
          rw [if_pos (.inr hkind)]
          exact ⟨fun _ => hempty, (Except.error.inj h).symm⟩
        · cases h
      · next hkind =>
        rw [if_pos (.inl hkind)]
        exact ⟨fun h => absurd (hkind.symm.trans h) nofun, (Except.error.inj h).symm⟩
      · next hstring hright =>
        rw [if_neg (not_or.mpr ⟨hright, hstring⟩)]
        exact ⟨fun h => absurd h hstring, (Except.error.inj h).symm⟩

/-- A failure at the name of a reference or after it. -/
theorem located_of_referenceName {β : Type} {k : Text × List Token → Except ParseFailure β}
    {head opening : Token} {callee : Callee} (hhead : head.kind = .callee callee)
    (hform : callee.form = .attr ∨ callee.form = .prop) (hopen : opening.kind = .leftParen)
    (hwhole : whole = prior ++ head :: opening :: ts)
    (h : g.referenceName ts >>= k = .error f) :
    Located g.sourceEnd whole f ∨
      ∃ t name rest, ts = t :: rest ∧ k (name, rest) = .error f := by
  rcases error_of_bind h with hname | ⟨⟨name, rest⟩, hname, hk⟩
  · refine .inl ?_
    rcases error_of_referenceName hname with rfl | ⟨t, rest, rfl, hempty, rfl⟩
    · exact .missing
    · exact .name hwhole hhead hform hopen hempty
  · have hok : g.referenceName ts >>= (fun p => .ok p) = .ok (name, rest) := by
      rw [hname]
      rfl
    obtain ⟨t, name', rest', rfl, -, hrest⟩ := of_referenceName hok
    obtain ⟨rfl, rfl⟩ := Prod.mk.inj (Except.ok.inj hrest)
    exact .inr ⟨t, _, _, rfl, hk⟩

section Call
variable {argument : Reader Expr} {room : Nat}

theorem refuseEmptyVector_located (hwhole : whole = prior ++ ts)
    (h : refuseEmptyVector ts = .error f) : Located sourceEnd whole f := by
  unfold refuseEmptyVector at h
  split at h
  · cases h
  · split at h
    · exact located_of_malformedAt (by simp [hwhole]) rfl h
    · cases h

/-- A reference fails at its name or at its closing parenthesis. -/
theorem reference_located {node : Text → Expr} {head opening : Token} {callee : Callee}
    (hhead : head.kind = .callee callee) (hform : callee.form = .attr ∨ callee.form = .prop)
    (hopen : opening.kind = .leftParen) (hwhole : whole = prior ++ head :: opening :: ts)
    (h : (do
      let (name, tokens) ← g.referenceName ts
      let tokens ← g.expect .rightParen .unexpectedToken tokens
      return (node name, tokens)) = .error f) : Located g.sourceEnd whole f := by
  rcases located_of_referenceName hhead hform hopen hwhole h with hname |
    ⟨t, name, rest, rfl, h₁⟩
  · exact hname
  · have hmem : ∀ u ∈ rest, u ∈ whole := fun u hu => by simp [hwhole, hu]
    rcases located_of_expect rfl hmem h₁ with hclose | ⟨closing, rest', rfl, -, h₂⟩
    · exact hclose
    · cases h₂

/-- A failure in an argument or at the token that is expected after it, or else after both. -/
theorem located_of_argument {β : Type} (hsound : argument.Sound (DerivesWithin .expression room))
    (harg : Reader.Locates g.sourceEnd argument) {kind : TokenKind} {cause : ParseError.Cause}
    {k : Expr × List Token → Except ParseFailure β}
    {k' : Expr → List Token → Except ParseFailure β} (hwhole : whole = prior ++ ts)
    (hdue : OperandDue prior) (h : argument ts >>= k = .error f)
    (hk : ∀ x rest, k (x, rest) = g.expect kind cause rest >>= k' x)
    (hcause : cause.isAboutToken = true) :
    Located g.sourceEnd whole f ∨ ∃ used t rest x, whole = prior ++ used ++ [t] ++ rest ∧
      t.kind = kind ∧ k' x rest = .error f := by
  rcases error_of_bind h with hargument | ⟨⟨x, rest⟩, hx, h₁⟩
  · exact .inl (harg hwhole hdue hargument)
  · obtain ⟨used, rfl, -⟩ := hsound hx
    have hmem : ∀ u ∈ rest, u ∈ whole := fun u hu => by simp [hwhole, hu]
    rcases located_of_expect hcause hmem ((hk x rest).symm.trans h₁) with
      hexpect | ⟨t, rest', rfl, hkind, h₂⟩
    · exact .inl hexpect
    · exact .inr ⟨used, t, rest', x, by simpa using hwhole, hkind, h₂⟩

/-- An argument and a comma, after which the next argument is due. -/
theorem located_of_comma {β : Type} (hsound : argument.Sound (DerivesWithin .expression room))
    (harg : Reader.Locates g.sourceEnd argument) {cause : ParseError.Cause}
    {k : Expr × List Token → Except ParseFailure β}
    {k' : Expr → List Token → Except ParseFailure β} (hwhole : whole = prior ++ ts)
    (hdue : OperandDue prior) (h : argument ts >>= k = .error f)
    (hk : ∀ x rest, k (x, rest) = g.expect .comma cause rest >>= k' x)
    (hcause : cause.isAboutToken = true)
    (hnext : ∀ {prior' rest x}, whole = prior' ++ rest → OperandDue prior' →
      k' x rest = .error f → Located g.sourceEnd whole f) : Located g.sourceEnd whole f := by
  rcases located_of_argument hsound harg hwhole hdue h hk hcause with
    hargument | ⟨used, t, rest, x, hrest, hkind, h₁⟩
  · exact hargument
  · exact hnext hrest (.comma hkind _) h₁

/-- The last argument and the closing parenthesis. -/
theorem located_of_closing {node : Expr → Expr}
    (hsound : argument.Sound (DerivesWithin .expression room))
    (harg : Reader.Locates g.sourceEnd argument) {cause : ParseError.Cause}
    {k : Expr × List Token → Except ParseFailure (Expr × List Token)} (hwhole : whole = prior ++ ts)
    (hdue : OperandDue prior) (h : argument ts >>= k = .error f)
    (hk : ∀ x rest, k (x, rest) =
      g.expect .rightParen cause rest >>= fun rest => .ok (node x, rest))
    (hcause : cause.isAboutToken = true) : Located g.sourceEnd whole f := by
  rcases located_of_argument hsound harg hwhole hdue h hk hcause with
    hargument | ⟨used, t, rest, x, -, -, h₁⟩
  · exact hargument
  · cases h₁

/-- A call whose head and opening parenthesis are taken. -/
theorem call_located (hsound : argument.Sound (DerivesWithin .expression room))
    (harg : Reader.Locates g.sourceEnd argument) {head opening : Token} {callee : Callee}
    (hhead : head.kind = .callee callee) (hopen : opening.kind = .leftParen)
    (hwhole : whole = prior ++ head :: opening :: ts)
    (h : g.call argument callee.form ts = .error f) : Located g.sourceEnd whole f := by
  have hdue : OperandDue (prior ++ [head] ++ [opening]) := .leftParen hopen _
  have hstart : whole = prior ++ [head] ++ [opening] ++ ts := by simpa using hwhole
  generalize prior ++ [head] ++ [opening] = start at hdue hstart
  unfold call at h
  split at h
  · next hform => exact reference_located hhead (.inl hform) hopen hwhole h
  · next hform => exact reference_located hhead (.inr hform) hopen hwhole h
  · exact located_of_closing hsound harg hstart hdue h (fun _ _ => rfl) rfl
  · refine located_of_comma hsound harg hstart hdue h (fun _ _ => rfl) rfl ?_
    intro _ _ _ hstart hdue h
    exact located_of_closing hsound harg hstart hdue h (fun _ _ => rfl) rfl
  · rcases error_of_bind h with hempty | ⟨-, -, h⟩
    · exact refuseEmptyVector_located hstart hempty
    refine located_of_comma hsound harg hstart hdue h (fun _ _ => rfl) rfl ?_
    intro _ _ _ hstart hdue h
    exact located_of_closing hsound harg hstart hdue h (fun _ _ => rfl) rfl
  · rcases error_of_bind h with hempty | ⟨-, -, h⟩
    · exact refuseEmptyVector_located hstart hempty
    refine located_of_comma hsound harg hstart hdue h (fun _ _ => rfl) rfl ?_
    intro _ _ _ hstart hdue h
    refine located_of_comma hsound harg hstart hdue h (fun _ _ => rfl) rfl ?_
    intro _ _ _ hstart hdue h
    exact located_of_closing hsound harg hstart hdue h (fun _ _ => rfl) rfl

end Call

section Atom
variable {atom : Reader Expr} {room : Nat}

theorem group_located (hsound : atom.Sound (DerivesWithin .atom room))
    (hatom : Reader.Locates sourceEnd atom) {opening : Token} (hopen : opening.kind = .leftParen)
    (hwhole : whole = prior ++ opening :: ts) (hdue : OperandDue prior)
    (h : group atom opening.start ts = .error f) : Located sourceEnd whole f := by
  rcases error_of_bind h with hinner | ⟨⟨inner, rest⟩, hinner, h₁⟩
  · exact expression_locates hsound hatom (by simpa using hwhole) (.leftParen hopen prior) hinner
  · obtain ⟨used, rfl, d, -, hused⟩ := expression_sound hsound hinner
    dsimp only at h₁
    split at h₁
    -- all tokens are taken, and those of the group are balanced
    · obtain rfl := Except.error.inj h₁
      exact .unclosed (by simpa using hwhole) hopen hdue hused.balanced
    · split at h₁
      · cases h₁
      · exact located_of_malformedAt (by simp [hwhole]) rfl h₁

theorem nested_located (hsound : atom.Sound (DerivesWithin .atom room))
    (hatom : Reader.Locates g.sourceEnd atom) {opening : Token}
    (hopens : opening.kind.opensLevel = true) (hwhole : whole = prior ++ opening :: ts)
    (hdue : OperandDue prior) (h : g.nested atom opening ts = .error f) :
    Located g.sourceEnd whole f := by
  unfold nested at h
  rcases TokenKind.of_opensLevel hopens with hkind | ⟨callee, hkind⟩ | hkind <;> rw [hkind] at h
  · exact group_located hsound hatom hkind hwhole hdue h
  · have hmem : ∀ u ∈ ts, u ∈ whole := fun u hu => by simp [hwhole, hu]
    rcases located_of_expect rfl hmem h with hparen | ⟨paren, rest, rfl, hparen, h₁⟩
    · exact hparen
    · exact call_located (expression_sound hsound) (expression_locates hsound hatom) hkind hparen
        hwhole h₁
  · rcases error_of_bind h with hoperand | ⟨p, -, h₁⟩
    · exact hatom (by simpa using hwhole) (.operator hkind prior) hoperand
    · cases h₁

theorem atom_locates (hg : g.vectors = .folding) (room : Nat) :
    Reader.Locates g.sourceEnd (g.atom room) := by
  induction room with
  | zero =>
    intro whole prior ts f hwhole hdue h
    rcases located_of_next h with hnext | ⟨t, rest, rfl, h₁⟩
    · exact hnext
    · dsimp only at h₁
      split at h₁
      · exact located_of_malformedAt (by simp [hwhole]) rfl h₁
      · exact leaf_located (by simp [hwhole]) h₁
  | succ room ih =>
    intro whole prior ts f hwhole hdue h
    rcases located_of_next h with hnext | ⟨t, rest, rfl, h₁⟩
    · exact hnext
    · dsimp only at h₁
      split at h₁
      · next hopens => exact nested_located (atom_sound hg room) ih hopens hwhole hdue h₁
      · exact leaf_located (by simp [hwhole]) h₁

/-- A list of tokens that is not read fails in one of the ways listed. -/
theorem read_located (hg : g.vectors = .folding) {room : Nat}
    (h : g.read room ts = .error f) : Located g.sourceEnd ts f := by
  have hsound : Reader.Sound (g.atom room) (DerivesWithin .atom room) := atom_sound hg room
  rcases error_of_bind h with hinner | ⟨⟨e, rest⟩, hinner, h₁⟩
  · exact expression_locates hsound (atom_locates hg room) (List.nil_append ts).symm .nil hinner
  · obtain ⟨used, rfl, -⟩ := expression_sound hsound hinner
    dsimp only at h₁
    split at h₁
    · cases h₁
    · exact located_of_malformedAt (by simp) rfl h₁

end Atom
end Grammar
end Readers

theorem Expr.located_of_parse {source : Text} {f : ParseFailure}
    (h : parse source = .error f) : Located source.length (significant (tokenize source)) f :=
  Grammar.read_located (g := ⟨source.length, .folding⟩) rfl h

/-! ## Groups that are never closed -/

section Unclosed
variable {before inside : List Token} {opening : Token}

variable (hts : (before ++ opening :: inside).Pairwise fun t t' => t.start < t'.start)
include hts

/-- A token that starts just before another one is the last of those before it. -/
theorem eq_append_of_start_succ {t : Token} (ht : t ∈ before ++ opening :: inside)
    (hstart : t.start + 1 = opening.start) : ∃ front, before = front ++ [t] := by
  obtain ⟨hbefore, hafter, hcross⟩ := List.pairwise_append.mp hts
  rcases List.mem_append.mp ht with ht | ht
  · obtain ⟨front, back, rfl⟩ := List.append_of_mem ht
    cases back with
    | nil => exact ⟨front, rfl⟩
    | cons u back =>
      obtain ⟨-, hback, -⟩ := List.pairwise_append.mp hbefore
      have hlt : t.start < u.start := (List.pairwise_cons.mp hback).1 u List.mem_cons_self
      have hlt' : u.start < opening.start := hcross u (by simp) opening List.mem_cons_self
      omega
  · rcases List.mem_cons.mp ht with rfl | ht
    · omega
    · have hlt : opening.start < t.start := (List.pairwise_cons.mp hafter).1 t ht
      omega

variable (hopen : opening.kind = .leftParen) (hinside : Balanced inside)
include hopen hinside

theorem unpaired_unclosed : Unpaired (before ++ opening :: inside) opening.start := by
  refine (unpaired_iff_mem_openFrom hts (by simp) hopen).mpr ?_
  rw [openFrom_unclosed hopen hinside]
  exact List.mem_cons_self

/-- A parenthesis that ends where the group starts opens a group too, one that is not closed
either. -/
theorem unpaired_before_unclosed (hdue : OperandDue before) {t : Token}
    (ht : t ∈ before ++ opening :: inside) (hparen : t.kind.isParen = true)
    (hstart : t.start + 1 = opening.start) : Unpaired (before ++ opening :: inside) t.start := by
  obtain ⟨front, rfl⟩ := eq_append_of_start_succ hts ht hstart
  have hkind : t.kind = .leftParen := by
    rcases hdue t List.getLast?_concat with hleft | hcomma | ⟨op, hoperator⟩
    · exact hleft
    · rw [hcomma] at hparen
      cases hparen
    · rw [hoperator] at hparen
      cases hparen
  refine (unpaired_iff_mem_openFrom hts ht hkind).mpr ?_
  rw [openFrom_unclosed hopen hinside, openFrom_append, openFrom_leftParen _ _ hkind]
  exact List.mem_cons_of_mem _ List.mem_cons_self

/-- At the parenthesis that opens the group, nothing matches. -/
theorem matchingPair?_unclosed (hdue : OperandDue before) :
    matchingPair? (before ++ opening :: inside) opening.start = none := by
  have hunpaired := unpaired_unclosed hts hopen hinside
  have hhere : pairAt? (parenPairs (before ++ opening :: inside)) opening.start = none := by
    rw [pairAt?_eq_none_iff]
    intro pair hpair
    obtain ⟨hfst, hsnd⟩ := hunpaired pair hpair
    exact ⟨by omega, by omega⟩
  have hbefore : pairAt? (parenPairs (before ++ opening :: inside)) (opening.start - 1) = none := by
    rw [pairAt?_eq_none_iff]
    intro pair hpair
    have hnot {t : Token} (ht : t ∈ before ++ opening :: inside) (hparen : t.kind.isParen = true)
        (hstart : (t.start : Int) = opening.start - 1) :
        pair.1 ≠ t.start ∧ pair.2 ≠ t.start :=
      unpaired_before_unclosed hts hopen hinside hdue ht hparen (by omega) pair hpair
    obtain ⟨t, ht, hleft, hfst⟩ := exists_leftParen_of_mem hpair
    obtain ⟨u, hu, hright, hsnd⟩ := exists_rightParen_of_mem hpair
    refine ⟨fun h => ?_, fun h => ?_⟩
    · exact (hnot ht (by rw [hleft]; rfl) (by rw [hfst]; exact h)).1 hfst.symm
    · exact (hnot hu (by rw [hright]; rfl) (by rw [hsnd]; exact h)).2 hsnd.symm
  rw [matchingPair?, hhere, hbefore]
  rfl

end Unclosed

/-! ## Tokens in error -/

/-- A beginning of a source that is read holds no token in error. -/
theorem Viable.kind_ne_error {front : List Token} (h : Viable (front.map Token.face)) :
    ∀ t ∈ front, t.kind ≠ .error := by
  intro t ht hkind
  obtain ⟨source, ⟨e, he⟩, hfront⟩ := h
  obtain ⟨u, hu, hface⟩ := List.mem_map.mp (hfront.subset (List.mem_map_of_mem ht))
  have hsame : u.kind = t.kind := TokenKind.eq_of_name (spelled_of_mem_tokenize hu).payload
    (by rw [hkind]; nofun) (Prod.mk.inj hface).1
  obtain ⟨d, -, hderives⟩ := Grammar.read_sound rfl he
  exact (hderives.proper u hu).kind_ne_error (hsame.trans hkind)

/-- Where a token is in error the source is not read, and that is found at the token or before
it. -/
theorem Expr.parse_of_mem_error {source : Text} {t : Token}
    (ht : t ∈ significant (tokenize source)) (hkind : t.kind = .error) :
    (∃ e, parse source = .error (.malformed e) ∧ e.pos ≤ t.start) ∨
    ∃ n ∈ significant (tokenize source), n.kind = .integer ∧ numeralDigitLimit < n.text.length ∧
      n.start < t.start ∧ parse source = .error (.numeralTooLong n.text.length) := by
  cases hparse : parse source with
  | ok e =>
    obtain ⟨d, -, hderives⟩ := Grammar.read_sound rfl hparse
    exact absurd hkind (hderives.proper t ht).kind_ne_error
  | error f =>
    rcases parse_error_cases hparse with ⟨e, rfl, -, source', haccepted, hfront, -⟩ |
      ⟨before, u, after, hts, hrefuses, hviable, -⟩
    · have hviable : Viable ((significant (tokenize source)).map Token.face) :=
        ⟨source', haccepted, hfront⟩
      exact absurd hkind (hviable.kind_ne_error t ht)
    · have hsorted := pairwise_start_tokenize source
      rw [hts] at ht hsorted ⊢
      obtain ⟨-, hafter, hcross⟩ := List.pairwise_append.mp hsorted
      -- the tokens before the one that is refused are in order
      have hmem : t ∈ u :: after := by
        rcases List.mem_append.mp ht with hbefore | hmem
        · exact absurd hkind (hviable.kind_ne_error t hbefore)
        · exact hmem
      have hle : u.start ≤ t.start := by
        rcases List.mem_cons.mp hmem with rfl | hmem
        · exact Nat.le_refl _
        · exact Nat.le_of_lt ((List.pairwise_cons.mp hafter).1 t hmem)
      cases hrefuses with
      | misplaced | number => exact .inl ⟨_, rfl, Int.ofNat_le.mpr hle⟩
      | digits hinteger hlimit =>
        have hne : u.start ≠ t.start := by
          intro hstart
          obtain rfl := eq_of_start_eq hsorted (by simp) ht hstart
          rw [hkind] at hinteger
          cases hinteger
        exact .inr ⟨u, by simp, hinteger, hlimit, Nat.lt_of_le_of_ne hle hne, rfl⟩
      | @call front name hname =>
        have hlt : name.start < u.start := hcross name (by simp [hname]) u List.mem_cons_self
        exact .inl ⟨_, rfl, Int.ofNat_le.mpr (Nat.le_of_lt (Nat.lt_of_lt_of_le hlt hle))⟩

/-! ## Errors about a source -/

/-- A string with nothing between its quotes. -/
def Token.IsEmptyString (t : Token) : Prop :=
  t.kind = .string ∧ t.text = ['"', '"']

/-- What an error about a source points at. -/
structure ParseError.LocatedIn (source : Text) (e : ParseError) : Prop where
  /-- Missing tokens are reported at the end. -/
  ending : e.cause = .unexpectedEnd → e.pos = source.length ∧ e.text = []
  /-- A group that is not closed is reported at its parenthesis: the last one without a partner,
  which opens no call, and at which the editor finds no pair. -/
  unmatched : e.cause = .unmatchedParenthesis → e.text = [] ∧
    ∃ before opening after, significant (tokenize source) = before ++ opening :: after ∧
      opening.kind = .leftParen ∧ e.pos = opening.start ∧
      Unpaired (tokenize source) opening.start ∧
      (∀ t ∈ after, t.kind = .leftParen → ¬ Unpaired (tokenize source) t.start) ∧
      (∀ t ∈ before.getLast?, ∀ f, t.kind ≠ .callee f) ∧
      matchingPair? (tokenize source) e.pos = none
  /-- Any other error is about a token, and has its text. Only where a reference lacks its name,
  or the name is empty, there is no text. -/
  token : e.cause ≠ .unexpectedEnd → e.cause ≠ .unmatchedParenthesis →
    ∃ before t after, significant (tokenize source) = before ++ t :: after ∧ e.pos = t.start ∧
      (e.cause ≠ .invalidIdentifier → e.text = t.text) ∧
      (e.cause = .invalidIdentifier →
        (t.kind = .rightParen ∨ t.IsEmptyString → e.text = []) ∧
        (¬ (t.kind = .rightParen ∨ t.IsEmptyString) → e.text = t.text) ∧
        ∃ front head opening f, before = front ++ [head, opening] ∧ head.kind = .callee f ∧
          (f.form = .attr ∨ f.form = .prop) ∧ opening.kind = .leftParen)

theorem unpaired_significant (ts : List Token) (offset : Nat) :
    Unpaired (significant ts) offset ↔ Unpaired ts offset := by
  rw [Unpaired, Unpaired, parenPairs, parenPairs, parenPairsFrom_significant]

theorem matchingPair?_significant (ts : List Token) (cursor : Int) :
    matchingPair? (significant ts) cursor = matchingPair? ts cursor := by
  rw [matchingPair?, matchingPair?, parenPairs, parenPairs, parenPairsFrom_significant]

/-- A string of a source has its two quotes, so it is the empty one when nothing is between them. -/
theorem Token.Lexed.isEmptyString {t : Token} (h : t.Lexed) (hkind : t.kind = .string)
    (hempty : (t.text.drop 1).dropLast = []) : t.IsEmptyString := by
  obtain ⟨name, htext, -⟩ := h.string hkind
  rw [htext] at hempty
  obtain rfl : name = [] := by simpa using hempty
  exact ⟨hkind, htext⟩

/-- Tokens after which an operand is due do not end in the name of a call. -/
theorem OperandDue.not_callee {ts : List Token} (h : OperandDue ts) :
    ∀ t ∈ ts.getLast?, ∀ f, t.kind ≠ .callee f := by
  intro t ht f hkind
  rcases h t ht with h | h | ⟨op, h⟩ <;> rw [hkind] at h <;> cases h

theorem Located.locatedIn {source : Text} {e : ParseError}
    (h : Located source.length (significant (tokenize source)) (.malformed e)) :
    e.LocatedIn source := by
  have hsorted := pairwise_start_tokenize source
  cases h with
  | missing => exact ⟨fun _ => ⟨rfl, rfl⟩, nofun, fun h => absurd rfl h⟩
  | @unclosed before inside opening hts hopen hdue hinside =>
    rw [hts] at hsorted
    refine ⟨nofun, fun _ => ⟨rfl, before, opening, inside, hts, hopen, rfl, ?_, ?_,
      hdue.not_callee, ?_⟩, fun _ h => absurd rfl h⟩
    · rw [← unpaired_significant, hts]
      exact unpaired_unclosed hsorted hopen hinside
    · intro t ht hkind hunpaired
      rw [← unpaired_significant, hts] at hunpaired
      have hle := last_of_openFrom_eq_cons hsorted (openFrom_unclosed hopen hinside)
        (by simp [ht]) hkind hunpaired
      have hlt : opening.start < t.start :=
        (List.pairwise_cons.mp (List.pairwise_append.mp hsorted).2.1).1 t ht
      omega
    · rw [← matchingPair?_significant, hts]
      exact matchingPair?_unclosed hsorted hopen hinside hdue
  | @token t cause ht hcause =>
    obtain ⟨before, after, hts⟩ := List.append_of_mem ht
    have hne {cause' : ParseError.Cause} (h : cause'.isAboutToken = false) : cause ≠ cause' := by
      rintro rfl
      rw [hcause] at h
      cases h
    exact ⟨fun h => absurd h (hne rfl), fun h => absurd h (hne rfl), fun _ _ =>
      ⟨before, t, after, hts, rfl, fun _ => rfl, fun h => absurd h (hne rfl)⟩⟩
  | @name before after head opening t f hts hhead hform hopen hempty =>
    have hmem : t ∈ significant (tokenize source) := by simp [hts]
    have hiff : t.kind = .rightParen ∨ t.IsEmptyString ↔ t.kind = .rightParen ∨ t.kind = .string :=
      or_congr_right ⟨And.left, fun hkind =>
        (lexed_of_mem_tokenize hmem).isEmptyString hkind (hempty hkind)⟩
    refine ⟨nofun, nofun, fun _ _ => ⟨before ++ [head, opening], t, after, by simp [hts], rfl,
      fun h => absurd rfl h, fun _ => ⟨fun h => if_pos (hiff.mp h), fun h => if_neg (mt hiff.mpr h),
      before, head, opening, f, rfl, hhead, hform, hopen⟩⟩⟩

/-- Errors point at what they are about, and no later than at the first token in error. A source
with such a token is never read; only the digits of an integer before it can keep the reader from
reporting an error. -/
theorem Expr.parse_error_located (source : Text) :
    (∀ e, parse source = .error (.malformed e) →
      e.LocatedIn source ∧ ∀ t ∈ tokenize source, t.kind = .error → e.pos ≤ t.start) ∧
    ∀ t ∈ tokenize source, t.kind = .error →
      (∃ e, parse source = .error (.malformed e)) ∨
      ∃ n ∈ tokenize source, n.kind = .integer ∧ numeralDigitLimit < n.text.length ∧
        n.start < t.start ∧ parse source = .error (.numeralTooLong n.text.length) := by
  have hmem {t : Token} (ht : t ∈ tokenize source) (hkind : t.kind = .error) :
      t ∈ significant (tokenize source) :=
    List.mem_filter.mpr ⟨ht, by simp [Token.isSignificant, hkind]⟩
  refine ⟨fun e h => ⟨(located_of_parse h).locatedIn, fun t ht hkind => ?_⟩, fun t ht hkind => ?_⟩
  · rcases parse_of_mem_error (hmem ht hkind) hkind with ⟨e', he', hpos⟩ | ⟨n, -, -, -, -, hlong⟩
    · obtain rfl : e = e' := ParseFailure.malformed.inj (Except.error.inj (h.symm.trans he'))
      exact hpos
    · rw [h] at hlong
      cases hlong
  · rcases parse_of_mem_error (hmem ht hkind) hkind with ⟨e, he, -⟩ | ⟨n, hn, hlong⟩
    · exact .inl ⟨e, he⟩
    · exact .inr ⟨n, (List.mem_filter.mp hn).1, hlong⟩

/-- Of the two groups that are open the inner one is reported, and the call before it has its
partner. A misplaced number is reported before the character in error that follows it. -/
theorem Expr.located_of_open_groups :
    parse "(sin(1)*(2".toList = .error (.malformed ⟨.unmatchedParenthesis, [], 8⟩) ∧
    matchingPair? (tokenize "(sin(1)*(2".toList) 8 = none ∧
    parse "1 2 #".toList = .error (.malformed ⟨.unexpectedToken, ['2'], 2⟩) ∧
    ∀ t ∈ tokenize "1 2 #".toList, t.kind = .error → 2 ≤ (t.start : Int) := by
  have hunmatched : parse "(sin(1)*(2".toList =
      .error (.malformed ⟨.unmatchedParenthesis, [], 8⟩) := by
    decide +kernel
  have hmisplaced : parse "1 2 #".toList =
      .error (.malformed ⟨.unexpectedToken, ['2'], 2⟩) := by
    decide +kernel
  obtain ⟨-, -, -, -, -, -, -, -, -, -, hpair⟩ :=
    ((parse_error_located _).1 _ hunmatched).1.unmatched rfl
  exact ⟨hunmatched, hpair, hmisplaced, ((parse_error_located _).1 _ hmisplaced).2⟩

end EffectLang
