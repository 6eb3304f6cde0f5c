import EffectLang.Proofs.Grammar.Completeness

/-!
# Reading from left to right

A reader decides about each token when it comes to it, and looks one token ahead. So what it has
decided stands whatever follows, and while it has not refused a token, the tokens up to there are
the beginning of a phrase. `Foreseen` says this of one computation, for a family of readers that
differ in the offsets they report only:

* it succeeds, and every reader of the family succeeds in the same way on the same tokens, whatever
  follows the next one;
* its tokens end too early, and with a few more of them there is a phrase;
* it refuses a token; the tokens before that one are the beginning of a phrase, and every reader of
  the family refuses them with that token, whatever follows.

The steps of a reader compose in all three cases at once.
-/

namespace EffectLang

/-! ## Tokens at other places -/

/-- What a reader sees of a token, which is all but its place. -/
def Token.look (t : Token) : TokenKind × Text :=
  (t.kind, t.text)

theorem Token.kind_of_look {t t' : Token} (h : t'.look = t.look) : t'.kind = t.kind :=
  congrArg Prod.fst h

theorem Token.text_of_look {t t' : Token} (h : t'.look = t.look) : t'.text = t.text :=
  congrArg Prod.snd h

/-- The same tokens, maybe at other places. -/
def Alike (ts ts' : List Token) : Prop :=
  ts.map Token.look = ts'.map Token.look

/-- The next token is of the same kind on both sides, or there is none on either. -/
def SameNext (ts ts' : List Token) : Prop :=
  ts.head?.map Token.kind = ts'.head?.map Token.kind

namespace Alike
variable {t t' : Token} {ts ts' us us' : List Token}

theorem of_nil (h : Alike [] ts) : ts = [] :=
  List.map_eq_nil_iff.mp h.symm

theorem of_cons (h : Alike (t :: ts) us) :
    ∃ t' ts', us = t' :: ts' ∧ t'.look = t.look ∧ Alike ts ts' := by
  obtain ⟨t', ts', rfl, hlook, hts⟩ := List.map_eq_cons_iff.mp h.symm
  exact ⟨t', ts', rfl, hlook, hts.symm⟩

theorem of_append {vs : List Token} (h : Alike (ts ++ us) vs) :
    ∃ ts' us', vs = ts' ++ us' ∧ Alike ts ts' ∧ Alike us us' := by
  unfold Alike at h
  rw [List.map_append] at h
  obtain ⟨ts', us', rfl, hts, hus⟩ := List.map_eq_append_iff.mp h.symm
  exact ⟨ts', us', rfl, hts.symm, hus.symm⟩

/-- What comes after two beginnings that are alike is next where the beginnings are empty. -/
theorem sameNext (h : Alike us us') (hnext : SameNext ts ts') :
    SameNext (us ++ ts) (us' ++ ts') := by
  cases us with
  | nil =>
    obtain rfl := of_nil h
    exact hnext
  | cons u us =>
    obtain ⟨u', us', rfl, hlook, -⟩ := of_cons h
    exact congrArg some (Token.kind_of_look hlook).symm

end Alike

namespace SameNext
variable {t t' : Token} {ts ts' : List Token}

theorem cons (h : t'.kind = t.kind) (ts ts' : List Token) : SameNext (t :: ts) (t' :: ts') :=
  congrArg some h.symm

theorem of_nil (h : SameNext [] ts) : ts = [] := by
  cases ts with
  | nil => rfl
  | cons t ts => cases h

theorem nextIs_eq (h : SameNext ts ts') (kind : TokenKind) :
    nextIs kind ts = nextIs kind ts' := by
  cases ts <;> cases ts' <;> simp_all [SameNext, nextIs]

theorem nextOperator?_eq_none (h : SameNext ts ts') {accepts : BinaryOp → Bool}
    (hnone : nextOperator? accepts ts = none) : nextOperator? accepts ts' = none := by
  cases ts' with
  | nil => rfl
  | cons t' ts' =>
    cases ts with
    | nil => cases h
    | cons t ts =>
      have hkind : t.kind = t'.kind := Option.some.inj h
      obtain ⟨kind, text, start⟩ := t
      obtain ⟨kind', text', start'⟩ := t'
      obtain rfl : kind = kind' := hkind
      cases kind with
      | operator op =>
        rw [nextOperator?_sign rfl] at hnone ⊢
        split at hnone
        · cases hnone
        · next hacc => exact if_neg hacc
      | _ => rfl

end SameNext

/-! ## Completions -/

/-- The tokens by which a beginning is completed. None of them is a word. -/
inductive Filler where
  | leftParen | rightParen | comma | number | name
deriving DecidableEq

def Filler.token : Filler → Token
  | leftParen => ⟨.leftParen, ['('], 0⟩
  | rightParen => ⟨.rightParen, [')'], 0⟩
  | comma => ⟨.comma, [','], 0⟩
  | number => ⟨.integer, ['0'], 0⟩
  | name => ⟨.string, ['"', 'x', '"'], 0⟩

/-- A completion as tokens. -/
def fill (fillers : List Filler) : List Token :=
  fillers.map Filler.token

theorem fill_append (xs ys : List Filler) : fill (xs ++ ys) = fill xs ++ fill ys :=
  List.map_append

/-! ## Failures -/

/-- Causes that say that tokens are missing at the end. -/
def ParseError.Cause.isIncomplete : Cause → Bool
  | unexpectedEnd | unmatchedParenthesis => true
  | _ => false

/-- Causes that say that a token is out of place. -/
def ParseError.Cause.isMisplaced : Cause → Bool
  | unexpectedToken | invalidIdentifier | invalidVector | nestingTooDeep => true
  | _ => false

namespace ParseFailure

/-- The same failure at another offset. -/
def movedTo (pos : Int) : ParseFailure → ParseFailure
  | malformed e => malformed { e with pos }
  | numeralTooLong digits => numeralTooLong digits

/-- A failure about the value of a number. -/
def IsNumeric : ParseFailure → Prop
  | malformed e => e.cause = .invalidNumber
  | numeralTooLong _ => True

end ParseFailure

/-- The failures about the token `t` after the tokens `before`: it is out of place, it is a number
out of range or an integer with too many digits, or it makes the name before it the call of an
unknown function. -/
inductive Refuses (before : List Token) (t : Token) : ParseFailure → Prop
  | misplaced {cause : ParseError.Cause} {text : Text} :
      cause.isMisplaced = true → Refuses before t (.malformed ⟨cause, text, t.start⟩)
  | number :
      (t.kind = .integer →
        t.text.length ≤ numeralDigitLimit ∧ Literal.integerBound ≤ ofDigits t.text) →
        Refuses before t (.malformed ⟨.invalidNumber, t.text, t.start⟩)
  | digits :
      t.kind = .integer → numeralDigitLimit < t.text.length →
        Refuses before t (.numeralTooLong t.text.length)
  | call {front : List Token} {name : Token} :
      before = front ++ [name] → t.kind = .leftParen →
        Refuses before t (.malformed ⟨.unknownFunction, name.text, name.start⟩)

theorem Refuses.after {before : List Token} {t : Token} {f : ParseFailure}
    (h : Refuses before t f) (used : List Token) : Refuses (used ++ before) t f := by
  cases h with
  | misplaced hcause => exact .misplaced hcause
  | number hvalue => exact .number hvalue
  | digits hkind hlimit => exact .digits hkind hlimit
  | @call front name hname hkind =>
    subst hname
    exact .call (List.append_assoc used front [name]).symm hkind

/-! ## What a reader has decided -/

section
variable {ι α : Type}

/-- Every reader of the family takes tokens like `used` for `a` when a token like the first of
`rest` follows. -/
def Steady (R : ι → Reader α) (used rest : List Token) (a : α) : Prop :=
  ∀ i used' rest', Alike used used' → SameNext rest rest' → R i (used' ++ rest') = .ok (a, rest')

/-- Every reader of the family fails at a token like `t` after tokens like `before`, whatever
follows, and all failures or none are about the value of a number. A failure that is not about the
value of an integer meets all integers. -/
def Persists (R : ι → Reader α) (before : List Token) (t : Token) (f : ParseFailure) : Prop :=
  ∀ i before' t' after', Alike before before' → t'.kind = t.kind →
    (t'.text = t.text ∨ t.kind = .integer ∧ ¬ f.IsNumeric) →
    ∃ f', R i (before' ++ t' :: after') = .error f' ∧ (f'.IsNumeric ↔ f.IsNumeric) ∧
      (t'.text = t.text → ∃ pos, f' = f.movedTo pos)

/-- How a computation on the tokens `ts` can end. -/
inductive Foreseen (stands : List Token → α → Prop) (R : ι → Reader α) (ts : List Token) :
    Except ParseFailure (α × List Token) → Prop
  | read {used rest : List Token} {a : α} :
      ts = used ++ rest → (∀ t ∈ used, t.Convertible) → stands used a → Steady R used rest a →
        Foreseen stands R ts (.ok (a, rest))
  | incomplete {e : ParseError} {fillers : List Filler} {a : α} :
      e.cause.isIncomplete = true → (∀ t ∈ ts, t.Convertible) → fillers ≠ [] →
        stands (ts ++ fill fillers) a → Foreseen stands R ts (.error (.malformed e))
  | refused {before after : List Token} {t : Token} {f : ParseFailure} {fillers : List Filler}
      {a : α} :
      ts = before ++ t :: after → (∀ t ∈ before, t.Convertible) → Refuses before t f →
        stands (before ++ fill fillers) a → Persists R before t f →
        Foreseen stands R ts (.error f)

end

section Bind
variable {ι α β : Type} {R : ι → Reader α} {K : α → ι → Reader β}

/-- The readers of a family, each followed by a reader that depends on the result. -/
def followed (R : ι → Reader α) (K : α → ι → Reader β) : ι → Reader β :=
  fun i ts => R i ts >>= fun p => K p.1 i p.2

theorem Steady.followed_eq {used rest : List Token} {a : α} (h : Steady R used rest a) (i : ι)
    {used' rest' : List Token} (hused : Alike used used') (hrest : SameNext rest rest') :
    followed R K i (used' ++ rest') = K a i rest' := by
  unfold followed
  rw [h i used' rest' hused hrest]
  rfl

theorem Steady.bind {used used₂ rest : List Token} {a : α} {b : β}
    (h : Steady R used (used₂ ++ rest) a) (h₂ : Steady (K a) used₂ rest b) :
    Steady (followed R K) (used ++ used₂) rest b := by
  intro i both rest' hboth hnext
  obtain ⟨used', used₂', rfl, hused, hused₂⟩ := hboth.of_append
  rw [List.append_assoc, h.followed_eq i hused (hused₂.sameNext hnext)]
  exact h₂ i used₂' rest' hused₂ hnext

/-- A failure of the second computation. -/
theorem Steady.persists {used before after : List Token} {t : Token} {f : ParseFailure} {a : α}
    (h : Steady R used (before ++ t :: after) a) (h₂ : Persists (K a) before t f) :
    Persists (followed R K) (used ++ before) t f := by
  intro i both t' after' hboth hkind htext
  obtain ⟨used', before', rfl, hused, hbefore⟩ := hboth.of_append
  rw [List.append_assoc,
    h.followed_eq i hused (hbefore.sameNext (SameNext.cons hkind after after'))]
  exact h₂ i before' t' after' hbefore hkind htext

/-- A failure of the first computation. -/
theorem Persists.bind {before : List Token} {t : Token} {f : ParseFailure}
    (h : Persists R before t f) : Persists (followed R K) before t f := by
  intro i before' t' after' hbefore hkind htext
  obtain ⟨f', hf', hsame⟩ := h i before' t' after' hbefore hkind htext
  refine ⟨f', ?_, hsame⟩
  unfold followed
  rw [hf']
  rfl

end Bind

namespace Foreseen
variable {ι α β : Type} {S : List Token → α → Prop} {R : ι → Reader α} {ts : List Token}

/-- A computation that takes nothing. -/
theorem pure {a : α} (h : S [] a) (ts : List Token) :
    Foreseen S (fun (_ : ι) ts => .ok (a, ts)) ts (.ok (a, ts)) := by
  refine .read (List.nil_append ts).symm nofun h ?_
  intro i used' rest' hused _
  obtain rfl := hused.of_nil
  rfl

/-- A token that every reader of the family refuses. -/
theorem refusedFirst {t : Token} {f : Token → ParseFailure} (hrefuses : Refuses [] t (f t))
    (hnumeric : ∀ t', (f t').IsNumeric ↔ (f t).IsNumeric)
    (hmoved : ∀ t', t'.text = t.text → ∃ pos, f t' = (f t).movedTo pos)
    (hfill : ∃ fillers a, S (fill fillers) a)
    (hR : ∀ i t' ts', t'.kind = t.kind →
      (t'.text = t.text ∨ t.kind = .integer ∧ ¬ (f t).IsNumeric) →
      R i (t' :: ts') = .error (f t'))
    (ts : List Token) : Foreseen S R (t :: ts) (.error (f t)) := by
  obtain ⟨fillers, a, ha⟩ := hfill
  refine .refused (List.nil_append (t :: ts)).symm nofun hrefuses (ha : S ([] ++ _) a) ?_
  intro i before' t' after' hbefore hkind htext
  obtain rfl := hbefore.of_nil
  exact ⟨f t', hR i t' after' hkind htext, hnumeric t', hmoved t'⟩

/-- A token that is out of place, whatever its digits are if it is an integer. What is said of it
depends on its text at most. -/
theorem misplaced {t : Token} {cause : ParseError.Cause} (text : Text → Text)
    (hcause : cause.isMisplaced = true) (hfill : ∃ fillers a, S (fill fillers) a)
    (hR : ∀ i t' ts', t'.kind = t.kind → (t'.text = t.text ∨ t.kind = .integer) →
      R i (t' :: ts') = malformed cause (text t'.text) t'.start)
    (ts : List Token) : Foreseen S R (t :: ts) (malformed cause (text t.text) t.start) := by
  refine refusedFirst (f := fun t => .malformed ⟨cause, text t.text, t.start⟩)
    (.misplaced hcause) (fun _ => Iff.rfl) (fun t' htext => ⟨t'.start, by rw [htext]; rfl⟩) hfill
    ?_ ts
  intro i t' ts' hkind htext
  exact hR i t' ts' hkind (htext.imp_right And.left)

/-- One computation after another. What the second one stands for depends on the first result. -/
theorem bind {K : α → ι → Reader β} {T : α → List Token → β → Prop} {U : List Token → β → Prop}
    {i : ι} (h : Foreseen S R ts (R i ts))
    (hK : ∀ a rest, R i ts = .ok (a, rest) → Foreseen (T a) (K a) rest (K a i rest))
    (hfill : ∀ a, ∃ fillers b, T a (fill fillers) b)
    (hU : ∀ xs ys a b, S xs a → T a ys b → U (xs ++ ys) b) :
    Foreseen U (followed R K) ts (followed R K i ts) := by
  unfold followed
  generalize hx : R i ts = x at h hK
  cases h with
  | @read used rest a hts hconv hused hsteady =>
    have hrest := hK a rest rfl
    show Foreseen U (followed R K) ts (K a i rest)
    generalize K a i rest = y at hrest
    cases hrest with
    | @read used₂ rest₂ b hts₂ hconv₂ hused₂ hsteady₂ =>
      subst hts₂
      exact .read (by rw [hts, List.append_assoc])
        (List.forall_mem_append.mpr ⟨hconv, hconv₂⟩) (hU _ _ _ _ hused hused₂)
        (hsteady.bind hsteady₂)
    | incomplete hcause hconv₂ hne hstands =>
      subst hts
      have hboth := hU _ _ _ _ hused hstands
      rw [← List.append_assoc] at hboth
      exact .incomplete hcause (List.forall_mem_append.mpr ⟨hconv, hconv₂⟩) hne hboth
    | refused hts₂ hconv₂ hrefuses hstands hpersists =>
      subst hts₂
      have hboth := hU _ _ _ _ hused hstands
      rw [← List.append_assoc] at hboth
      exact .refused (by rw [hts, List.append_assoc])
        (List.forall_mem_append.mpr ⟨hconv, hconv₂⟩) (hrefuses.after used) hboth
        (hsteady.persists hpersists)
  -- where the first computation fails, its completion goes on with one of the second
  | @incomplete e fillers a hcause hconv hne hstands =>
    obtain ⟨fillers₂, b, hb⟩ := hfill a
    have hboth := hU _ _ _ _ hstands hb
    rw [List.append_assoc, ← fill_append] at hboth
    exact .incomplete hcause hconv (List.append_ne_nil_of_left_ne_nil hne fillers₂) hboth
  | @refused before after t f fillers a hts hconv hrefuses hstands hpersists =>
    obtain ⟨fillers₂, b, hb⟩ := hfill a
    have hboth := hU _ _ _ _ hstands hb
    rw [List.append_assoc, ← fill_append] at hboth
    exact .refused hts hconv hrefuses hboth hpersists.bind

/-- A computation whose result is changed in the end. -/
theorem map {U : List Token → β → Prop} {i : ι} (h : Foreseen S R ts (R i ts)) (f : α → β)
    (hU : ∀ us a, S us a → U us (f a)) :
    Foreseen U (fun i ts => R i ts >>= fun p => .ok (f p.1, p.2)) ts
      (R i ts >>= fun p => .ok (f p.1, p.2)) := by
  refine h.bind (K := fun a _ ts => .ok (f a, ts)) (T := fun a ys b => ys = [] ∧ b = f a)
    (fun a rest _ => .pure ⟨rfl, rfl⟩ rest) (fun a => ⟨[], f a, rfl, rfl⟩) ?_
  rintro us _ a _ hus ⟨rfl, rfl⟩
  rw [List.append_nil]
  exact hU us a hus

/-- One token in front of a computation. -/
theorem cons {κ : Type} {S' : List Token → α → Prop} {R' : κ → Reader α} {t : Token}
    {x : Except ParseFailure (α × List Token)} (h : Foreseen S R ts x) (ht : t.Convertible)
    (hR : ∀ k t', t'.look = t.look → ∃ i, ∀ ts', R' k (t' :: ts') = R i ts')
    (hS : ∀ us a, S us a → S' (t :: us) a) : Foreseen S' R' (t :: ts) x := by
  cases h with
  | read hts hconv hused hsteady =>
    refine .read (congrArg (t :: ·) hts) (List.forall_mem_cons.mpr ⟨ht, hconv⟩) (hS _ _ hused) ?_
    intro k both rest' hboth hnext
    obtain ⟨t', used', rfl, hlook, hused'⟩ := hboth.of_cons
    obtain ⟨i, hi⟩ := hR k t' hlook
    exact (hi (used' ++ rest')).trans (hsteady i used' rest' hused' hnext)
  | incomplete hcause hconv hne hstands =>
    exact .incomplete hcause (List.forall_mem_cons.mpr ⟨ht, hconv⟩) hne (hS _ _ hstands)
  | refused hts hconv hrefuses hstands hpersists =>
    refine .refused (congrArg (t :: ·) hts) (List.forall_mem_cons.mpr ⟨ht, hconv⟩)
      (hrefuses.after [t]) (hS _ _ hstands) ?_
    intro k both t'' after' hboth hkind htext
    obtain ⟨t', before', rfl, hlook, hbefore'⟩ := hboth.of_cons
    obtain ⟨i, hi⟩ := hR k t' hlook
    rw [List.cons_append, hi]
    exact hpersists i before' t'' after' hbefore' hkind htext

/-- A family each of whose readers does as one of another family, once it has looked at the next
token. -/
theorem look {κ : Type} {R' : κ → Reader α} {x : Except ParseFailure (α × List Token)}
    (h : Foreseen S R ts x) (hR : ∀ k ts', SameNext ts ts' → ∃ i, R' k ts' = R i ts') :
    Foreseen S R' ts x := by
  cases h with
  | read hts hconv hused hsteady =>
    refine .read hts hconv hused fun k used' rest' hused' hnext => ?_
    obtain ⟨i, hi⟩ := hR k _ (hts ▸ hused'.sameNext hnext)
    rw [hi]
    exact hsteady i used' rest' hused' hnext
  | incomplete hcause hconv hne hstands => exact .incomplete hcause hconv hne hstands
  | refused hts hconv hrefuses hstands hpersists =>
    refine .refused hts hconv hrefuses hstands fun k before' t' after' hbefore hkind htext => ?_
    obtain ⟨i, hi⟩ := hR k _ (hts ▸ hbefore.sameNext (SameNext.cons hkind _ _))
    rw [hi]
    exact hpersists i before' t' after' hbefore hkind htext

/-- A token of one kind, and a computation after it. Where the tokens end something is missing, and
any other token is out of place. -/
theorem token (filler : Filler) {K : ι → Reader α} {T : List Token → α → Prop}
    {cause : ParseError.Cause} (hkind : filler.token.kind ≠ .integer)
    (hcause : cause.isMisplaced = true)
    (hnil : ∀ i, ∃ e : ParseError, e.cause.isIncomplete = true ∧ R i [] = .error (.malformed e))
    (hcons : ∀ i t ts, R i (t :: ts) =
      if t.kind = filler.token.kind then K i ts else malformedAt cause t)
    (hK : ∀ i ts, Foreseen T K ts (K i ts)) (hfill : ∃ fillers a, T (fill fillers) a)
    (hS : ∀ t us a, t.kind = filler.token.kind → T us a → S (t :: us) a) (i : ι)
    (ts : List Token) : Foreseen S R ts (R i ts) := by
  obtain ⟨fillers, a, ha⟩ := hfill
  have hstands : S (fill (filler :: fillers)) a := hS _ _ _ rfl ha
  cases ts with
  | nil =>
    obtain ⟨e, he, hR⟩ := hnil i
    rw [hR]
    exact .incomplete he nofun (List.cons_ne_nil filler fillers) hstands
  | cons t ts =>
    rw [hcons]
    split
    · next ht =>
      refine (hK i ts).cons (fun h => absurd (ht.symm.trans h) hkind) ?_ fun us a => hS t us a ht
      intro k t' hlook
      have ht' : t'.kind = filler.token.kind := (Token.kind_of_look hlook).trans ht
      exact ⟨k, fun ts' => by rw [hcons, if_pos ht']⟩
    · next ht =>
      refine .misplaced id hcause ⟨_, _, hstands⟩ (fun i t' ts' ht' _ => ?_) ts
      rw [hcons, if_neg (by rwa [ht'])]
      rfl

end Foreseen
end EffectLang
