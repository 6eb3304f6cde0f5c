import EffectLang.Proofs.Grammar.Correspondence
import EffectLang.Proofs.Grammar.Location
import EffectLang.Proofs.Print.Legible
import EffectLang.Proofs.Token.Marking
import EffectLang.Proofs.Token.Spacing

/-!
# Marked names are read as names

Marking looks at the two tokens before a word, whatever else there is; the reader knows from the
call that it is in where a name is due. The two agree: a marked name is read as the name of a
reference, or it is not reached. So it may as well be given in any other way, unmarked or in quotes,
and at any offset.

`SameButNames` relates lists of tokens that differ in this. Outside the parentheses of a reference
nothing is announced, and there the next token is the same on both sides; every reader starts and
ends in such a place.
-/

namespace EffectLang

/-! ## Tokens that differ in names -/

/-- The same tokens, except that a name that is announced may be given in another way. -/
inductive SameButNames : Announced → List Token → List Token → Prop
  | nil {announced : Announced} : SameButNames announced [] []
  | token {announced : Announced} {t : Token} {ts ts' : List Token} :
      SameButNames (announced.after t.kind) ts ts' → SameButNames announced (t :: ts) (t :: ts')
  | name {kind : TokenKind} {t t' : Token} {name : Text} {ts ts' : List Token} :
      t.ReferenceName name → t'.ReferenceName name → SameButNames .nothing ts ts' →
        SameButNames (.name kind) (t :: ts) (t' :: ts')

/-- No name is due. -/
def Announced.NoName (announced : Announced) : Prop :=
  ∀ kind, announced ≠ .name kind

namespace Announced

theorem noName_nothing : nothing.NoName := nofun

/-- What is announced after the head of a call is no name yet. -/
theorem noName_after_nothing (kind : TokenKind) : (nothing.after kind).NoName := by
  intro marked
  unfold after
  split <;> nofun

/-- After a name that is due, no other one is. -/
theorem noName_after_name (marked kind : TokenKind) : ((name marked).after kind).NoName := by
  intro marked'
  unfold after
  split <;> nofun

/-- What is announced after the head of a call and its parenthesis. -/
theorem after_call (f : Callee) :
    (nothing.after (.callee f)).after .leftParen =
      match f.form with
      | .attr => name .attributeName
      | .prop => name .propertyName
      | _ => nothing := by
  cases f <;> rfl

end Announced

namespace SameButNames
variable {announced : Announced} {t : Token} {ts ts' us : List Token}

theorem of_nil (h : SameButNames announced [] us) : us = [] := by
  cases h
  rfl

theorem of_cons (hnone : announced.NoName) (h : SameButNames announced (t :: ts) us) :
    ∃ ts', us = t :: ts' ∧ SameButNames (announced.after t.kind) ts ts' := by
  cases h with
  | token h => exact ⟨_, rfl, h⟩
  | name => exact absurd rfl (hnone _)

theorem length_eq (h : SameButNames announced ts ts') : ts.length = ts'.length := by
  induction h with
  | nil => rfl
  | token _ ih | name _ _ _ ih => rw [List.length_cons, List.length_cons, ih]

/-- After a token of a kind that announces nothing. -/
theorem of_after {kind : TokenKind} (hkind : t.kind = kind)
    (hafter : announced.after kind = .nothing)
    (h : SameButNames (announced.after t.kind) ts ts') : SameButNames .nothing ts ts' := by
  rwa [hkind, hafter] at h

theorem nextIs_eq (hnone : announced.NoName) (h : SameButNames announced ts ts')
    (kind : TokenKind) : nextIs kind ts' = nextIs kind ts := by
  cases ts with
  | nil => rw [h.of_nil]
  | cons t ts =>
    obtain ⟨ts', rfl, -⟩ := h.of_cons hnone
    rfl

theorem nextOperator?_cases (accepts : BinaryOp → Bool) (h : SameButNames .nothing ts ts') :
    nextOperator? accepts ts = none ∧ nextOperator? accepts ts' = none ∨
    ∃ op rest rest', nextOperator? accepts ts = some (op, rest) ∧
      nextOperator? accepts ts' = some (op, rest') ∧ SameButNames .nothing rest rest' := by
  cases hnext : nextOperator? accepts ts with
  | none =>
    have hsame : SameNext ts ts' := by
      cases ts with
      | nil => rw [h.of_nil]; rfl
      | cons t ts =>
        obtain ⟨ts', rfl, -⟩ := h.of_cons Announced.noName_nothing
        rfl
    exact .inl ⟨rfl, hsame.nextOperator?_eq_none hnext⟩
  | some found =>
    obtain ⟨op, rest⟩ := found
    obtain ⟨sign, rfl, hkind, hacc⟩ := of_nextOperator? hnext
    obtain ⟨rest', rfl, hrest⟩ := h.of_cons Announced.noName_nothing
    refine .inr ⟨op, rest, rest', rfl, ?_, hrest.of_after hkind rfl⟩
    rw [nextOperator?_sign hkind, if_pos hacc]

end SameButNames

/-! ## Readers -/

/-- The same failure, or the same value and tokens that differ in names again. -/
abbrev AgreeOn {α : Type} (x y : Except ParseFailure (α × List Token)) : Prop :=
  SameOutcome Eq (fun p q => p.1 = q.1 ∧ SameButNames .nothing p.2 q.2) x y

/-- The reader does not see how names are given. -/
def Reader.Agrees {α : Type} (reader : Reader α) : Prop :=
  ∀ ts ts', SameButNames .nothing ts ts' → AgreeOn (reader ts) (reader ts')

section Readers
variable {announced : Announced} {ts ts' : List Token}

/-- A computation that starts with a reader. -/
theorem Reader.Agrees.bind {α β γ : Type} {reader : Reader α} (h : reader.Agrees)
    {r : β → γ → Prop} {K : α × List Token → Except ParseFailure β}
    {K' : α × List Token → Except ParseFailure γ} (hts : SameButNames .nothing ts ts')
    (hK : ∀ a us us', SameButNames .nothing us us' → SameOutcome Eq r (K (a, us)) (K' (a, us'))) :
    SameOutcome Eq r (reader ts >>= K) (reader ts' >>= K') := by
  refine (h ts ts' hts).bind ?_
  rintro ⟨a, us⟩ ⟨_, us'⟩ ⟨rfl, hus⟩
  exact hK a us us' hus

theorem chainRest_agrees (accepts : BinaryOp → Bool) {operand : Reader Expr}
    (hop : operand.Agrees) (bound : Nat) (left : Expr) :
    Reader.Agrees (chainRest accepts operand bound left) := by
  induction bound generalizing left with
  | zero => exact fun ts ts' hts => .ok ⟨rfl, hts⟩
  | succ bound ih =>
    intro ts ts' hts
    unfold chainRest
    rcases hts.nextOperator?_cases accepts with
      ⟨hnone, hnone'⟩ | ⟨op, rest, rest', hop₁, hop₂, hrest⟩
    · rw [hnone, hnone']
      exact .ok ⟨rfl, hts⟩
    · rw [hop₁, hop₂]
      exact hop.bind hrest fun x us us' hus => ih _ us us' hus

theorem chain_agrees (accepts : BinaryOp → Bool) {operand : Reader Expr} (hop : operand.Agrees) :
    Reader.Agrees (chain accepts operand) := by
  intro ts ts' hts
  refine hop.bind hts fun x us us' hus => ?_
  dsimp only
  rw [← hus.length_eq]
  exact chainRest_agrees accepts hop us.length x us us' hus

theorem expression_agrees {atom : Reader Expr} (hatom : atom.Agrees) :
    Reader.Agrees (expression atom) := by
  have hadditive : Reader.Agrees (additive atom) :=
    chain_agrees BinaryOp.isAdditive (chain_agrees BinaryOp.isMultiplicative hatom)
  intro ts ts' hts
  refine hadditive.bind hts fun x us us' hus => ?_
  dsimp only
  rcases hus.nextOperator?_cases BinaryOp.isComparison with
    ⟨hnone, hnone'⟩ | ⟨op, rest, rest', hop, hop', hrest⟩
  · rw [hnone, hnone']
    exact .ok ⟨rfl, hus⟩
  · rw [hop, hop']
    exact hadditive.bind hrest fun y vs vs' hvs => .ok ⟨rfl, hvs⟩

/-- An atom of one token, which may look at the token that follows. -/
theorem leaf_agrees (t : Token) (hts : SameButNames (Announced.nothing.after t.kind) ts ts') :
    AgreeOn (leaf t ts) (leaf t ts') := by
  have hnext := hts.nextIs_eq (Announced.noName_after_nothing t.kind) .leftParen
  unfold leaf
  rw [hnext]
  split
  · next hkind =>
    cases readInteger t with
    | error f => exact .error rfl
    | ok v => exact .ok ⟨rfl, hts.of_after hkind rfl⟩
  · next hkind =>
    cases readFloat t with
    | error f => exact .error rfl
    | ok v => exact .ok ⟨rfl, hts.of_after hkind rfl⟩
  · next hkind =>
    split
    · exact .error rfl
    · exact .ok ⟨rfl, hts.of_after hkind rfl⟩
  · next hkind =>
    split
    · exact .error rfl
    · exact .ok ⟨rfl, hts.of_after hkind rfl⟩
  · exact .error rfl

namespace Grammar
variable (g : Grammar)

/-- An expected token, where no name is due, and what comes after it. -/
theorem agree_expect {α β : Type} {r : α → β → Prop} (hnone : announced.NoName) (kind : TokenKind)
    (cause : ParseError.Cause) {K : List Token → Except ParseFailure α}
    {K' : List Token → Except ParseFailure β} (hts : SameButNames announced ts ts')
    (hK : ∀ us us', SameButNames (announced.after kind) us us' →
      SameOutcome Eq r (K us) (K' us')) :
    SameOutcome Eq r (g.expect kind cause ts >>= K) (g.expect kind cause ts' >>= K') := by
  have hexpect : SameOutcome Eq (SameButNames (announced.after kind)) (g.expect kind cause ts)
      (g.expect kind cause ts') := by
    cases ts with
    | nil =>
      rw [hts.of_nil]
      exact .error rfl
    | cons t ts =>
      obtain ⟨ts', rfl, hrest⟩ := hts.of_cons hnone
      by_cases hkind : t.kind = kind
      · rw [expect_cons hkind, expect_cons hkind]
        exact .ok (hkind ▸ hrest)
      · have hrefused (us : List Token) :
            g.expect kind cause (t :: us) = malformedAt cause t := by
          unfold expect
          exact if_neg hkind
        rw [hrefused, hrefused]
        exact .error rfl
  exact hexpect.bind hK

/-- Where a name is due, it does not matter how it is given, and no other name is due after it. -/
theorem agree_referenceName {α β : Type} {r : α → β → Prop} {marked : TokenKind}
    {K : Text × List Token → Except ParseFailure α} {K' : Text × List Token → Except ParseFailure β}
    (hts : SameButNames (.name marked) ts ts')
    (hK : ∀ name announced us us', announced.NoName → SameButNames announced us us' →
      SameOutcome Eq r (K (name, us)) (K' (name, us'))) :
    SameOutcome Eq r (g.referenceName ts >>= K) (g.referenceName ts' >>= K') := by
  cases hts with
  | nil => exact .error rfl
  | @token _ t us us' hrest =>
    have hsame : SameOutcome Eq (fun p q => p.1 = q.1 ∧ p.2 = us ∧ q.2 = us')
        (g.referenceName (t :: us)) (g.referenceName (t :: us')) := by
      unfold referenceName
      rw [next_cons, next_cons]
      dsimp only [bind, Except.bind]
      split
      · exact .ok ⟨rfl, rfl, rfl⟩
      · split
        · split
          · exact .error rfl
          · exact .ok ⟨rfl, rfl, rfl⟩
        · exact .error rfl
        · exact .error rfl
    refine hsame.bind ?_
    rintro ⟨name, _⟩ ⟨_, _⟩ ⟨rfl, rfl, rfl⟩
    exact hK name _ _ _ (Announced.noName_after_name marked t.kind) hrest
  | name hname hname' hrest =>
    rw [referenceName_cons hname, referenceName_cons hname']
    exact hK _ _ _ _ Announced.noName_nothing hrest

/-- The name of a reference and its closing parenthesis. -/
theorem reference_agrees {marked : TokenKind} (node : Text → Expr)
    (hts : SameButNames (.name marked) ts ts') :
    AgreeOn
      (g.referenceName ts >>= fun p => g.expect .rightParen .unexpectedToken p.2 >>= fun us =>
        .ok (node p.1, us))
      (g.referenceName ts' >>= fun p => g.expect .rightParen .unexpectedToken p.2 >>= fun us =>
        .ok (node p.1, us)) := by
  refine g.agree_referenceName hts fun name announced us us' hnone hus => ?_
  exact g.agree_expect hnone .rightParen .unexpectedToken hus fun vs vs' hvs => .ok ⟨rfl, hvs⟩

theorem agree_refuseEmptyVector (hts : SameButNames .nothing ts ts') :
    refuseEmptyVector ts' = refuseEmptyVector ts := by
  cases ts with
  | nil => rw [hts.of_nil]
  | cons t ts =>
    obtain ⟨ts', rfl, -⟩ := hts.of_cons Announced.noName_nothing
    rfl

/-- A call whose head and opening parenthesis are taken. -/
theorem call_agrees {argument : Reader Expr} (harg : argument.Agrees) (f : Callee)
    (hts : SameButNames ((Announced.nothing.after (.callee f)).after .leftParen) ts ts') :
    AgreeOn (g.call argument f.form ts) (g.call argument f.form ts') := by
  rw [Announced.after_call] at hts
  -- a closing parenthesis or a comma, after an argument
  have hexpect {β : Type} {r : β → β → Prop} {us us' : List Token} (kind : TokenKind)
      (cause : ParseError.Cause) (hkind : Announced.nothing.after kind = .nothing)
      {K K' : List Token → Except ParseFailure β} (hus : SameButNames .nothing us us')
      (hK : ∀ vs vs', SameButNames .nothing vs vs' → SameOutcome Eq r (K vs) (K' vs')) :
      SameOutcome Eq r (g.expect kind cause us >>= K) (g.expect kind cause us' >>= K') :=
    g.agree_expect Announced.noName_nothing kind cause hus fun vs vs' hvs =>
      hK vs vs' (by rwa [hkind] at hvs)
  unfold call
  split at hts
  · next hform =>
    rw [hform]
    exact g.reference_agrees .attr hts
  · next hform =>
    rw [hform]
    exact g.reference_agrees .prop hts
  · next hattr hprop =>
    split
    · next hform => exact absurd hform hattr
    · next hform => exact absurd hform hprop
    · refine harg.bind hts fun x us us' hus => ?_
      exact hexpect .rightParen _ rfl hus fun vs vs' hvs => .ok ⟨rfl, hvs⟩
    · refine harg.bind hts fun x us us' hus => ?_
      refine hexpect .comma _ rfl hus fun us us' hus => ?_
      refine harg.bind hus fun y us us' hus => ?_
      exact hexpect .rightParen _ rfl hus fun vs vs' hvs => .ok ⟨rfl, hvs⟩
    · rw [agree_refuseEmptyVector hts]
      cases refuseEmptyVector ts with
      | error f => exact .error rfl
      | ok _ =>
        refine harg.bind hts fun x us us' hus => ?_
        refine hexpect .comma _ rfl hus fun us us' hus => ?_
        refine harg.bind hus fun y us us' hus => ?_
        exact hexpect .rightParen _ rfl hus fun vs vs' hvs => .ok ⟨rfl, hvs⟩
    · rw [agree_refuseEmptyVector hts]
      cases refuseEmptyVector ts with
      | error f => exact .error rfl
      | ok _ =>
        refine harg.bind hts fun x us us' hus => ?_
        refine hexpect .comma _ rfl hus fun us us' hus => ?_
        refine harg.bind hus fun y us us' hus => ?_
        refine hexpect .comma _ rfl hus fun us us' hus => ?_
        refine harg.bind hus fun z us us' hus => ?_
        exact hexpect .rightParen _ rfl hus fun vs vs' hvs => .ok ⟨rfl, hvs⟩

theorem group_agrees {atom : Reader Expr} (hatom : atom.Agrees) (start : Nat) :
    Reader.Agrees (group atom start) := by
  intro ts ts' hts
  refine (expression_agrees hatom).bind hts fun x us us' hus => ?_
  cases us with
  | nil =>
    rw [hus.of_nil]
    exact .error rfl
  | cons t us =>
    obtain ⟨us', rfl, hrest⟩ := hus.of_cons Announced.noName_nothing
    dsimp only
    split
    · next hkind => exact .ok ⟨rfl, hrest.of_after hkind rfl⟩
    · exact .error rfl

/-- What comes after a token that opens a level. -/
theorem nested_agrees {atom : Reader Expr} (hatom : atom.Agrees) {opening : Token}
    (hopens : opening.kind.opensLevel = true)
    (hts : SameButNames (Announced.nothing.after opening.kind) ts ts') :
    AgreeOn (g.nested atom opening ts) (g.nested atom opening ts') := by
  unfold nested
  rcases TokenKind.of_opensLevel hopens with hkind | ⟨f, hkind⟩ | hkind <;> rw [hkind] at hts ⊢
  · exact group_agrees hatom opening.start ts ts' hts
  · refine g.agree_expect (Announced.noName_after_nothing _) .leftParen _ hts fun us us' hus => ?_
    exact g.call_agrees (expression_agrees hatom) f hus
  · exact hatom.bind hts fun x us us' hus => .ok ⟨rfl, hus⟩

theorem atom_agrees (room : Nat) : Reader.Agrees (g.atom room) := by
  induction room with
  | zero =>
    intro ts ts' hts
    cases ts with
    | nil =>
      rw [hts.of_nil]
      exact .error rfl
    | cons t ts =>
      obtain ⟨ts', rfl, hrest⟩ := hts.of_cons Announced.noName_nothing
      unfold atom
      rw [next_cons, next_cons]
      dsimp only [bind, Except.bind]
      split
      · exact .error rfl
      · exact leaf_agrees t hrest
  | succ room ih =>
    intro ts ts' hts
    cases ts with
    | nil =>
      rw [hts.of_nil]
      exact .error rfl
    | cons t ts =>
      obtain ⟨ts', rfl, hrest⟩ := hts.of_cons Announced.noName_nothing
      unfold atom
      rw [next_cons, next_cons]
      dsimp only [bind, Except.bind]
      split
      · next hopens => exact g.nested_agrees ih hopens hrest
      · exact leaf_agrees t hrest

/-- Tokens that differ in names are read alike. -/
theorem read_eq_of_sameButNames (room : Nat) (hts : SameButNames .nothing ts ts') :
    g.read room ts' = g.read room ts := by
  have hread : SameOutcome Eq Eq (g.read room ts) (g.read room ts') := by
    refine (expression_agrees (g.atom_agrees room)).bind hts fun x us us' hus => ?_
    cases us with
    | nil =>
      rw [hus.of_nil]
      exact .ok rfl
    | cons t us =>
      obtain ⟨us', rfl, -⟩ := hus.of_cons Announced.noName_nothing
      exact .error rfl
  exact hread.eq.symm

end Grammar
end Readers

/-! ## Marked names -/

/-- A marked name may be given in another way, anywhere. -/
def Token.Renames (t t' : Token) : Prop :=
  t' = t ∨ t.kind.isMarked = true ∧ t'.ReferenceName t.text

section Marking
variable {announced : Announced} {ts us : List Token}

/-- Marked tokens are those before marking, with other kinds of names. -/
theorem forall₂_renames_markFrom (hmarks : announced.Marks) (ts : List Token) :
    List.Forall₂ Token.Renames (markFrom announced ts) ts := by
  refine (forall₂_markedAs_markFrom hmarks ts).flip.imp fun t' t hmarked => ?_
  rcases hmarked with rfl | ⟨hword, kind, hkind, rfl⟩
  · exact .inl rfl
  · exact .inr ⟨hkind, .word hword⟩

/-- Where a name is marked, one is announced. -/
theorem sameButNames_of_renames (hmarks : announced.Marks)
    (hplain : ∀ t ∈ ts, t.kind.isMarked = false) (hsignificant : ∀ t ∈ ts, t.isSignificant = true)
    (h : List.Forall₂ Token.Renames (markFrom announced ts) us) :
    SameButNames announced (markFrom announced ts) us := by
  fun_induction markFrom announced ts generalizing us with
  | case1 =>
    rw [List.forall₂_nil_left_iff.mp h]
    exact .nil
  | case2 t ts _ kind hword ih =>
    obtain ⟨u, us, hu, hus, rfl⟩ := List.forall₂_cons_left_iff.mp h
    have hname : Token.ReferenceName { t with kind } t.text :=
      .word (TokenKind.isWord_of_isMarked hmarks.isMarked)
    have hother : u.ReferenceName t.text := by
      rcases hu with rfl | ⟨-, hu⟩
      · exact hname
      · exact hu
    exact .name hname hother (ih trivial (List.forall_mem_cons.mp hplain).2
      (List.forall_mem_cons.mp hsignificant).2 hus)
  | case3 announced t ts _ _ ih =>
    obtain ⟨ht, hts⟩ := List.forall_mem_cons.mp hplain
    obtain ⟨u, us, hu, hus, rfl⟩ := List.forall₂_cons_left_iff.mp h
    obtain rfl : u = t := by
      rcases hu with hu | ⟨hmarked, -⟩
      · exact hu
      · rw [ht] at hmarked
        cases hmarked
    exact .token (ih (hmarks.after _) hts (List.forall_mem_cons.mp hsignificant).2 hus)
  | case4 announced t ts hspace => exact absurd (hsignificant t List.mem_cons_self) hspace

end Marking

/-! ## Marked names in phrases -/

/-- The token is the name in a reference of the phrase, and the tree refers to it. -/
def Token.NamedIn (t : Token) (ts : List Token) (e : Expr) : Prop :=
  ∃ front head opening closing after f, ts = front ++ head :: opening :: t :: closing :: after ∧
    head.kind = .callee f ∧ opening.kind = .leftParen ∧ closing.kind = .rightParen ∧
    (f.form = .attr ∧ t.text ∈ e.attrNames ∨ f.form = .prop ∧ t.text ∈ e.propNames)

/-- The reference may be in a part of the phrase that denotes a part of the tree. -/
theorem Token.NamedIn.within {t : Token} {ts us : List Token} {e e' : Expr} (h : t.NamedIn ts e)
    (front after : List Token) (hus : us = front ++ ts ++ after)
    (hattrs : e.attrNames ⊆ e'.attrNames) (hprops : e.propNames ⊆ e'.propNames) :
    t.NamedIn us e' := by
  obtain ⟨front', head, opening, closing, after', f, rfl, hhead, hopen, hclose, hname⟩ := h
  refine ⟨front ++ front', head, opening, closing, after' ++ after, f, by simp [hus], hhead, hopen,
    hclose, hname.imp ?_ ?_⟩
  · exact fun ⟨hform, hmem⟩ => ⟨hform, hattrs hmem⟩
  · exact fun ⟨hform, hmem⟩ => ⟨hform, hprops hmem⟩

/-- Every marked token of the phrase is the name in a reference. -/
def NamesOnly (ts : List Token) (e : Expr) : Prop :=
  ∀ t ∈ ts, t.kind.isMarked = true → t.NamedIn ts e

namespace NamesOnly
variable {xs ys us : List Token} {x y e : Expr} {t : Token} {kind : TokenKind}

theorem single (ht : t.kind.isMarked = false) : NamesOnly [t] e := by
  intro u hu hmarked
  rw [List.mem_singleton.mp hu, ht] at hmarked
  cases hmarked

theorem mono (h : NamesOnly xs x) (hattrs : x.attrNames ⊆ e.attrNames)
    (hprops : x.propNames ⊆ e.propNames) : NamesOnly xs e :=
  fun t ht hmarked => (h t ht hmarked).within [] [] (by simp) hattrs hprops

theorem append (hx : NamesOnly xs e) (hy : NamesOnly ys e) : NamesOnly (xs ++ ys) e := by
  intro t ht hmarked
  rcases List.mem_append.mp ht with ht | ht
  · exact (hx t ht hmarked).within [] ys (by simp) (List.Subset.refl _) (List.Subset.refl _)
  · exact (hy t ht hmarked).within xs [] (by simp) (List.Subset.refl _) (List.Subset.refl _)

theorem cons (ht : t.kind = kind) (hkind : kind.isMarked = false) (h : NamesOnly xs e) :
    NamesOnly (t :: xs) e :=
  append (single (by rwa [ht])) h

/-- Two operands around a sign or a comma. -/
theorem binary (hx : NamesOnly xs x) (ht : t.kind = kind) (hkind : kind.isMarked = false)
    (hy : NamesOnly ys y) (hattrs : e.attrNames = x.attrNames ++ y.attrNames)
    (hprops : e.propNames = x.propNames ++ y.propNames) : NamesOnly (xs ++ t :: ys) e := by
  refine append (hx.mono ?_ ?_) (.cons ht hkind (hy.mono ?_ ?_))
  · exact hattrs ▸ List.subset_append_left _ _
  · exact hprops ▸ List.subset_append_left _ _
  · exact hattrs ▸ List.subset_append_right _ _
  · exact hprops ▸ List.subset_append_right _ _

/-- Tokens in the parentheses of a call. -/
theorem called {head opening closing : Token} {f : Callee} (hhead : head.kind = .callee f)
    (hopen : opening.kind = .leftParen) (h : NamesOnly xs e) (hclose : closing.kind = .rightParen) :
    NamesOnly (head :: opening :: (xs ++ [closing])) e :=
  .cons hhead rfl (.cons hopen rfl (append h (.cons hclose rfl nofun)))

/-- A reference, whose name may be marked. -/
theorem reference {head opening name closing : Token} {f : Callee} {text : Text}
    (hhead : head.kind = .callee f) (hopen : opening.kind = .leftParen)
    (hname : name.ReferenceName text) (hclose : closing.kind = .rightParen)
    (hform : f.form = .attr ∧ text ∈ e.attrNames ∨ f.form = .prop ∧ text ∈ e.propNames) :
    NamesOnly [head, opening, name, closing] e := by
  intro t ht hmarked
  have hnot {kind : TokenKind} (hkind : t.kind = kind) (h : kind.isMarked = false) : False := by
    rw [hkind, h] at hmarked
    cases hmarked
  rcases List.mem_cons.mp ht with rfl | ht
  · exact (hnot hhead rfl).elim
  rcases List.mem_cons.mp ht with rfl | ht
  · exact (hnot hopen rfl).elim
  rcases List.mem_cons.mp ht with rfl | ht
  · cases hname with
    | word => exact ⟨[], head, opening, closing, [], f, rfl, hhead, hopen, hclose, hform⟩
    | quoted hstring => exact (hnot hstring rfl).elim
  · obtain rfl := List.mem_singleton.mp ht
    exact (hnot hclose rfl).elim

end NamesOnly

/-- In a phrase, marked tokens are names in references. -/
theorem Derives.namesOnly {phrase : Phrase} {d : Nat} {ts : List Token} {e : Expr}
    (h : Derives phrase d ts e) : NamesOnly ts e := by
  induction h with
  | uncompared _ ih | term _ ih | factor _ ih => exact ih
  | comparison _ hkind _ _ ihl ihr | sum _ hkind _ _ ihl ihr | product _ hkind _ _ ihl ihr =>
    exact ihl.binary hkind rfl ihr rfl rfl
  | group hopen _ hclose ih => exact .cons hopen rfl (ih.append (.cons hclose rfl nofun))
  | negation hkind _ ih => exact .cons hkind rfl (ih.mono (List.Subset.refl _) (List.Subset.refl _))
  | number h =>
    cases h with
    | integer hkind | float hkind => exact .single (by rw [hkind]; rfl)
  | name hkind | builtIn hkind => exact .single (by rw [hkind]; rfl)
  | attrCall hhead hform hopen hname hclose =>
    exact .reference hhead hopen hname hclose (.inl ⟨hform, List.mem_singleton.mpr rfl⟩)
  | propCall hhead hform hopen hname hclose =>
    exact .reference hhead hopen hname hclose (.inr ⟨hform, List.mem_singleton.mpr rfl⟩)
  | unaryCall hhead _ hopen _ hclose ih =>
    exact .called hhead hopen (ih.mono (List.Subset.refl _) (List.Subset.refl _)) hclose
  | @binaryCall _ _ _ _ x y _ _ _ _ _ op hhead _ hopen _ hcomma _ hclose ihx ihy =>
    have hboth := ihx.binary (e := .binary op x y) hcomma rfl ihy rfl rfl
    simpa using NamesOnly.called hhead hopen hboth hclose
  | @vec2Call _ _ _ _ x y e _ _ _ _ _ hhead _ hopen _ hcomma _ hclose hcall ihx ihy =>
    have hnames := Expr.vec2Call_iff.mp hcall ▸ Expr.sameNames_foldVec2 x y
    have hboth := ihx.binary (e := e) hcomma rfl ihy hnames.attrs hnames.props
    simpa using NamesOnly.called hhead hopen hboth hclose
  | @vec3Call _ _ _ _ _ _ x y z e _ _ _ _ _ _ hhead _ hopen _ hcomma _ hcomma' _ hclose hcall ihx
      ihy ihz =>
    have hnames := Expr.vec3Call_iff.mp hcall ▸ Expr.sameNames_foldVec3 x y z
    have hpair := ihx.binary (e := .vec2Node x y) hcomma rfl ihy rfl rfl
    have hall := hpair.binary (e := e) hcomma' rfl ihz hnames.attrs hnames.props
    simpa using NamesOnly.called hhead hopen hall hclose

/-! ## Sources -/

/-- What the reader makes of a marked name of a source: it stands in the parentheses of a reference
of its kind, the tree refers to it if the source is read, and no error is about it. -/
structure Token.ReadAsName (source : Text) (t : Token) : Prop where
  called : ∃ front head opening after,
    significant (tokenize source) = front ++ head :: opening :: t :: after ∧ head.Calls t.kind ∧
      opening.kind = .leftParen
  accepted : ∀ e, Expr.parse source = .ok e →
    (∃ front closing after, significant (tokenize source) = front ++ t :: closing :: after ∧
      closing.kind = .rightParen) ∧
    (t.kind = .attributeName → t.text ∈ e.attrNames) ∧
    (t.kind = .propertyName → t.text ∈ e.propNames)
  refused : ∀ e, Expr.parse source = .error (.malformed e) → e.pos ≠ t.start

section Sources
variable {source : Text}

/-- Tokens whose marked names are given in another way are read in the same way. -/
theorem Expr.read_eq_parse_of_renames {ts : List Token}
    (h : List.Forall₂ Token.Renames (significant (tokenize source)) ts) :
    Grammar.read ⟨source.length, .folding⟩ nestingLimit ts = parse source := by
  unfold parse
  rw [significant_tokenize_eq] at h ⊢
  exact Grammar.read_eq_of_sameButNames _ _ (sameButNames_of_renames Announced.marks_nothing
    isMarked_of_mem_significant_scan isSignificant_of_mem_significant h)

/-- A token starts before the end of its source. -/
theorem start_lt_length_of_mem_tokenize {t : Token} (h : t ∈ tokenize source) :
    t.start < source.length := by
  have hmem : (t.text, t.start) ∈ (tokenize source).map fun t => (t.text, t.start) :=
    List.mem_map.mpr ⟨t, h, rfl⟩
  rw [tokenize, markReferences, map_text_start_markFrom] at hmem
  obtain ⟨u, hu, heq⟩ := List.mem_map.mp hmem
  obtain ⟨-, hstart⟩ := Prod.mk.inj heq
  have hpos := length_pos_of_mem_scan u hu
  have hstop := stop_le_of_mem_scan u hu
  rw [Token.stop, hstart] at hstop
  omega

theorem Located.pos_cases {n : Nat} {ts : List Token} {e : ParseError}
    (h : Located n ts (.malformed e)) : e.pos = n ∨ ∃ t ∈ ts, e.pos = t.start := by
  cases h with
  | missing => exact .inl rfl
  | @unclosed before inside opening hts => exact .inr ⟨opening, by simp [hts], rfl⟩
  | token ht => exact .inr ⟨_, ht, rfl⟩
  | @name before after head opening t f hts => exact .inr ⟨t, by simp [hts], rfl⟩

/-- An error is not about a marked name: it would be the same one if the name were elsewhere. -/
theorem pos_ne_start_of_isMarked {t : Token} (ht : t ∈ significant (tokenize source))
    (hmarked : t.kind.isMarked = true) {e : ParseError}
    (h : Expr.parse source = .error (.malformed e)) : e.pos ≠ t.start := by
  have hsorted := pairwise_start_tokenize source
  have hlt := start_lt_length_of_mem_tokenize (List.mem_filter.mp ht).1
  obtain ⟨before, after, hts⟩ := List.append_of_mem ht
  rw [hts] at hsorted
  have hself (ts : List Token) : List.Forall₂ Token.Renames ts ts :=
    List.forall₂_same.mpr fun _ _ => .inl rfl
  have hmoved : List.Forall₂ Token.Renames (significant (tokenize source))
      (before ++ { t with start := source.length } :: after) := by
    rw [hts]
    exact List.rel_append (hself before)
      (.cons (.inr ⟨hmarked, .word (TokenKind.isWord_of_isMarked hmarked)⟩) (hself after))
  have hread := (Expr.read_eq_parse_of_renames hmoved).trans h
  intro hpos
  rcases (Grammar.read_located (g := ⟨source.length, .folding⟩) rfl hread).pos_cases with
    hend | ⟨u, hu, hstart⟩
  · have heq : (t.start : Int) = source.length := hpos.symm.trans hend
    omega
  · have heq : u.start = t.start := by
      have heq : (u.start : Int) = t.start := hstart.symm.trans hpos
      omega
    obtain ⟨-, hafter, hcross⟩ := List.pairwise_append.mp hsorted
    rcases List.mem_append.mp hu with hu | hu
    · exact absurd heq (Nat.ne_of_lt (hcross u hu t List.mem_cons_self))
    · rcases List.mem_cons.mp hu with rfl | hu
      · exact absurd heq.symm (Nat.ne_of_lt hlt)
      · exact absurd heq.symm (Nat.ne_of_lt ((List.pairwise_cons.mp hafter).1 u hu))

theorem readAsName_of_isMarked {t : Token} (ht : t ∈ significant (tokenize source))
    (hmarked : t.kind.isMarked = true) : t.ReadAsName source where
  called := by
    obtain ⟨us, after, hts⟩ := List.append_of_mem ht
    obtain ⟨front, head, opening, rfl, hcall⟩ := exists_call_of_tokens_eq hts hmarked
    exact ⟨front, head, opening, after, by simp [hts], hcall⟩
  accepted e he := by
    obtain ⟨d, -, hderives⟩ := Grammar.read_sound rfl he
    obtain ⟨front, head, opening, closing, after, f, hts, hhead, hopen, hclose, hname⟩ :=
      hderives.namesOnly t ht hmarked
    have hkind {kind : TokenKind} (hcalls : head.Calls kind) : t.kind = kind :=
      kind_eq_of_mem_reference hts hopen (TokenKind.isWord_of_isMarked hmarked) hcalls
    refine ⟨⟨front ++ [head, opening], closing, after, by simp [hts], hclose⟩, ?_⟩
    rcases hname with ⟨hform, hmem⟩ | ⟨hform, hmem⟩
    · obtain rfl : f = .attr := by cases f <;> first | rfl | cases hform
      have ht : t.kind = .attributeName := hkind (.inl ⟨rfl, hhead⟩)
      exact ⟨fun _ => hmem, fun h => absurd (ht.symm.trans h) nofun⟩
    · obtain rfl : f = .prop := by cases f <;> first | rfl | cases hform
      have ht : t.kind = .propertyName := hkind (.inr ⟨rfl, hhead⟩)
      exact ⟨fun h => absurd (ht.symm.trans h) nofun, fun _ => hmem⟩
  refused _ h := pos_ne_start_of_isMarked ht hmarked h

end Sources

/-- Marking makes no difference to the reader: without it, and with marked names in any other way
and place, the outcome is the same. What is marked is read as the name of a reference, or not at
all, and every word that a reference reads as its name is marked. -/
theorem Expr.parse_ignores_marking (source : Text) :
    Grammar.read ⟨source.length, .folding⟩ nestingLimit (significant (scan 0 source)) =
      parse source ∧
    (∀ ts, List.Forall₂ Token.Renames (significant (tokenize source)) ts →
      Grammar.read ⟨source.length, .folding⟩ nestingLimit ts = parse source) ∧
    (∀ t ∈ tokenize source, t.kind.isMarked = true → t.ReadAsName source) ∧
    ∀ front head opening t after, significant (tokenize source) =
        front ++ head :: opening :: t :: after → opening.kind = .leftParen →
      t.kind.isWord = true → ∀ kind, head.Calls kind → t.kind = kind := by
  refine ⟨read_eq_parse_of_renames ?_, fun ts => read_eq_parse_of_renames, ?_, ?_⟩
  · rw [significant_tokenize_eq]
    exact forall₂_renames_markFrom Announced.marks_nothing _
  · intro t ht hmarked
    refine readAsName_of_isMarked (List.mem_filter.mpr ⟨ht, decide_eq_true ?_⟩) hmarked
    intro hspace
    rw [hspace] at hmarked
    cases hmarked
  · intro front head opening t after h hopen hword kind hcalls
    exact kind_eq_of_mem_reference h hopen hword hcalls

/-- The inner one of two nested references is marked as a name. Quoted, and as far to the left as it
can be, it does not change the error, which is about the parenthesis after it. -/
theorem Expr.parse_ignores_marking_of_nested_reference :
    parse "attr(attr(x))".toList = .error (.malformed ⟨.unexpectedToken, ['('], 9⟩) ∧
    Grammar.read ⟨13, .folding⟩ nestingLimit
      [⟨.callee .attr, "attr".toList, 0⟩, ⟨.leftParen, ['('], 4⟩,
        ⟨.string, "\"attr\"".toList, 0⟩, ⟨.leftParen, ['('], 9⟩, ⟨.identifier, ['x'], 10⟩,
        ⟨.rightParen, [')'], 11⟩, ⟨.rightParen, [')'], 12⟩] =
      .error (.malformed ⟨.unexpectedToken, ['('], 9⟩) ∧
    Token.ReadAsName "attr(attr(x))".toList ⟨.attributeName, "attr".toList, 5⟩ := by
  have hparse : parse "attr(attr(x))".toList =
      .error (.malformed ⟨.unexpectedToken, ['('], 9⟩) := by
    decide +kernel
  have htokens : significant (tokenize "attr(attr(x))".toList) =
      [⟨.callee .attr, "attr".toList, 0⟩, ⟨.leftParen, ['('], 4⟩,
        ⟨.attributeName, "attr".toList, 5⟩, ⟨.leftParen, ['('], 9⟩, ⟨.identifier, ['x'], 10⟩,
        ⟨.rightParen, [')'], 11⟩, ⟨.rightParen, [')'], 12⟩] := by
    decide +kernel
  have hname : Token.ReferenceName ⟨.string, "\"attr\"".toList, 0⟩ "attr".toList :=
    .quoted rfl rfl nofun
  refine ⟨hparse, ?_, (parse_ignores_marking _).2.2.1 _ (by decide +kernel) rfl⟩
  refine ((parse_ignores_marking _).2.1 _ ?_).trans hparse
  rw [htokens]
  refine .cons (.inl rfl) (.cons (.inl rfl) (.cons (.inr ⟨rfl, hname⟩) ?_))
  exact List.forall₂_same.mpr fun _ _ => .inl rfl

end EffectLang
