import EffectLang.Proofs.Grammar.Foresight

/-!
# Every reader reads from left to right

The readers of all phrases are foreseen, at any room: whatever is not refused can be completed
within the room, because a number and a quoted name open no level. The chains and the arguments of
calls come first, for any readers that are foreseen; the atoms follow by induction on the room.
-/

namespace EffectLang

/-- The grammar of the language, for a source that ends at the given offset. -/
def Grammar.endingAt (sourceEnd : Nat) : Grammar :=
  ⟨sourceEnd, .folding⟩

/-- A family of readers is foreseen on all tokens, and some fillers stand for a result. -/
structure Predictive {ι α : Type} (stands : List Token → α → Prop) (R : ι → Reader α) : Prop where
  exists_fill : ∃ fillers a, stands (fill fillers) a
  foreseen : ∀ i ts, Foreseen stands R ts (R i ts)

theorem derives_number : Derives .atom 0 (fill [.number]) (.literal (.integer (.ofNat 0))) := by
  have hnumber : Filler.number.token.Number (.integer (.ofNat 0)) := .integer rfl (by decide)
  exact .number hnumber

theorem exists_fill_number (room : Nat) (phrase : Phrase) :
    ∃ fillers e, DerivesWithin phrase room (fill fillers) e := by
  have hatom := derives_number
  cases phrase with
  | expression => exact ⟨_, _, 0, Nat.zero_le room, .uncompared (.term (.factor hatom))⟩
  | additive => exact ⟨_, _, 0, Nat.zero_le room, .term (.factor hatom)⟩
  | multiplicative => exact ⟨_, _, 0, Nat.zero_le room, .factor hatom⟩
  | atom => exact ⟨_, _, 0, Nat.zero_le room, hatom⟩

/-- Readers that are picked from a family. -/
theorem Predictive.pick {ι κ α : Type} {S : List Token → α → Prop} {R : ι → Reader α}
    (hR : Predictive S R) (f : κ → ι) : Predictive S fun k => R (f k) where
  exists_fill := hR.exists_fill
  foreseen k ts := (hR.foreseen (f k) ts).look fun k _ _ => ⟨f k, rfl⟩

/-- One family of readers after another. -/
theorem Predictive.followed {ι α β : Type} {S : List Token → α → Prop}
    {T : α → List Token → β → Prop} {U : List Token → β → Prop} {R : ι → Reader α}
    {K : α → ι → Reader β} (hR : Predictive S R) (hK : ∀ a, Predictive (T a) (K a))
    (hU : ∀ xs ys a b, S xs a → T a ys b → U (xs ++ ys) b) : Predictive U (followed R K) where
  exists_fill := by
    obtain ⟨fillers, a, ha⟩ := hR.exists_fill
    obtain ⟨fillers', b, hb⟩ := (hK a).exists_fill
    refine ⟨fillers ++ fillers', b, ?_⟩
    rw [fill_append]
    exact hU _ _ _ _ ha hb
  foreseen i ts := (hR.foreseen i ts).bind (fun a rest _ => (hK a).foreseen i rest)
    (fun a => (hK a).exists_fill) hU

/-! ## Chains and comparisons -/

section Chain
variable {ι : Type} {accepts : BinaryOp → Bool} {R : ι → Reader Expr}
variable {one many : List Token → Expr → Prop}

/-- The rest of a chain, from its first operator on. -/
def chainTail (accepts : BinaryOp → Bool) (operand : Reader Expr) (left : Expr) : Reader Expr :=
  fun ts => chainRest accepts operand ts.length left ts

theorem chainTail_sign {operand : Reader Expr} (hop : operand.Consumes) {left : Expr}
    {sign : Token} {op : BinaryOp} {ts : List Token} (hkind : sign.kind = .operator op)
    (hacc : accepts op = true) :
    chainTail accepts operand left (sign :: ts) =
      operand ts >>= fun p => chainTail accepts operand (.binary op left p.1) p.2 := by
  simp only [chainTail, List.length_cons, chainRest, nextOperator?_sign hkind, hacc, if_true]
  cases hr : operand ts with
  | error f => rfl
  | ok result =>
    obtain ⟨r, rest⟩ := result
    have hlt : rest.length < ts.length := hop hr
    exact chainRest_bound hop (Nat.le_of_lt hlt) (Nat.le_refl _)

/-- What extends anything that stands for `left` to something that stands for the result. -/
def Extends (many : List Token → Expr → Prop) (left : Expr) (us : List Token) (e : Expr) : Prop :=
  ∀ ls, many ls left → many (ls ++ us) e

theorem Extends.nil (left : Expr) : Extends many left [] left := by
  intro ls hls
  rwa [List.append_nil]

/-- The loop, by induction on the tokens that are left: a turn takes an operator at least. -/
theorem foreseen_chainTail (hconsumes : ∀ i, (R i).Consumes) (hR : Predictive one R)
    (hstep : ∀ {ls rs l r sign op}, many ls l → Token.kind sign = .operator op →
      accepts op = true → one rs r → many (ls ++ sign :: rs) (.binary op l r))
    (left : Expr) (i : ι) (ts : List Token) :
    Foreseen (Extends many left) (fun i => chainTail accepts (R i) left) ts
      (chainTail accepts (R i) left ts) := by
  induction hn : ts.length using Nat.strongRecOn generalizing left ts with
  | ind n ih =>
    cases hnext : nextOperator? accepts ts with
    | none =>
      rw [chainTail, chainRest_stop hnext]
      refine (Foreseen.pure (Extends.nil left) ts).look fun i ts' hsame => ⟨i, ?_⟩
      exact chainRest_stop (hsame.nextOperator?_eq_none hnext)
    | some found =>
      obtain ⟨op, rest⟩ := found
      obtain ⟨sign, rfl, hkind, hacc⟩ := of_nextOperator? hnext
      have hlt : rest.length < n := hn ▸ Nat.lt_succ_self rest.length
      rw [chainTail_sign (hconsumes i) hkind hacc]
      have hturn := (hR.foreseen i rest).bind
        (K := fun r i => chainTail accepts (R i) (.binary op left r))
        (fun r rest' hr => ih rest'.length (Nat.lt_trans (hconsumes i hr) hlt) _ rest' rfl)
        (fun r => ⟨[], _, Extends.nil _⟩)
        (U := fun us e => Extends many left (sign :: us) e)
        (by
          intro rs us r e hr hus ls hls
          have hmany := hus _ (hstep hls hkind hacc hr)
          rwa [List.append_assoc, List.cons_append] at hmany)
      refine hturn.cons (fun h => by rw [hkind] at h; cases h) ?_ fun us e hus => hus
      intro i sign' hlook
      have hkind' : sign'.kind = .operator op := (Token.kind_of_look hlook).trans hkind
      exact ⟨i, fun ts' => chainTail_sign (hconsumes i) hkind' hacc⟩

theorem predictive_chain (hconsumes : ∀ i, (R i).Consumes) (hR : Predictive one R)
    (hone : ∀ {ts e}, one ts e → many ts e)
    (hstep : ∀ {ls rs l r sign op}, many ls l → Token.kind sign = .operator op →
      accepts op = true → one rs r → many (ls ++ sign :: rs) (.binary op l r)) :
    Predictive many fun i => chain accepts (R i) :=
  hR.followed (K := fun first i => chainTail accepts (R i) first)
    (fun first => ⟨⟨[], first, Extends.nil first⟩, foreseen_chainTail hconsumes hR hstep first⟩)
    fun ls _ _ _ hls hus => hus ls (hone hls)

end Chain

/-! ## Expressions -/

/-- The reader of an atom in each grammar of the family. -/
abbrev atomIn (room n : Nat) : Reader Expr :=
  (Grammar.endingAt n).atom room

/-- The rest of an expression after its first operand. -/
def comparisonTail (atom : Reader Expr) (left : Expr) : Reader Expr := fun ts =>
  match nextOperator? BinaryOp.isComparison ts with
  | none => .ok (left, ts)
  | some (op, ts) => additive atom ts >>= fun p => .ok (.binary op left p.1, p.2)

section Levels
variable {room : Nat}
variable (hatom : Predictive (DerivesWithin .atom room) (atomIn room))
include hatom

theorem predictive_multiplicative :
    Predictive (DerivesWithin .multiplicative room) fun n => multiplicative (atomIn room n) := by
  refine predictive_chain (fun _ => Grammar.atom_consumes rfl room) hatom
    (fun ⟨d, hd, he⟩ => ⟨d, hd, .factor he⟩) ?_
  rintro ls rs l r sign op ⟨dl, hdl, hl⟩ hkind hacc ⟨dr, hdr, hr⟩
  exact ⟨max dl dr, by omega, .product hl hkind hacc hr⟩

theorem predictive_additive :
    Predictive (DerivesWithin .additive room) fun n => additive (atomIn room n) := by
  refine predictive_chain (fun _ => Grammar.multiplicative_consumes rfl room)
    (predictive_multiplicative hatom) (fun ⟨d, hd, he⟩ => ⟨d, hd, .term he⟩) ?_
  rintro ls rs l r sign op ⟨dl, hdl, hl⟩ hkind hacc ⟨dr, hdr, hr⟩
  exact ⟨max dl dr, by omega, .sum hl hkind hacc hr⟩

/-- After the first operand an expression ends, or a comparison follows. -/
theorem foreseen_comparisonTail (left : Expr) (n : Nat) (ts : List Token) :
    Foreseen (fun us e => ∀ ls, DerivesWithin .additive room ls left →
        DerivesWithin .expression room (ls ++ us) e)
      (fun n => comparisonTail (atomIn room n) left) ts
      (comparisonTail (atomIn room n) left ts) := by
  have hstop {n : Nat} {ts : List Token}
      (h : nextOperator? BinaryOp.isComparison ts = none) :
      comparisonTail (atomIn room n) left ts = .ok (left, ts) := by
    unfold comparisonTail
    rw [h]
  have hsign {n : Nat} {sign : Token} {op : BinaryOp} {ts : List Token}
      (hkind : sign.kind = .operator op) (hop : op.isComparison = true) :
      comparisonTail (atomIn room n) left (sign :: ts) =
        additive (atomIn room n) ts >>= fun p => .ok (.binary op left p.1, p.2) := by
    unfold comparisonTail
    rw [nextOperator?_sign hkind, if_pos hop]
  cases hnext : nextOperator? BinaryOp.isComparison ts with
  | none =>
    rw [hstop hnext]
    refine (Foreseen.pure ?_ ts).look fun n ts' hsame =>
      ⟨n, hstop (hsame.nextOperator?_eq_none hnext)⟩
    rintro ls ⟨d, hd, hls⟩
    rw [List.append_nil]
    exact ⟨d, hd, .uncompared hls⟩
  | some found =>
    obtain ⟨op, rest⟩ := found
    obtain ⟨sign, rfl, hkind, hop⟩ := of_nextOperator? hnext
    rw [hsign hkind hop]
    refine (((predictive_additive hatom).foreseen n rest).map
      (U := fun us e => ∀ ls, DerivesWithin .additive room ls left →
        DerivesWithin .expression room (ls ++ sign :: us) e) (.binary op left) ?_).cons
      (fun h => by rw [hkind] at h; cases h) (fun n sign' hlook => ?_) fun us e hus => hus
    · rintro rs r ⟨dr, hdr, hr⟩ ls ⟨dl, hdl, hl⟩
      exact ⟨max dl dr, by omega, .comparison hl hkind hop hr⟩
    · exact ⟨n, fun ts' => hsign ((Token.kind_of_look hlook).trans hkind) hop⟩

theorem predictive_expression :
    Predictive (DerivesWithin .expression room) fun n => expression (atomIn room n) := by
  refine (predictive_additive hatom).followed
    (K := fun left n => comparisonTail (atomIn room n) left)
    (fun left => ⟨⟨[], left, ?_⟩, foreseen_comparisonTail hatom left⟩)
    fun ls _ _ _ hls hus => hus ls hls
  rintro ls ⟨d, hd, hls⟩
  rw [show fill [] = [] from rfl, List.append_nil]
  exact ⟨d, hd, .uncompared hls⟩

end Levels

/-! ## Parts of calls -/

section Parts
variable {ι α : Type}

/-- A closing parenthesis after which the result is `a`. -/
def Closes (a : α) (us : List Token) (b : α) : Prop :=
  b = a ∧ ∃ closing : Token, us = [closing] ∧ closing.kind = .rightParen

/-- Readers that take a closing parenthesis. They differ in what they say when tokens are missing,
and in what they say of other tokens. -/
theorem predictive_closing {R : ι → Reader α} {a : α} {cause : ParseError.Cause}
    (hcause : cause.isMisplaced = true)
    (hnil : ∀ i, ∃ e : ParseError, e.cause.isIncomplete = true ∧ R i [] = .error (.malformed e))
    (hcons : ∀ i t ts, R i (t :: ts) =
      if t.kind = .rightParen then .ok (a, ts) else malformedAt cause t) :
    Predictive (Closes a) R where
  exists_fill := ⟨[.rightParen], a, rfl, _, rfl, rfl⟩
  foreseen := by
    refine Foreseen.token .rightParen (K := fun _ ts => .ok (a, ts))
      (T := fun ys b => ys = [] ∧ b = a) nofun hcause hnil hcons (fun i => .pure ⟨rfl, rfl⟩)
      ⟨[], a, rfl, rfl⟩ ?_
    rintro t us b ht ⟨rfl, rfl⟩
    exact ⟨rfl, t, rfl, ht⟩

/-- A closing parenthesis that is expected. -/
def closing (n : Nat) (cause : ParseError.Cause) (a : α) : Reader α := fun ts =>
  (Grammar.endingAt n).expect .rightParen cause ts >>= fun ts => .ok (a, ts)

theorem expect_then (n : Nat) (kind : TokenKind) (cause : ParseError.Cause)
    (K : List Token → Except ParseFailure (α × List Token)) (t : Token) (ts : List Token) :
    (Grammar.endingAt n).expect kind cause (t :: ts) >>= K =
      if t.kind = kind then K ts else malformedAt cause t := by
  unfold Grammar.expect
  show (if t.kind = kind then _ else _) >>= K = _
  split <;> rfl

theorem predictive_expected {cause : ParseError.Cause} (hcause : cause.isMisplaced = true)
    (a : α) : Predictive (Closes a) fun n => closing n cause a :=
  predictive_closing hcause (fun n => ⟨⟨.unexpectedEnd, [], n⟩, rfl, rfl⟩)
    fun n t ts => expect_then n .rightParen cause _ t ts

end Parts

section Arguments
variable {room : Nat} {A : Nat → Reader Expr} {K : Expr → Nat → Reader Expr}
variable {T : Expr → List Token → Expr → Prop}

/-- A comma and an argument, and what comes after it. -/
def commaThen (n : Nat) (cause : ParseError.Cause) (argument : Reader Expr)
    (K : Expr → Reader Expr) : Reader Expr := fun ts =>
  (Grammar.endingAt n).expect .comma cause ts >>= fun ts => argument ts >>= fun p => K p.1 p.2

/-- A comma and an argument, and then something that may depend on the argument. -/
def NextArgument (room : Nat) (T : Expr → List Token → Expr → Prop) (us : List Token) (e : Expr) :
    Prop :=
  ∃ (comma : Token) (ys zs : List Token) (y : Expr), us = comma :: (ys ++ zs) ∧
    comma.kind = .comma ∧ DerivesWithin .expression room ys y ∧ T y zs e

theorem predictive_commaThen (hA : Predictive (DerivesWithin .expression room) A)
    {cause : ParseError.Cause} (hcause : cause.isMisplaced = true)
    (hK : ∀ y, Predictive (T y) (K y)) :
    Predictive (NextArgument room T) fun n => commaThen n cause (A n) fun y => K y n := by
  have hrest : Predictive (fun us e => ∃ ys zs y, us = ys ++ zs ∧
      DerivesWithin .expression room ys y ∧ T y zs e) (followed A K) :=
    hA.followed hK fun ys zs y e hy he => ⟨ys, zs, y, rfl, hy, he⟩
  have hcomma : ∀ (t : Token) (us : List Token) (e : Expr), t.kind = Filler.comma.token.kind →
      (∃ ys zs y, us = ys ++ zs ∧ DerivesWithin .expression room ys y ∧ T y zs e) →
      NextArgument room T (t :: us) e := by
    rintro t _ e ht ⟨ys, zs, y, rfl, hy, he⟩
    exact ⟨t, ys, zs, y, rfl, ht, hy, he⟩
  refine ⟨?_, ?_⟩
  · obtain ⟨fillers, e, he⟩ := hrest.exists_fill
    exact ⟨.comma :: fillers, e, hcomma _ _ _ rfl he⟩
  · exact Foreseen.token .comma nofun hcause (fun n => ⟨⟨.unexpectedEnd, [], n⟩, rfl, rfl⟩)
      (fun n t ts => expect_then n .comma cause _ t ts) hrest.foreseen hrest.exists_fill hcomma

/-- A vector call looks at its first token before it reads its arguments. -/
theorem predictive_refuseEmptyVector {S : List Token → Expr → Prop} {R : Nat → Reader Expr}
    (hR : Predictive S R) :
    Predictive S fun n ts => Grammar.refuseEmptyVector ts >>= fun _ => R n ts where
  exists_fill := hR.exists_fill
  foreseen n ts := by
    cases hparen : nextIs .rightParen ts with
    | true =>
      cases ts with
      | nil => cases hparen
      | cons t ts =>
        have hrefuse {n : Nat} {t : Token} {ts : List Token} (ht : t.kind = .rightParen) :
            (Grammar.refuseEmptyVector (t :: ts) >>= fun _ => R n (t :: ts)) =
              malformedAt .invalidVector t := by
          rw [Grammar.refuseEmptyVector, if_pos ht]
          rfl
        have ht : t.kind = .rightParen := of_decide_eq_true hparen
        rw [hrefuse ht]
        exact .misplaced id rfl hR.exists_fill
          (fun n t' ts' hkind _ => hrefuse (hkind.trans ht)) ts
    | false =>
      rw [Grammar.refuseEmptyVector_eq hparen]
      refine (hR.foreseen n ts).look fun n ts' hsame => ⟨n, ?_⟩
      rw [Grammar.refuseEmptyVector_eq (by rw [← hsame.nextIs_eq, hparen])]
      rfl

end Arguments

/-! ## References -/

theorem Token.ReferenceName.of_look {t t' : Token} {name : Text} (h : t.ReferenceName name)
    (hlook : t'.look = t.look) : t'.ReferenceName name := by
  obtain ⟨hkind, htext⟩ := Prod.mk.inj hlook
  cases h with
  | word hword =>
    rw [← htext]
    exact .word (hkind ▸ hword)
  | quoted hstring hname hne => exact .quoted (hkind.trans hstring) (htext ▸ hname) hne

/-- One token that stands for a name. -/
def NameToken (us : List Token) (name : Text) : Prop :=
  ∃ t : Token, us = [t] ∧ t.ReferenceName name

theorem exists_fill_name : ∃ fillers name, NameToken (fill fillers) name :=
  ⟨[.name], ['x'], _, rfl, .quoted rfl rfl nofun⟩

/-- A token that names nothing is refused for its kind, or for being an empty string. -/
theorem foreseen_referenceName_refused {t : Token} (hname : ∀ name, ¬ t.ReferenceName name)
    (n : Nat) (ts : List Token) :
    Foreseen NameToken (fun n => (Grammar.endingAt n).referenceName) (t :: ts)
      ((Grammar.endingAt n).referenceName (t :: ts)) := by
  have hword : t.kind.isWord = false :=
    Bool.eq_false_iff.mpr fun hword => hname t.text (.word hword)
  by_cases hstring : t.kind = .string
  · have hempty : (t.text.drop 1).dropLast = [] :=
      Decidable.byContradiction fun hne => hname _ (.quoted hstring rfl hne)
    have hrefuse {n : Nat} {t' : Token} {ts' : List Token} (hkind : t'.kind = .string)
        (htext : (t'.text.drop 1).dropLast = []) :
        (Grammar.endingAt n).referenceName (t' :: ts') =
          malformed .invalidIdentifier [] t'.start := by
      simp only [Grammar.referenceName, Grammar.next_cons, bind, Except.bind, hkind, htext]
      rfl
    rw [hrefuse hstring hempty]
    refine .misplaced (fun _ => []) rfl exists_fill_name (fun n t' ts' hkind htext => ?_) ts
    have htext : t'.text = t.text := htext.resolve_right (by simp [hstring])
    exact hrefuse (hkind.trans hstring) (by rw [htext, hempty])
  · by_cases hparen : t.kind = .rightParen
    · have hrefuse {n : Nat} {t' : Token} {ts' : List Token} (hkind : t'.kind = .rightParen) :
          (Grammar.endingAt n).referenceName (t' :: ts') =
            malformed .invalidIdentifier [] t'.start := by
        simp [Grammar.referenceName, bind, Except.bind, hkind, TokenKind.isWord]
      rw [hrefuse hparen]
      exact .misplaced (fun _ => []) rfl exists_fill_name
        (fun n t' ts' hkind _ => hrefuse (hkind.trans hparen)) ts
    · have hrefuse {n : Nat} {t' : Token} {ts' : List Token} (hkind : t'.kind = t.kind) :
          (Grammar.endingAt n).referenceName (t' :: ts') =
            malformed .invalidIdentifier (id t'.text) t'.start := by
        simp only [Grammar.referenceName, Grammar.next_cons, bind, Except.bind, hkind, hword]
        rfl
      rw [hrefuse rfl]
      exact .misplaced id rfl exists_fill_name (fun n t' ts' hkind _ => hrefuse hkind) ts

theorem predictive_referenceName :
    Predictive NameToken fun n => (Grammar.endingAt n).referenceName where
  exists_fill := exists_fill_name
  foreseen n ts := by
    cases ts with
    | nil =>
      exact .incomplete rfl nofun (List.cons_ne_nil Filler.name []) ⟨_, rfl, .quoted rfl rfl nofun⟩
    | cons t ts =>
      by_cases hname : ∃ name, t.ReferenceName name
      · obtain ⟨name, hname⟩ := hname
        rw [Grammar.referenceName_cons hname]
        refine .read (List.singleton_append (x := t)).symm ?_ ⟨t, rfl, hname⟩ ?_
        · exact List.forall_mem_singleton.mpr fun h => absurd h hname.kind_ne_integer
        · intro n' used' rest' hused _
          obtain ⟨t', nothing, rfl, hlook, hnothing⟩ := hused.of_cons
          obtain rfl := hnothing.of_nil
          exact Grammar.referenceName_cons (hname.of_look hlook)
      · exact foreseen_referenceName_refused (fun name h => hname ⟨name, h⟩) n ts

/-! ## Calls -/

/-- What stands after the opening parenthesis of a call of `f`. -/
def CallRest (f : Callee) (room : Nat) (us : List Token) (e : Expr) : Prop :=
  ∀ head opening : Token, head.kind = .callee f → opening.kind = .leftParen →
    DerivesWithin .atom (room + 1) (head :: opening :: us) e

section Calls
variable {room : Nat} {A : Nat → Reader Expr}

theorem predictive_call (hA : Predictive (DerivesWithin .expression room) A) (f : Callee) :
    Predictive (CallRest f room) fun n => (Grammar.endingAt n).call (A n) f.form := by
  cases hform : f.form with
  | attr =>
    refine predictive_referenceName.followed
      (K := fun name n => closing n .unexpectedToken (Expr.attr name))
      (fun name => predictive_expected rfl _) ?_
    rintro _ _ name _ ⟨t, rfl, hname⟩ ⟨rfl, closing, rfl, hclose⟩ head opening hhead hopen
    exact ⟨1, Nat.le_add_left 1 room, .attrCall hhead hform hopen hname hclose⟩
  | prop =>
    refine predictive_referenceName.followed
      (K := fun name n => closing n .unexpectedToken (Expr.prop name))
      (fun name => predictive_expected rfl _) ?_
    rintro _ _ name _ ⟨t, rfl, hname⟩ ⟨rfl, closing, rfl, hclose⟩ head opening hhead hopen
    exact ⟨1, Nat.le_add_left 1 room, .propCall hhead hform hopen hname hclose⟩
  | unary op =>
    refine hA.followed (K := fun x n => closing n .unexpectedToken (Expr.unary op x))
      (fun x => predictive_expected rfl _) ?_
    rintro xs _ x _ ⟨d, hd, hx⟩ ⟨rfl, closing, rfl, hclose⟩ head opening hhead hopen
    exact ⟨d + 1, Nat.succ_le_succ hd, .unaryCall hhead hform hopen hx hclose⟩
  | binary op =>
    refine hA.followed (K := fun x n => commaThen n .unexpectedToken (A n) fun y =>
        closing n .unexpectedToken (Expr.binary op x y))
      (fun x => predictive_commaThen hA rfl fun y => predictive_expected rfl _) ?_
    rintro xs _ x _ ⟨dx, hdx, hx⟩ ⟨comma, ys, _, y, rfl, hcomma, ⟨dy, hdy, hy⟩, rfl, closing, rfl,
      hclose⟩ head opening hhead hopen
    exact ⟨_, Nat.succ_le_succ (Nat.max_le.mpr ⟨hdx, hdy⟩),
      .binaryCall hhead hform hopen hx hcomma hy hclose⟩
  | vec2 =>
    refine predictive_refuseEmptyVector (hA.followed (K := fun x n =>
        commaThen n .invalidVector (A n) fun y =>
          closing n .invalidVector (VectorRule.folding.vec2 x y))
      (fun x => predictive_commaThen hA rfl fun y => predictive_expected rfl _) ?_)
    rintro xs _ x _ ⟨dx, hdx, hx⟩ ⟨comma, ys, _, y, rfl, hcomma, ⟨dy, hdy, hy⟩, rfl, closing, rfl,
      hclose⟩ head opening hhead hopen
    exact ⟨_, Nat.succ_le_succ (Nat.max_le.mpr ⟨hdx, hdy⟩),
      .vec2Call hhead hform hopen hx hcomma hy hclose (Expr.vec2Call_iff.mpr rfl)⟩
  | vec3 =>
    refine predictive_refuseEmptyVector (hA.followed (K := fun x n =>
        commaThen n .invalidVector (A n) fun y =>
          commaThen n .invalidVector (A n) fun z =>
            closing n .invalidVector (VectorRule.folding.vec3 x y z))
      (fun x => predictive_commaThen hA rfl fun y =>
        predictive_commaThen hA rfl fun z => predictive_expected rfl _) ?_)
    rintro xs _ x _ ⟨dx, hdx, hx⟩ ⟨comma, ys, _, y, rfl, hcomma, ⟨dy, hdy, hy⟩, comma', zs, _, z,
      rfl, hcomma', ⟨dz, hdz, hz⟩, rfl, closing, rfl, hclose⟩ head opening hhead hopen
    exact ⟨_, Nat.succ_le_succ (Nat.max_le.mpr ⟨hdx, Nat.max_le.mpr ⟨hdy, hdz⟩⟩),
      .vec3Call hhead hform hopen hx hcomma hy hcomma' hz hclose (Expr.vec3Call_iff.mpr rfl)⟩

end Calls

/-! ## Atoms -/

section Leaves
variable {room : Nat} {t : Token} {ts : List Token} {e : Expr}

theorem atomIn_leaf (hopens : t.kind.opensLevel = false) (n : Nat) :
    atomIn room n (t :: ts) = leaf t ts :=
  Grammar.atom_leaf hopens

/-- Where an atom is due and the tokens have ended, there could be a number. -/
theorem foreseen_atom_nil (room n : Nat) :
    Foreseen (DerivesWithin .atom room) (atomIn room) [] (atomIn room n []) := by
  have hnil : atomIn room n [] = .error (.malformed ⟨.unexpectedEnd, [], n⟩) := by
    cases room <;> rfl
  rw [hnil]
  exact .incomplete rfl nofun (List.cons_ne_nil Filler.number [])
    ⟨0, Nat.zero_le room, derives_number⟩

/-- A family of readers that takes one token for an atom. -/
theorem foreseen_leaf_read (hderives : Derives .atom 0 [t] e) (hconv : t.Convertible)
    (hleaf : ∀ t' ts', t'.look = t.look → SameNext ts ts' →
      ∀ n, atomIn room n (t' :: ts') = .ok (e, ts')) :
    Foreseen (DerivesWithin .atom room) (atomIn room) (t :: ts) (.ok (e, ts)) := by
  refine .read (List.singleton_append).symm (List.forall_mem_singleton.mpr hconv)
    ⟨0, Nat.zero_le room, hderives⟩ fun n used' rest' hused hnext => ?_
  obtain ⟨t', nothing, rfl, hlook, hnothing⟩ := hused.of_cons
  obtain rfl := hnothing.of_nil
  exact hleaf t' rest' hlook hnext n

/-- A name that may not be called. -/
theorem foreseen_leaf_name (hderives : Derives .atom 0 [t] e) (hkind : t.kind ≠ .integer)
    (hleaf : ∀ t' ts', t'.look = t.look → ∀ n, atomIn room n (t' :: ts') =
      if nextIs .leftParen ts' then malformedAt .unknownFunction t' else .ok (e, ts')) (n : Nat) :
    Foreseen (DerivesWithin .atom room) (atomIn room) (t :: ts) (atomIn room n (t :: ts)) := by
  have hconv : t.Convertible := fun h => absurd h hkind
  rw [hleaf t ts rfl]
  cases hparen : nextIs .leftParen ts with
  | false =>
    refine foreseen_leaf_read hderives hconv fun t' ts' hlook hnext n => ?_
    rw [hleaf t' ts' hlook, ← hnext.nextIs_eq, hparen]
    rfl
  | true =>
    cases ts with
    | nil => cases hparen
    | cons opening ts =>
      have hopen : opening.kind = .leftParen := of_decide_eq_true hparen
      have hcall : Refuses [t] opening (.malformed ⟨.unknownFunction, t.text, t.start⟩) :=
        .call (List.nil_append [t]).symm hopen
      have hstands : DerivesWithin .atom room ([t] ++ fill []) e :=
        ⟨0, Nat.zero_le room, hderives⟩
      refine .refused List.singleton_append.symm (List.forall_mem_singleton.mpr hconv) hcall
        hstands fun n before' opening' after' hbefore hkind' _ => ?_
      obtain ⟨t', nothing, rfl, hlook, hnothing⟩ := hbefore.of_cons
      obtain rfl := hnothing.of_nil
      refine ⟨.malformed ⟨.unknownFunction, t'.text, t'.start⟩, ?_, Iff.rfl,
        fun _ => ⟨t'.start, ?_⟩⟩
      · have hparen' : nextIs .leftParen (opening' :: after') = true :=
          decide_eq_true (hkind'.trans hopen)
        rw [List.singleton_append, hleaf t' _ hlook, hparen']
        rfl
      · rw [Token.text_of_look hlook]
        rfl

/-- A number that cannot be read. -/
theorem foreseen_leaf_number_refused {f : Token → ParseFailure} (hnumeric : ∀ t, (f t).IsNumeric)
    (hrefuses : Refuses [] t (f t))
    (hmoved : ∀ t', t'.text = t.text → ∃ pos, f t' = (f t).movedTo pos)
    (hleaf : ∀ t' ts', t'.look = t.look → ∀ n, atomIn room n (t' :: ts') = .error (f t'))
    (n : Nat) :
    Foreseen (DerivesWithin .atom room) (atomIn room) (t :: ts) (atomIn room n (t :: ts)) := by
  rw [hleaf t ts rfl]
  refine .refusedFirst hrefuses (fun t' => iff_of_true (hnumeric t') (hnumeric t)) hmoved
    (exists_fill_number room .atom) ?_ ts
  intro n t' ts' hkind htext
  exact hleaf t' ts' (Prod.ext hkind (htext.resolve_right fun h => h.2 (hnumeric t))) n

theorem foreseen_leaf_integer (hkind : t.kind = .integer) (n : Nat) :
    Foreseen (DerivesWithin .atom room) (atomIn room) (t :: ts) (atomIn room n (t :: ts)) := by
  have hleaf {t' : Token} (ts' : List Token) (hlook : t'.look = t.look) (n : Nat) :
      atomIn room n (t' :: ts') =
        readInteger t' >>= fun v => .ok (.literal v, ts') := by
    have hkind' : t'.kind = .integer := (Token.kind_of_look hlook).trans hkind
    rw [atomIn_leaf (by rw [hkind']; rfl)]
    simp only [leaf, hkind']
    rfl
  by_cases hlimit : numeralDigitLimit < t.text.length
  · refine foreseen_leaf_number_refused (f := fun t => .numeralTooLong t.text.length)
      (fun _ => trivial) (.digits hkind hlimit) (fun t' htext => ⟨0, by rw [htext]; rfl⟩)
      (fun t' ts' hlook n => ?_) n
    rw [hleaf ts' hlook, readInteger, if_pos (by rwa [Token.text_of_look hlook])]
    rfl
  by_cases hvalue : ofDigits t.text < Literal.integerBound
  · have hread {t' : Token} (ts' : List Token) (hlook : t'.look = t.look) (n : Nat) :
        atomIn room n (t' :: ts') =
          .ok (.literal (.integer (.ofNat (ofDigits t.text))), ts') := by
      rw [hleaf ts' hlook, ← Token.text_of_look hlook, Grammar.readInteger_eq]
      · rfl
      · rwa [Token.text_of_look hlook, ← Nat.not_lt]
      · rwa [Token.text_of_look hlook]
    rw [hread ts rfl]
    exact foreseen_leaf_read (.number (.integer hkind hvalue)) (fun _ => Nat.not_lt.mp hlimit)
      fun t' ts' hlook _ => hread ts' hlook
  · refine foreseen_leaf_number_refused
      (f := fun t => .malformed ⟨.invalidNumber, t.text, t.start⟩) (fun _ => rfl)
      (.number fun _ => ⟨Nat.not_lt.mp hlimit, Nat.not_lt.mp hvalue⟩)
      (fun t' htext => ⟨t'.start, by rw [htext]; rfl⟩) (fun t' ts' hlook n => ?_) n
    rw [hleaf ts' hlook, readInteger, if_neg (by rwa [Token.text_of_look hlook])]
    dsimp only
    rw [if_neg (by rwa [Token.text_of_look hlook])]
    rfl

theorem foreseen_leaf_float (hkind : t.kind = .float) (n : Nat) :
    Foreseen (DerivesWithin .atom room) (atomIn room) (t :: ts) (atomIn room n (t :: ts)) := by
  have hinteger : t.kind ≠ .integer := by simp [hkind]
  have hleaf {t' : Token} (ts' : List Token) (hlook : t'.look = t.look) (n : Nat) :
      atomIn room n (t' :: ts') = readFloat t' >>= fun v => .ok (.literal v, ts') := by
    have hkind' : t'.kind = .float := (Token.kind_of_look hlook).trans hkind
    rw [atomIn_leaf (by rw [hkind']; rfl)]
    simp only [leaf, hkind']
    rfl
  by_cases hfits : ((pointDecimal t.text).toDouble false).toSingle.isFinite = true
  · have hread {t' : Token} (ts' : List Token) (hlook : t'.look = t.look) (n : Nat) :
        atomIn room n (t' :: ts') =
          .ok (.literal (.float ((pointDecimal t.text).toDouble false).toSingle), ts') := by
      rw [hleaf ts' hlook, ← Token.text_of_look hlook, Grammar.readFloat_eq]
      · rfl
      · rwa [Token.text_of_look hlook]
    rw [hread ts rfl]
    exact foreseen_leaf_read (.number (.float hkind rfl hfits)) (fun h => absurd h hinteger)
      fun t' ts' hlook _ => hread ts' hlook
  · refine foreseen_leaf_number_refused
      (f := fun t => .malformed ⟨.invalidNumber, t.text, t.start⟩) (fun _ => rfl)
      (.number fun h => absurd h hinteger) (fun t' htext => ⟨t'.start, by rw [htext]; rfl⟩)
      (fun t' ts' hlook n => ?_) n
    rw [hleaf ts' hlook, readFloat, if_neg (by rwa [Token.text_of_look hlook])]
    rfl

/-- An atom that opens no level. -/
theorem foreseen_leaf (hopens : t.kind.opensLevel = false) (n : Nat) :
    Foreseen (DerivesWithin .atom room) (atomIn room) (t :: ts) (atomIn room n (t :: ts)) := by
  have hleaf {t' : Token} {ts' : List Token} (hkind : t'.kind = t.kind) (n : Nat) :
      atomIn room n (t' :: ts') = leaf t' ts' :=
    atomIn_leaf (by rw [hkind, hopens]) n
  cases hkind : t.kind with
  | integer => exact foreseen_leaf_integer hkind n
  | float => exact foreseen_leaf_float hkind n
  | identifier =>
    refine foreseen_leaf_name (.name hkind) (by simp [hkind]) (fun t' ts' hlook n => ?_) n
    rw [hleaf (Token.kind_of_look hlook)]
    simp only [leaf, Token.kind_of_look hlook, Token.text_of_look hlook, hkind]
  | builtIn value =>
    refine foreseen_leaf_name (.builtIn hkind) (by simp [hkind]) (fun t' ts' hlook n => ?_) n
    rw [hleaf (Token.kind_of_look hlook)]
    simp only [leaf, Token.kind_of_look hlook, hkind]
  | _ =>
    have hrefuse {t' : Token} {ts' : List Token} (hkind' : t'.kind = t.kind) (n : Nat) :
        atomIn room n (t' :: ts') = malformedAt .unexpectedToken t' := by
      rw [hleaf hkind']
      simp only [leaf, hkind', hkind]
    rw [hrefuse rfl]
    exact .misplaced id rfl (exists_fill_number room .atom)
      (fun n t' ts' hkind' _ => hrefuse hkind' n) ts

end Leaves

section Levels
variable {room : Nat}

/-- What stands after the token that opens the level of an atom. -/
def Opened (opens : TokenKind) (room : Nat) (us : List Token) (e : Expr) : Prop :=
  ∀ opening : Token, opening.kind = opens → DerivesWithin .atom (room + 1) (opening :: us) e

/-- The end of a group that was opened at `start`. -/
def groupEnd (inner : Expr) (start : Nat) : Reader Expr
  | [] => malformed .unmatchedParenthesis [] start
  | token :: tokens =>
    if token.kind = .rightParen then .ok (inner, tokens) else malformedAt .unexpectedToken token

/-- Groups. An index is an offset of the end of the source and one of the opening parenthesis. -/
theorem predictive_group (hatom : Predictive (DerivesWithin .atom room) (atomIn room)) :
    Predictive (Opened .leftParen room) fun i : Nat × Nat =>
      Grammar.group (atomIn room i.1) i.2 := by
  have hend (inner : Expr) : Predictive (Closes inner) fun i : Nat × Nat => groupEnd inner i.2 :=
    predictive_closing rfl (fun i => ⟨⟨.unmatchedParenthesis, [], i.2⟩, rfl, rfl⟩) fun i t ts => rfl
  refine ((predictive_expression hatom).pick Prod.fst).followed hend ?_
  rintro xs _ inner _ ⟨d, hd, hinner⟩ ⟨rfl, closing, rfl, hclose⟩ opening hopen
  exact ⟨d + 1, Nat.succ_le_succ hd, .group hopen hinner hclose⟩

theorem predictive_callee (hatom : Predictive (DerivesWithin .atom room) (atomIn room))
    (f : Callee) :
    Predictive (Opened (.callee f) room) fun n ts =>
      (Grammar.endingAt n).expect .leftParen .unexpectedToken ts >>=
        (Grammar.endingAt n).call (expression (atomIn room n)) f.form := by
  have hcall := predictive_call (predictive_expression hatom) f
  have hopens : ∀ (t : Token) (us : List Token) (e : Expr), t.kind = Filler.leftParen.token.kind →
      CallRest f room us e → Opened (.callee f) room (t :: us) e :=
    fun t us e ht hus head hhead => hus head t hhead ht
  refine ⟨?_, ?_⟩
  · obtain ⟨fillers, e, he⟩ := hcall.exists_fill
    exact ⟨.leftParen :: fillers, e, hopens _ _ _ rfl he⟩
  · exact Foreseen.token .leftParen nofun rfl (fun n => ⟨⟨.unexpectedEnd, [], n⟩, rfl, rfl⟩)
      (fun n t ts => expect_then n .leftParen .unexpectedToken _ t ts) hcall.foreseen
      hcall.exists_fill hopens

theorem predictive_negation (hatom : Predictive (DerivesWithin .atom room) (atomIn room)) :
    Predictive (Opened (.operator .sub) room) fun n ts =>
      atomIn room n ts >>= fun p => .ok (.unary .neg p.1, p.2) := by
  have hneg : ∀ us e, DerivesWithin .atom room us e →
      Opened (.operator .sub) room us (.unary .neg e) :=
    fun us e ⟨d, hd, he⟩ sign hsign => ⟨d + 1, Nat.succ_le_succ hd, .negation hsign he⟩
  refine ⟨?_, fun n ts => (hatom.foreseen n ts).map _ hneg⟩
  obtain ⟨fillers, e, he⟩ := hatom.exists_fill
  exact ⟨fillers, _, hneg _ _ he⟩

theorem atomIn_nested {t : Token} (hopens : t.kind.opensLevel = true) (n : Nat) (ts : List Token) :
    atomIn (room + 1) n (t :: ts) = (Grammar.endingAt n).nested (atomIn room n) t ts := by
  simp [atomIn, Grammar.atom, hopens, bind, Except.bind]

/-- An atom whose first token is followed by what a family of readers takes. The reader to take may
depend on where that token is. -/
theorem foreseen_opened {ι : Type} {R : ι → Reader Expr} {t : Token}
    (hR : Predictive (Opened t.kind room) R) (hopens : t.kind.opensLevel = true)
    (index : Nat → Token → ι)
    (hnested : ∀ n t' ts', t'.kind = t.kind →
      (Grammar.endingAt n).nested (atomIn room n) t' ts' = R (index n t') ts')
    (n : Nat) (ts : List Token) :
    Foreseen (DerivesWithin .atom (room + 1)) (atomIn (room + 1)) (t :: ts)
      (atomIn (room + 1) n (t :: ts)) := by
  have hatom {t' : Token} (hkind : t'.kind = t.kind) (n : Nat) (ts' : List Token) :
      atomIn (room + 1) n (t' :: ts') = R (index n t') ts' := by
    rw [atomIn_nested (by rw [hkind, hopens]), hnested n t' ts' hkind]
  have hconv : t.Convertible := fun h => by rw [h] at hopens; cases hopens
  rw [hatom rfl]
  exact (hR.foreseen (index n t) ts).cons hconv
    (fun n t' hlook => ⟨index n t', hatom (Token.kind_of_look hlook) n⟩)
    fun us e h => h t rfl

/-- An atom that opens a level for which there is room. -/
theorem foreseen_nested (hatom : Predictive (DerivesWithin .atom room) (atomIn room)) {t : Token}
    (hopens : t.kind.opensLevel = true) (n : Nat) (ts : List Token) :
    Foreseen (DerivesWithin .atom (room + 1)) (atomIn (room + 1)) (t :: ts)
      (atomIn (room + 1) n (t :: ts)) := by
  rcases TokenKind.of_opensLevel hopens with hkind | ⟨f, hkind⟩ | hkind
  · exact foreseen_opened (hkind ▸ predictive_group hatom) hopens (fun n t' => (n, t'.start))
      (fun n t' ts' h => by simp only [Grammar.nested, h, hkind]) n ts
  · exact foreseen_opened (hkind ▸ predictive_callee hatom f) hopens (fun n _ => n)
      (fun n t' ts' h => by simp only [Grammar.nested, h, hkind]) n ts
  · exact foreseen_opened (hkind ▸ predictive_negation hatom) hopens (fun n _ => n)
      (fun n t' ts' h => by simp only [Grammar.nested, h, hkind]; rfl) n ts

end Levels

/-- Atoms, by induction on the room. Without any the tokens that would open a level are refused. -/
theorem predictive_atom (room : Nat) : Predictive (DerivesWithin .atom room) (atomIn room) := by
  induction room with
  | zero =>
    refine ⟨exists_fill_number 0 .atom, fun n ts => ?_⟩
    cases ts with
    | nil => exact foreseen_atom_nil 0 n
    | cons t ts =>
      cases hopens : t.kind.opensLevel with
      | false => exact foreseen_leaf hopens n
      | true =>
        have hdeep {t' : Token} {ts' : List Token} (hkind : t'.kind = t.kind) (n : Nat) :
            atomIn 0 n (t' :: ts') = malformedAt .nestingTooDeep t' := by
          simp [atomIn, Grammar.atom, hkind, hopens, bind, Except.bind]
        rw [hdeep rfl]
        exact .misplaced id rfl (exists_fill_number 0 .atom)
          (fun n t' ts' hkind _ => hdeep hkind n) ts
  | succ room ih =>
    refine ⟨exists_fill_number (room + 1) .atom, fun n ts => ?_⟩
    cases ts with
    | nil => exact foreseen_atom_nil (room + 1) n
    | cons t ts =>
      cases hopens : t.kind.opensLevel with
      | false => exact foreseen_leaf hopens n
      | true => exact foreseen_nested ih hopens n ts

/-! ## Whole sources -/

/-- Nothing may follow a whole expression. -/
def ending (e : Expr) : Reader Expr
  | [] => .ok (e, [])
  | token :: _ => malformedAt .unexpectedToken token

/-- The reader of an expression that takes all tokens. -/
def wholeIn (room : Nat) : Nat → Reader Expr :=
  followed (fun n => expression (atomIn room n)) fun e _ => ending e

theorem rest_eq_nil {room n : Nat} {ts rest : List Token} {e : Expr}
    (h : wholeIn room n ts = .ok (e, rest)) : rest = [] := by
  obtain ⟨⟨e', ts'⟩, -, hend⟩ := ok_of_bind h
  cases ts' with
  | nil => exact (congrArg Prod.snd (Except.ok.inj hend)).symm
  | cons t ts' => cases hend

theorem read_eq_wholeIn (room n : Nat) (ts : List Token) :
    (Grammar.endingAt n).read room ts = wholeIn room n ts >>= fun p => .ok p.1 := by
  unfold Grammar.read wholeIn followed
  show expression (atomIn room n) ts >>= _ = (expression (atomIn room n) ts >>= _) >>= _
  cases expression (atomIn room n) ts with
  | error f => rfl
  | ok p =>
    obtain ⟨e, rest⟩ := p
    cases rest <;> rfl

theorem predictive_whole (room : Nat) :
    Predictive (DerivesWithin .expression room) (wholeIn room) := by
  refine (predictive_expression (predictive_atom room)).followed
    (T := fun e us e' => us = [] ∧ e' = e) (fun e => ⟨⟨[], e, rfl, rfl⟩, fun n ts => ?_⟩) ?_
  · cases ts with
    | nil =>
      refine (Foreseen.pure (ι := Nat) ⟨rfl, rfl⟩ []).look fun n ts' hsame => ⟨n, ?_⟩
      obtain rfl := hsame.of_nil
      rfl
    | cons t ts =>
      exact .misplaced id rfl ⟨[], e, rfl, rfl⟩ (fun n t' ts' _ _ => rfl) ts
  · rintro xs _ e _ hxs ⟨rfl, rfl⟩
    rwa [List.append_nil]

end EffectLang
