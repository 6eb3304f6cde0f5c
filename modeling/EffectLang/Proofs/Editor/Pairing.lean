import EffectLang.Editor.Parentheses
import EffectLang.Proofs.Grammar.Parts
import EffectLang.Proofs.Token.Shape

/-!
# Pairs and open parentheses

`openFrom` is what the walk that pairs the parentheses has left on its stack. Each opening
parenthesis ends up in a pair or on the stack, never in both, and the stack has the last of the
unpaired ones on top. Balanced tokens leave the stack as it is, and phrases are balanced.
-/

namespace EffectLang

/-! ## One step -/

/-- The offsets of the parentheses that are open after the tokens. -/
def openFrom : List Nat → List Token → List Nat
  | opened, [] => opened
  | opened, token :: rest =>
    match token.kind, opened with
    | .leftParen, _ => openFrom (token.start :: opened) rest
    | .rightParen, _ :: opened => openFrom opened rest
    | _, _ => openFrom opened rest

/-- The kinds of parentheses. -/
def TokenKind.isParen : TokenKind → Bool
  | leftParen | rightParen => true
  | _ => false

theorem TokenKind.ne_of_isParen {kind : TokenKind} (h : kind.isParen = false) :
    kind ≠ .leftParen ∧ kind ≠ .rightParen := by
  constructor <;> rintro rfl <;> cases h

theorem TokenKind.isParen_eq_false {kind : TokenKind} (hopening : kind ≠ .leftParen)
    (hclosing : kind ≠ .rightParen) : kind.isParen = false := by
  unfold isParen
  split
  · exact absurd rfl hopening
  · exact absurd rfl hclosing
  · rfl

theorem TokenKind.isParen_of_isWord {kind : TokenKind} (h : kind.isWord = true) :
    kind.isParen = false := by
  apply isParen_eq_false
  · rintro rfl
    cases h
  · rintro rfl
    cases h

/-- The offsets of the opening parentheses. -/
def openings (ts : List Token) : List Nat :=
  (ts.filter (·.kind = .leftParen)).map Token.start

theorem mem_openings {ts : List Token} {offset : Nat} :
    offset ∈ openings ts ↔ ∃ t ∈ ts, t.kind = .leftParen ∧ t.start = offset := by
  simp [openings, and_assoc]

section Step
variable {t : Token} (opened : List Nat) (ts : List Token)

theorem parenPairsFrom_leftParen (h : t.kind = .leftParen) :
    parenPairsFrom opened (t :: ts) = parenPairsFrom (t.start :: opened) ts := by
  simp only [parenPairsFrom, h]

theorem openFrom_leftParen (h : t.kind = .leftParen) :
    openFrom opened (t :: ts) = openFrom (t.start :: opened) ts := by
  simp only [openFrom, h]

theorem parenPairsFrom_rightParen (h : t.kind = .rightParen) (start : Nat) :
    parenPairsFrom (start :: opened) (t :: ts) = (start, t.start) :: parenPairsFrom opened ts := by
  simp only [parenPairsFrom, h]

theorem openFrom_rightParen (h : t.kind = .rightParen) (start : Nat) :
    openFrom (start :: opened) (t :: ts) = openFrom opened ts := by
  simp only [openFrom, h]

/-- A closing parenthesis when none is open. -/
theorem parenPairsFrom_surplus (h : t.kind = .rightParen) :
    parenPairsFrom [] (t :: ts) = parenPairsFrom [] ts := by
  simp only [parenPairsFrom, h]

theorem openFrom_surplus (h : t.kind = .rightParen) :
    openFrom [] (t :: ts) = openFrom [] ts := by
  simp only [openFrom, h]

theorem parenPairsFrom_other (h : t.kind.isParen = false) :
    parenPairsFrom opened (t :: ts) = parenPairsFrom opened ts := by
  simp [parenPairsFrom, TokenKind.ne_of_isParen h]

theorem openFrom_other (h : t.kind.isParen = false) :
    openFrom opened (t :: ts) = openFrom opened ts := by
  simp [openFrom, TokenKind.ne_of_isParen h]

theorem openings_leftParen (h : t.kind = .leftParen) :
    openings (t :: ts) = t.start :: openings ts := by
  simp [openings, h]

theorem openings_of_ne (h : t.kind ≠ .leftParen) : openings (t :: ts) = openings ts := by
  simp [openings, h]

end Step

/-- The walk over the tokens: what holds of no tokens holds of all, if it is kept by each of the
four steps. -/
theorem walk_induction {motive : List Nat → List Token → Prop}
    (nil : ∀ opened, motive opened [])
    (opening : ∀ opened t ts, t.kind = .leftParen → motive (t.start :: opened) ts →
      motive opened (t :: ts))
    (closing : ∀ start opened t ts, t.kind = .rightParen → motive opened ts →
      motive (start :: opened) (t :: ts))
    (surplus : ∀ t ts, t.kind = .rightParen → motive [] ts → motive [] (t :: ts))
    (other : ∀ opened t ts, t.kind.isParen = false → motive opened ts → motive opened (t :: ts))
    (opened : List Nat) (ts : List Token) : motive opened ts := by
  induction ts generalizing opened with
  | nil => exact nil opened
  | cons t ts ih =>
    by_cases hopening : t.kind = .leftParen
    · exact opening opened t ts hopening (ih _)
    · by_cases hclosing : t.kind = .rightParen
      · cases opened with
        | nil => exact surplus t ts hclosing (ih _)
        | cons start opened => exact closing start opened t ts hclosing (ih _)
      · exact other opened t ts (TokenKind.isParen_eq_false hopening hclosing) (ih _)

/-! ## Pairs and what is left open -/

theorem openFrom_append (opened : List Nat) (xs ys : List Token) :
    openFrom opened (xs ++ ys) = openFrom (openFrom opened xs) ys := by
  induction opened, xs using walk_induction with
  | nil => rfl
  | opening opened t ts h ih =>
    rw [List.cons_append, openFrom_leftParen _ _ h, openFrom_leftParen _ _ h, ih]
  | closing start opened t ts h ih =>
    rw [List.cons_append, openFrom_rightParen _ _ h, openFrom_rightParen _ _ h, ih]
  | surplus t ts h ih =>
    rw [List.cons_append, openFrom_surplus _ h, openFrom_surplus _ h, ih]
  | other opened t ts h ih =>
    rw [List.cons_append, openFrom_other _ _ h, openFrom_other _ _ h, ih]

theorem parenPairsFrom_append (opened : List Nat) (xs ys : List Token) :
    parenPairsFrom opened (xs ++ ys) =
      parenPairsFrom opened xs ++ parenPairsFrom (openFrom opened xs) ys := by
  induction opened, xs using walk_induction with
  | nil => rfl
  | opening opened t ts h ih =>
    rw [List.cons_append, parenPairsFrom_leftParen _ _ h, parenPairsFrom_leftParen _ _ h,
      openFrom_leftParen _ _ h, ih]
  | closing start opened t ts h ih =>
    rw [List.cons_append, parenPairsFrom_rightParen _ _ h, parenPairsFrom_rightParen _ _ h,
      openFrom_rightParen _ _ h, ih, List.cons_append]
  | surplus t ts h ih =>
    rw [List.cons_append, parenPairsFrom_surplus _ h, parenPairsFrom_surplus _ h,
      openFrom_surplus _ h, ih]
  | other opened t ts h ih =>
    rw [List.cons_append, parenPairsFrom_other _ _ h, parenPairsFrom_other _ _ h,
      openFrom_other _ _ h, ih]

/-- Each opening parenthesis is the first one of a pair, or it is left open. -/
theorem perm_openFrom (opened : List Nat) (ts : List Token) :
    ((parenPairsFrom opened ts).map Prod.fst ++ openFrom opened ts).Perm
      (opened ++ openings ts) := by
  induction opened, ts using walk_induction with
  | nil opened => rw [openings, List.filter_nil, List.map_nil, List.append_nil]; exact .refl _
  | opening opened t ts h ih =>
    rw [parenPairsFrom_leftParen _ _ h, openFrom_leftParen _ _ h, openings_leftParen _ h]
    exact ih.trans List.perm_middle.symm
  | closing start opened t ts h ih =>
    rw [parenPairsFrom_rightParen _ _ h, openFrom_rightParen _ _ h,
      openings_of_ne _ (by rw [h]; nofun)]
    exact ih.cons start
  | surplus t ts h ih =>
    rwa [parenPairsFrom_surplus _ h, openFrom_surplus _ h, openings_of_ne _ (by rw [h]; nofun)]
  | other opened t ts h ih =>
    rwa [parenPairsFrom_other _ _ h, openFrom_other _ _ h,
      openings_of_ne _ (TokenKind.ne_of_isParen h).1]

/-- What is left open is in order, the last parenthesis first. -/
theorem reverse_openFrom_sublist (opened : List Nat) (ts : List Token) :
    (openFrom opened ts).reverse.Sublist (opened.reverse ++ openings ts) := by
  induction opened, ts using walk_induction with
  | nil opened => exact List.sublist_append_left _ _
  | opening opened t ts h ih =>
    rw [openFrom_leftParen _ _ h, openings_leftParen _ h]
    rwa [List.reverse_cons, List.append_assoc] at ih
  | closing start opened t ts h ih =>
    rw [openFrom_rightParen _ _ h, openings_of_ne _ (by rw [h]; nofun), List.reverse_cons]
    exact ih.trans ((List.sublist_append_left _ _).append_right _)
  | surplus t ts h ih => rwa [openFrom_surplus _ h, openings_of_ne _ (by rw [h]; nofun)]
  | other opened t ts h ih =>
    rwa [openFrom_other _ _ h, openings_of_ne _ (TokenKind.ne_of_isParen h).1]

/-- The second one of a pair is a closing parenthesis. -/
theorem exists_rightParen_of_mem {opened : List Nat} {ts : List Token} {pair : ParenPair}
    (h : pair ∈ parenPairsFrom opened ts) : ∃ t ∈ ts, t.kind = .rightParen ∧ t.start = pair.2 := by
  induction opened, ts using walk_induction with
  | nil => cases h
  | opening opened t ts ht ih =>
    obtain ⟨u, hu, hclose⟩ := ih (by rwa [parenPairsFrom_leftParen _ _ ht] at h)
    exact ⟨u, List.mem_cons_of_mem t hu, hclose⟩
  | closing start opened t ts ht ih =>
    rw [parenPairsFrom_rightParen _ _ ht] at h
    rcases List.mem_cons.mp h with rfl | h
    · exact ⟨t, List.mem_cons_self, ht, rfl⟩
    · obtain ⟨u, hu, hclose⟩ := ih h
      exact ⟨u, List.mem_cons_of_mem t hu, hclose⟩
  | surplus t ts ht ih =>
    obtain ⟨u, hu, hclose⟩ := ih (by rwa [parenPairsFrom_surplus _ ht] at h)
    exact ⟨u, List.mem_cons_of_mem t hu, hclose⟩
  | other opened t ts ht ih =>
    obtain ⟨u, hu, hclose⟩ := ih (by rwa [parenPairsFrom_other _ _ ht] at h)
    exact ⟨u, List.mem_cons_of_mem t hu, hclose⟩

/-- The first one of a pair is an opening parenthesis. -/
theorem exists_leftParen_of_mem {ts : List Token} {pair : ParenPair} (h : pair ∈ parenPairs ts) :
    ∃ t ∈ ts, t.kind = .leftParen ∧ t.start = pair.1 := by
  have hmem := (perm_openFrom [] ts).mem_iff.mp
    (List.mem_append_left _ (List.mem_map.mpr ⟨pair, h, rfl⟩))
  exact mem_openings.mp hmem

/-- White space has no part in pairs. -/
theorem parenPairsFrom_significant (opened : List Nat) (ts : List Token) :
    parenPairsFrom opened (significant ts) = parenPairsFrom opened ts := by
  have hcons {t : Token} (h : t.kind ≠ .whitespace) (ts : List Token) :
      significant (t :: ts) = t :: significant ts :=
    List.filter_cons_of_pos (decide_eq_true h)
  induction opened, ts using walk_induction with
  | nil => rfl
  | opening opened t ts h ih =>
    rw [hcons (by rw [h]; nofun), parenPairsFrom_leftParen _ _ h, parenPairsFrom_leftParen _ _ h,
      ih]
  | closing start opened t ts h ih =>
    rw [hcons (by rw [h]; nofun), parenPairsFrom_rightParen _ _ h, parenPairsFrom_rightParen _ _ h,
      ih]
  | surplus t ts h ih =>
    rw [hcons (by rw [h]; nofun), parenPairsFrom_surplus _ h, parenPairsFrom_surplus _ h, ih]
  | other opened t ts h ih =>
    rw [parenPairsFrom_other _ _ h]
    by_cases hspace : t.kind = .whitespace
    · rwa [significant, List.filter_cons_of_neg (by simp [Token.isSignificant, hspace])]
    · rwa [hcons hspace, parenPairsFrom_other _ _ h]

/-- No pair is found where none of them has a parenthesis. -/
theorem pairAt?_eq_none_iff {pairs : List ParenPair} {offset : Int} :
    pairAt? pairs offset = none ↔
      ∀ pair ∈ pairs, (pair.1 : Int) ≠ offset ∧ (pair.2 : Int) ≠ offset := by
  simp [pairAt?, List.find?_eq_none]

/-! ## Unpaired parentheses -/

/-- No pair has a parenthesis at the offset. -/
def Unpaired (ts : List Token) (offset : Nat) : Prop :=
  ∀ pair ∈ parenPairs ts, pair.1 ≠ offset ∧ pair.2 ≠ offset

section
variable {ts : List Token} (hts : ts.Pairwise fun t t' => t.start < t'.start)
include hts

theorem pairwise_openings : (openings ts).Pairwise (· < ·) :=
  List.pairwise_map.mpr (hts.filter _)

/-- Tokens that start at the same place are the same. -/
theorem eq_of_start_eq {t t' : Token} (ht : t ∈ ts) (ht' : t' ∈ ts) (h : t.start = t'.start) :
    t = t' := by
  induction hts with
  | nil => cases ht
  | @cons u ts hu _ ih =>
    rcases List.mem_cons.mp ht with rfl | hmem <;> rcases List.mem_cons.mp ht' with rfl | hmem'
    · rfl
    · exact absurd h (Nat.ne_of_lt (hu _ hmem'))
    · exact absurd h.symm (Nat.ne_of_lt (hu _ hmem))
    · exact ih hmem hmem'

/-- No pair ends with an opening parenthesis. -/
theorem snd_ne_start {t : Token} (ht : t ∈ ts) (hopen : t.kind = .leftParen) {pair : ParenPair}
    (hpair : pair ∈ parenPairs ts) : pair.2 ≠ t.start := by
  intro hsnd
  obtain ⟨u, hu, hclose, hstart⟩ := exists_rightParen_of_mem hpair
  obtain rfl := eq_of_start_eq hts hu ht (hstart.trans hsnd)
  rw [hopen] at hclose
  cases hclose

/-- The opening parentheses without a partner are those that are left open. -/
theorem unpaired_iff_mem_openFrom {t : Token} (ht : t ∈ ts) (hkind : t.kind = .leftParen) :
    Unpaired ts t.start ↔ t.start ∈ openFrom [] ts := by
  have hperm := perm_openFrom [] ts
  rw [List.nil_append] at hperm
  have hnodup := (hperm.nodup_iff).mpr
    ((pairwise_openings hts).imp fun h => Nat.ne_of_lt h)
  constructor
  · intro h
    have hmem := hperm.mem_iff.mpr (mem_openings.mpr ⟨t, ht, hkind, rfl⟩)
    rcases List.mem_append.mp hmem with hpaired | hopen
    · obtain ⟨pair, hpair, hfst⟩ := List.mem_map.mp hpaired
      exact absurd hfst (h pair hpair).1
    · exact hopen
  · intro h pair hpair
    refine ⟨fun hfst => ?_, fun hsnd => ?_⟩
    · exact (List.nodup_append.mp hnodup).2.2 _ (List.mem_map.mpr ⟨pair, hpair, rfl⟩) _ h hfst
    · exact snd_ne_start hts ht hkind hpair hsnd

/-- The parenthesis on top of the stack is the last one without a partner. -/
theorem last_of_openFrom_eq_cons {t : Token} {below : List Nat}
    (h : openFrom [] ts = t.start :: below) {u : Token} (hu : u ∈ ts) (hkind : u.kind = .leftParen)
    (hunpaired : Unpaired ts u.start) : u.start ≤ t.start := by
  have hsorted : (openFrom [] ts).reverse.Pairwise (· < ·) :=
    (pairwise_openings hts).sublist (reverse_openFrom_sublist [] ts)
  have hmem := (unpaired_iff_mem_openFrom hts hu hkind).mp hunpaired
  rw [h] at hmem hsorted
  rcases List.mem_cons.mp hmem with heq | hbelow
  · exact Nat.le_of_eq heq
  · rw [List.reverse_cons] at hsorted
    exact Nat.le_of_lt ((List.pairwise_append.mp hsorted).2.2 _ (List.mem_reverse.mpr hbelow) _
      (List.mem_singleton.mpr rfl))

end

/-! ## Balanced tokens -/

/-- Parentheses that open and close in turn, among other tokens. -/
inductive Balanced : List Token → Prop
  | nil : Balanced []
  | other {t : Token} {ts : List Token} :
      t.kind.isParen = false → Balanced ts → Balanced (t :: ts)
  | enclosed {opening closing : Token} {inside ts : List Token} :
      opening.kind = .leftParen → Balanced inside → closing.kind = .rightParen → Balanced ts →
        Balanced (opening :: (inside ++ closing :: ts))

namespace Balanced
variable {xs ys : List Token}

theorem append (hxs : Balanced xs) (hys : Balanced ys) : Balanced (xs ++ ys) := by
  induction hxs with
  | nil => exact hys
  | other h _ ih => exact .other h ih
  | enclosed hopen hinside hclose _ _ ih =>
    rw [List.cons_append, List.append_assoc, List.cons_append]
    exact .enclosed hopen hinside hclose ih

/-- Balanced tokens leave open what was open before. -/
theorem openFrom_eq (h : Balanced xs) (opened : List Nat) : openFrom opened xs = opened := by
  induction h generalizing opened with
  | nil => rfl
  | other h _ ih => rw [openFrom_other _ _ h, ih]
  | enclosed hopen _ hclose _ ihinside ih =>
    rw [openFrom_leftParen _ _ hopen, openFrom_append, ihinside, openFrom_rightParen _ _ hclose, ih]

theorem between {sign : Token} (hxs : Balanced xs) (hsign : sign.kind.isParen = false)
    (hys : Balanced ys) : Balanced (xs ++ sign :: ys) :=
  hxs.append (.other hsign hys)

/-- Tokens in parentheses. -/
theorem parenthesized {opening closing : Token} (hopen : opening.kind = .leftParen)
    (hxs : Balanced xs) (hclose : closing.kind = .rightParen) :
    Balanced (opening :: (xs ++ [closing])) :=
  .enclosed hopen hxs hclose .nil

end Balanced

/-- A parenthesis with balanced tokens after it is on top of the stack, above what was open before
it. -/
theorem openFrom_unclosed {before inside : List Token} {opening : Token}
    (hopen : opening.kind = .leftParen) (hinside : Balanced inside) :
    openFrom [] (before ++ opening :: inside) = opening.start :: openFrom [] before := by
  rw [openFrom_append, openFrom_leftParen _ _ hopen, hinside.openFrom_eq]

theorem Token.ReferenceName.isParen_eq_false {t : Token} {name : Text} (h : t.ReferenceName name) :
    t.kind.isParen = false := by
  cases h with
  | word hword => exact TokenKind.isParen_of_isWord hword
  | quoted hstring => rw [hstring]; rfl

/-- A phrase is balanced. -/
theorem Derives.balanced {phrase : Phrase} {d : Nat} {ts : List Token} {e : Expr}
    (h : Derives phrase d ts e) : Balanced ts := by
  have hother {t : Token} {kind : TokenKind} (h : t.kind = kind) (hkind : kind.isParen = false) :
      t.kind.isParen = false := by rwa [h]
  induction h with
  | uncompared _ ih | term _ ih | factor _ ih => exact ih
  | comparison _ hkind _ _ ihl ihr | sum _ hkind _ _ ihl ihr | product _ hkind _ _ ihl ihr =>
    exact ihl.between (hother hkind rfl) ihr
  | group hopen _ hclose ih => exact ih.parenthesized hopen hclose
  | negation hkind _ ih => exact .other (hother hkind rfl) ih
  | number h =>
    cases h with
    | integer hkind | float hkind => exact .other (hother hkind rfl) .nil
  | name hkind | builtIn hkind => exact .other (hother hkind rfl) .nil
  | attrCall hhead _ hopen hname hclose | propCall hhead _ hopen hname hclose =>
    have hinside : Balanced [_] := .other hname.isParen_eq_false .nil
    exact .other (hother hhead rfl) (hinside.parenthesized hopen hclose)
  | unaryCall hhead _ hopen _ hclose ih =>
    exact .other (hother hhead rfl) (ih.parenthesized hopen hclose)
  | binaryCall hhead _ hopen _ hcomma _ hclose ihx ihy
  | vec2Call hhead _ hopen _ hcomma _ hclose _ ihx ihy =>
    have hinside := (ihx.between (hother hcomma rfl) ihy).parenthesized hopen hclose
    rw [List.append_assoc, List.cons_append] at hinside
    exact .other (hother hhead rfl) hinside
  | vec3Call hhead _ hopen _ hcomma _ hcomma' _ hclose _ ihx ihy ihz =>
    have htail := ihy.between (hother hcomma' rfl) ihz
    have hinside := (ihx.between (hother hcomma rfl) htail).parenthesized hopen hclose
    simp only [List.append_assoc, List.cons_append] at hinside
    exact .other (hother hhead rfl) hinside

end EffectLang
