import Mathlib.Data.List.Nodup
import EffectLang.Proofs.Editor.Pairing

/-!
# Which parentheses match

Two parentheses match when those between them are balanced. The walk that pairs parentheses finds
the pairs that match and no others: at a closing parenthesis, the tokens after the one on top of the
stack are balanced. So no parenthesis is in two pairs that match, such pairs do not cross, and what
is found at a cursor is the pair of a parenthesis there.
-/

namespace EffectLang

/-! ## Pairs that match -/

/-- One of the two parentheses is at the offset. -/
def ParenPair.Has (pair : ParenPair) (offset : Nat) : Prop :=
  pair.1 = offset ∨ pair.2 = offset

/-- The offsets are those of an opening parenthesis and of a closing one after it, and the
parentheses between them are balanced. -/
structure Matches (ts : List Token) (pair : ParenPair) : Prop where
  opening : ∃ t ∈ ts, t.kind = .leftParen ∧ t.start = pair.1
  closing : ∃ t ∈ ts, t.kind = .rightParen ∧ t.start = pair.2
  lt : pair.1 < pair.2
  between : Balanced (ts.filter fun t => t.kind.isParen && (pair.1 < t.start && t.start < pair.2))

/-- The parenthesis at the offset is one of a pair that matches. -/
def HasPartner (ts : List Token) (offset : Nat) : Prop :=
  ∃ pair, Matches ts pair ∧ pair.Has offset

/-- The pair at a cursor: that of the parenthesis which starts there, if it has a partner, or else
that of the parenthesis which ends there. -/
inductive PairAt (ts : List Token) (cursor : Int) : Option ParenPair → Prop
  | starting {t : Token} {pair : ParenPair} :
      t ∈ ts → t.kind.isParen = true → t.start = cursor → Matches ts pair → pair.Has t.start →
        PairAt ts cursor (some pair)
  | ending {t : Token} {pair : ParenPair} :
      (∀ u ∈ ts, u.kind.isParen = true → u.start = cursor → ¬ HasPartner ts u.start) →
        t ∈ ts → t.kind.isParen = true → t.stop = cursor → Matches ts pair → pair.Has t.start →
        PairAt ts cursor (some pair)
  | none :
      (∀ u ∈ ts, u.kind.isParen = true → u.start = cursor → ¬ HasPartner ts u.start) →
        (∀ u ∈ ts, u.kind.isParen = true → u.stop = cursor → ¬ HasPartner ts u.start) →
        PairAt ts cursor none

/-! ## Balanced tokens and their pairs -/

namespace Balanced
variable {xs inside : List Token}

/-- What is open before makes no difference to the pairs of balanced tokens. -/
theorem parenPairsFrom_eq (h : Balanced xs) (opened : List Nat) :
    parenPairsFrom opened xs = parenPairs xs := by
  unfold parenPairs
  induction h generalizing opened with
  | nil => rfl
  | other h _ ih => rw [parenPairsFrom_other _ _ h, parenPairsFrom_other _ _ h, ih]
  | enclosed hopen hinside hclose _ ihinside ih =>
    rw [parenPairsFrom_leftParen _ _ hopen, parenPairsFrom_leftParen _ _ hopen,
      parenPairsFrom_append, parenPairsFrom_append, hinside.openFrom_eq, hinside.openFrom_eq,
      parenPairsFrom_rightParen _ _ hclose, parenPairsFrom_rightParen _ _ hclose, ihinside, ih,
      ihinside [_]]

/-- Balanced tokens in parentheses: their pairs, and then the pair of the parentheses. -/
theorem parenPairsFrom_enclosed (h : Balanced inside) {opening closing : Token}
    (hopen : opening.kind = .leftParen) (hclose : closing.kind = .rightParen) (opened : List Nat)
    (ts : List Token) :
    parenPairsFrom opened (opening :: (inside ++ closing :: ts)) =
      parenPairs inside ++ (opening.start, closing.start) :: parenPairsFrom opened ts := by
  rw [parenPairsFrom_leftParen _ _ hopen, parenPairsFrom_append, h.parenPairsFrom_eq,
    h.openFrom_eq, parenPairsFrom_rightParen _ _ hclose]

/-- In balanced tokens, every parenthesis is one of a pair. -/
theorem exists_pair (h : Balanced xs) {t : Token} (ht : t ∈ xs) (hparen : t.kind.isParen = true) :
    ∃ pair ∈ parenPairs xs, pair.Has t.start := by
  induction h with
  | nil => cases ht
  | @other u us hu _ ih =>
    rcases List.mem_cons.mp ht with rfl | ht
    · rw [hu] at hparen
      cases hparen
    · rw [parenPairs, parenPairsFrom_other _ _ hu]
      exact ih ht
  | @enclosed opening closing inside us hopen hinside hclose _ ihinside ih =>
    rw [parenPairs, hinside.parenPairsFrom_enclosed hopen hclose]
    simp only [List.mem_cons, List.mem_append] at ht
    rcases ht with rfl | ht | rfl | ht
    · exact ⟨(t.start, closing.start), by simp, .inl rfl⟩
    · obtain ⟨pair, hpair, hhas⟩ := ihinside ht
      exact ⟨pair, List.mem_append_left _ hpair, hhas⟩
    · exact ⟨(opening.start, t.start), by simp, .inr rfl⟩
    · obtain ⟨pair, hpair, hhas⟩ := ih ht
      exact ⟨pair, List.mem_append_right _ (List.mem_cons_of_mem _ hpair), hhas⟩

/-- Tokens other than parentheses. -/
theorem of_others (h : ∀ t ∈ xs, t.kind.isParen = false) : Balanced xs := by
  induction xs with
  | nil => exact .nil
  | cons t xs ih =>
    obtain ⟨ht, hxs⟩ := List.forall_mem_cons.mp h
    exact .other ht (ih hxs)

theorem filter_isParen (h : Balanced xs) : Balanced (xs.filter (·.kind.isParen)) := by
  induction h with
  | nil => exact .nil
  | other h _ ih => rwa [List.filter_cons_of_neg (by simp [h])]
  | enclosed hopen _ hclose _ ihinside ih =>
    rw [List.filter_cons_of_pos (by rw [hopen]; rfl), List.filter_append,
      List.filter_cons_of_pos (by rw [hclose]; rfl)]
    exact .enclosed hopen ihinside hclose ih

/-- Only the parentheses matter. -/
theorem of_filter_isParen (h : Balanced (xs.filter (·.kind.isParen))) : Balanced xs := by
  have hothers {ts : List Token} (h : ∀ t ∈ ts, ¬ t.kind.isParen = true) : Balanced ts :=
    of_others fun t ht => Bool.eq_false_iff.mpr (h t ht)
  generalize hys : xs.filter (·.kind.isParen) = ys at h
  induction h generalizing xs with
  | nil => exact hothers (List.filter_eq_nil_iff.mp hys)
  | @other t ts ht _ ih =>
    have hmem : t ∈ xs.filter (·.kind.isParen) := by simp [hys]
    rw [(List.mem_filter.mp hmem).2] at ht
    cases ht
  | enclosed hopen _ hclose _ ihinside ih =>
    obtain ⟨before, rest, rfl, hbefore, -, hrest⟩ := List.filter_eq_cons_iff.mp hys
    obtain ⟨inside, after, rfl, hinside, hafter⟩ := List.filter_eq_append_iff.mp hrest
    obtain ⟨between, after, rfl, hbetween, -, hafter⟩ := List.filter_eq_cons_iff.mp hafter
    refine (hothers hbefore).append ?_
    rw [← List.append_assoc]
    exact .enclosed hopen ((ihinside hinside).append (hothers hbetween)) hclose (ih hafter)

end Balanced

/-! ## What the walk finds -/

/-- Balanced tokens stand between the two parentheses. -/
inductive Encloses (ts : List Token) : ParenPair → Prop
  | intro {before inside after : List Token} {opening closing : Token} :
      ts = before ++ opening :: (inside ++ closing :: after) → opening.kind = .leftParen →
        Balanced inside → closing.kind = .rightParen → Encloses ts (opening.start, closing.start)

section Walk
variable {ts : List Token} {pair : ParenPair}

/-- A pair is found at its closing parenthesis, when the opening one is on top of the stack. -/
theorem exists_closing_of_mem {opened : List Nat} (h : pair ∈ parenPairsFrom opened ts) :
    ∃ before closing after below, ts = before ++ closing :: after ∧
      closing.kind = .rightParen ∧ closing.start = pair.2 ∧
      openFrom opened before = pair.1 :: below := by
  induction opened, ts using walk_induction with
  | nil => cases h
  | opening opened t ts ht ih =>
    rw [parenPairsFrom_leftParen _ _ ht] at h
    obtain ⟨before, closing, after, below, rfl, hclose, hstart, htop⟩ := ih h
    exact ⟨t :: before, closing, after, below, rfl, hclose, hstart,
      by rwa [openFrom_leftParen _ _ ht]⟩
  | closing start opened t ts ht ih =>
    rw [parenPairsFrom_rightParen _ _ ht] at h
    rcases List.mem_cons.mp h with rfl | h
    · exact ⟨[], t, ts, opened, rfl, ht, rfl, rfl⟩
    · obtain ⟨before, closing, after, below, rfl, hclose, hstart, htop⟩ := ih h
      exact ⟨t :: before, closing, after, below, rfl, hclose, hstart,
        by rwa [openFrom_rightParen _ _ ht]⟩
  | surplus t ts ht ih =>
    rw [parenPairsFrom_surplus _ ht] at h
    obtain ⟨before, closing, after, below, rfl, hclose, hstart, htop⟩ := ih h
    exact ⟨t :: before, closing, after, below, rfl, hclose, hstart, by rwa [openFrom_surplus _ ht]⟩
  | other opened t ts ht ih =>
    rw [parenPairsFrom_other _ _ ht] at h
    obtain ⟨before, closing, after, below, rfl, hclose, hstart, htop⟩ := ih h
    exact ⟨t :: before, closing, after, below, rfl, hclose, hstart,
      by rwa [openFrom_other _ _ ht]⟩

/-- What is on top of the stack was opened by a parenthesis with balanced tokens after it. -/
theorem exists_opening_of_openFrom {start : Nat} {below : List Nat}
    (h : openFrom [] ts = start :: below) :
    ∃ before opening inside, ts = before ++ opening :: inside ∧ opening.kind = .leftParen ∧
      opening.start = start ∧ Balanced inside ∧ openFrom [] before = below := by
  induction hlength : ts.length using Nat.strong_induction_on generalizing ts start below with
  | _ n ih =>
    rcases List.eq_nil_or_concat ts with rfl | ⟨front, t, hts⟩
    · cases h
    rw [List.concat_eq_append] at hts
    subst hts
    rw [List.length_append, List.length_singleton] at hlength
    rw [openFrom_append] at h
    by_cases hopen : t.kind = .leftParen
    · rw [openFrom_leftParen _ _ hopen] at h
      obtain ⟨rfl, rfl⟩ := List.cons.inj h
      exact ⟨front, t, [], rfl, hopen, rfl, .nil, rfl⟩
    by_cases hclose : t.kind = .rightParen
    · -- the token closes what was on top, and what was below it is on top now
      cases htop : openFrom [] front with
      | nil =>
        rw [htop, openFrom_surplus _ hclose] at h
        cases h
      | cons top rest =>
        rw [htop, openFrom_rightParen _ _ hclose] at h
        obtain ⟨front, opening', inside', rfl, hopen', -, hinside', hbelow'⟩ :=
          ih _ (by omega) htop rfl
        have hshorter : front.length < n := by simp at hlength; omega
        obtain ⟨before, opening, inside, rfl, hopen, hstart, hinside, hbelow⟩ :=
          ih _ hshorter (hbelow'.trans h) rfl
        exact ⟨before, opening, inside ++ opening' :: (inside' ++ [t]), by simp, hopen, hstart,
          hinside.append (hinside'.parenthesized hopen' hclose), hbelow⟩
    · have hother := TokenKind.isParen_eq_false hopen hclose
      rw [openFrom_other _ _ hother] at h
      obtain ⟨before, opening, inside, rfl, hopen, hstart, hinside, hbelow⟩ :=
        ih _ (by omega) h rfl
      exact ⟨before, opening, inside ++ [t], by simp, hopen, hstart,
        hinside.append (.other hother .nil), hbelow⟩

/-- The walk pairs the parentheses that have balanced tokens between them. -/
theorem mem_parenPairs_iff_encloses : pair ∈ parenPairs ts ↔ Encloses ts pair := by
  constructor
  · intro h
    obtain ⟨before, closing, after, below, rfl, hclose, hsnd, htop⟩ := exists_closing_of_mem h
    obtain ⟨before, opening, inside, rfl, hopen, hfst, hinside, -⟩ :=
      exists_opening_of_openFrom htop
    have henclosed : Encloses (before ++ opening :: (inside ++ closing :: after))
        (opening.start, closing.start) :=
      .intro rfl hopen hinside hclose
    rw [hfst, hsnd] at henclosed
    simpa using henclosed
  · intro h
    cases h with
    | intro hts hopen hinside hclose =>
      rw [hts, parenPairs, parenPairsFrom_append, hinside.parenPairsFrom_enclosed hopen hclose]
      simp

/-- The closing parentheses of pairs come in their order among the tokens. -/
theorem map_snd_parenPairsFrom_sublist (opened : List Nat) (ts : List Token) :
    ((parenPairsFrom opened ts).map Prod.snd).Sublist (ts.map Token.start) := by
  induction opened, ts using walk_induction with
  | nil => exact .slnil
  | opening opened t ts h ih =>
    rw [parenPairsFrom_leftParen _ _ h]
    exact ih.cons t.start
  | closing start opened t ts h ih =>
    rw [parenPairsFrom_rightParen _ _ h]
    exact ih.cons_cons t.start
  | surplus t ts h ih =>
    rw [parenPairsFrom_surplus _ h]
    exact ih.cons t.start
  | other opened t ts h ih =>
    rw [parenPairsFrom_other _ _ h]
    exact ih.cons t.start

end Walk

section Sorted
variable {ts : List Token} (hts : ts.Pairwise fun t t' => t.start < t'.start)
include hts

/-- The parentheses between two offsets at which tokens start are those of the tokens between. -/
theorem filter_between {before inside after : List Token} {opening closing : Token}
    (hsplit : ts = before ++ opening :: (inside ++ closing :: after)) :
    (ts.filter fun t => t.kind.isParen && (opening.start < t.start && t.start < closing.start)) =
      inside.filter (·.kind.isParen) := by
  subst hsplit
  simp only [List.pairwise_append, List.pairwise_cons, List.mem_append, List.mem_cons] at hts
  obtain ⟨-, ⟨hopening, -, ⟨hclosing, -⟩, hinside⟩, hbefore⟩ := hts
  have hnone : before.filter (fun t => t.kind.isParen &&
      (opening.start < t.start && t.start < closing.start)) = [] := by
    refine List.filter_eq_nil_iff.mpr fun t ht => ?_
    have hlt := hbefore t ht opening (.inl rfl)
    simp
    omega
  have hnone' : after.filter (fun t => t.kind.isParen &&
      (opening.start < t.start && t.start < closing.start)) = [] := by
    refine List.filter_eq_nil_iff.mpr fun t ht => ?_
    have hlt := hclosing t ht
    simp
    omega
  have hall : inside.filter (fun t => t.kind.isParen &&
      (opening.start < t.start && t.start < closing.start)) =
        inside.filter (·.kind.isParen) := by
    refine List.filter_congr fun t ht => ?_
    have hlt := hopening t (.inl ht)
    have hlt' := hinside t ht closing (.inl rfl)
    simp [hlt, hlt']
  rw [List.filter_append, List.filter_cons_of_neg (by simp), List.filter_append,
    List.filter_cons_of_neg (by simp), hnone, hnone', hall, List.nil_append, List.append_nil]

/-- Tokens that start one after another match by their offsets as they do by their places. -/
theorem matches_iff_encloses {pair : ParenPair} : Matches ts pair ↔ Encloses ts pair := by
  constructor
  · intro h
    obtain ⟨o, c⟩ := pair
    obtain ⟨⟨opening, hopening, hopen, rfl⟩, ⟨closing, hclosing, hclose, rfl⟩, hlt, hbetween⟩ := h
    obtain ⟨before, rest, hrest⟩ := List.append_of_mem hopening
    have hmem : closing ∈ rest := by
      rw [hrest] at hclosing hts
      simp only [List.pairwise_append, List.mem_cons] at hts
      rcases List.mem_append.mp hclosing with hbefore | hrest
      · have hle := hts.2.2 closing hbefore opening (.inl rfl)
        omega
      · refine (List.mem_cons.mp hrest).resolve_left ?_
        rintro rfl
        exact absurd hlt (Nat.lt_irrefl _)
    obtain ⟨inside, after, rfl⟩ := List.append_of_mem hmem
    rw [filter_between hts hrest] at hbetween
    exact .intro hrest hopen hbetween.of_filter_isParen hclose
  · intro h
    cases h with
    | @intro before inside after opening closing hsplit hopen hinside hclose =>
      refine ⟨⟨opening, by simp [hsplit], hopen, rfl⟩, ⟨closing, by simp [hsplit], hclose, rfl⟩,
        ?_, ?_⟩
      · rw [hsplit] at hts
        simp only [List.pairwise_append, List.pairwise_cons, List.mem_append, List.mem_cons] at hts
        exact hts.2.1.1 closing (.inr (.inl rfl))
      · rw [filter_between hts hsplit]
        exact hinside.filter_isParen

/-- The walk finds the pairs that match. -/
theorem mem_parenPairs_iff {pair : ParenPair} : pair ∈ parenPairs ts ↔ Matches ts pair :=
  mem_parenPairs_iff_encloses.trans (matches_iff_encloses hts).symm

/-- No parenthesis is in two pairs. -/
theorem pair_unique {p q : ParenPair} {offset : Nat} (hp : p ∈ parenPairs ts)
    (hq : q ∈ parenPairs ts) (hp' : p.Has offset) (hq' : q.Has offset) : p = q := by
  have hfst : ((parenPairs ts).map Prod.fst).Nodup := by
    have hperm := perm_openFrom [] ts
    have hnodup := (pairwise_openings hts).imp fun h => Nat.ne_of_lt h
    exact (List.nodup_append.mp ((hperm.nodup_iff).mpr hnodup)).1
  have hsnd : ((parenPairs ts).map Prod.snd).Nodup := by
    have hstarts : (ts.map Token.start).Nodup :=
      List.pairwise_map.mpr (hts.imp fun h => Nat.ne_of_lt h)
    exact hstarts.sublist (map_snd_parenPairsFrom_sublist [] ts)
  -- an opening parenthesis is no closing one
  have hdiffer {p q : ParenPair} (hp : p ∈ parenPairs ts) (hq : q ∈ parenPairs ts) :
      p.1 ≠ q.2 := by
    intro heq
    obtain ⟨t, ht, hopen, hstart⟩ := exists_leftParen_of_mem hp
    exact snd_ne_start hts ht hopen hq (heq.symm.trans hstart.symm)
  rcases hp' with hp' | hp' <;> rcases hq' with hq' | hq'
  · exact List.inj_on_of_nodup_map hfst hp hq (hp'.trans hq'.symm)
  · exact absurd (hp'.trans hq'.symm) (hdiffer hp hq)
  · exact absurd (hq'.trans hp'.symm) (hdiffer hq hp)
  · exact List.inj_on_of_nodup_map hsnd hp hq (hp'.trans hq'.symm)

/-- A pair that begins inside another one ends there. -/
theorem snd_lt_of_mem {p q : ParenPair} (hp : p ∈ parenPairs ts) (hq : q ∈ parenPairs ts)
    (hlt : p.1 < q.1) (hlt' : q.1 < p.2) : q.2 < p.2 := by
  obtain ⟨t, ht, hopen, hstart⟩ := exists_leftParen_of_mem hq
  cases mem_parenPairs_iff_encloses.mp hp with
  | @intro before inside after opening closing hsplit hopening hinside hclosing =>
    have hfilter := filter_between hts hsplit
    dsimp only at hlt hlt' ⊢
    have hmem : t ∈ inside.filter (·.kind.isParen) := by
      rw [← hfilter]
      simp [ht, hopen, TokenKind.isParen, hstart, hlt, hlt']
    -- inside, the parenthesis has a partner, and it has no other one
    obtain ⟨htinside, hparen⟩ := List.mem_filter.mp hmem
    obtain ⟨r, hr, hhas⟩ := hinside.exists_pair htinside hparen
    have hrmem : r ∈ parenPairs ts := by
      rw [hsplit, parenPairs, parenPairsFrom_append,
        hinside.parenPairsFrom_enclosed hopening hclosing]
      simp [hr]
    obtain rfl : r = q := pair_unique hts hrmem hq hhas (.inl hstart.symm)
    obtain ⟨u, hu, hclose, hend⟩ := exists_rightParen_of_mem hr
    have humem : u ∈ inside.filter (·.kind.isParen) := by
      simp [hu, hclose, TokenKind.isParen]
    rw [← hfilter] at humem
    simp only [List.mem_filter, Bool.and_eq_true, decide_eq_true_eq] at humem
    rw [← hend]
    exact humem.2.2.2

/-- At an offset, the pair is found that has a parenthesis there. -/
theorem pairAt?_eq_some_iff {pair : ParenPair} {offset : Int} :
    pairAt? (parenPairs ts) offset = some pair ↔
      pair ∈ parenPairs ts ∧ ((pair.1 : Int) = offset ∨ (pair.2 : Int) = offset) := by
  constructor
  · intro h
    have hfound := List.find?_some h
    exact ⟨List.mem_of_find?_eq_some h, by simpa using hfound⟩
  · rintro ⟨hmem, hhas⟩
    cases hfind : pairAt? (parenPairs ts) offset with
    | none =>
      have hnone := pairAt?_eq_none_iff.mp hfind pair hmem
      exact absurd hhas (not_or.mpr hnone)
    | some other =>
      have hother := List.find?_some hfind
      simp only [Bool.or_eq_true, decide_eq_true_eq] at hother
      have hmem' := List.mem_of_find?_eq_some hfind
      obtain ⟨n, rfl⟩ : ∃ n : Nat, offset = n := by
        rcases hhas with h | h
        · exact ⟨_, h.symm⟩
        · exact ⟨_, h.symm⟩
      have hother' : other.Has n := by simpa [ParenPair.Has] using hother
      have hhas' : pair.Has n := by simpa [ParenPair.Has] using hhas
      have heq := pair_unique hts hmem' hmem hother' hhas'
      rw [heq]

/-- The pair that is found at an offset is that of the parenthesis which starts there. -/
theorem pairAt?_eq_some_iff_exists {pair : ParenPair} {offset : Int} :
    pairAt? (parenPairs ts) offset = some pair ↔
      ∃ t ∈ ts, t.kind.isParen = true ∧ (t.start : Int) = offset ∧ Matches ts pair ∧
        pair.Has t.start := by
  rw [pairAt?_eq_some_iff hts]
  constructor
  · rintro ⟨hmem, hoffset⟩
    have hmatches := (mem_parenPairs_iff hts).mp hmem
    rcases hoffset with hfst | hsnd
    · obtain ⟨t, ht, hkind, hstart⟩ := hmatches.opening
      exact ⟨t, ht, by rw [hkind]; rfl, by rw [hstart, hfst], hmatches, .inl hstart.symm⟩
    · obtain ⟨t, ht, hkind, hstart⟩ := hmatches.closing
      exact ⟨t, ht, by rw [hkind]; rfl, by rw [hstart, hsnd], hmatches, .inr hstart.symm⟩
  · rintro ⟨t, -, -, hstart, hmatches, hhas⟩
    refine ⟨(mem_parenPairs_iff hts).mpr hmatches, ?_⟩
    rw [← hstart]
    exact hhas.imp (congrArg Nat.cast) (congrArg Nat.cast)

/-- Nothing is found where no parenthesis starts that has a partner. -/
theorem pairAt?_eq_none_iff_forall {offset : Int} :
    pairAt? (parenPairs ts) offset = none ↔
      ∀ t ∈ ts, t.kind.isParen = true → (t.start : Int) = offset → ¬ HasPartner ts t.start := by
  rw [← not_iff_not, ← ne_eq, Option.ne_none_iff_exists']
  simp only [pairAt?_eq_some_iff_exists hts, HasPartner]
  push Not
  tauto

/-- What is found at a cursor is the pair that belongs there, if parentheses are one character
long. -/
theorem matchingPair?_eq_iff_pairAt
    (hlength : ∀ t ∈ ts, t.kind.isParen = true → t.stop = t.start + 1) {cursor : Int}
    {result : Option ParenPair} :
    matchingPair? ts cursor = result ↔ PairAt ts cursor result := by
  have hends {t : Token} (ht : t ∈ ts) (hparen : t.kind.isParen = true) :
      (t.stop : Int) = cursor ↔ (t.start : Int) = cursor - 1 := by
    have hstop := hlength t ht hparen
    omega
  unfold matchingPair?
  dsimp only
  constructor
  · rintro rfl
    cases hstarts : pairAt? (parenPairs ts) cursor with
    | some pair =>
      obtain ⟨t, ht, hparen, hstart, hmatches, hhas⟩ := (pairAt?_eq_some_iff_exists hts).mp hstarts
      exact .starting ht hparen hstart hmatches hhas
    | none =>
      have hnone := (pairAt?_eq_none_iff_forall hts).mp hstarts
      rw [Option.none_or]
      cases hstops : pairAt? (parenPairs ts) (cursor - 1) with
      | some pair =>
        obtain ⟨t, ht, hparen, hstart, hmatches, hhas⟩ :=
          (pairAt?_eq_some_iff_exists hts).mp hstops
        exact .ending hnone ht hparen ((hends ht hparen).mpr hstart) hmatches hhas
      | none =>
        refine .none hnone fun t ht hparen hstop => ?_
        exact (pairAt?_eq_none_iff_forall hts).mp hstops t ht hparen ((hends ht hparen).mp hstop)
  · intro h
    cases h with
    | starting ht hparen hstart hmatches hhas =>
      rw [(pairAt?_eq_some_iff_exists hts).mpr ⟨_, ht, hparen, hstart, hmatches, hhas⟩]
      rfl
    | ending hnone ht hparen hstop hmatches hhas =>
      rw [(pairAt?_eq_none_iff_forall hts).mpr hnone, Option.none_or]
      exact (pairAt?_eq_some_iff_exists hts).mpr
        ⟨_, ht, hparen, (hends ht hparen).mp hstop, hmatches, hhas⟩
    | none hnone hnone' =>
      rw [(pairAt?_eq_none_iff_forall hts).mpr hnone, Option.none_or]
      refine (pairAt?_eq_none_iff_forall hts).mpr fun t ht hparen hstart => ?_
      exact hnone' t ht hparen ((hends ht hparen).mpr hstart)

end Sorted

/-! ## Sources -/

/-- A parenthesis is read from its character, and nothing is added to it. -/
theorem extent_of_isParen {c : Char} {cs : Text} (h : (extent c cs).1.isParen = true) :
    extent c cs = (.leftParen, 0) ∧ c = '(' ∨ extent c cs = (.rightParen, 0) ∧ c = ')' := by
  have hrule := cutRule_extent c cs
  generalize extent c cs = cut at hrule h ⊢
  cases hrule with
  | space => cases h
  | string => rcases stringExtent_fst cs with hkind | hkind <;> rw [hkind] at h <;> cases h
  | numeral => rcases numeralExtent_fst cs with hkind | hkind <;> rw [hkind] at h <;> cases h
  | fraction => cases h
  | word =>
    rw [TokenKind.isParen_of_isWord (isWord_wordKind _)] at h
    cases h
  | sign =>
    revert h
    unfold signExtent
    -- of the signs only the parentheses themselves have such a kind
    repeat' split
    all_goals first
      | exact fun _ => .inl ⟨rfl, ‹_›⟩
      | exact fun _ => .inr ⟨rfl, ‹_›⟩
      | nofun

/-- The text of a parenthesis is its character. -/
theorem text_of_isParen {source : Text} {t : Token} (ht : t ∈ tokenize source)
    (hparen : t.kind.isParen = true) :
    t.kind = .leftParen ∧ t.text = ['('] ∨ t.kind = .rightParen ∧ t.text = [')'] := by
  refine forall_mem_tokenize (p := fun t => t.kind.isParen = true →
    t.kind = .leftParen ∧ t.text = ['('] ∨ t.kind = .rightParen ∧ t.text = [')'])
    (fun c cs start hparen => ?_) (fun t kind hword hmarked ht hparen => ?_) t ht hparen
  · rcases extent_of_isParen hparen with ⟨hextent, rfl⟩ | ⟨hextent, rfl⟩
    · exact .inl (by simp [hextent])
    · exact .inr (by simp [hextent])
  · rcases hmarked with rfl | rfl <;> cases hparen

/-- A parenthesis is one character long. -/
theorem stop_of_isParen {source : Text} {t : Token} (ht : t ∈ tokenize source)
    (hparen : t.kind.isParen = true) : t.stop = t.start + 1 := by
  rcases text_of_isParen ht hparen with ⟨-, htext⟩ | ⟨-, htext⟩ <;> rw [Token.stop, htext] <;> rfl

/-- Parentheses are matched as they should be. What is found at a cursor is the pair of the
parenthesis which starts there, if that has a partner, or else that of the parenthesis which ends
there, if that has one. No parenthesis has two partners, and pairs that match do not cross. -/
theorem matched_at_cursor (source : Text) :
    (∀ cursor result, matchingPair? (tokenize source) cursor = result ↔
      PairAt (tokenize source) cursor result) ∧
    (∀ p q offset, Matches (tokenize source) p → Matches (tokenize source) q → p.Has offset →
      q.Has offset → p = q) ∧
    ∀ p q, Matches (tokenize source) p → Matches (tokenize source) q →
      ¬ (p.1 < q.1 ∧ q.1 < p.2 ∧ p.2 < q.2) := by
  have hts := pairwise_start_lt source
  refine ⟨fun cursor result => ?_, fun p q offset hp hq hp' hq' => ?_, fun p q hp hq hcross => ?_⟩
  · exact matchingPair?_eq_iff_pairAt hts fun t => stop_of_isParen
  · exact pair_unique hts ((mem_parenPairs_iff hts).mpr hp) ((mem_parenPairs_iff hts).mpr hq) hp' hq'
  · have hlt := snd_lt_of_mem hts ((mem_parenPairs_iff hts).mpr hp) ((mem_parenPairs_iff hts).mpr hq)
      hcross.1 hcross.2.1
    omega

/-- An opening parenthesis that only a quoted one could close has no partner, so at its start the
pair of the parenthesis before it is found. -/
theorem matched_before_unclosed :
    PairAt (tokenize "(a(b))(\")\"".toList) 6 (some (0, 5)) ∧
    ¬ ParenPair.Has (2, 4) 5 ∧ ¬ (0 < 2 ∧ 2 < 5 ∧ 5 < 4) := by
  obtain ⟨hcursor, hunique, hcross⟩ := matched_at_cursor "(a(b))(\")\"".toList
  have hpairs : parenPairs (tokenize "(a(b))(\")\"".toList) = [(2, 4), (0, 5)] := by
    decide +kernel
  have houter : Matches (tokenize "(a(b))(\")\"".toList) (0, 5) :=
    (mem_parenPairs_iff (pairwise_start_lt _)).mp (by rw [hpairs]; decide)
  have hinner : Matches (tokenize "(a(b))(\")\"".toList) (2, 4) :=
    (mem_parenPairs_iff (pairwise_start_lt _)).mp (by rw [hpairs]; decide)
  have hfound : matchingPair? (tokenize "(a(b))(\")\"".toList) 6 = some (0, 5) := by
    decide +kernel
  refine ⟨(hcursor 6 _).mp hfound, fun hhas => ?_, hcross (0, 5) (2, 4) houter hinner⟩
  exact absurd (hunique _ _ 5 houter hinner (.inr rfl) hhas) (by decide)

end EffectLang
