import EffectLang.Proofs.Grammar.Correspondence
import EffectLang.Proofs.Grammar.Viable

/-!
# The limit on nesting

`Expr.watch` reads a source with no limit on the levels that may be open at once, and notes each
level that it opens and closes. What the reader with the limit does can be told from that: while no
more levels are open than may be, it does the same, and it refuses the first token that opens one
level more.
-/

namespace EffectLang

/-! ## Levels -/

/-- A group, a call or a negation is opened by a token, or it is over. -/
inductive LevelEvent where
  | opened (token : Token)
  | closed

/-- The change in the number of open levels. -/
def LevelEvent.change : LevelEvent → Int
  | opened _ => 1
  | closed => -1

/-- The number of levels that are open after the events. -/
def openLevels : List LevelEvent → Int
  | [] => 0
  | event :: rest => event.change + openLevels rest

/-- Every level that is opened is closed again, those inside it before it. -/
inductive WellNested : List LevelEvent → Prop
  | nil : WellNested []
  | level {token : Token} {inner : List LevelEvent} :
      WellNested inner → WellNested (.opened token :: (inner ++ [.closed]))
  | append {xs ys : List LevelEvent} : WellNested xs → WellNested ys → WellNested (xs ++ ys)

/-- At all times no more than so many levels are open. -/
def OpenAtMost (room : Int) (events : List LevelEvent) : Prop :=
  ∀ front, front <+: events → openLevels front ≤ room

/-- The token opens one level more than so many, and none was opened too many before it. -/
def FirstBeyond (room : Int) (events : List LevelEvent) (token : Token) : Prop :=
  ∃ before after, events = before ++ .opened token :: after ∧ OpenAtMost room before ∧
    openLevels before = room

theorem openLevels_append (xs ys : List LevelEvent) :
    openLevels (xs ++ ys) = openLevels xs + openLevels ys := by
  induction xs with
  | nil => simp [openLevels]
  | cons event xs ih => simp only [List.cons_append, openLevels, ih]; omega

theorem WellNested.openLevels_eq {events : List LevelEvent} (h : WellNested events) :
    openLevels events = 0 := by
  induction h with
  | nil => rfl
  | level _ ih => simp only [openLevels, openLevels_append, LevelEvent.change, ih]; omega
  | append _ _ ihx ihy => rw [openLevels_append, ihx, ihy]; rfl

theorem openAtMost_cons {room : Int} {event : LevelEvent} {rest : List LevelEvent}
    (hroom : 0 ≤ room) :
    OpenAtMost room (event :: rest) ↔ OpenAtMost (room - event.change) rest := by
  constructor
  · intro h front hfront
    have := h (event :: front) (List.cons_prefix_cons.mpr ⟨rfl, hfront⟩)
    simp only [openLevels] at this
    omega
  · intro h front hfront
    cases front with
    | nil => exact hroom
    | cons first front =>
      obtain ⟨rfl, hrest⟩ := List.cons_prefix_cons.mp hfront
      have := h front hrest
      simp only [openLevels]
      omega

/-- The first token that opens a level where there is room for that many only. -/
def overflow : Nat → List LevelEvent → Option Token
  | _, [] => none
  | 0, .opened token :: _ => some token
  | room + 1, .opened _ :: rest => overflow room rest
  | room, .closed :: rest => overflow (room + 1) rest

theorem openAtMost_of_overflow {room : Nat} {events : List LevelEvent}
    (h : overflow room events = none) : OpenAtMost room events := by
  fun_induction overflow room events with
  | case1 room =>
    intro front hfront
    obtain rfl := List.prefix_nil.mp hfront
    exact Int.natCast_nonneg room
  | case2 => cases h
  | case3 room token rest ih =>
    refine (openAtMost_cons (by omega)).mpr ?_
    have hrest := ih h
    simpa [LevelEvent.change] using hrest
  | case4 room rest ih =>
    refine (openAtMost_cons (by omega)).mpr ?_
    have hrest := ih h
    simpa [LevelEvent.change] using hrest

theorem firstBeyond_of_overflow {room : Nat} {events : List LevelEvent} {token : Token}
    (h : overflow room events = some token) : FirstBeyond room events token := by
  fun_induction overflow room events with
  | case1 => cases h
  | case2 first rest =>
    obtain rfl := Option.some.inj h
    refine ⟨[], rest, rfl, fun front hfront => ?_, rfl⟩
    rw [List.prefix_nil.mp hfront]
    exact Int.le_refl 0
  | case3 room first rest ih =>
    obtain ⟨before, after, rfl, hbefore, hlevels⟩ := ih h
    refine ⟨.opened first :: before, after, rfl, (openAtMost_cons (by omega)).mpr ?_, ?_⟩
    · simpa [LevelEvent.change] using hbefore
    · simp only [openLevels, LevelEvent.change, hlevels]
      omega
  | case4 room rest ih =>
    obtain ⟨before, after, rfl, hbefore, hlevels⟩ := ih h
    refine ⟨.closed :: before, after, rfl, (openAtMost_cons (by omega)).mpr ?_, ?_⟩
    · simpa [LevelEvent.change] using hbefore
    · simp only [openLevels, LevelEvent.change, hlevels]
      omega

theorem FirstBeyond.not_openAtMost {room : Int} {events : List LevelEvent} {token : Token}
    (h : FirstBeyond room events token) : ¬ OpenAtMost room events := by
  obtain ⟨before, after, rfl, -, hlevels⟩ := h
  intro hevents
  have := hevents (before ++ [.opened token]) ⟨after, by simp⟩
  rw [openLevels_append, hlevels] at this
  simp only [openLevels, LevelEvent.change] at this
  omega

theorem overflow_of_firstBeyond {room : Nat} {events : List LevelEvent} {token : Token}
    (h : FirstBeyond room events token) : overflow room events = some token := by
  obtain ⟨before, after, rfl, hbefore, hlevels⟩ := h
  induction before generalizing room with
  | nil =>
    obtain rfl : room = 0 := by simpa [openLevels] using hlevels.symm
    rfl
  | cons event before ih =>
    have hrest := (openAtMost_cons (Int.natCast_nonneg room)).mp hbefore
    simp only [openLevels] at hlevels
    cases event with
    | opened first =>
      cases room with
      | zero =>
        have hnone := hrest [] List.nil_prefix
        simp [openLevels, LevelEvent.change] at hnone
      | succ room =>
        refine ih ?_ ?_
        · simpa [LevelEvent.change] using hrest
        · simp only [LevelEvent.change] at hlevels
          omega
    | closed =>
      rw [List.cons_append, overflow]
      refine ih ?_ ?_
      · simpa [LevelEvent.change] using hrest
      · simp only [LevelEvent.change] at hlevels
        omega

theorem overflow_append_of_some {room : Nat} {events : List LevelEvent} {token : Token}
    (h : overflow room events = some token) (more : List LevelEvent) :
    overflow room (events ++ more) = some token := by
  fun_induction overflow room events with
  | case1 => cases h
  | case2 => exact h
  | case3 room first rest ih => exact ih h
  | case4 room rest ih => exact ih h

/-- What is closed again leaves the room as it was. -/
theorem WellNested.overflow_append {events : List LevelEvent} (h : WellNested events) (room : Nat)
    (more : List LevelEvent) :
    overflow room (events ++ more) = (overflow room events).or (overflow room more) := by
  induction h generalizing room more with
  | nil => rfl
  | @level token inner _ ih =>
    cases room with
    | zero => rfl
    | succ room =>
      have hclosed : overflow room [.closed] = none := rfl
      simp only [List.cons_append, List.append_assoc, List.nil_append, overflow]
      rw [ih room (.closed :: more), ih room [.closed], hclosed, Option.or_none]
      rfl
  | append _ _ ihx ihy => rw [List.append_assoc, ihx, ihx, ihy, Option.or_assoc]

/-! ## Readers that are watched -/

/-- A computation that fails as readers do and notes levels. -/
structure Watched (α : Type) where
  events : List LevelEvent
  outcome : Except ParseFailure α

namespace Watched
variable {α β : Type}

instance : Monad Watched where
  pure a := ⟨[], .ok a⟩
  bind x f :=
    match x.outcome with
    | .ok a => ⟨x.events ++ (f a).events, (f a).outcome⟩
    | .error failure => ⟨x.events, .error failure⟩

instance : MonadLift (Except ParseFailure) Watched where
  monadLift x := ⟨[], x⟩

def note (event : LevelEvent) : Watched Unit :=
  ⟨[event], .ok ()⟩

/-- A computation on a level that the token opens. -/
def inside (token : Token) (x : Watched α) : Watched α := do
  note (.opened token)
  let a ← x
  note .closed
  return a

theorem bind_ok (events : List LevelEvent) (a : α) (f : α → Watched β) :
    ((⟨events, .ok a⟩ : Watched α) >>= f) = ⟨events ++ (f a).events, (f a).outcome⟩ := rfl

end Watched

namespace Grammar

/-- An atom of so many tokens at most, on any number of levels. -/
def watchedAtom (g : Grammar) : Nat → ReaderIn Watched Expr
  | 0, _ => (malformed .unexpectedEnd [] g.sourceEnd : Except ParseFailure (Expr × List Token))
  | bound + 1, tokens => do
    let (token, tokens) ← g.next tokens
    if token.kind.opensLevel then (g.nestedIn (g.watchedAtom bound) token tokens).inside token
    else leaf token tokens

theorem watchedAtom_cons (g : Grammar) (bound : Nat) (token : Token) (tokens : List Token) :
    g.watchedAtom (bound + 1) (token :: tokens) =
      if token.kind.opensLevel then (g.nestedIn (g.watchedAtom bound) token tokens).inside token
      else liftM (leaf token tokens) := rfl

/-- An atom, on any number of levels. -/
def unlimited (g : Grammar) : ReaderIn Watched Expr := fun tokens =>
  g.watchedAtom tokens.length tokens

end Grammar

/-- Reads an expression with no limit on the levels that are open at once. -/
def Expr.watch (source : Text) : Watched Expr :=
  readIn (Grammar.unlimited ⟨source.length, .folding⟩) (significant (tokenize source))

/-! ## The reader without a limit -/

namespace Watched
variable {α β : Type}

/-- Two watched computations correspond when they note the same and have the same outcome. -/
def same : Correspondence Watched Watched where
  failure := Eq
  holds r x y := x.events = y.events ∧ SameOutcome Eq r x.outcome y.outcome
  mono h := fun ⟨hevents, hxy⟩ => ⟨hevents, hxy.mono h⟩
  lift h := ⟨rfl, h⟩
  pure h := ⟨rfl, .ok h⟩
  bind := by
    rintro α β γ δ r s ⟨events, x⟩ ⟨_, y⟩ f h ⟨rfl, hxy⟩ hfh
    cases hxy with
    | ok hab =>
      obtain ⟨hevents, houtcome⟩ := hfh _ _ hab
      exact ⟨congrArg (events ++ ·) hevents, houtcome⟩
    | error hf => exact ⟨rfl, .error hf⟩

/-- A watched computation corresponds to one with the same outcome, and when it succeeds it has
closed what it opened. -/
def outcomes : Correspondence Watched (Except ParseFailure) where
  failure := Eq
  holds r x y := SameOutcome Eq r x.outcome y ∧ ∀ a, x.outcome = .ok a → WellNested x.events
  mono h := fun ⟨hxy, hnested⟩ => ⟨hxy.mono h, hnested⟩
  lift h := ⟨h, fun _ _ => .nil⟩
  pure h := ⟨.ok h, fun _ _ => .nil⟩
  bind := by
    rintro α β γ δ r s ⟨events, x⟩ y f h ⟨hxy, hnested⟩ hfh
    cases hxy with
    | ok hab =>
      obtain ⟨hnext, hmore⟩ := hfh _ _ hab
      exact ⟨hnext, fun c hc => (hnested _ rfl).append (hmore c hc)⟩
    | error hf => exact ⟨.error hf, nofun⟩

/-- The outcome, unless more levels are opened than there is room for. -/
def within (room : Nat) (x : Watched α) : Except ParseFailure α :=
  match overflow room x.events with
  | some token => malformedAt .nestingTooDeep token
  | none => x.outcome

theorem within_of_overflow {room : Nat} {x : Watched α} {token : Token}
    (h : overflow room x.events = some token) :
    x.within room = malformedAt .nestingTooDeep token := by
  rw [within, h]

theorem within_of_fits {room : Nat} {x : Watched α} (h : overflow room x.events = none) :
    x.within room = x.outcome := by
  rw [within, h]

/-- A computation that succeeds within the room has closed what it opened. -/
def Closes (room : Nat) (x : Watched α) : Prop :=
  ∀ a, overflow room x.events = none → x.outcome = .ok a → WellNested x.events

theorem within_bind {room : Nat} {x : Watched α} (h : x.Closes room) (f : α → Watched β) :
    (x >>= f).within room = x.within room >>= fun a => (f a).within room := by
  obtain ⟨events, x⟩ := x
  cases hover : overflow room events with
  | some token =>
    rw [within_of_overflow (x := ⟨events, x⟩) hover]
    cases x with
    | error failure => exact within_of_overflow hover
    | ok a => exact within_of_overflow (overflow_append_of_some hover _)
  | none =>
    rw [within_of_fits (x := ⟨events, x⟩) hover]
    cases x with
    | error failure => exact within_of_fits hover
    | ok a =>
      have hevents := (h a hover rfl).overflow_append room (f a).events
      rw [hover, Option.none_or] at hevents
      rw [bind_ok]
      unfold within
      dsimp only
      rw [hevents]
      rfl

theorem Closes.bind {room : Nat} {x : Watched α} {f : α → Watched β} (h : x.Closes room)
    (hf : ∀ a, x.within room = .ok a → (f a).Closes room) : (x >>= f).Closes room := by
  obtain ⟨events, x⟩ := x
  intro b hover hok
  cases x with
  | error failure => cases hok
  | ok a =>
    rw [bind_ok] at hover hok ⊢
    cases hfirst : overflow room events with
    | some token =>
      rw [overflow_append_of_some hfirst] at hover
      cases hover
    | none =>
      have hevents := h a hfirst rfl
      rw [hevents.overflow_append, hfirst] at hover
      exact hevents.append (hf a (within_of_fits hfirst) b hover hok)

/-- A watched computation corresponds to one that has room for so many levels when they have the
same outcome within that room. -/
def guarded (room : Nat) : Correspondence Watched (Except ParseFailure) where
  failure := Eq
  holds r x y := SameOutcome Eq r (x.within room) y ∧ x.Closes room
  mono h := fun ⟨hxy, hcloses⟩ => ⟨hxy.mono h, hcloses⟩
  lift h := ⟨h, fun _ _ _ => .nil⟩
  pure h := ⟨.ok h, fun _ _ _ => .nil⟩
  bind := by
    rintro α β γ δ r s x y f h ⟨hxy, hcloses⟩ hfh
    rw [within_bind hcloses]
    refine ⟨hxy.bind fun a b hab => (hfh a b hab).1, hcloses.bind fun a ha => ?_⟩
    rw [ha] at hxy
    cases hxy with
    | ok hab => exact (hfh _ _ hab).2

end Watched

section Inside
variable {α β : Type} {r : α → β → Prop} {token : Token} {x : Watched α}

theorem Watched.same_inside {y : Watched β} (h : same.holds r x y) :
    same.holds r (x.inside token) (y.inside token) := by
  obtain ⟨events, x⟩ := x
  obtain ⟨_, y⟩ := y
  obtain ⟨rfl, hxy⟩ := h
  cases hxy with
  | ok hab => exact ⟨rfl, .ok hab⟩
  | error hf => exact ⟨rfl, .error hf⟩

theorem Watched.outcomes_inside {y : Except ParseFailure β} (h : outcomes.holds r x y) :
    outcomes.holds r (x.inside token) y := by
  obtain ⟨events, x⟩ := x
  obtain ⟨hxy, hnested⟩ := h
  cases hxy with
  | ok hab => exact ⟨.ok hab, fun a _ => .level (hnested _ rfl)⟩
  | error hf => exact ⟨.error hf, nofun⟩

/-- Where there is no room, no level is opened. -/
theorem Watched.guarded_inside_zero :
    (guarded 0).holds r (x.inside token) (malformedAt .nestingTooDeep token) := by
  obtain ⟨events, x⟩ := x
  cases x <;> exact ⟨.error rfl, nofun⟩

/-- Inside a level there is room for one less. -/
theorem Watched.guarded_inside_succ {room : Nat} {y : Except ParseFailure β}
    (h : (guarded room).holds r x y) : (guarded (room + 1)).holds r (x.inside token) y := by
  obtain ⟨events, x⟩ := x
  obtain ⟨hxy, hcloses⟩ := h
  cases x with
  | error failure => exact ⟨hxy, nofun⟩
  | ok a =>
    have hopened : overflow (room + 1) (.opened token :: (events ++ [.closed])) =
        overflow room (events ++ [.closed]) := rfl
    cases hover : overflow room events with
    | some beyond =>
      have hbeyond := hopened.trans (overflow_append_of_some hover [.closed])
      rw [within_of_overflow (x := ⟨events, .ok a⟩) hover] at hxy
      refine ⟨?_, fun _ hnone _ => ?_⟩
      · rwa [within_of_overflow (x := inside token ⟨events, .ok a⟩) hbeyond]
      · exact absurd (hbeyond.symm.trans hnone) nofun
    | none =>
      have hevents := hcloses a hover rfl
      have hfits : overflow (room + 1) (.opened token :: (events ++ [.closed])) = none := by
        rw [hopened, hevents.overflow_append, hover]
        rfl
      rw [within_of_fits (x := ⟨events, .ok a⟩) hover] at hxy
      refine ⟨?_, fun _ _ _ => .level hevents⟩
      rwa [within_of_fits (x := inside token ⟨events, .ok a⟩) hfits]

end Inside

section Atoms
variable {n : Type → Type} [Monad n] [MonadLiftT (Except ParseFailure) n] {g : Grammar}

/-- One atom: it is enough to look at the tokens that open a level. -/
theorem correspond_watchedAtom_succ {C : Correspondence Watched n} {bound : Nat}
    (hc : Compatible C.failure Eq Eq g g) {R : ReaderIn n Expr}
    (nested : Token → ReaderIn n Expr) (hnil : R [] = liftM (g.next [] >>= fun p => leaf p.1 p.2))
    (hcons : ∀ t ts, R (t :: ts) = if t.kind.opensLevel then nested t ts else liftM (leaf t ts))
    (hnested : ∀ t ts, ts.length ≤ bound →
      C.holds (Taken Eq bound Eq) ((g.nestedIn (g.watchedAtom bound) t ts).inside t)
        (nested t ts)) :
    Correspond C Eq (bound + 1) Eq (g.watchedAtom (bound + 1)) R := by
  intro ts ts' hts
  cases ts with
  | nil =>
    obtain rfl := hts.of_nil
    rw [hnil]
    exact C.lift (.error hc.at_end)
  | cons t ts =>
    obtain ⟨_, ts', rfl, rfl, hrest⟩ := hts.of_cons
    obtain rfl : ts = ts' := List.forall₂_eq_eq_eq ▸ hrest.2
    rw [Grammar.watchedAtom_cons, hcons]
    split
    · refine C.mono ?_ (hnested t ts (Nat.le_of_succ_le_succ hts.1))
      exact fun _ _ h => ⟨h.1, h.2.mono (Nat.le_succ bound)⟩
    · exact C.lift (hc.leaf rfl hrest)

/-- No tokens. -/
theorem correspond_watchedAtom_zero {C : Correspondence Watched n}
    (hc : Compatible C.failure Eq Eq g g) {R : ReaderIn n Expr}
    (hnil : R [] = liftM (g.next [] >>= fun p => leaf p.1 p.2)) :
    Correspond C Eq 0 Eq (g.watchedAtom 0) R := by
  intro ts ts' hts
  obtain rfl := List.eq_nil_of_length_eq_zero (Nat.le_zero.mp hts.1)
  obtain rfl := hts.of_nil
  rw [hnil]
  exact C.lift (.error hc.at_end)

variable (g)

/-- A bound that is not reached makes no difference. -/
theorem correspond_watchedAtom {bound bound' : Nat} (hle : bound ≤ bound') :
    Correspond Watched.same Eq bound Eq (g.watchedAtom bound) (g.watchedAtom bound') := by
  have hc := compatible_refl g
  induction bound generalizing bound' with
  | zero => exact correspond_watchedAtom_zero hc (by cases bound' <;> rfl)
  | succ bound ih =>
    obtain ⟨bound', rfl⟩ : ∃ b, bound' = b + 1 := ⟨bound' - 1, by omega⟩
    refine correspond_watchedAtom_succ hc _ rfl (g.watchedAtom_cons bound') fun t ts hts => ?_
    have hatom := ih (Nat.le_of_succ_le_succ hle)
    exact Watched.same_inside (correspond_nestedIn hc hatom rfl ts ts (beside_self hts))

/-- Nor does a limit that is not reached. -/
theorem correspond_watchedAtom_outcome {bound room : Nat} (hle : bound ≤ room) :
    Correspond Watched.outcomes Eq bound Eq (g.watchedAtom bound) (g.atom room) := by
  have hc := compatible_refl g
  induction bound generalizing room with
  | zero => exact correspond_watchedAtom_zero hc (by cases room <;> rfl)
  | succ bound ih =>
    obtain ⟨room, rfl⟩ : ∃ r, room = r + 1 := ⟨room - 1, by omega⟩
    refine correspond_watchedAtom_succ hc (g.nested (g.atom room)) rfl
      (fun _ _ => rfl) fun t ts hts => ?_
    have hatom := ih (Nat.le_of_succ_le_succ hle)
    rw [← Grammar.nestedIn_eq]
    exact Watched.outcomes_inside (correspond_nestedIn hc hatom rfl ts ts (beside_self hts))

/-- A limit refuses what the events show to be too deep, and does nothing else. -/
theorem correspond_watchedAtom_guarded (bound room : Nat) :
    Correspond (Watched.guarded room) Eq bound Eq (g.watchedAtom bound) (g.atom room) := by
  have hc := compatible_refl g
  induction bound generalizing room with
  | zero => exact correspond_watchedAtom_zero hc (by cases room <;> rfl)
  | succ bound ih =>
    cases room with
    | zero =>
      exact correspond_watchedAtom_succ hc (fun token _ => malformedAt .nestingTooDeep token) rfl
        (fun _ _ => rfl) fun _ _ _ => Watched.guarded_inside_zero
    | succ room =>
      refine correspond_watchedAtom_succ hc (g.nested (g.atom room)) rfl
        (fun _ _ => rfl) fun t ts hts => ?_
      rw [← Grammar.nestedIn_eq]
      exact Watched.guarded_inside_succ
        (correspond_nestedIn hc (ih room) rfl ts ts (beside_self hts))

end Atoms

/-! ## Results -/

namespace Watched

theorem eq_of_same {α : Type} {x y : Watched α} (h : same.holds Eq x y) : x = y := by
  obtain ⟨events, x⟩ := x
  obtain ⟨_, y⟩ := y
  obtain ⟨rfl, hxy⟩ := h
  exact congrArg (mk events) hxy.eq

end Watched

section Unlimited
variable (g : Grammar)

theorem eq_of_taken {bound : Nat} {α : Type} {p q : α × List Token} (h : Taken Eq bound Eq p q) :
    p = q := by
  obtain ⟨hresult, hrest⟩ := h
  exact Prod.ext hresult (List.forall₂_eq_eq_eq ▸ hrest.2)

theorem unlimited_eq_watchedAtom {bound : Nat} {tokens : List Token}
    (h : tokens.length ≤ bound) : g.unlimited tokens = g.watchedAtom bound tokens :=
  Watched.eq_of_same (Watched.same.mono (fun _ _ => eq_of_taken)
    (correspond_watchedAtom g h tokens tokens (beside_self (Nat.le_refl _))))

/-- The reader is that of the grammar without the test for the limit. -/
theorem unlimited_eq (tokens : List Token) :
    g.unlimited tokens = (do
      let (token, tokens) ← g.next tokens
      if token.kind.opensLevel then (g.nestedIn g.unlimited token tokens).inside token
      else leaf token tokens) := by
  cases tokens with
  | nil => rfl
  | cons t ts =>
    have hatom : Correspond Watched.same Eq ts.length Eq (g.watchedAtom ts.length) g.unlimited := by
      intro us us' hus
      obtain rfl : us = us' := List.forall₂_eq_eq_eq ▸ hus.2
      rw [unlimited_eq_watchedAtom g hus.1]
      exact correspond_watchedAtom g (Nat.le_refl _) us us hus
    have hnested := correspond_nestedIn (compatible_refl g) hatom (rfl : t = t) ts ts
      (beside_self (Nat.le_refl _))
    have heq := Watched.eq_of_same (Watched.same.mono (fun _ _ => eq_of_taken) hnested)
    show (if t.kind.opensLevel then (g.nestedIn (g.watchedAtom ts.length) t ts).inside t
      else liftM (leaf t ts)) = _
    rw [heq]
    rfl

theorem unlimited_outcome {room : Nat} {tokens : List Token} (h : tokens.length ≤ room) :
    (readIn g.unlimited tokens).outcome = g.read room tokens := by
  have hatom : Correspond Watched.outcomes Eq tokens.length Eq g.unlimited (g.atom room) := by
    intro us us' hus
    rw [unlimited_eq_watchedAtom g hus.1]
    exact correspond_watchedAtom_outcome g h us us' hus
  rw [Grammar.read_eq_readIn]
  exact (holds_readIn (compatible_refl g) hatom (beside_self (Nat.le_refl _))).1.eq

theorem unlimited_within {room : Nat} (tokens : List Token) :
    (readIn g.unlimited tokens).within room = g.read room tokens := by
  have hatom : Correspond (Watched.guarded room) Eq tokens.length Eq g.unlimited
      (g.atom room) := by
    intro us us' hus
    rw [unlimited_eq_watchedAtom g hus.1]
    exact correspond_watchedAtom_guarded g tokens.length room us us' hus
  rw [Grammar.read_eq_readIn]
  exact (holds_readIn (compatible_refl g) hatom (beside_self (Nat.le_refl _))).1.eq

/-- When an atom is over, as many levels are open as before it. -/
theorem openLevels_unlimited {tokens : List Token} {result : Expr × List Token}
    (h : (g.unlimited tokens).outcome = .ok result) :
    openLevels (g.unlimited tokens).events = 0 := by
  have hatom := correspond_watchedAtom_outcome g (Nat.le_refl tokens.length) tokens tokens
    (beside_self (Nat.le_refl _))
  exact (hatom.2 result h).openLevels_eq

end Unlimited

/-! ## Side by side -/

/-- The tokens are an atom, within the limit. -/
def ReadAlone (g : Grammar) (tokens : List Token) : Prop :=
  ∃ e, g.atom nestingLimit tokens = .ok (e, [])

/-- An operator of sums or of products. -/
def Token.Joins (token : Token) : Prop :=
  ∃ op, token.kind = .operator op ∧ (op.isAdditive = true ∨ op.isMultiplicative = true)

theorem ReadAlone.derives {n : Nat} {tokens : List Token}
    (h : ReadAlone (Grammar.endingAt n) tokens) :
    (∀ t ∈ tokens, t.Convertible) ∧ ∃ e, DerivesWithin .atom nestingLimit tokens e := by
  obtain ⟨e, he⟩ := h
  have hforeseen := (predictive_atom nestingLimit).foreseen n tokens
  rw [show atomIn nestingLimit n tokens = .ok (e, []) from he] at hforeseen
  cases hforeseen with
  | read htokens hconv hstands =>
    rw [List.append_nil] at htokens
    exact ⟨htokens ▸ hconv, e, htokens ▸ hstands⟩

/-- Atoms that are joined by operators of sums and products make up a sum. What comes before the
product that is being read is the beginning of one. -/
theorem derives_joined {room : Nat} {rest : List (Token × List Token)} (before current : List Token)
    (hbefore : ∀ ts e, DerivesWithin .multiplicative room ts e →
      ∃ e', DerivesWithin .additive room (before ++ ts) e')
    (hcurrent : ∃ e, DerivesWithin .multiplicative room current e)
    (hrest : ∀ p ∈ rest, p.1.Joins ∧ ∃ e, DerivesWithin .atom room p.2 e) :
    ∃ e, DerivesWithin .additive room
      (before ++ (current ++ rest.flatMap fun p => p.1 :: p.2)) e := by
  induction rest generalizing before current with
  | nil =>
    obtain ⟨e, he⟩ := hcurrent
    rw [List.flatMap_nil, List.append_nil]
    exact hbefore current e he
  | cons p rest ih =>
    obtain ⟨sign, operand⟩ := p
    obtain ⟨⟨⟨op, hkind, hop⟩, r, dr, hdr, hr⟩, hrest⟩ := List.forall_mem_cons.mp hrest
    obtain ⟨l, dl, hdl, hl⟩ := hcurrent
    rw [List.flatMap_cons, List.cons_append]
    rcases hop with hadditive | hmultiplicative
    · obtain ⟨l', dl', hdl', hl'⟩ := hbefore current l ⟨dl, hdl, hl⟩
      have hnext := ih (before ++ (current ++ [sign])) operand ?_ ⟨r, dr, hdr, .factor hr⟩ hrest
      · simpa using hnext
      · rintro ts e ⟨d, hd, he⟩
        have hsum := Derives.sum hl' hkind hadditive he
        exact ⟨_, max dl' d, by omega, by simpa using hsum⟩
    · have hnext := ih before (current ++ sign :: operand) hbefore
        ⟨_, max dl dr, by omega, .product hl hkind hmultiplicative hr⟩ hrest
      simpa using hnext

/-- Closing a level gives it back: what is read alone is read next to anything that is. -/
theorem parse_of_joined {source : Text} {first : List Token} {rest : List (Token × List Token)}
    (hfirst : ReadAlone ⟨source.length, .folding⟩ first)
    (hrest : ∀ p ∈ rest, p.1.Joins ∧ ReadAlone ⟨source.length, .folding⟩ p.2)
    (h : significant (tokenize source) = first ++ rest.flatMap fun p => p.1 :: p.2) :
    ∃ e, Expr.parse source = .ok e := by
  obtain ⟨hconv, e, d, hd, he⟩ := ReadAlone.derives hfirst
  obtain ⟨sum, d, hd, hsum⟩ := derives_joined [] first
    (fun ts e ⟨d, hd, he⟩ => ⟨e, d, hd, .term he⟩) ⟨e, d, hd, .factor he⟩
    fun p hp => ⟨(hrest p hp).1, (ReadAlone.derives (hrest p hp).2).2⟩
  refine ⟨sum, ?_⟩
  unfold Expr.parse
  rw [h]
  refine (Grammar.read_settles rfl (.uncompared hsum) ?_ nestingLimit).1 hd
  simp only [List.nil_append, List.forall_mem_append, List.mem_flatMap]
  refine ⟨hconv, ?_⟩
  rintro t ⟨p, hp, ht⟩
  obtain ⟨⟨op, hkind, -⟩, halone⟩ := hrest p hp
  rcases List.mem_cons.mp ht with rfl | ht
  · exact fun hinteger => absurd (hkind.symm.trans hinteger) nofun
  · exact (ReadAlone.derives halone).1 t ht

/-! ## The limit -/

/-- The limit on nesting is exact. `Expr.watch` is the reader without it: no limit that is as large
as the number of tokens changes its outcome. As long as it has no more levels open than the limit,
the outcomes are the same; otherwise the error names the first token that opens a level beyond the
limit. A level that is closed does not count: after every atom as many are open as before, and
atoms that are read alone are read in any number next to each other. -/
theorem Expr.parse_eq_of_watch (source : Text) :
    (∀ room, (significant (tokenize source)).length ≤ room →
      (watch source).outcome =
        Grammar.read ⟨source.length, .folding⟩ room (significant (tokenize source))) ∧
    (OpenAtMost nestingLimit (watch source).events → parse source = (watch source).outcome) ∧
    (∀ token, FirstBeyond nestingLimit (watch source).events token →
      parse source = malformedAt .nestingTooDeep token) ∧
    (¬ OpenAtMost nestingLimit (watch source).events →
      ∃ token, FirstBeyond nestingLimit (watch source).events token) ∧
    (∀ tokens result, (Grammar.unlimited ⟨source.length, .folding⟩ tokens).outcome = .ok result →
      openLevels (Grammar.unlimited ⟨source.length, .folding⟩ tokens).events = 0) ∧
    ∀ (first : List Token) (rest : List (Token × List Token)),
      ReadAlone ⟨source.length, .folding⟩ first →
      (∀ p ∈ rest, p.1.Joins ∧ ReadAlone ⟨source.length, .folding⟩ p.2) →
      significant (tokenize source) = first ++ rest.flatMap (fun p => p.1 :: p.2) →
      ∃ e, parse source = .ok e := by
  have hparse : parse source = (watch source).within nestingLimit :=
    (unlimited_within _ _).symm
  refine ⟨fun room hroom => unlimited_outcome _ hroom, fun hfits => ?_, fun token htoken => ?_,
    fun hdeep => ?_, fun _ _ => openLevels_unlimited _, fun _ _ => parse_of_joined⟩
  · rw [hparse]
    cases hover : overflow nestingLimit (watch source).events with
    | none => exact Watched.within_of_fits hover
    | some token => exact absurd hfits (firstBeyond_of_overflow hover).not_openAtMost
  · rw [hparse]
    exact Watched.within_of_overflow (overflow_of_firstBeyond htoken)
  · cases hover : overflow nestingLimit (watch source).events with
    | none => exact absurd (openAtMost_of_overflow hover) hdeep
    | some token => exact ⟨token, firstBeyond_of_overflow hover⟩

/-- Sixty-four signs are within the limit; of sixty-five parentheses the last is refused. -/
theorem Expr.parse_eq_of_watch_at_limit :
    Expr.parse (List.replicate 64 '-' ++ ['a']) =
      (Expr.watch (List.replicate 64 '-' ++ ['a'])).outcome ∧
    Expr.parse (List.replicate 65 '(' ++ ['a']) =
      malformedAt .nestingTooDeep ⟨.leftParen, ['('], 64⟩ := by
  have hsigns : overflow nestingLimit
      (Expr.watch (List.replicate 64 '-' ++ ['a'])).events = none := by
    decide +kernel
  have hparens : overflow nestingLimit (Expr.watch (List.replicate 65 '(' ++ ['a'])).events =
      some ⟨.leftParen, ['('], 64⟩ := by
    decide +kernel
  exact ⟨(Expr.parse_eq_of_watch _).2.1 (openAtMost_of_overflow hsigns),
    (Expr.parse_eq_of_watch _).2.2.1 _ (firstBeyond_of_overflow hparens)⟩

end EffectLang
