import EffectLang.Proofs.Token.Spacing

/-!
# Other white space

Where a source has white space between tokens it may have any other, as long as there is some. The
tokens are the same ones, apart from their offsets, provided that there is no white space inside of
one. So the source is read in the same way.
-/

namespace EffectLang
open Vocabulary (ofSpelling?)

/-! ## Texts with other white space -/

/-- The second text is the first one with each run of white space replaced by another one, or left
out at the end. -/
inductive Respaced : Text → Text → Prop
  | done {w : Text} : (∀ c ∈ w, isSpace c = true) → Respaced w []
  | keep (c : Char) {a b : Text} : Respaced a b → Respaced (c :: a) (c :: b)
  | space {w w' a b : Text} : w ≠ [] → (∀ c ∈ w, isSpace c = true) → w' ≠ [] →
      (∀ c ∈ w', isSpace c = true) → Respaced a b → Respaced (w ++ a) (w' ++ b)

namespace Respaced
variable {a b x : Text}

theorem append (x : Text) (h : Respaced a b) : Respaced (x ++ a) (x ++ b) := by
  induction x with
  | nil => exact h
  | cons c x ih => exact .keep c ih

theorem of_nil (h : Respaced [] b) : b = [] := by
  have hempty {text : Text} (h : Respaced text b) (htext : text = []) : b = [] := by
    cases h with
    | done => rfl
    | keep => cases htext
    | space hne => exact absurd (List.append_eq_nil_iff.mp htext).1 hne
  exact hempty h rfl

/-- What is no white space is kept. -/
theorem exists_append (h : Respaced (x ++ a) b) (hx : ∀ c ∈ x, isSpace c = false) :
    ∃ b', b = x ++ b' ∧ Respaced a b' := by
  induction x generalizing b with
  | nil => exact ⟨b, rfl, h⟩
  | cons c x ih =>
    obtain ⟨hc, hx⟩ := List.forall_mem_cons.mp hx
    have hnot : ¬ isSpace c = true := Bool.eq_false_iff.mp hc
    generalize htext : c :: x ++ a = text at h
    cases h with
    | done hspaces => exact absurd (hspaces c (by rw [← htext]; exact List.mem_cons_self)) hnot
    | keep d h =>
      obtain ⟨rfl, rfl⟩ := List.cons.inj htext
      obtain ⟨b', rfl, hb'⟩ := ih h hx
      exact ⟨b', rfl, hb'⟩
    | @space w _ _ _ hne hspaces =>
      cases w with
      | nil => exact absurd rfl hne
      | cons d w =>
        obtain ⟨rfl, -⟩ := List.cons.inj htext
        exact absurd (hspaces c List.mem_cons_self) hnot

/-- After white space on both sides the texts are still the same but for white space. -/
theorem dropWhile (h : Respaced a b) :
    Respaced (a.dropWhile isSpace) (b.dropWhile isSpace) := by
  induction h with
  | done hspaces =>
    refine .done fun c hc => hspaces c ?_
    exact (List.dropWhile_suffix isSpace).subset hc
  | keep c h ih =>
    by_cases hc : isSpace c = true
    · rw [List.dropWhile_cons_of_pos hc, List.dropWhile_cons_of_pos hc]
      exact ih
    · rw [List.dropWhile_cons_of_neg hc, List.dropWhile_cons_of_neg hc]
      exact .keep c h
  | space _ hspaces _ hspaces' _ ih =>
    rw [List.dropWhile_append_of_pos hspaces, List.dropWhile_append_of_pos hspaces']
    exact ih

theorem yields (h : Respaced a b) : Text.Yields a b := by
  intro d hd
  cases h with
  | done => cases hd
  | keep c => exact .inr hd
  | @space _ w' _ _ _ _ hne hspaces =>
    cases w' with
    | nil => exact absurd rfl hne
    | cons c w' =>
      obtain rfl := Option.some.inj hd
      exact .inl (hspaces c List.mem_cons_self)

end Respaced

/-! ## Tokens -/

/-- A class of characters without white space. -/
theorem isSpace_eq_false {p : Char → Bool} (hp : [' ', '\t', '\r', '\n'].all (!p ·) = true)
    {c : Char} (hc : p c = true) : isSpace c = false := by
  refine Bool.eq_false_iff.mpr fun hspace => ?_
  have hnot := List.all_eq_true.mp hp c (mem_of_isSpace hspace)
  rw [hc] at hnot
  cases hnot

/-- After the first character of a sign there is no white space in it. -/
theorem clear_of_signExtent {c : Char} {cs : Text} {kind : TokenKind} {n : Nat}
    (h : signExtent c cs = (kind, n)) : ∀ d ∈ cs.take n, isSpace d = false := by
  cases hpair : cs.head?.bind fun d => (ofSpelling? [c, d] : Option BinaryOp) with
  | some op =>
    obtain ⟨d, hd, hop⟩ := Option.bind_eq_some_iff.mp hpair
    obtain ⟨cs, rfl⟩ := List.head?_eq_some_iff.mp hd
    have hboth : signExtent c (d :: cs) = (.operator op, 1) := by
      unfold signExtent
      rw [hpair]
    obtain ⟨rfl, rfl⟩ := Prod.mk.inj (hboth.symm.trans h)
    refine List.forall_mem_singleton.mpr (Bool.eq_false_iff.mpr fun hspace => ?_)
    rw [ofSpelling?_space c hspace] at hop
    cases hop
  | none =>
    obtain ⟨halone, hzero⟩ := Lexeme.signExtent_alone hpair
    obtain rfl : n = 0 := by rw [← hzero, ← halone, h]
    exact List.forall_mem_nil _

/-- Only white space, and what begins with a quote, can have white space in it. -/
theorem clear_of_extent {c : Char} (hspace : isSpace c = false) (hquote : c ≠ '"') (cs : Text) :
    ∀ d ∈ c :: cs.take (extent c cs).2, isSpace d = false := by
  have hdigit {d : Char} (hd : d.isDigit = true) : isSpace d = false := (isDigit_excludes hd).1
  refine List.forall_mem_cons.mpr ⟨hspace, ?_⟩
  have hrule := cutRule_extent c cs
  generalize extent c cs = cut at hrule ⊢
  cases hrule with
  | space hc => exact absurd hc (Bool.eq_false_iff.mp hspace)
  | string hc => exact absurd hc hquote
  | numeral =>
    rcases Lexeme.numeralExtent_cases cs with ⟨digits, hdigits, hextent, htake⟩ |
      ⟨whole, fraction, hwhole, hfraction, hextent, htake⟩
    · rw [hextent]
      dsimp only
      rw [htake]
      exact fun d hd => hdigit (hdigits d hd)
    · rw [hextent]
      dsimp only
      rw [htake]
      simp only [List.forall_mem_append, List.forall_mem_cons]
      exact ⟨fun d hd => hdigit (hwhole d hd), by decide, fun d hd => hdigit (hfraction d hd)⟩
  | fraction =>
    dsimp only
    rw [take_length_takeWhile]
    exact fun d hd => hdigit (List.all_eq_true.mp List.all_takeWhile d hd)
  | word =>
    dsimp only
    rw [take_length_takeWhile]
    exact fun d hd => isSpace_eq_false (p := Text.isWordChar) (by decide)
      (List.all_eq_true.mp List.all_takeWhile d hd)
  | sign => exact clear_of_signExtent rfl

/-- Only white space, strings and errors can have white space in them. -/
theorem clear_of_mem_scan {start : Nat} {source : Text} {t : Token} (h : t ∈ scan start source)
    (hspace : t.kind ≠ .whitespace) (hstring : t.kind ≠ .string) (herror : t.kind ≠ .error) :
    ∀ c ∈ t.text, isSpace c = false := by
  refine forall_mem_scan (p := fun t => t.kind ≠ .whitespace → t.kind ≠ .string →
    t.kind ≠ .error → ∀ c ∈ t.text, isSpace c = false)
    (fun c cs start hspace hstring herror => ?_) t h hspace hstring herror
  have hfirst : isSpace c = false :=
    Bool.eq_false_iff.mpr fun hc => hspace ((extent_fst_eq_whitespace_iff c cs).mpr hc)
  refine clear_of_extent hfirst ?_ cs
  rintro rfl
  rw [Lexeme.extent_quote] at hstring herror
  exact (stringExtent_fst cs).elim hstring herror

theorem significant_scan_dropWhile (start : Nat) (text : Text) :
    ∃ start', significant (scan start text) =
      significant (scan start' (text.dropWhile isSpace)) := by
  have hspaces : ∀ c ∈ text.takeWhile isSpace, isSpace c = true :=
    List.all_eq_true.mp List.all_takeWhile
  have hscan := significant_scan_spaces hspaces start (text.dropWhile isSpace)
  rw [List.takeWhile_append_dropWhile] at hscan
  exact ⟨_, hscan⟩

/-- Other white space changes no token that has none inside. -/
theorem alike_scan_of_respaced {text text' : Text} (h : Respaced text text') (start start' : Nat)
    (htokens : ∀ t ∈ scan start text, t.isSignificant = true →
      t.kind ≠ .error ∧ ∀ c ∈ t.text, isSpace c = false) :
    Alike (significant (scan start text)) (significant (scan start' text')) := by
  fun_induction scan start text generalizing text' start' with
  | case1 =>
    obtain rfl := h.of_nil
    rw [scan_nil]
    rfl
  | case2 start c cs kind n hextent token =>
    rename_i ih
    obtain ⟨htoken, htokens⟩ := List.forall_mem_cons.mp htokens
    by_cases hspace : kind = .whitespace
    · subst hspace
      have hc : isSpace c = true := isSpace_of_extent hextent c List.mem_cons_self
      obtain rfl : (cs.takeWhile isSpace).length = n := by
        rw [extent, if_pos hc] at hextent
        exact (Prod.mk.inj hextent).2
      have hafter := h.dropWhile
      rw [List.dropWhile_cons_of_pos hc, ← drop_length_takeWhile] at hafter
      obtain ⟨next, hnext⟩ := significant_scan_dropWhile start' text'
      rw [hnext]
      exact ih hafter next htokens
    · have hkept : token.isSignificant = true := decide_eq_true hspace
      obtain ⟨herror, hclear⟩ := htoken hkept
      have hsplit : c :: cs = token.text ++ cs.drop n := by simp [token]
      rw [hsplit] at h
      obtain ⟨rest, rfl, hrest⟩ := h.exists_append hclear
      have hlexeme : Lexeme kind token.text rest :=
        .of_extent hextent hspace (fun hopen => herror hopen.2) hrest.yields
      have hkept' : Token.isSignificant ⟨kind, token.text, start'⟩ = true := decide_eq_true hspace
      rw [hlexeme.scan_eq, significant_cons hkept, significant_cons hkept']
      exact congrArg (token.look :: ·) (ih hrest _ htokens)

/-! ## Sources -/

/-- Where no token is in error and no string has white space in it, the tokens stay the same. -/
theorem alike_tokenize_of_respaced {source source' : Text} (h : Respaced source source')
    (htokens : ∀ t ∈ significant (tokenize source), t.kind ≠ .error ∧
      (t.kind = .string → ∀ c ∈ t.text, isSpace c = false)) :
    Alike (significant (tokenize source)) (significant (tokenize source')) := by
  rw [significant_tokenize_eq] at htokens
  have hscanned : ∀ t ∈ scan 0 source, t.isSignificant = true →
      t.kind ≠ .error ∧ ∀ c ∈ t.text, isSpace c = false := by
    intro t ht hsignificant
    -- only words are marked
    have hmarked (hword : t.kind.isWord = false) :
        t ∈ markFrom .nothing (significant (scan 0 source)) :=
      mem_markFrom_of_not_isWord (List.mem_filter.mpr ⟨ht, hsignificant⟩) hword
    have herror : t.kind ≠ .error := fun hkind =>
      (htokens t (hmarked (by rw [hkind]; rfl))).1 hkind
    refine ⟨herror, ?_⟩
    by_cases hstring : t.kind = .string
    · exact (htokens t (hmarked (by rw [hstring]; rfl))).2 hstring
    · exact clear_of_mem_scan ht (of_decide_eq_true hsignificant) hstring herror
  rw [significant_tokenize_eq, significant_tokenize_eq]
  exact (alike_scan_of_respaced h 0 0 hscanned).markFrom .nothing

/-- Two failures with the same cause and about the same text, wherever they are. -/
def ParseFailure.SameCause : ParseFailure → ParseFailure → Prop
  | malformed e, malformed e' => e.cause = e'.cause ∧ e.text = e'.text
  | numeralTooLong count, numeralTooLong count' => count = count'
  | _, _ => False

/-- Sources whose tokens are alike are read in the same way. -/
theorem Expr.sameOutcome_of_alike {source source' : Text}
    (h : Alike (significant (tokenize source)) (significant (tokenize source'))) :
    SameOutcome ParseFailure.SameCause Eq (parse source) (parse source') := by
  have hc : Compatible ParseFailure.SameCause (fun t t' => t'.look = t.look) Eq
      ⟨source.length, .folding⟩ ⟨source'.length, .folding⟩ :=
    { compatible_refl ⟨source.length, .folding⟩ with
      look := fun h => h
      at_token := fun _ _ _ => ⟨rfl, rfl⟩
      at_end := ⟨rfl, rfl⟩
      digits := fun _ => rfl }
  have hbeside : Beside (fun t t' => t'.look = t.look) (significant (tokenize source)).length
      (significant (tokenize source)) (significant (tokenize source')) := by
    refine ⟨Nat.le_refl _, ?_⟩
    have hforall : List.Forall₂ Eq ((significant (tokenize source)).map Token.look)
        ((significant (tokenize source')).map Token.look) := by
      rw [List.forall₂_eq_eq_eq]
      exact h
    rw [List.forall₂_map_left_iff, List.forall₂_map_right_iff] at hforall
    exact hforall.imp fun _ _ hlook => hlook.symm
  have hread := holds_readIn (C := .plain _) hc
    (correspond_atom hc (significant (tokenize source)).length nestingLimit) hbeside
  rwa [← Grammar.read_eq_readIn, ← Grammar.read_eq_readIn] at hread

end EffectLang
