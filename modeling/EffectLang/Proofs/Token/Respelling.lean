import EffectLang.Proofs.Grammar.Foresight
import EffectLang.Proofs.Token.Shape

/-!
# Sources for beginnings of token sequences

Any beginning of the tokens of a source, followed by fillers, makes up the tokens of another source:
the texts of the unmarked tokens, each with a space after it. A space ends every token that is not
in error, and marking treats a beginning as it treats the whole.
-/

namespace EffectLang
open Vocabulary (ofSpelling?)

/-! ## What follows a token -/

theorem stops_space {p : Char → Bool} (h : p ' ' = false) (rest : Text) :
    Text.Stops p (' ' :: rest) :=
  Text.stops_cons.mpr h

/-- What follows a token as well as `rest` does: something that begins with the same character, or
with a space, or nothing. -/
def Text.Yields (rest rest' : Text) : Prop :=
  ∀ d ∈ rest'.head?, isSpace d = true ∨ d ∈ rest.head?

theorem Text.Yields.space {c : Char} (h : isSpace c = true) (rest cs : Text) :
    Text.Yields rest (c :: cs) := by
  intro d hd
  obtain rfl := Option.some.inj hd
  exact .inl h

theorem mem_of_isSpace {c : Char} (h : isSpace c = true) : c ∈ [' ', '\t', '\r', '\n'] := by
  simp only [isSpace, Bool.or_eq_true, decide_eq_true_eq] at h
  rcases h with ((rfl | rfl) | rfl) | rfl <;> decide

/-- A run that ends before `rest` ends there too, when it has no spaces. -/
theorem Text.Yields.stops {rest rest' : Text} (h : rest.Yields rest') {p : Char → Bool}
    (hp : [' ', '\t', '\r', '\n'].all (!p ·) = true) (hrest : rest.Stops p) : rest'.Stops p := by
  intro d hd
  rcases h d hd with hspace | hmem
  · have hnot := List.all_eq_true.mp hp d (mem_of_isSpace hspace)
    simpa using hnot
  · exact hrest d hmem

/-- No operator ends with white space. -/
theorem ofSpelling?_space (c : Char) {d : Char} (h : isSpace d = true) :
    (ofSpelling? [c, d] : Option BinaryOp) = none := by
  have hspelling : ∀ op : BinaryOp, op.spelling.getLast?.any isSpace = false := by
    intro op
    cases op <;> rfl
  refine Vocabulary.ofSpelling?_eq_none fun op hop => ?_
  have heq : op.spelling = [c, d] := hop
  have hlast := hspelling op
  rw [heq] at hlast
  exact absurd h (Bool.eq_false_iff.mp hlast)

namespace Lexeme
variable {c : Char} {cs rest : Text} {kind : TokenKind} {n : Nat}

theorem of_numeralExtent (hdigit : c.isDigit = true) (h : numeralExtent cs = (kind, n))
    (hrest : Text.Yields (cs.drop n) rest) : Lexeme kind (c :: cs.take n) rest := by
  rcases numeralExtent_split cs with ⟨digits, after, rfl, hdigits, hstops, hpoint, hextent⟩ |
    ⟨whole, fraction, after, rfl, hwhole, hfraction, hstops, hextent⟩
  · obtain ⟨rfl, rfl⟩ := Prod.mk.inj (hextent.symm.trans h)
    rw [List.drop_left] at hrest
    refine ⟨c, digits, by rw [List.take_left], ?_⟩
    rw [extent_digit hdigit, numeralExtent_integer hdigits (hrest.stops (by decide) hstops)
      (hrest.stops (by decide) hpoint)]
  · obtain ⟨rfl, rfl⟩ := Prod.mk.inj (hextent.symm.trans h)
    have htake := take_float whole fraction after
    have hdrop : (whole ++ '.' :: (fraction ++ after)).drop (whole.length + 1 + fraction.length) =
        after := by
      have hsplit := List.take_append_drop (whole.length + 1 + fraction.length)
        (whole ++ '.' :: (fraction ++ after))
      rw [htake] at hsplit
      simpa using hsplit
    rw [hdrop] at hrest
    refine ⟨c, whole ++ '.' :: fraction, by rw [htake], ?_⟩
    rw [extent_digit hdigit, List.append_assoc, List.cons_append,
      numeralExtent_float hwhole hfraction (hrest.stops (by decide) hstops), List.length_append,
      List.length_cons]
    congr 1
    omega

/-- A point and digits. -/
theorem of_fraction (h : cs.head?.any Char.isDigit = true) (hrest : rest.Stops Char.isDigit) :
    Lexeme .float ('.' :: cs.takeWhile Char.isDigit) rest := by
  obtain ⟨d, cs, rfl⟩ : ∃ d cs', cs = d :: cs' := by
    cases cs with
    | nil => cases h
    | cons d cs => exact ⟨d, cs, rfl⟩
  have hd : d.isDigit = true := h
  have hrun : ∀ c ∈ (d :: cs).takeWhile Char.isDigit, c.isDigit = true :=
    List.all_eq_true.mp List.all_takeWhile
  have hfirst : ((d :: cs).takeWhile Char.isDigit ++ rest).head?.any Char.isDigit = true := by
    rw [List.takeWhile_cons_of_pos hd]
    exact h
  have hclass : isSpace '.' = false ∧ '.' ≠ '"' ∧ '.'.isDigit = false := by decide
  refine ⟨'.', _, rfl, ?_⟩
  rw [extent, if_neg (by simp [hclass.1]), if_neg hclass.2.1, if_neg (by simp [hclass.2.2]),
    if_pos (by simp only [hfirst]; rfl), Text.takeWhile_append hrun hrest]

theorem of_stringExtent (h : stringExtent cs = (kind, n)) (herror : kind ≠ .error) (rest : Text) :
    Lexeme kind ('"' :: cs.take n) rest := by
  have hlexed := lexed_stringExtent cs 0
  rw [h] at hlexed
  unfold stringExtent at h
  split at h
  · obtain ⟨rfl, rfl⟩ := Prod.mk.inj h
    obtain ⟨name, hname, hquote⟩ := hlexed.string rfl
    dsimp only at hname
    rw [hname]
    exact .string hquote
  · obtain ⟨rfl, -⟩ := Prod.mk.inj h
    exact absurd rfl herror

/-- A character that begins no sign of two with the next one. -/
theorem signExtent_alone
    (h : cs.head?.bind (fun d => (ofSpelling? [c, d] : Option BinaryOp)) = none) :
    signExtent c cs = signExtent c [] ∧ (signExtent c []).2 = 0 := by
  constructor
  · unfold signExtent
    rw [h]
    rfl
  · unfold signExtent
    repeat' split
    all_goals first | rfl | contradiction

theorem of_signExtent
    (hclass : isSpace c = false ∧ c ≠ '"' ∧ c.isDigit = false ∧ Text.isWordStart c = false)
    (hpoint : ¬ (c = '.' && cs.head?.any Char.isDigit) = true) (h : signExtent c cs = (kind, n))
    (hrest : Text.Yields (cs.drop n) rest) : Lexeme kind (c :: cs.take n) rest := by
  obtain ⟨hspace, hquote, hdigit, hword⟩ := hclass
  have hsign {cs : Text} (hpoint : ¬ (c = '.' && cs.head?.any Char.isDigit) = true) :
      extent c cs = signExtent c cs := by
    rw [extent, if_neg (by simp [hspace]), if_neg hquote, if_neg (by simp [hdigit]),
      if_neg hpoint, if_neg (by simp [hword])]
  cases hpair : cs.head?.bind fun d => (ofSpelling? [c, d] : Option BinaryOp) with
  | some op =>
    obtain ⟨d, hd, hop⟩ := Option.bind_eq_some_iff.mp hpair
    obtain ⟨cs, rfl⟩ := List.head?_eq_some_iff.mp hd
    have hboth (cs : Text) : signExtent c (d :: cs) = (.operator op, 1) := by
      unfold signExtent
      rw [List.head?_cons, Option.bind_some, hop]
    have hpoint' : ¬ (c = '.' && (d :: rest).head?.any Char.isDigit) = true := hpoint
    obtain ⟨rfl, rfl⟩ := Prod.mk.inj ((hboth cs).symm.trans h)
    exact ⟨c, [d], rfl, (hsign hpoint').trans (hboth _)⟩
  | none =>
    obtain ⟨halone, hzero⟩ := signExtent_alone hpair
    obtain rfl : n = 0 := by rw [← hzero, ← halone, h]
    rw [List.drop_zero] at hrest
    -- neither white space nor what followed before makes a sign of two or a number of the token
    have halone' : rest.head?.bind
        (fun d => (ofSpelling? [c, d] : Option BinaryOp)) = none := by
      refine Option.bind_eq_none_iff.mpr fun d hd => ?_
      rcases hrest d hd with hspaced | hmem
      · exact ofSpelling?_space c hspaced
      · exact Option.bind_eq_none_iff.mp hpair d hmem
    have hpoint' : ¬ (c = '.' && rest.head?.any Char.isDigit) = true := by
      intro hnumber
      obtain ⟨hc, hfirst⟩ := Bool.and_eq_true_iff.mp hnumber
      obtain ⟨d, hd, hdigit⟩ := (Option.any_eq_true _ _).mp hfirst
      have hstops : Text.Stops Char.isDigit cs := fun d hd => Bool.eq_false_iff.mpr fun hdigit =>
        hpoint (Bool.and_eq_true_iff.mpr ⟨hc, (Option.any_eq_true _ _).mpr ⟨d, hd, hdigit⟩⟩)
      exact absurd hdigit (Bool.eq_false_iff.mp (hrest.stops (by decide) hstops d hd))
    refine ⟨c, [], rfl, ?_⟩
    rw [List.nil_append, hsign hpoint', (signExtent_alone halone').1, ← halone, h]
    rfl

/-- A token that is neither white space nor a string without its closing quote ends as well before
anything that yields. -/
theorem of_extent (h : extent c cs = (kind, n)) (hspace : kind ≠ .whitespace)
    (hopen : ¬ (c = '"' ∧ kind = .error)) (hrest : Text.Yields (cs.drop n) rest) :
    Lexeme kind (c :: cs.take n) rest := by
  have hrule := cutRule_extent c cs
  generalize extent c cs = cut at hrule h
  cases hrule with
  | space => exact absurd (Prod.mk.inj h).1.symm hspace
  | string hquote =>
    subst hquote
    exact of_stringExtent h (fun herror => hopen ⟨rfl, herror⟩) rest
  | numeral hdigit => exact of_numeralExtent hdigit h hrest
  | fraction hpoint hfirst =>
    obtain ⟨rfl, rfl⟩ := Prod.mk.inj h
    subst hpoint
    rw [take_length_takeWhile]
    rw [drop_length_takeWhile] at hrest
    exact of_fraction hfirst (hrest.stops (by decide) (Text.stops_dropWhile _ _))
  | word hstart =>
    obtain ⟨rfl, rfl⟩ := Prod.mk.inj h
    have hword : Text.isWord (c :: cs.takeWhile Text.isWordChar) = true :=
      Bool.and_eq_true_iff.mpr ⟨hstart, List.all_takeWhile⟩
    rw [take_length_takeWhile]
    rw [drop_length_takeWhile] at hrest
    exact .word hword (hrest.stops (by decide) (Text.stops_dropWhile _ _))
  | sign hspace hquote hdigit hpoint hword =>
    exact of_signExtent ⟨hspace, hquote, hdigit, hword⟩ hpoint h hrest

end Lexeme

/-- A token that is cut off again where a space follows it. -/
structure Token.Separable (t : Token) : Prop where
  significant : t.isSignificant = true
  lexeme : ∀ rest, Lexeme t.kind t.text (' ' :: rest)

theorem Lexeme.stops_isSpace {kind : TokenKind} {text rest : Text} (h : Lexeme kind text rest)
    (hkind : kind ≠ .whitespace) (more : Text) : Text.Stops isSpace (text ++ more) := by
  obtain ⟨c, cs, rfl, hextent⟩ := h
  refine Text.stops_cons.mpr (Bool.eq_false_iff.mpr fun hspace => hkind ?_)
  rw [extent, if_pos hspace] at hextent
  exact (Prod.mk.inj hextent).1.symm

theorem separable_of_mem_scan {start : Nat} {source : Text} {t : Token} (h : t ∈ scan start source)
    (hsignificant : t.isSignificant = true) (herror : t.kind ≠ .error) : t.Separable := by
  refine forall_mem_scan (p := fun t => t.isSignificant = true → t.kind ≠ .error → t.Separable)
    (fun c cs start hsignificant herror => ⟨hsignificant, ?_⟩) t h hsignificant herror
  exact fun rest => .of_extent rfl (of_decide_eq_true hsignificant) (fun h => herror h.2)
    (.space (by decide) _ rest)

theorem Filler.separable (filler : Filler) : filler.token.Separable := by
  cases filler with
  | leftParen => exact ⟨rfl, fun _ => .leftParen⟩
  | rightParen => exact ⟨rfl, fun _ => .rightParen⟩
  | comma => exact ⟨rfl, fun _ => .comma⟩
  | number =>
    exact ⟨rfl, fun rest => .integer isDigits_zero (stops_space (by decide) rest)
      (stops_space (by decide) rest)⟩
  | name => exact ⟨rfl, fun _ => Lexeme.string (by decide : '"' ∉ ['x'])⟩

theorem separable_of_mem_fill {fillers : List Filler} {t : Token} (h : t ∈ fill fillers) :
    t.Separable := by
  obtain ⟨filler, -, rfl⟩ := List.mem_map.mp h
  exact filler.separable

/-! ## The texts of tokens, spaced -/

/-- The texts of the tokens, each with a space after it. -/
def respell (ts : List Token) : Text :=
  ts.flatMap fun t => t.text ++ [' ']

theorem respell_cons (t : Token) (ts : List Token) :
    respell (t :: ts) = t.text ++ ' ' :: respell ts := by
  simp [respell]

theorem stops_respell {ts : List Token} (h : ∀ t ∈ ts, t.Separable) :
    (respell ts).Stops isSpace := by
  cases ts with
  | nil => nofun
  | cons t ts =>
    have ht := h t List.mem_cons_self
    rw [respell_cons]
    exact (ht.lexeme []).stops_isSpace (of_decide_eq_true ht.significant) _

/-- Such a text is cut into the tokens that it was made of. -/
theorem alike_scan_respell {ts : List Token} (h : ∀ t ∈ ts, t.Separable) (start : Nat) :
    Alike (significant (scan start (respell ts))) ts := by
  induction ts generalizing start with
  | nil => exact congrArg (·.map Token.look) (congrArg significant (scan_nil start))
  | cons t ts ih =>
    obtain ⟨ht, hts⟩ := List.forall_mem_cons.mp h
    have hspace : Lexeme .whitespace [' '] (respell ts) := .space (stops_respell hts)
    have hkept : Token.isSignificant ⟨t.kind, t.text, start⟩ = true := ht.significant
    rw [respell_cons, (ht.lexeme _).scan_eq, significant_cons hkept,
      show ' ' :: respell ts = [' '] ++ respell ts from rfl, hspace.scan_eq]
    exact congrArg (t.look :: ·) (ih hts _)

/-! ## Marking, token by token -/

namespace Announced

/-- The kind that marking gives a token. -/
def marked (announced : Announced) (kind : TokenKind) : TokenKind :=
  match announced, kind.isWord with
  | name marked, true => marked
  | _, _ => kind

/-- What is announced after a token. -/
def next (announced : Announced) (kind : TokenKind) : Announced :=
  if kind = .whitespace then announced
  else
    match announced, kind.isWord with
    | name _, true => nothing
    | _, _ => announced.after kind

theorem marks_nothing : nothing.Marks := trivial

theorem marked_of_not_isWord (announced : Announced) {kind : TokenKind}
    (h : kind.isWord = false) : announced.marked kind = kind := by
  unfold marked
  rw [h]
  cases announced <;> rfl

/-- Marking makes words of words. -/
theorem Marks.isWord_marked {announced : Announced} (h : announced.Marks) (kind : TokenKind) :
    (announced.marked kind).isWord = kind.isWord := by
  unfold marked
  split
  · next hword =>
    rw [hword]
    rcases h with rfl | rfl <;> rfl
  · rfl

/-- What is no word stays what it is, and nothing becomes it. -/
theorem Marks.marked_eq_iff {announced : Announced} (h : announced.Marks) {kind : TokenKind}
    {other : TokenKind} (hother : other.isWord = false) :
    announced.marked kind = other ↔ kind = other := by
  constructor
  · intro heq
    have hword : kind.isWord = false := by rw [← h.isWord_marked kind, heq, hother]
    rwa [announced.marked_of_not_isWord hword] at heq
  · rintro rfl
    exact announced.marked_of_not_isWord hother

theorem Marks.next {announced : Announced} (h : announced.Marks) (kind : TokenKind) :
    (announced.next kind).Marks := by
  unfold Announced.next
  split
  · exact h
  · split
    · trivial
    · exact h.after kind

end Announced

/-- Marking goes from token to token, and looks at their kinds only. -/
theorem markFrom_step (announced : Announced) (t : Token) (ts : List Token) :
    markFrom announced (t :: ts) =
      { t with kind := announced.marked t.kind } :: markFrom (announced.next t.kind) ts := by
  by_cases h : t.isSignificant = true
  · have hkind : t.kind ≠ .whitespace := of_decide_eq_true h
    rw [markFrom.eq_def]
    dsimp only
    unfold Announced.marked Announced.next
    rw [if_pos h, if_neg hkind]
    cases announced <;> cases t.kind.isWord <;> rfl
  · have hkind : t.kind = .whitespace := Decidable.byContradiction fun hne => h (decide_eq_true hne)
    have hnext : announced.next t.kind = announced := if_pos hkind
    rw [markFrom.eq_def]
    dsimp only
    rw [if_neg h, announced.marked_of_not_isWord (by rw [hkind]; rfl), hnext]

/-- Marking does not look at what is not significant. -/
theorem significant_markFrom {announced : Announced} (h : announced.Marks) (ts : List Token) :
    significant (markFrom announced ts) = markFrom announced (significant ts) := by
  induction ts generalizing announced with
  | nil => rfl
  | cons t ts ih =>
    rw [markFrom_step]
    by_cases hkind : t.kind = .whitespace
    · have hmarked : announced.marked t.kind = t.kind :=
        announced.marked_of_not_isWord (by rw [hkind]; rfl)
      have hskipped : ¬ t.isSignificant = true := fun h => of_decide_eq_true h hkind
      have hnext : announced.next t.kind = announced := if_pos hkind
      have ih := ih h
      unfold significant at ih ⊢
      rw [hmarked, hnext, List.filter_cons_of_neg hskipped, List.filter_cons_of_neg hskipped, ih]
    · have hmarked : announced.marked t.kind ≠ .whitespace := fun heq =>
        hkind ((h.marked_eq_iff rfl).mp heq)
      rw [significant_cons (decide_eq_true hmarked), significant_cons (decide_eq_true hkind),
        markFrom_step, ih (h.next t.kind)]

theorem take_markFrom (announced : Announced) (ts : List Token) (n : Nat) :
    (markFrom announced ts).take n = markFrom announced (ts.take n) := by
  induction ts generalizing announced n with
  | nil => simp [markFrom]
  | cons t ts ih =>
    cases n with
    | zero => rfl
    | succ n => rw [markFrom_step, List.take_succ_cons, List.take_succ_cons, markFrom_step, ih]

/-- Marking does not look at places. -/
theorem Alike.markFrom {ts ts' : List Token} (h : Alike ts ts') (announced : Announced) :
    Alike (markFrom announced ts) (markFrom announced ts') := by
  induction ts generalizing announced ts' with
  | nil =>
    obtain rfl := h.of_nil
    rfl
  | cons t ts ih =>
    obtain ⟨t', ts', rfl, hlook, hts⟩ := h.of_cons
    rw [markFrom_step, markFrom_step, Token.kind_of_look hlook]
    have htail := ih hts (announced.next t.kind)
    unfold Alike at htail ⊢
    rw [List.map_cons, List.map_cons, htail]
    simp only [Token.look, Token.text_of_look hlook]

/-- Tokens that are no words are left as they are, whatever comes before them. -/
theorem markFrom_append {ys : List Token} (hys : ∀ t ∈ ys, t.kind.isWord = false)
    (announced : Announced) (xs : List Token) :
    markFrom announced (xs ++ ys) = markFrom announced xs ++ ys := by
  induction xs generalizing announced with
  | nil =>
    induction ys generalizing announced with
    | nil => rfl
    | cons t ys ih =>
      obtain ⟨ht, hys⟩ := List.forall_mem_cons.mp hys
      rw [List.nil_append, markFrom_step, announced.marked_of_not_isWord ht]
      exact congrArg (t :: ·) (ih hys _)
  | cons t xs ih => rw [List.cons_append, markFrom_step, markFrom_step, List.cons_append, ih]

theorem kind_ne_of_markFrom {kind : TokenKind} (hkind : kind.isWord = false)
    {announced : Announced} (hmarks : announced.Marks) {ts : List Token}
    (h : ∀ t ∈ markFrom announced ts, t.kind ≠ kind) : ∀ t ∈ ts, t.kind ≠ kind := by
  induction ts generalizing announced with
  | nil => nofun
  | cons t ts ih =>
    rw [markFrom_step] at h
    obtain ⟨ht, hts⟩ := List.forall_mem_cons.mp h
    exact List.forall_mem_cons.mpr
      ⟨fun heq => ht ((hmarks.marked_eq_iff hkind).mpr heq), ih (hmarks.next t.kind) hts⟩

/-! ## Sources -/

/-- The tokens of a source are those of its text, marked. -/
theorem significant_tokenize_eq (source : Text) :
    significant (tokenize source) = markFrom .nothing (significant (scan 0 source)) :=
  significant_markFrom Announced.marks_nothing (scan 0 source)

/-- A beginning of the tokens of a source, followed by fillers, makes up a source, unless a token is
in error. -/
theorem exists_source_alike {source : Text} {before after : List Token}
    (h : significant (tokenize source) = before ++ after) (herror : ∀ t ∈ before, t.kind ≠ .error)
    (fillers : List Filler) :
    ∃ source', Alike (significant (tokenize source')) (before ++ fill fillers) := by
  let plain := (significant (scan 0 source)).take before.length
  have hbefore : before = markFrom .nothing plain := by
    rw [← take_markFrom, ← significant_tokenize_eq, h, List.take_left]
  have hplain : ∀ t ∈ plain, t.Separable := by
    intro t ht
    obtain ⟨hscan, hsignificant⟩ := List.mem_filter.mp (List.mem_of_mem_take ht)
    exact separable_of_mem_scan hscan hsignificant
      (kind_ne_of_markFrom rfl Announced.marks_nothing (hbefore ▸ herror) t ht)
  have hwords : ∀ t ∈ fill fillers, t.kind.isWord = false := by
    intro t ht
    obtain ⟨filler, -, rfl⟩ := List.mem_map.mp ht
    cases filler <;> rfl
  have hseparable : ∀ t ∈ plain ++ fill fillers, t.Separable :=
    List.forall_mem_append.mpr ⟨hplain, fun _ => separable_of_mem_fill⟩
  refine ⟨respell (plain ++ fill fillers), ?_⟩
  have hmarked := (alike_scan_respell hseparable 0).markFrom .nothing
  rw [markFrom_append hwords, ← hbefore] at hmarked
  rwa [significant_tokenize_eq]

end EffectLang
