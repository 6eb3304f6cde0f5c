import EffectLang.Editor.Highlight
import EffectLang.Proofs.Editor.Matching
import EffectLang.Proofs.Grammar.Parts
import EffectLang.Proofs.Token.Tiling

/-!
# What the spans of a source show

The spans are the tokens without white space, so what holds of the tokens as a tiling makes them a
partition of the visible text. The parentheses of the pair at a cursor are flagged, and nothing else
is, because no two tokens start at one offset. A source that is accepted has no span in error.
-/

namespace EffectLang

/-! ## Partitions and flags -/

/-- The offset is one of a character in the span. -/
def HighlightSpan.Covers (span : HighlightSpan) (offset : Nat) : Prop :=
  span.start ≤ offset ∧ offset < span.stop

/-- The spans show what can be seen of a text. None of them is empty, they stand in the text one
after another, and what is outside of all of them is white space. -/
structure ShowsVisible (source : Text) (spans : List HighlightSpan) : Prop where
  nonempty : ∀ span ∈ spans, span.start < span.stop
  within : ∀ span ∈ spans, span.stop ≤ source.length
  apart : spans.Pairwise fun span next => span.stop ≤ next.start
  outside : ∀ offset c, source[offset]? = some c → (∀ span ∈ spans, ¬ span.Covers offset) →
    isSpace c = true

/-- A flagged parenthesis. -/
def HighlightSpan.matchedParen (offset : Nat) : HighlightSpan :=
  ⟨offset, offset + 1, .punctuation, true⟩

/-- The spans that are flagged: the two parentheses of a pair, the opening one first, or none. -/
def FlagsPair (source : Text) (spans : List HighlightSpan) : Option ParenPair → Prop
  | none => spans.filter (·.isMatched) = []
  | some (opening, closing) =>
    spans.filter (·.isMatched) = [.matchedParen opening, .matchedParen closing] ∧
      source[opening]? = some '(' ∧ source[closing]? = some ')'

/-! ## Spans of tokens -/

namespace Tiles
variable {start stop : Nat} {ts : List Token}

/-- A token that is one of a tiling ends where the tiling does, or before. -/
theorem stop_le_of_mem (h : Tiles start ts stop) : ∀ t ∈ ts, t.stop ≤ stop := by
  induction ts generalizing start with
  | nil => exact List.forall_mem_nil _
  | cons t ts ih =>
    obtain ⟨rfl, hrest⟩ := h
    refine List.forall_mem_cons.mpr ⟨?_, ih hrest⟩
    cases ts with
    | nil => exact Nat.le_of_eq hrest
    | cons next ts =>
      have hnext := ih hrest next List.mem_cons_self
      have hstart : next.start = t.stop := hrest.1
      unfold Token.stop at hnext hstart ⊢
      omega

theorem le_start_of_mem (h : Tiles start ts stop) : ∀ t ∈ ts, start ≤ t.start := by
  induction ts generalizing start with
  | nil => exact List.forall_mem_nil _
  | cons t ts ih =>
    obtain ⟨rfl, hrest⟩ := h
    refine List.forall_mem_cons.mpr ⟨Nat.le_refl _, fun u hu => ?_⟩
    exact Nat.le_trans (Nat.le_add_right t.start _) (ih hrest u hu)

/-- The tokens of a tiling stand one after another. -/
theorem pairwise_stop_le (h : Tiles start ts stop) : ts.Pairwise fun t u => t.stop ≤ u.start := by
  induction ts generalizing start with
  | nil => exact .nil
  | cons t ts ih =>
    obtain ⟨rfl, hrest⟩ := h
    exact .cons hrest.le_start_of_mem (ih hrest)

/-- Every offset of a tiling is in one of its tokens. -/
theorem exists_covering (h : Tiles start ts stop) {offset : Nat} (hle : start ≤ offset)
    (hlt : offset < stop) : ∃ t ∈ ts, t.start ≤ offset ∧ offset < t.stop := by
  induction ts generalizing start with
  | nil =>
    have hempty : start = stop := h
    omega
  | cons t ts ih =>
    obtain ⟨rfl, hrest⟩ := h
    by_cases hinside : offset < t.stop
    · exact ⟨t, List.mem_cons_self, hle, hinside⟩
    · obtain ⟨u, hu, hcovers⟩ := ih hrest (Nat.not_lt.mp hinside)
      exact ⟨u, List.mem_cons_of_mem t hu, hcovers⟩

end Tiles

section Spans
variable {pair : Option (Int × Int)} {ts : List Token} {span : HighlightSpan}

/-- Only white space has no highlight. -/
theorem TokenKind.highlight?_eq_none_iff {kind : TokenKind} :
    kind.highlight? = none ↔ kind = .whitespace := by
  cases kind <;> simp [highlight?]

theorem TokenKind.highlight?_eq_error_iff {kind : TokenKind} :
    kind.highlight? = some .error ↔ kind = .error := by
  cases kind <;> simp [highlight?]

/-- A span is that of a token. -/
theorem mem_highlightSpans (h : span ∈ highlightSpans pair ts) :
    ∃ t ∈ ts, span.start = t.start ∧ span.stop = t.stop ∧
      t.kind.highlight? = some span.highlight := by
  obtain ⟨t, ht, hspan⟩ := List.mem_filterMap.mp h
  obtain ⟨highlight, hhighlight, rfl⟩ := Option.map_eq_some_iff.mp hspan
  exact ⟨t, ht, rfl, rfl, hhighlight⟩

/-- A token that is not white space has a span. -/
theorem exists_span_of_mem (pair : Option (Int × Int)) {t : Token} (ht : t ∈ ts)
    (hkind : t.kind ≠ .whitespace) :
    ∃ span ∈ highlightSpans pair ts, span.start = t.start ∧ span.stop = t.stop := by
  obtain ⟨highlight, hhighlight⟩ :=
    Option.ne_none_iff_exists'.mp (mt TokenKind.highlight?_eq_none_iff.mp hkind)
  exact ⟨_, List.mem_filterMap.mpr ⟨t, ht, by rw [hhighlight]; rfl⟩, rfl, rfl⟩

/-- Spans stand one after another if the tokens do. -/
theorem pairwise_highlightSpans (h : ts.Pairwise fun t u => t.stop ≤ u.start) :
    (highlightSpans pair ts).Pairwise fun span next => span.stop ≤ next.start := by
  refine h.filterMap _ fun t u hle span hspan next hnext => ?_
  obtain ⟨_, -, rfl⟩ := Option.map_eq_some_iff.mp hspan
  obtain ⟨_, -, rfl⟩ := Option.map_eq_some_iff.mp hnext
  exact hle

/-- The spans of a source show what can be seen of it. -/
theorem showsVisible_highlightSpans (source : Text) (pair : Option (Int × Int)) :
    ShowsVisible source (highlightSpans pair (tokenize source)) := by
  have htiles := tiles_tokenize source
  constructor
  case nonempty =>
    intro span hspan
    obtain ⟨t, ht, hstart, hstop, -⟩ := mem_highlightSpans hspan
    have hne := List.length_pos_iff.mpr (wellFormed_of_mem_tokenize t ht).text_ne_nil
    rw [hstart, hstop, Token.stop]
    omega
  case within =>
    intro span hspan
    obtain ⟨t, ht, -, hstop, -⟩ := mem_highlightSpans hspan
    rw [hstop]
    exact htiles.stop_le_of_mem t ht
  case apart => exact pairwise_highlightSpans htiles.pairwise_stop_le
  case outside =>
    intro offset c hc houtside
    obtain ⟨hlt, hget⟩ := List.getElem?_eq_some_iff.mp hc
    obtain ⟨t, ht, hcovers⟩ := htiles.exists_covering (Nat.zero_le offset) hlt
    have hwellFormed := wellFormed_of_mem_tokenize t ht
    -- the token has no span, so it is white space, and the character is one of its text
    by_cases hkind : t.kind = .whitespace
    · refine hwellFormed.whitespace_iff.mp hkind c ?_
      rw [hwellFormed.text_eq, List.extract_eq_take_drop, List.mem_iff_getElem?]
      refine ⟨offset - t.start, ?_⟩
      rw [List.getElem?_take_of_lt (by omega), List.getElem?_drop,
        Nat.add_sub_cancel' hcovers.1, hc]
    · obtain ⟨span, hspan, hstart, hstop⟩ := exists_span_of_mem pair ht hkind
      refine absurd ?_ (houtside span hspan)
      rw [HighlightSpan.Covers, hstart, hstop]
      exact hcovers

/-- In a source that is accepted nothing is in error. -/
theorem highlight_ne_error_of_parse {source : Text} {e : Expr} (h : Expr.parse source = .ok e) :
    ∀ span ∈ highlightSpans pair (tokenize source), span.highlight ≠ .error := by
  intro span hspan herror
  obtain ⟨t, ht, -, -, hhighlight⟩ := mem_highlightSpans hspan
  rw [herror, TokenKind.highlight?_eq_error_iff] at hhighlight
  obtain ⟨d, -, hderives⟩ := Grammar.read_sound rfl h
  have hmem : t ∈ significant (tokenize source) :=
    List.mem_filter.mpr ⟨ht, by rw [Token.isSignificant, hhighlight]; rfl⟩
  exact (hderives.proper t hmem).kind_ne_error hhighlight

end Spans

/-! ## Flagged parentheses -/

section Flags
variable {ts : List Token}

/-- Without a pair no span is flagged. -/
theorem filter_isMatched_none (ts : List Token) :
    (highlightSpans none ts).filter (·.isMatched) = [] := by
  refine List.filter_eq_nil_iff.mpr fun span hspan => ?_
  obtain ⟨t, -, hspan⟩ := List.mem_filterMap.mp hspan
  obtain ⟨highlight, -, rfl⟩ := Option.map_eq_some_iff.mp hspan
  exact Bool.false_ne_true

/-- A parenthesis at the offset that it has in the pair is flagged. -/
theorem highlightSpans_cons_of_isParenOf {opening closing : Int} {t : Token}
    (hparen : t.kind.isParen = true) (hstop : t.stop = t.start + 1)
    (h : t.isParenOf opening closing = true) :
    highlightSpans (some (opening, closing)) (t :: ts) =
      .matchedParen t.start :: highlightSpans (some (opening, closing)) ts := by
  have hhighlight : t.kind.highlight? = some .punctuation := by
    cases hkind : t.kind <;> first | rfl | (rw [hkind] at hparen; cases hparen)
  simp [highlightSpans, hhighlight, hstop, h, HighlightSpan.matchedParen]

theorem highlightSpans_append (pair : Option (Int × Int)) (ts us : List Token) :
    highlightSpans pair (ts ++ us) = highlightSpans pair ts ++ highlightSpans pair us :=
  List.filterMap_append

/-- Tokens at other offsets are not flagged. -/
theorem filter_isMatched_of_ne (ts : List Token) {opening closing : Nat}
    (h : ∀ t ∈ ts, t.start ≠ opening ∧ t.start ≠ closing) :
    (highlightSpans (some (opening, closing)) ts).filter (·.isMatched) = [] := by
  refine List.filter_eq_nil_iff.mpr fun span hspan => ?_
  obtain ⟨t, ht, hspan⟩ := List.mem_filterMap.mp hspan
  obtain ⟨highlight, -, rfl⟩ := Option.map_eq_some_iff.mp hspan
  have hplace := h t ht
  unfold Token.isParenOf
  cases t.kind <;> simp [hplace.1, hplace.2]

/-- The pair at a cursor is one of the pairs that are found. -/
theorem mem_parenPairs_of_matchingPair? {cursor : Int} {pair : ParenPair}
    (h : matchingPair? ts cursor = some pair) : pair ∈ parenPairs ts := by
  rcases Option.or_eq_some_iff.mp h with hstarts | ⟨-, hends⟩
  · exact List.mem_of_find?_eq_some hstarts
  · exact List.mem_of_find?_eq_some hends

/-- Of the spans of a pair's tokens, those of its two parentheses are flagged. -/
theorem filter_isMatched_of_mem {pair : ParenPair}
    (hts : ts.Pairwise fun t u => t.start < u.start)
    (hlength : ∀ t ∈ ts, t.kind.isParen = true → t.stop = t.start + 1)
    (h : pair ∈ parenPairs ts) :
    (highlightSpans (some ((pair.1 : Int), (pair.2 : Int))) ts).filter (·.isMatched) =
      [.matchedParen pair.1, .matchedParen pair.2] := by
  cases mem_parenPairs_iff_encloses.mp h with
  | @intro before inside after opening closing hsplit hopen _ hclose =>
    subst hsplit
    dsimp only
    simp only [List.pairwise_append, List.pairwise_cons, List.forall_mem_append,
      List.forall_mem_cons] at hts
    obtain ⟨-, ⟨hopenRest, -, ⟨hclosingAfter, -⟩, hinside⟩, hbefore⟩ := hts
    obtain ⟨hopenInside, -, hopenAfter⟩ := hopenRest
    -- each of the three stretches of other tokens has other offsets than the parentheses
    have hbeforeNone := filter_isMatched_of_ne before fun t ht =>
      ⟨(hbefore t ht).1.ne, (hbefore t ht).2.2.1.ne⟩
    have hinsideNone := filter_isMatched_of_ne inside fun t ht =>
      ⟨(hopenInside t ht).ne', (hinside t ht).1.ne⟩
    have hafterNone := filter_isMatched_of_ne after fun t ht =>
      ⟨(hopenAfter t ht).ne', (hclosingAfter t ht).ne'⟩
    have hopening : opening.stop = opening.start + 1 := by
      apply hlength opening <;> simp [hopen, TokenKind.isParen]
    have hclosing : closing.stop = closing.start + 1 := by
      apply hlength closing <;> simp [hclose, TokenKind.isParen]
    rw [highlightSpans_append, highlightSpans_cons_of_isParenOf (by rw [hopen]; rfl) hopening
        (by simp [Token.isParenOf, hopen]), highlightSpans_append,
      highlightSpans_cons_of_isParenOf (by rw [hclose]; rfl) hclosing
        (by simp [Token.isParenOf, hclose])]
    simp [hbeforeNone, hinsideNone, hafterNone, HighlightSpan.matchedParen]

/-- The character of a token that has only one is where the token starts. -/
theorem getElem?_start_of_text {source : Text} {t : Token} {c : Char} (ht : t ∈ tokenize source)
    (htext : t.text = [c]) : source[t.start]? = some c := by
  have hextract := (wellFormed_of_mem_tokenize t ht).text_eq
  have hstop : t.stop - t.start = 1 := by simp [Token.stop, htext]
  rw [htext, List.extract_eq_take_drop, hstop] at hextract
  have hfirst := congrArg List.head? hextract
  rw [List.head?_take, if_neg Nat.one_ne_zero, List.head?_drop] at hfirst
  exact hfirst.symm

end Flags

/-- The pair at a cursor is flagged. -/
theorem flagsPair_highlightSpans (source : Text) (cursor : Int) :
    FlagsPair source
      (highlightSpans ((matchingPair? (tokenize source) cursor).map fun pair => (pair.1, pair.2))
        (tokenize source))
      (matchingPair? (tokenize source) cursor) := by
  cases hpair : matchingPair? (tokenize source) cursor with
  | none => exact filter_isMatched_none _
  | some pair =>
    have hmem := mem_parenPairs_of_matchingPair? hpair
    have hmatches := (mem_parenPairs_iff (pairwise_start_lt source)).mp hmem
    obtain ⟨opening, hopening, hopen, hfst⟩ := hmatches.opening
    obtain ⟨closing, hclosing, hclose, hsnd⟩ := hmatches.closing
    have hopenText := text_of_isParen hopening (by rw [hopen]; rfl)
    have hcloseText := text_of_isParen hclosing (by rw [hclose]; rfl)
    simp only [hopen, hclose, true_and, reduceCtorEq, false_and, or_false, false_or]
      at hopenText hcloseText
    refine ⟨?_, ?_, ?_⟩
    · exact filter_isMatched_of_mem (pairwise_start_lt source) (fun t => stop_of_isParen) hmem
    · rw [← hfst]
      exact getElem?_start_of_text hopening hopenText
    · rw [← hsnd]
      exact getElem?_start_of_text hclosing hcloseText

/-- The spans of a source partition what can be seen of it. The pair at the cursor is flagged and
nothing else is, and nothing is in error if the source is accepted. -/
theorem highlightSpans_partition (source : Text) (cursor : Int) :
    let pair := matchingPair? (tokenize source) cursor
    let spans := highlightSpans (pair.map fun (opening, closing) => (opening, closing))
      (tokenize source)
    ShowsVisible source spans ∧ FlagsPair source spans pair ∧
      ∀ e, Expr.parse source = .ok e → ∀ span ∈ spans, span.highlight ≠ .error :=
  ⟨showsVisible_highlightSpans source _, flagsPair_highlightSpans source cursor,
    fun _ => highlight_ne_error_of_parse⟩

/-- The parentheses of a call are flagged at a cursor after the closing one. Those of the group
before it are not. -/
theorem highlightSpans_partition_call :
    FlagsPair "(a + b) * sin(c)".toList
        (highlightSpans (some (13, 15)) (tokenize "(a + b) * sin(c)".toList)) (some (13, 15)) ∧
      ∀ span ∈ highlightSpans (some (13, 15)) (tokenize "(a + b) * sin(c)".toList),
        span.highlight ≠ .error := by
  have h := highlightSpans_partition "(a + b) * sin(c)".toList 16
  have hpair : matchingPair? (tokenize "(a + b) * sin(c)".toList) 16 = some (13, 15) := by
    decide +kernel
  rw [hpair] at h
  have hparse : Expr.parse "(a + b) * sin(c)".toList =
      .ok (.binary .mul (.binary .add (.attr ['a']) (.attr ['b']))
        (.unary .sin (.attr ['c']))) := by
    decide +kernel
  exact ⟨h.2.1, h.2.2 _ hparse⟩

end EffectLang
