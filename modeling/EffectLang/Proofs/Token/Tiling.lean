import EffectLang.Proofs.Token.Marking
import EffectLang.Proofs.Token.Respacing

/-!
# Tokens tile their source

The tokens of a source stand one right after the other, from its beginning to its end, and each has
the text that stands there. White space is in tokens of its own, as long as they can be. A token
does not depend on what is around it: its text, as a source of its own, is that token again, but for
the marking of a name.
-/

namespace EffectLang

/-! ## Spans -/

/-- The tokens are spans, from one offset to the other, each of which starts where the one before it
stops. -/
def Tiles : Nat → List Token → Nat → Prop
  | start, [], stop => start = stop
  | start, t :: ts, stop => t.start = start ∧ Tiles t.stop ts stop

theorem tiles_scan (start : Nat) (text : Text) :
    Tiles start (scan start text) (start + text.length) := by
  fun_induction scan start text with
  | case1 => rfl
  | case2 start c cs kind n hextent token ih =>
    have hstop : token.stop + (cs.drop n).length = start + (c :: cs).length := by
      simp only [token, Token.stop, List.length_cons, List.length_take, List.length_drop]
      omega
    rw [hstop] at ih
    exact ⟨rfl, ih⟩

theorem Token.MarkedAs.text_eq {t t' : Token} (h : t.MarkedAs t') : t'.text = t.text := by
  rcases h with rfl | ⟨-, kind, -, rfl⟩ <;> rfl

theorem Token.MarkedAs.start_eq {t t' : Token} (h : t.MarkedAs t') : t'.start = t.start := by
  rcases h with rfl | ⟨-, kind, -, rfl⟩ <;> rfl

theorem Tiles.of_markedAs {start stop : Nat} {ts ts' : List Token} (h : Tiles start ts stop)
    (hmarked : List.Forall₂ Token.MarkedAs ts ts') : Tiles start ts' stop := by
  induction hmarked generalizing start with
  | nil => exact h
  | @cons t t' ts ts' ht _ ih =>
    obtain ⟨rfl, hrest⟩ := h
    have hstop : t'.stop = t.stop := by rw [Token.stop, Token.stop, ht.text_eq, ht.start_eq]
    refine ⟨ht.start_eq, ?_⟩
    rw [hstop]
    exact ih hrest

theorem tiles_tokenize (source : Text) : Tiles 0 (tokenize source) source.length := by
  have htiles := tiles_scan 0 source
  rw [Nat.zero_add] at htiles
  exact htiles.of_markedAs (forall₂_markedAs_markFrom Announced.marks_nothing _)

/-! ## Seams -/

/-- White space does not go on from one text to the next. -/
def Text.Seam (before after : Text) : Prop :=
  (∀ c ∈ before.getLast?, isSpace c = false) ∨ after.Stops isSpace

theorem Text.seam_nil (after : Text) : Text.Seam [] after := by
  simp [Text.Seam]

/-- No token but white space ends with a space, unless nothing follows it. -/
theorem seam_of_extent (c : Char) (cs before : Text) :
    Text.Seam (before ++ c :: cs.take (extent c cs).2) (cs.drop (extent c cs).2) := by
  have hclear {run : Text} (h : ∀ d ∈ c :: run, isSpace d = false) :
      ∀ d ∈ (before ++ c :: run).getLast?, isSpace d = false := by
    intro d hd
    rw [List.getLast?_append_of_ne_nil _ (List.cons_ne_nil c run)] at hd
    exact h d (List.mem_of_getLast? hd)
  by_cases hspace : (extent c cs).1 = .whitespace
  · rw [extent, if_pos ((extent_fst_eq_whitespace_iff c cs).mp hspace), drop_length_takeWhile]
    exact .inr (Text.stops_dropWhile isSpace cs)
  have hfirst : isSpace c = false :=
    Bool.eq_false_iff.mpr (mt (extent_fst_eq_whitespace_iff c cs).mpr hspace)
  by_cases hquote : c = '"'
  · subst hquote
    rcases stringExtent_fst cs with hkind | hkind
    · obtain ⟨name, hname, -⟩ := (lexed_stringExtent cs 0).string hkind
      dsimp only at hname
      rw [Lexeme.extent_quote, hname, ← List.append_assoc]
      refine .inl fun d hd => ?_
      rw [List.getLast?_concat] at hd
      obtain rfl := Option.some.inj hd
      exact hfirst
    · rw [Lexeme.extent_quote, stringExtent_of_error hkind, List.drop_length]
      exact .inr (Text.stops_nil isSpace)
  · exact .inl (hclear (clear_of_extent hfirst hquote cs))

/-- Where a token is cut from its source, and what it is cut off by. -/
def Token.CutFrom (source : Text) (t : Token) : Prop :=
  ∃ (before : Text) (c : Char) (cs : Text), source = before ++ c :: cs ∧
    before.Seam (c :: cs) ∧
    t = ⟨(extent c cs).1, c :: cs.take (extent c cs).2, before.length⟩

theorem cutFrom_of_mem_scan {source before text : Text} (hsource : source = before ++ text)
    (hseam : before.Seam text) {start : Nat} (hstart : start = before.length) :
    ∀ t ∈ scan start text, t.CutFrom source := by
  fun_induction scan start text generalizing before with
  | case1 => exact List.forall_mem_nil _
  | case2 start c cs kind n hextent token =>
    rename_i ih
    subst hstart
    have htoken : token = ⟨(extent c cs).1, c :: cs.take (extent c cs).2, before.length⟩ := by
      rw [hextent]
    refine List.forall_mem_cons.mpr ⟨⟨before, c, cs, hsource, hseam, htoken⟩, ?_⟩
    have hnext := seam_of_extent c cs before
    rw [hextent] at hnext
    refine ih ?_ hnext (by simp [token, Token.stop])
    rw [hsource, List.append_assoc, List.cons_append, List.take_append_drop]

/-! ## Tokens by themselves -/

/-- A token that is cut off is cut off as well where nothing follows it. -/
theorem lexeme_nil_of_extent (c : Char) (cs : Text) :
    Lexeme (extent c cs).1 (c :: cs.take (extent c cs).2) [] := by
  by_cases hspace : (extent c cs).1 = .whitespace
  · have hspaces := isSpace_of_extent (Prod.ext hspace rfl : extent c cs = (.whitespace, _))
    rw [hspace]
    exact .spaces (List.cons_ne_nil c _) hspaces (Text.stops_nil isSpace)
  by_cases hopen : c = '"' ∧ (extent c cs).1 = .error
  · -- a string without its closing quote is all that is left already
    obtain ⟨rfl, herror⟩ := hopen
    rw [Lexeme.extent_quote] at herror ⊢
    rw [stringExtent_of_error herror]
    dsimp only
    rw [List.take_length]
    refine ⟨'"', cs, rfl, ?_⟩
    rw [List.append_nil, Lexeme.extent_quote, stringExtent_of_error herror]
  · exact .of_extent rfl hspace hopen nofun

/-- The token as it is by itself. A marked name is a plain word then. -/
def Token.alone (t : Token) : Token :=
  ⟨if t.kind.isMarked then wordKind t.text else t.kind, t.text, 0⟩

/-- By itself a word is what it is spelled as. -/
theorem Token.Classified.alone_eq {t : Token} (h : t.Classified) (hword : t.kind.isWord = true) :
    t.alone = ⟨wordKind t.text, t.text, 0⟩ := by
  unfold Token.alone
  split
  · rfl
  · next hplain => rw [h.kind_eq (h.isWord_iff.mp hword) (Bool.eq_false_iff.mpr hplain)]

theorem Lexeme.tokenize_eq {kind : TokenKind} {text : Text} (h : Lexeme kind text []) :
    tokenize text = [⟨kind, text, 0⟩] := by
  have hscan := h.scan_eq 0
  rw [List.append_nil, scan_nil] at hscan
  rw [tokenize, markReferences, hscan, markFrom_step]
  rfl

/-! ## Tokens of a source -/

/-- A token has the text that stands where it does. It is white space if all its characters are,
and then none stands before or after it. If its kind says that it stands for something, then for
what it spells. By itself it is the same token, or a plain word. -/
structure Token.WellFormed (source : Text) (t : Token) : Prop where
  text_ne_nil : t.text ≠ []
  text_eq : t.text = source.extract t.start t.stop
  whitespace_iff : t.kind = .whitespace ↔ ∀ c ∈ t.text, isSpace c = true
  maximal : t.kind = .whitespace →
    (∀ c ∈ (source.take t.start).getLast?, isSpace c = false) ∧
    ∀ c ∈ (source.drop t.stop).head?, isSpace c = false
  payload : t.kind.payloadSpelling? =
    if t.kind.name ∈ ["binary_op", "function", "builtin"] then some t.text else none
  alone : tokenize t.text = [t.alone]

theorem Token.Spelled.payloadSpelling?_eq {t : Token} (h : t.Spelled) :
    t.kind.payloadSpelling? =
      if t.kind.name ∈ ["binary_op", "function", "builtin"] then some t.text else none := by
  have hpayload := h.payload
  cases hkind : t.kind with
  | builtIn | callee | operator =>
    rw [hkind] at hpayload
    rw [hpayload _ rfl]
    rfl
  | _ => rfl

/-- A token that is cut from a source is well-formed. -/
theorem wellFormed_of_cutFrom {source : Text} {t : Token} (h : t.CutFrom source)
    (hplain : t.kind.isMarked = false) : t.WellFormed source := by
  obtain ⟨before, c, cs, rfl, hseam, rfl⟩ := h
  have hspaces (hkind : (extent c cs).1 = .whitespace) :
      ∀ d ∈ c :: cs.take (extent c cs).2, isSpace d = true :=
    isSpace_of_extent (Prod.ext hkind rfl)
  have hsplit : c :: cs = c :: cs.take (extent c cs).2 ++ cs.drop (extent c cs).2 := by
    rw [List.cons_append, List.take_append_drop]
  constructor
  case text_ne_nil => exact List.cons_ne_nil _ _
  case text_eq =>
    dsimp only [Token.stop]
    rw [List.extract_eq_take_drop, List.drop_left, Nat.add_sub_cancel_left]
    conv_rhs => rw [hsplit, List.take_left]
  case whitespace_iff =>
    constructor
    · exact hspaces
    · intro hall
      exact (extent_fst_eq_whitespace_iff c cs).mpr (hall c List.mem_cons_self)
  case maximal =>
    intro hkind
    have hfirst := hspaces hkind c List.mem_cons_self
    constructor
    · rw [List.take_left]
      refine hseam.resolve_right fun hstops => ?_
      rw [Text.stops_cons.mp hstops] at hfirst
      cases hfirst
    · dsimp only [Token.stop]
      rw [List.drop_length_add_append]
      conv in List.drop _ (c :: cs) => rw [hsplit, List.drop_left]
      rw [extent, if_pos hfirst, drop_length_takeWhile]
      exact Text.stops_dropWhile isSpace cs
  case payload => exact (spelled_extent c cs before.length).payloadSpelling?_eq
  case alone =>
    rw [(lexeme_nil_of_extent c cs).tokenize_eq, Token.alone, if_neg (by simpa using hplain)]

/-- Marking a name keeps it well-formed. -/
theorem Token.WellFormed.mark {source : Text} {t : Token} {kind : TokenKind}
    (h : t.WellFormed source) (hclassified : t.Classified) (hword : t.kind.isWord = true)
    (hmarked : kind.isMarked = true) : Token.WellFormed source { t with kind } := by
  have hspace : t.kind ≠ .whitespace := by
    intro hkind
    rw [hkind] at hword
    cases hword
  have hspace' : kind ≠ .whitespace := by
    rintro rfl
    cases hmarked
  refine { h with
    whitespace_iff := ?_, maximal := fun hkind => absurd hkind hspace', payload := ?_, alone := ?_ }
  · exact ⟨fun hkind => absurd hkind hspace', fun hall => absurd (h.whitespace_iff.mpr hall) hspace⟩
  · cases kind <;> first | rfl | cases hmarked
  · have halone : Token.alone { t with kind } = t.alone := by
      rw [hclassified.alone_eq hword, (hclassified.mark hword hmarked).alone_eq
        (TokenKind.isWord_of_isMarked hmarked)]
    rw [halone]
    exact h.alone

theorem wellFormed_of_mem_tokenize {source : Text} :
    ∀ t ∈ tokenize source, t.WellFormed source := by
  have hscan : ∀ t ∈ scan 0 source, t.Classified ∧ t.WellFormed source := by
    intro t ht
    have hcut := cutFrom_of_mem_scan (List.nil_append source).symm (Text.seam_nil source) rfl t ht
    exact ⟨forall_mem_scan classified_extent t ht,
      wellFormed_of_cutFrom hcut (isMarked_of_mem_scan t ht)⟩
  have hall : ∀ t ∈ tokenize source, t.Classified ∧ t.WellFormed source := by
    refine forall_mem_markFrom (fun t kind hword hmarks h => ?_) Announced.marks_nothing hscan
    have hmarked : kind.isMarked = true := Announced.Marks.isMarked hmarks
    exact ⟨h.1.mark hword hmarked, h.2.mark h.1 hword hmarked⟩
  exact fun t ht => (hall t ht).2

theorem flatMap_text_tokenize (source : Text) : (tokenize source).flatMap Token.text = source := by
  have htexts : (tokenize source).map Token.text = (scan 0 source).map Token.text := by
    have hmap := congrArg (List.map Prod.fst) (map_text_start_markFrom .nothing (scan 0 source))
    rwa [List.map_map, List.map_map] at hmap
  rw [List.flatMap_def, htexts, ← List.flatMap_def, flatMap_text_scan]

/-- Cutting a source into tokens loses nothing. The tokens are spans that follow one another from
the beginning of the source to its end, so their texts make it up; and every token is well-formed,
whatever the source is. -/
theorem tokenize_tiles (source : Text) :
    Tiles 0 (tokenize source) source.length ∧
    (tokenize source).flatMap Token.text = source ∧
    ∀ t ∈ tokenize source, t.WellFormed source :=
  ⟨tiles_tokenize source, flatMap_text_tokenize source, wellFormed_of_mem_tokenize⟩

/-- The name of a function that is marked as the name of an attribute: by itself it is the function
again. -/
theorem wellFormed_marked_callee :
    Token.WellFormed "attr( sin)1.2.<=\"".toList ⟨.attributeName, "sin".toList, 6⟩ ∧
    tokenize "sin".toList = [⟨.callee .sin, "sin".toList, 0⟩] := by
  have hmem : ⟨.attributeName, "sin".toList, 6⟩ ∈ tokenize "attr( sin)1.2.<=\"".toList := by
    decide +kernel
  have hwellFormed := (tokenize_tiles "attr( sin)1.2.<=\"".toList).2.2 _ hmem
  exact ⟨hwellFormed, hwellFormed.alone⟩

end EffectLang
