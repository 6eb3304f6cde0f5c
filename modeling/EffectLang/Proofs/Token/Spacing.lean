import EffectLang.Proofs.Grammar.Correspondence
import EffectLang.Proofs.Token.Respelling

/-!
# White space between tokens

White space that is put in where no token is cut changes nothing but offsets. A token before it ends
as it did, because no token but white space can go on with a space; only a string without its
closing quote takes in whatever follows. Marking and reading do not look at offsets, so an error is
the same one, and it moves along with what it is about.
-/

namespace EffectLang

/-! ## Offsets after an insertion -/

/-- An offset after so many characters were put in at the given one. -/
def Token.shifted (offset count : Nat) (t : Token) : Token :=
  { t with start := if offset ≤ t.start then t.start + count else t.start }

/-- A failure after so many characters were put in at the given offset. -/
def ParseFailure.shifted (offset count : Nat) : ParseFailure → ParseFailure
  | malformed e => malformed { e with pos := if offset ≤ e.pos then e.pos + count else e.pos }
  | numeralTooLong digits => numeralTooLong digits

/-- The offset is an end of the source, or one token ends there and the next one starts. -/
def BetweenTokens (source : Text) (offset : Nat) : Prop :=
  offset = 0 ∨ offset = source.length ∨
    ∃ before t t' after, tokenize source = before ++ t :: t' :: after ∧ t.stop = offset ∧
      t'.start = offset

/-- A string without its closing quote. -/
def Token.IsOpenString (t : Token) : Prop :=
  t.kind = .error ∧ t.text.head? = some '"'

/-! ## Scanning -/

theorem scan_add (start count : Nat) (text : Text) :
    scan (start + count) text =
      (scan start text).map fun t => { t with start := t.start + count } := by
  fun_induction scan start text with
  | case1 => rw [scan_nil]; rfl
  | case2 start c cs kind n hextent token ih =>
    rw [scan_cons, hextent, List.map_cons, ← ih]
    dsimp only [token, Token.stop]
    rw [Nat.add_right_comm]

/-- White space at the beginning only moves what follows. -/
theorem significant_scan_spaces {w : Text} (hw : ∀ c ∈ w, isSpace c = true) (start : Nat)
    (text : Text) :
    significant (scan start (w ++ text)) = significant (scan (start + w.length) text) := by
  have hrun {run rest : Text} (h : ∀ c ∈ run, isSpace c = true) (hrest : rest.Stops isSpace)
      (start : Nat) :
      significant (scan start (run ++ rest)) = significant (scan (start + run.length) rest) := by
    by_cases hne : run = []
    · subst hne
      rfl
    · rw [(Lexeme.spaces hne h hrest).scan_eq]
      rfl
  obtain ⟨run, rest, rfl, hspaces, hstops⟩ := Text.exists_run isSpace text
  rw [← List.append_assoc, hrun (List.forall_mem_append.mpr ⟨hw, hspaces⟩) hstops,
    hrun hspaces hstops, List.length_append, Nat.add_assoc]

/-- White space that is put into what follows a token does not change where the token ends. -/
theorem Text.yields_insert {w : Text} (hw : ∀ c ∈ w, isSpace c = true) (rest : Text) (k : Nat) :
    Text.Yields rest (rest.take k ++ w ++ rest.drop k) := by
  intro d hd
  have hspace : d ∈ w.head? → isSpace d = true := fun h => hw d (List.mem_of_mem_head? h)
  cases rest with
  | nil =>
    rw [List.take_nil, List.drop_nil, List.nil_append, List.append_nil] at hd
    exact .inl (hspace hd)
  | cons c cs =>
    cases k with
    | zero =>
      cases w with
      | nil => exact .inr hd
      | cons s w => exact .inl (hspace hd)
    | succ k => exact .inr hd

theorem start_lt_stop_of_mem_scan {start : Nat} {text : Text} {t : Token}
    (h : t ∈ scan start text) : start < t.stop := by
  exact Nat.lt_of_le_of_lt (le_start_of_mem_scan t h)
    (Nat.lt_add_of_pos_right (length_pos_of_mem_scan t h))

theorem stop_le_of_mem_scan {start : Nat} {text : Text} :
    ∀ t ∈ scan start text, t.stop ≤ start + text.length := by
  fun_induction scan start text with
  | case1 => exact List.forall_mem_nil _
  | case2 start c cs kind n hextent token ih =>
    have htoken : token.stop + (cs.drop n).length = start + (c :: cs).length := by
      simp only [token, Token.stop, List.length_cons, List.length_take, List.length_drop]
      omega
    intro t ht
    rw [← htoken]
    rcases List.mem_cons.mp ht with rfl | ht
    · exact Nat.le_add_right _ _
    · exact ih t ht

/-- The last token ends where the text does. -/
theorem exists_stop_eq_end {text : Text} (hne : text ≠ []) (start : Nat) :
    ∃ t ∈ scan start text, t.stop = start + text.length := by
  fun_induction scan start text with
  | case1 => exact absurd rfl hne
  | case2 start c cs kind n hextent token =>
    rename_i ih
    have htoken : token.stop + (cs.drop n).length = start + (c :: cs).length := by
      simp only [token, Token.stop, List.length_cons, List.length_take, List.length_drop]
      omega
    rw [← htoken]
    by_cases hrest : cs.drop n = []
    · exact ⟨token, List.mem_cons_self, by rw [hrest]; rfl⟩
    · obtain ⟨t, ht, hstop⟩ := ih hrest
      exact ⟨t, List.mem_cons_of_mem token ht, hstop⟩

theorem significant_map {f : Token → Token} (hf : ∀ t, (f t).kind = t.kind) (ts : List Token) :
    significant (ts.map f) = (significant ts).map f := by
  have hsignificant : Token.isSignificant ∘ f = Token.isSignificant := by
    funext t
    simp only [Function.comp, Token.isSignificant, hf]
  unfold significant
  rw [List.filter_map, hsignificant]

theorem significant_scan_front {w : Text} (hw : ∀ c ∈ w, isSpace c = true) (start : Nat)
    (text : Text) :
    significant (scan start (w ++ text)) =
      (significant (scan start text)).map (Token.shifted start w.length) := by
  rw [significant_scan_spaces hw, scan_add, significant_map (by intro t; rfl)]
  refine List.map_congr_left fun t ht => ?_
  have hle : start ≤ t.start := le_start_of_mem_scan t (List.mem_filter.mp ht).1
  rw [Token.shifted, if_pos hle]

/-- A string without its closing quote is the rest of the text. -/
theorem drop_of_isOpenString {c : Char} {cs : Text} {kind : TokenKind} {n : Nat}
    (h : extent c cs = (kind, n)) (hopen : c = '"' ∧ kind = .error) : cs.drop n = [] := by
  obtain ⟨rfl, rfl⟩ := hopen
  rw [Lexeme.extent_quote] at h
  obtain ⟨-, rfl⟩ := Prod.mk.inj (h.symm.trans (stringExtent_of_error (congrArg Prod.fst h)))
  exact List.drop_length

theorem isSpace_of_extent {c : Char} {cs : Text} {n : Nat}
    (h : extent c cs = (.whitespace, n)) : ∀ d ∈ c :: cs.take n, isSpace d = true := by
  have hspace := (extent_fst_eq_whitespace_iff c cs).mp (congrArg Prod.fst h)
  rw [extent, if_pos hspace] at h
  obtain ⟨-, rfl⟩ := Prod.mk.inj h
  rw [take_length_takeWhile]
  exact List.forall_mem_cons.mpr ⟨hspace, List.all_eq_true.mp List.all_takeWhile⟩

/-- The first token stays the same when something else follows that it yields to. -/
theorem significant_scan_keep {c : Char} {cs rest : Text} {kind : TokenKind} {n : Nat}
    (hextent : extent c cs = (kind, n)) (hclosed : ¬ (c = '"' ∧ kind = .error))
    (hrest : Text.Yields (cs.drop n) rest) (start : Nat) :
    significant (scan start (c :: cs.take n ++ rest)) =
      significant [⟨kind, c :: cs.take n, start⟩] ++
        significant (scan (start + (c :: cs.take n).length) rest) := by
  by_cases hspace : kind = .whitespace
  · subst hspace
    exact significant_scan_spaces (isSpace_of_extent hextent) start rest
  · have hlexeme : Lexeme kind (c :: cs.take n) rest := .of_extent hextent hspace hclosed hrest
    have hkept : Token.isSignificant ⟨kind, c :: cs.take n, start⟩ = true := decide_eq_true hspace
    rw [hlexeme.scan_eq, significant_cons hkept, significant_cons hkept]
    rfl

/-- White space that is put in where a token ends moves the tokens after it. -/
theorem significant_scan_insert {w : Text} (hw : ∀ c ∈ w, isSpace c = true) {start k : Nat}
    {text : Text} (hk : k = 0 ∨ ∃ t ∈ scan start text, t.stop = start + k)
    (hopen : ∀ t ∈ scan start text, t.stop = start + k → ¬ t.IsOpenString) :
    significant (scan start (text.take k ++ w ++ text.drop k)) =
      (significant (scan start text)).map (Token.shifted (start + k) w.length) := by
  by_cases hzero : k = 0
  · subst hzero
    exact significant_scan_front hw start text
  fun_induction scan start text generalizing k with
  | case1 start =>
    obtain ⟨t, ht, -⟩ := hk.resolve_left hzero
    cases ht
  | case2 start c cs kind n hextent token =>
    rename_i ih
    obtain ⟨t, ht, hstop⟩ := hk.resolve_left hzero
    have hsplit : c :: cs = token.text ++ cs.drop n := by simp [token]
    obtain ⟨k, rfl⟩ : ∃ m, k = token.text.length + m := by
      refine ⟨k - token.text.length, ?_⟩
      have hle : start + token.text.length ≤ t.stop := by
        rcases List.mem_cons.mp ht with rfl | ht
        · exact Nat.le_refl _
        · exact Nat.le_of_lt (start_lt_stop_of_mem_scan ht)
      omega
    have hsum : token.stop + k = start + (token.text.length + k) := Nat.add_assoc ..
    -- what comes after the first token has the white space in it
    have hrest : significant (scan token.stop ((cs.drop n).take k ++ w ++ (cs.drop n).drop k)) =
        (significant (scan token.stop (cs.drop n))).map
          (Token.shifted (start + (token.text.length + k)) w.length) := by
      rw [← hsum]
      by_cases hzero : k = 0
      · subst hzero
        exact significant_scan_front hw token.stop (cs.drop n)
      · refine ih (.inr ⟨t, (List.mem_cons.mp ht).resolve_left ?_, hstop.trans hsum.symm⟩)
          (fun t ht hstop => hopen t (List.mem_cons_of_mem token ht) (hstop.trans hsum)) hzero
        rintro rfl
        have hend : token.stop = start + token.text.length := rfl
        omega
    have hclosed : ¬ (c = '"' ∧ kind = .error) := by
      intro hquote
      have hnil := drop_of_isOpenString hextent hquote
      rw [hnil, scan_nil, List.mem_singleton] at ht
      subst ht
      exact hopen token List.mem_cons_self hstop ⟨hquote.2, congrArg some hquote.1⟩
    have hstays : ∀ t ∈ significant [token],
        t.shifted (start + (token.text.length + k)) w.length = t := by
      intro t ht
      obtain rfl := List.mem_singleton.mp (List.mem_filter.mp ht).1
      have hpos : 0 < token.text.length := Nat.succ_pos _
      have hlt : ¬ start + (token.text.length + k) ≤ start := by omega
      exact congrArg (Token.mk kind (c :: cs.take n)) (if_neg hlt)
    have hwhole : significant (token :: scan token.stop (cs.drop n)) =
        significant [token] ++ significant (scan token.stop (cs.drop n)) :=
      List.filter_append [token] _
    rw [hsplit, List.take_length_add_append, List.drop_length_add_append, List.append_assoc,
      List.append_assoc, ← List.append_assoc _ w]
    refine (significant_scan_keep hextent hclosed (Text.yields_insert hw _ k) start).trans ?_
    rw [hwhole, List.map_append, List.map_congr_left hstays, List.map_id']
    exact congrArg (significant [token] ++ ·) hrest

/-! ## Marking -/

/-- Marking does not look at offsets, and does not change them. -/
theorem markFrom_map_shifted (offset count : Nat) (announced : Announced) (ts : List Token) :
    markFrom announced (ts.map (Token.shifted offset count)) =
      (markFrom announced ts).map (Token.shifted offset count) := by
  induction ts generalizing announced with
  | nil => rfl
  | cons t ts ih =>
    rw [List.map_cons, markFrom_step, markFrom_step, List.map_cons]
    exact congrArg (_ :: ·) (ih _)

theorem mem_markFrom_of_not_isWord {announced : Announced} {ts : List Token} {t : Token}
    (h : t ∈ ts) (hword : t.kind.isWord = false) : t ∈ markFrom announced ts := by
  induction ts generalizing announced with
  | nil => cases h
  | cons u us ih =>
    rw [markFrom_step]
    rcases List.mem_cons.mp h with rfl | h
    · rw [announced.marked_of_not_isWord hword]
      exact List.mem_cons_self
    · exact List.mem_cons_of_mem _ (ih h)

/-- The tokens of a source end where those of its text do. -/
theorem map_stop_tokenize (source : Text) :
    (tokenize source).map Token.stop = (scan 0 source).map Token.stop := by
  have hmap := congrArg (List.map fun p : Text × Nat => p.2 + p.1.length)
    (map_text_start_markFrom .nothing (scan 0 source))
  rwa [List.map_map, List.map_map] at hmap

/-- An offset between tokens is in the source, and a token ends there unless it is the first one. -/
theorem exists_stop_of_betweenTokens {source : Text} {offset : Nat}
    (h : BetweenTokens source offset) :
    offset ≤ source.length ∧ (offset = 0 ∨ ∃ t ∈ scan 0 source, t.stop = 0 + offset) := by
  rcases h with rfl | rfl | ⟨before, t, t', after, htokens, hstop, -⟩
  · exact ⟨Nat.zero_le _, .inl rfl⟩
  · refine ⟨Nat.le_refl _, ?_⟩
    by_cases hne : source = []
    · subst hne
      exact .inl rfl
    · exact .inr (exists_stop_eq_end hne 0)
  · have hmem : t.stop ∈ (tokenize source).map Token.stop :=
      List.mem_map_of_mem (by rw [htokens]; simp)
    rw [map_stop_tokenize] at hmem
    obtain ⟨u, hu, hustop⟩ := List.mem_map.mp hmem
    have hle := stop_le_of_mem_scan u hu
    rw [hustop, hstop] at hle
    exact ⟨by omega, .inr ⟨u, hu, by omega⟩⟩

/-! ## Sources -/

/-- White space between tokens moves the tokens after it and changes nothing else. -/
theorem significant_tokenize_insert {source w : Text} {offset : Nat}
    (hoffset : BetweenTokens source offset)
    (hopen : ∀ t ∈ tokenize source, t.stop = offset → ¬ t.IsOpenString)
    (hw : ∀ c ∈ w, isSpace c = true) :
    significant (tokenize (source.take offset ++ w ++ source.drop offset)) =
      (significant (tokenize source)).map (Token.shifted offset w.length) := by
  have hscan := significant_scan_insert hw (exists_stop_of_betweenTokens hoffset).2
    fun t ht hstop hquote => hopen t (mem_markFrom_of_not_isWord ht (by rw [hquote.1]; rfl))
      (hstop.trans (Nat.zero_add offset)) hquote
  rw [Nat.zero_add] at hscan
  rw [significant_tokenize_eq, significant_tokenize_eq, hscan, markFrom_map_shifted]

/-- Readers do not look at offsets but to report them. -/
theorem compatible_shifted {offset sourceEnd : Nat} (h : offset ≤ sourceEnd) (count : Nat) :
    Compatible (fun f f' => f' = f.shifted offset count)
      (fun t t' => t' = t.shifted offset count) Eq
      ⟨sourceEnd, .folding⟩ ⟨sourceEnd + count, .folding⟩ := by
  have hpos (cause : ParseError.Cause) (text : Text) (start : Nat) :
      ParseFailure.malformed
          ⟨cause, text, (if offset ≤ start then start + count else start : Nat)⟩ =
        ParseFailure.shifted offset count (.malformed ⟨cause, text, start⟩) := by
    simp only [ParseFailure.shifted, Nat.cast_le]
    split <;> rfl
  refine { compatible_refl ⟨sourceEnd, .folding⟩ with
    look := ?_, at_token := ?_, at_end := ?_, digits := fun _ => rfl }
  · rintro t _ rfl
    rfl
  · rintro t _ rfl cause text
    exact hpos cause text t.start
  · have hend := hpos .unexpectedEnd [] sourceEnd
    rwa [if_pos h] at hend

theorem beside_map_shifted (offset count : Nat) (ts : List Token) :
    Beside (fun t t' => t' = t.shifted offset count) ts.length ts
      (ts.map (Token.shifted offset count)) :=
  ⟨Nat.le_refl _, List.forall₂_map_right_iff.mpr (List.forall₂_same.mpr fun _ _ => rfl)⟩

/-- White space between tokens is insignificant: the significant tokens are the same, those after it
moved along, and so the source is read as the same tree, or refused with the same error, which moves
along if it is at or after the white space. Only the end of a string without its closing quote is no
place for it. -/
theorem Expr.parse_insert_spaces {source w : Text} {offset : Nat}
    (hoffset : BetweenTokens source offset)
    (hopen : ∀ t ∈ tokenize source, t.stop = offset → ¬ t.IsOpenString)
    (hw : ∀ c ∈ w, isSpace c = true) :
    significant (tokenize (source.take offset ++ w ++ source.drop offset)) =
      (significant (tokenize source)).map (Token.shifted offset w.length) ∧
    parse (source.take offset ++ w ++ source.drop offset) =
      (parse source).mapError (ParseFailure.shifted offset w.length) := by
  have htokens := significant_tokenize_insert hoffset hopen hw
  have hle := (exists_stop_of_betweenTokens hoffset).1
  have hlength : (source.take offset ++ w ++ source.drop offset).length =
      source.length + w.length := by
    simp only [List.length_append, List.length_take, List.length_drop]
    omega
  have hc := compatible_shifted hle w.length
  have hatom := correspond_atom hc (significant (tokenize source)).length nestingLimit
  have hread := holds_readIn (C := .plain _) hc hatom
    (beside_map_shifted offset w.length (significant (tokenize source)))
  rw [← Grammar.read_eq_readIn, ← Grammar.read_eq_readIn, ← htokens, ← hlength] at hread
  exact ⟨htokens, hread.eq_mapError⟩

/-- A line break before a comparison of two signs: the error after it is two characters further. -/
theorem Expr.parse_insert_line_break :
    Expr.parse "a\r\n<=*".toList =
      (Expr.parse "a<=*".toList).mapError (ParseFailure.shifted 1 2) ∧
    Expr.parse "a\r\n<=*".toList = .error (.malformed ⟨.unexpectedToken, ['*'], 5⟩) := by
  have htokens : tokenize "a<=*".toList = [] ++ ⟨.identifier, ['a'], 0⟩ ::
      ⟨.operator .lessEqual, ['<', '='], 1⟩ :: [⟨.operator .mul, ['*'], 3⟩] := by
    decide +kernel
  have hspaces : ∀ c ∈ ['\r', '\n'], isSpace c = true := by simp [isSpace]
  have hinsert := Expr.parse_insert_spaces (.inr (.inr ⟨_, _, _, _, htokens, rfl, rfl⟩))
    (fun t ht _ hopen => by
      have herror : ∀ t ∈ tokenize "a<=*".toList, t.kind ≠ .error := by decide +kernel
      exact herror t ht hopen.1) hspaces
  exact ⟨hinsert.2, by decide +kernel⟩

end EffectLang
