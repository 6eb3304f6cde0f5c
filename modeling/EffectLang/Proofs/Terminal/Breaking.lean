import Mathlib.Data.List.DropRight
import Mathlib.Data.List.SplitBy
import EffectLang.Proofs.Token.Respacing
import EffectLang.Terminal.Console
import EffectLang.Text.Blank

/-!
# Texts on a console

A console prints a text as it is if its lines fit. A longer line is broken. Nothing is said here of
how, but that it is broken after blanks where each word fits, with the blanks at the end of a line
left out or not. Then the text has other white space and is the same otherwise.
-/

namespace EffectLang.Terminal

/-! ## Laying out -/

theorem flatMap_layoutPiece {text : Text} (h : '\t' ∉ text) (style : Option String)
    (before : Text.Extent) (read : Text) :
    (layoutPiece style before read text).1.flatMap Piece.text = read.reverse ++ text := by
  induction text generalizing before read with
  | nil => simp [layoutPiece]
  | cons c rest ih =>
    obtain ⟨hc, hrest⟩ := not_or.mp (mt List.mem_cons.mpr h)
    rw [layoutPiece]
    split
    · next hbreak =>
      subst hbreak
      simp [ih hrest]
    · rw [if_neg (Ne.symm hc), ih hrest, List.reverse_cons]
      exact (List.append_cons _ _ _).symm

/-- Empty pieces show nothing. -/
theorem flatMap_filter_pieces (pieces : List Piece) :
    (pieces.filter (!·.text.isEmpty)).flatMap Piece.text = pieces.flatMap Piece.text := by
  induction pieces with
  | nil => rfl
  | cons piece rest ih =>
    rw [List.filter_cons, List.flatMap_cons, ← ih]
    cases htext : piece.text with
    | nil => rfl
    | cons c cs => simp [htext]

/-- Without tabs and characters that are never sent, nothing changes. -/
theorem flatMap_layout_sanitize {text : Text} (htabs : '\t' ∉ text)
    (hsent : ∀ c ∈ text, isDropped c = false) :
    (layout .empty [⟨none, sanitize text⟩]).flatMap Piece.text = text := by
  have hsanitize : sanitize text = text :=
    List.filter_eq_self.mpr fun c hc => by rw [hsent c hc]; rfl
  simp only [layout, List.append_nil, hsanitize]
  rw [flatMap_filter_pieces, flatMap_layoutPiece htabs]
  rfl

/-! ## Lines that are broken after blanks -/

/-- The lines are those of a text that is broken after blanks. Blanks at the end of a line can be
left out. -/
inductive CutAtBlanks : Text → List Text → Prop
  | last (line : Text) {dropped : Text} :
      (∀ c ∈ dropped, Text.isBlank c = true) → CutAtBlanks (line ++ dropped) [line]
  | cut (line : Text) {dropped rest : Text} {lines : List Text} :
      (∀ c ∈ dropped, Text.isBlank c = true) →
        (∃ c ∈ (line ++ dropped).getLast?, Text.isBlank c = true) →
        CutAtBlanks rest lines → CutAtBlanks (line ++ dropped ++ rest) (line :: lines)

theorem CutAtBlanks.whole (line : Text) : CutAtBlanks line [line] := by
  have hlast := CutAtBlanks.last line (List.forall_mem_nil _)
  rwa [List.append_nil] at hlast

/-- A text that is broken after spaces is the same but for its white space. -/
theorem CutAtBlanks.respaced {text : Text} {lines : List Text} (h : CutAtBlanks text lines)
    (hspaces : ∀ c ∈ text, Text.isBlank c = true → isSpace c = true) :
    Respaced text (Text.join ['\n'] lines) := by
  induction h with
  | last line hdropped =>
    have hdone : Respaced (line ++ _) (line ++ []) := .append line (.done fun c hc =>
      hspaces c (List.mem_append_right _ hc) (hdropped c hc))
    rwa [List.append_nil] at hdone
  | @cut line dropped rest lines hdropped hlast hcut ih =>
    obtain ⟨hbefore, hafter⟩ := List.forall_mem_append.mp hspaces
    have hjoin : Text.join ['\n'] (line :: lines) = line ++ ['\n'] ++ Text.join ['\n'] lines := by
      cases hcut <;> rfl
    have hbreak : ∀ c ∈ ['\n'], isSpace c = true := List.forall_mem_singleton.mpr rfl
    rw [hjoin]
    cases dropped with
    | cons c cs =>
      rw [List.append_assoc, List.append_assoc]
      refine .append line (.space (List.cons_ne_nil c cs) (fun d hd => ?_) (by simp) hbreak
        (ih hafter))
      exact hbefore d (List.mem_append_right _ hd) (hdropped d hd)
    | nil =>
      -- the line keeps its blanks, so the break is put after the last one
      obtain ⟨c, hc, hblank⟩ := hlast
      rw [List.append_nil] at hc hbefore ⊢
      obtain ⟨front, rfl⟩ := List.getLast?_eq_some_iff.mp hc
      have hspace := hbefore c (by simp) hblank
      simp only [List.append_assoc]
      refine .append front ?_
      have hpair : ∀ d ∈ [c, '\n'], isSpace d = true := List.forall_mem_cons.mpr ⟨hspace, hbreak⟩
      exact @Respaced.space [c] [c, '\n'] _ _ (List.cons_ne_nil c [])
        (List.forall_mem_singleton.mpr hspace) (List.cons_ne_nil _ _) hpair (ih hafter)

/-! ## Consoles -/

theorem join_splitOn (c : Char) (text : Text) : Text.join [c] (text.splitOn c) = text := by
  have hjoin (parts : List Text) : Text.join [c] parts = [c].intercalate parts := by
    induction parts with
    | nil => rfl
    | cons part rest ih =>
      cases rest with
      | nil => simp
      | cons next rest => rw [Text.join_cons_cons, ih, List.intercalate_cons_cons]
  rw [hjoin, List.intercalate_splitOn]

namespace Console

/-- A line that is not longer than the console is wide, in cells and in characters. -/
def Fits (console : Console) (line : Text) : Prop :=
  Text.width line ≤ console.columns ∧ line.length ≤ console.columns

instance (console : Console) (line : Text) : Decidable (console.Fits line) :=
  inferInstanceAs (Decidable (_ ∧ _))

/-- A console that breaks no line that fits, and breaks a line of words that fit after blanks. Of
what it does with blanks other than the space and with characters that have no cell, nothing is
known. -/
structure WrapsWords (console : Console) : Prop where
  fits : ∀ line, console.Fits line → console.breakLine line = [line]
  words : ∀ line, (∃ c ∈ line.head?, Text.isBlank c = false) →
    (∀ c ∈ line, Text.cells c ≠ 0 ∧ (Text.isBlank c = true → c = ' ')) →
    (∀ word ∈ Text.partsBetween Text.isBlank line, Text.width word ≤ console.columns) →
    CutAtBlanks line (console.breakLine line)

variable {console : Console} {text : Text}

theorem showText_eq (htabs : '\t' ∉ text) (hsent : ∀ c ∈ text, isDropped c = false) :
    console.showText text = Text.join ['\n'] ((text.splitOn '\n').flatMap console.breakLine) := by
  rw [showText, flatMap_layout_sanitize htabs hsent]

namespace WrapsWords

/-- A text whose lines fit is printed as it is. -/
theorem showText_of_fits (h : console.WrapsWords) (htabs : '\t' ∉ text)
    (hsent : ∀ c ∈ text, isDropped c = false)
    (hfits : ∀ line ∈ text.splitOn '\n', console.Fits line) : console.showText text = text := by
  have hlines : (text.splitOn '\n').flatMap console.breakLine = text.splitOn '\n' := by
    rw [List.flatMap_congr fun line hline => h.fits line (hfits line hline)]
    exact List.flatMap_singleton' _
  rw [showText_eq htabs hsent, hlines, join_splitOn]

/-- A text of words that fit, with spaces between them, is printed with other white space. -/
theorem respaced_showText (h : console.WrapsWords)
    (hfirst : ∃ c ∈ text.head?, Text.isBlank c = false)
    (hchars : ∀ c ∈ text, Text.cells c ≠ 0 ∧ (Text.isBlank c = true → c = ' '))
    (hsent : ∀ c ∈ text, isDropped c = false)
    (hwords : ∀ word ∈ Text.partsBetween Text.isBlank text, Text.width word ≤ console.columns) :
    Respaced text (console.showText text) := by
  have hnot {c : Char} (hblank : Text.isBlank c = true) (hne : c ≠ ' ') : c ∉ text :=
    fun hc => hne ((hchars c hc).2 hblank)
  have hline : text.splitOn '\n' = [text] := List.splitOn_eq_singleton (hnot rfl (by decide))
  rw [showText_eq (hnot rfl (by decide)) hsent, hline, List.flatMap_singleton]
  refine (h.words text hfirst hchars hwords).respaced fun c hc hblank => ?_
  rw [(hchars c hc).2 hblank]
  rfl

end WrapsWords
end Console

/-! ## A console that fills its lines -/

/-- The line without the blanks at its end that are beyond the columns. -/
def crop (columns : Nat) (line : Text) : Text :=
  line.take columns ++ (line.drop columns).rdropWhile Text.isBlank

theorem exists_crop (columns : Nat) (line : Text) :
    ∃ dropped, line = crop columns line ++ dropped ∧ ∀ c ∈ dropped, Text.isBlank c = true := by
  refine ⟨(line.drop columns).rtakeWhile Text.isBlank, ?_, fun c => List.mem_rtakeWhile_imp⟩
  rw [crop, List.append_assoc, List.rdropWhile_append_rtakeWhile, List.take_append_drop]

/-- Puts words on a line as long as they fit, and goes on with the next line. Each word has the
blanks after it, which need not fit. -/
def fillLines (columns : Nat) (line : Text) : List Text → List Text
  | [] => [crop columns line]
  | word :: rest =>
    if Text.width (line ++ word.rdropWhile Text.isBlank) ≤ columns then
      fillLines columns (line ++ word) rest
    else crop columns line :: fillLines columns word rest

theorem cutAtBlanks_fillLines (columns : Nat) (line : Text) (words : List Text)
    (h : (line :: words).IsChain fun word _ => ∃ c ∈ word.getLast?, Text.isBlank c = true) :
    CutAtBlanks (line ++ words.flatten) (fillLines columns line words) := by
  induction words generalizing line with
  | nil =>
    obtain ⟨dropped, hline, hdropped⟩ := exists_crop columns line
    rw [List.flatten_nil, List.append_nil, fillLines]
    nth_rewrite 1 [hline]
    exact .last _ hdropped
  | cons word rest ih =>
    obtain ⟨hline, hrest⟩ := List.isChain_cons_cons.mp h
    rw [fillLines, List.flatten_cons]
    split
    · rw [← List.append_assoc]
      refine ih _ ?_
      cases rest with
      | nil => exact .singleton _
      | cons next rest =>
        obtain ⟨⟨c, hc, hblank⟩, hnext⟩ := List.isChain_cons_cons.mp hrest
        refine List.isChain_cons_cons.mpr ⟨⟨c, ?_, hblank⟩, hnext⟩
        rw [List.getLast?_append, hc]
        rfl
    · obtain ⟨dropped, hcrop, hdropped⟩ := exists_crop columns line
      rw [hcrop] at hline
      nth_rewrite 1 [hcrop]
      exact .cut _ hdropped hline (ih word hrest)

namespace Console

/-- A console that fills its lines with words. -/
def filling (columns : Nat) : Console where
  columns := columns
  breakLine line :=
    if Text.width line ≤ columns ∧ line.length ≤ columns then [line]
    else
      match line.splitBy fun c d => !Text.isBlank c || Text.isBlank d with
      | [] => [line]
      | word :: rest => fillLines columns word rest

theorem wrapsWords_filling (columns : Nat) : (filling columns).WrapsWords where
  fits line hfits := if_pos hfits
  words line _ _ _ := by
    rw [filling]
    dsimp only
    split
    · exact .whole line
    · split
      · exact .whole line
      · next word rest hsplit =>
        have hflatten := List.flatten_splitBy (fun c d => !Text.isBlank c || Text.isBlank d) line
        have hchain := List.isChain_getLast_head_splitBy
          (fun c d => !Text.isBlank c || Text.isBlank d) line
        rw [hsplit] at hflatten hchain
        rw [← hflatten]
        refine cutAtBlanks_fillLines columns word rest (hchain.imp ?_)
        rintro before after ⟨hbefore, hafter, hbreak⟩
        refine ⟨before.getLast hbefore, List.getLast?_eq_some_getLast hbefore, ?_⟩
        simpa using (Bool.or_eq_false_iff.mp hbreak).1

end Console
end EffectLang.Terminal
