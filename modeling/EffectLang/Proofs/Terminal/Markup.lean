import Mathlib.Data.List.Basic
import EffectLang.Terminal.Markup

/-!
# What escaped markup shows

Escaping puts as many backslashes before each tag as there are already, and one more. So the tag is
shown, with the backslashes that stood before it, and no tag counts. What is left to go wrong is a
backslash before a bracket that begins no tag, which is taken for an escape, and a name of an emoji
between colons.
-/

namespace EffectLang.Terminal

/-! ## Emoji codes -/

/-- No emoji has a name that stands between colons in the text. -/
def CodeFree (text : Text) : Prop :=
  ∀ code, ':' :: code ++ [':'] <:+: text → glyph? (splitForm code).1 = none

theorem CodeFree.of_infix {part text : Text} (h : CodeFree text) (hpart : part <:+: text) :
    CodeFree part :=
  fun code hcode => h code (hcode.trans hpart)

/-- A code that names nothing is shown with its colons. -/
theorem showCode_of_none {code : Text} (h : glyph? (splitForm code).1 = none) :
    showCode code = ':' :: code ++ [':'] := by
  rw [showCode, h]
  rfl

theorem replaceCodesFrom_of_codeFree {code : Option Text} {text : Text}
    (h : CodeFree (code.elim [] (fun read => ':' :: read.reverse) ++ text)) :
    replaceCodesFrom code text = code.elim [] (fun read => ':' :: read.reverse) ++ text := by
  induction text generalizing code with
  | nil =>
    rw [List.append_nil]
    rfl
  | cons c rest ih =>
    have hrest : CodeFree rest :=
      h.of_infix ((List.suffix_cons c rest).isInfix.trans (List.suffix_append _ _).isInfix)
    cases code with
    | none =>
      rw [replaceCodesFrom]
      split
      · next hc =>
        subst hc
        exact @ih (some []) h
      · exact congrArg (c :: ·) (@ih none hrest)
    | some read =>
      rw [replaceCodesFrom]
      split
      · next hc =>
        subst hc
        have hcode : ':' :: read.reverse ++ [':'] <:+: ':' :: read.reverse ++ ':' :: rest := by
          rw [List.append_cons _ ':' rest]
          exact (List.prefix_append _ rest).isInfix
        rw [showCode_of_none (h _ hcode), @ih none hrest]
        exact (List.append_cons (':' :: read.reverse) ':' rest).symm
      · split
        · rw [@ih none hrest]
          rfl
        · have hread : ':' :: (c :: read).reverse ++ rest = ':' :: read.reverse ++ c :: rest := by
            simp
          have hnext := @ih (some (c :: read)) (hread ▸ h)
          exact hnext.trans hread

/-- A text without codes is shown as it is. -/
theorem replaceCodes_of_codeFree {text : Text} (h : CodeFree text) : replaceCodes text = text :=
  @replaceCodesFrom_of_codeFree none text h

/-! ## Tags -/

/-- What the search for the end of a tag passes over. -/
def isTagBody (c : Char) : Bool :=
  c ≠ '[' && c ≠ ']'

theorem beginsWithTag_cons_cons (c : Char) (rest : Text) :
    beginsWithTag ('[' :: c :: rest) =
      (isTagStart c && (rest.dropWhile isTagBody).head? = some ']') :=
  rfl

theorem not_beginsWithTag {c : Char} (h : c ≠ '[') (rest : Text) :
    ¬ beginsWithTag (c :: rest) = true := by
  unfold beginsWithTag
  split
  · next heq => exact absurd (List.cons.inj heq).1 h
  · nofun

/-- A tag goes from a bracket to the one that closes it, with none between them. -/
theorem exists_tag {c : Char} {rest : Text} (h : beginsWithTag (c :: rest) = true) :
    c = '[' ∧ ∃ body more, rest = body ++ ']' :: more ∧ '[' ∉ body ∧ ']' ∉ body := by
  obtain rfl : c = '[' := Decidable.byContradiction fun hc => not_beginsWithTag hc rest h
  cases rest with
  | nil => cases h
  | cons d rest =>
    rw [beginsWithTag_cons_cons] at h
    obtain ⟨hstart, hclose⟩ := Bool.and_eq_true_iff.mp h
    obtain ⟨more, hmore⟩ := List.head?_eq_some_iff.mp (of_decide_eq_true hclose)
    have hsplit : rest.takeWhile isTagBody ++ ']' :: more = rest := by
      rw [← hmore, List.takeWhile_append_dropWhile]
    have hbody : ∀ e ∈ d :: rest.takeWhile isTagBody, isTagBody e = true := by
      refine List.forall_mem_cons.mpr ⟨?_, List.all_eq_true.mp List.all_takeWhile⟩
      have hbrackets : d ≠ '[' ∧ d ≠ ']' := by
        constructor <;> (rintro rfl; exact absurd hstart (by decide))
      simpa [isTagBody] using hbrackets
    refine ⟨rfl, d :: rest.takeWhile isTagBody, more, by rw [List.cons_append, hsplit], ?_, ?_⟩
    · exact fun hmem => absurd (hbody _ hmem) (by decide)
    · exact fun hmem => absurd (hbody _ hmem) (by decide)

/-! ## Escaping -/

/-- Backslashes are put before brackets only, so the same bracket is found first. -/
theorem head?_dropWhile_escapeTags (run : Nat) (text : Text) :
    ((escapeTags run text).dropWhile isTagBody).head? = (text.dropWhile isTagBody).head? := by
  fun_induction escapeTags run text with
  | case1 => rfl
  | case2 run c rest htag _ =>
    obtain ⟨rfl, -⟩ := exists_tag htag
    have hslashes : ∀ d ∈ List.replicate (run + 1) '\\', isTagBody d = true := by
      intro d hd
      rw [(List.mem_replicate.mp hd).2]
      decide
    rw [List.dropWhile_append_of_pos hslashes]
    rfl
  | case3 run c rest _ ih =>
    by_cases hc : isTagBody c = true
    · rw [List.dropWhile_cons_of_pos hc, List.dropWhile_cons_of_pos hc]
      exact ih
    · rw [List.dropWhile_cons_of_neg hc, List.dropWhile_cons_of_neg hc]
      rfl

/-- Escaping what follows a bracket makes no tag of it, and leaves one a tag. -/
theorem beginsWithTag_escapeTags (run : Nat) (rest : Text) :
    beginsWithTag ('[' :: escapeTags run rest) = beginsWithTag ('[' :: rest) := by
  cases rest with
  | nil => rfl
  | cons d rest =>
    rw [escapeTags]
    split
    · next htag =>
      obtain ⟨rfl, -⟩ := exists_tag htag
      rfl
    · rw [beginsWithTag_cons_cons, beginsWithTag_cons_cons, head?_dropWhile_escapeTags]

/-- What has no opening bracket is left alone. -/
theorem escapeTags_append {body : Text} (h : '[' ∉ body) (run : Nat) (more : Text) :
    escapeTags run (body ++ ']' :: more) = body ++ ']' :: escapeTags 0 more := by
  induction body generalizing run with
  | nil =>
    rw [List.nil_append, escapeTags, if_neg (not_beginsWithTag (by decide) more)]
    rfl
  | cons c body ih =>
    obtain ⟨hc, hbody⟩ := not_or.mp (mt List.mem_cons.mpr h)
    rw [List.cons_append, escapeTags, if_neg (not_beginsWithTag (Ne.symm hc) _), ih hbody]
    rfl

theorem getLast?_escapeTags (run : Nat) (text : Text) :
    (escapeTags run text).getLast? = text.getLast? := by
  fun_induction escapeTags run text with
  | case1 => rfl
  | case2 run c rest _ ih =>
    rw [List.getLast?_append, List.getLast?_cons, List.getLast?_cons, ih]
    rfl
  | case3 run c rest _ ih => rw [List.getLast?_cons, List.getLast?_cons, ih]

/-! ## Reading escaped markup -/

theorem markupParts_backslashes (count : Nat) (read : Text) (run : Nat) (rest : Text) :
    markupParts (.plain read run) (List.replicate count '\\' ++ rest) =
      markupParts (.plain (List.replicate count '\\' ++ read) (run + count)) rest := by
  induction count generalizing read run with
  | zero => rfl
  | succ count ih =>
    rw [List.replicate_succ, List.cons_append, markupParts,
      if_neg (not_beginsWithTag (by decide) _), if_pos rfl, ih, ← List.replicate_succ,
      List.replicate_succ', List.append_assoc, Nat.add_assoc, Nat.add_comm 1]
    rfl

theorem markupParts_escapedTag {body : Text} (h : ']' ∉ body) (read more : Text) :
    markupParts (.escapedTag read) (body ++ ']' :: more) =
      .text (read.reverse ++ body ++ [']']) :: markupParts (.plain [] 0) more := by
  induction body generalizing read with
  | nil =>
    rw [List.nil_append, markupParts, if_pos rfl]
    simp
  | cons c body ih =>
    obtain ⟨hc, hbody⟩ := not_or.mp (mt List.mem_cons.mpr h)
    rw [List.cons_append, markupParts, if_neg (Ne.symm hc), ih hbody]
    simp

/-- An escaped tag, with the backslashes before it. -/
theorem markupParts_tag {body more : Text} (hopen : '[' ∉ body) (hclose : ']' ∉ body)
    (htag : beginsWithTag ('[' :: (body ++ ']' :: more)) = true) (run : Nat) (before : Text) :
    markupParts (.plain (List.replicate run '\\' ++ before) run)
        (escapeTags run ('[' :: (body ++ ']' :: more))) =
      .text before.reverse :: .text (List.replicate run '\\') :: .text ('[' :: body ++ [']']) ::
        markupParts (.plain [] 0) (escapeTags 0 more) := by
  have hhalf : (run + (run + 1)) / 2 = run := by omega
  have hodd : (run + (run + 1)) % 2 = 1 := by omega
  have hread : List.replicate (run + 1) '\\' ++ (List.replicate run '\\' ++ before) =
      List.replicate (run + (run + 1)) '\\' ++ before := by
    rw [← List.append_assoc, List.replicate_append_replicate, Nat.add_comm]
  have hdrop : (List.replicate (run + (run + 1)) '\\' ++ before).drop (run + (run + 1)) =
      before := by
    rw [List.drop_left' List.length_replicate]
  rw [escapeTags, if_pos htag, markupParts_backslashes, hread, markupParts,
    if_pos (by rw [beginsWithTag_escapeTags]; exact htag), hdrop, hhalf, if_pos hodd,
    escapeTags_append hopen, markupParts_escapedTag hclose]
  rfl

/-- A character that begins no tag. -/
theorem markupParts_plain {c : Char} {rest : Text} (h : ¬ beginsWithTag (c :: rest) = true)
    (read : Text) (run : Nat) :
    markupParts (.plain read run) (escapeTags run (c :: rest)) =
      markupParts (.plain (c :: read) (if c = '\\' then run + 1 else 0))
        (escapeTags (if c = '\\' then run + 1 else 0) rest) := by
  have hplain (run : Nat) : ¬ beginsWithTag (c :: escapeTags run rest) = true := by
    by_cases hbracket : c = '['
    · rw [hbracket, beginsWithTag_escapeTags, ← hbracket]
      exact h
    · exact not_beginsWithTag hbracket _
  rw [escapeTags, if_neg h, markupParts, if_neg (hplain _)]

/-- Every bracket with a backslash before it begins a tag. -/
def EscapesTagsOnly (text : Text) : Prop :=
  ∀ rest, '\\' :: '[' :: rest <:+ text → beginsWithTag ('[' :: rest) = true

/-- A backslash before a bracket is taken for an escape. -/
def HasEscape (text : Text) : Prop :=
  ['\\', '['] <:+: text

theorem not_hasEscape_of_not_mem {text : Text} (h : '[' ∉ text) : ¬ HasEscape text :=
  fun hescape => h (hescape.subset (by simp))

theorem not_hasEscape_tag {body : Text} (h : '[' ∉ body) : ¬ HasEscape ('[' :: body ++ [']']) := by
  rintro ⟨before, after, heq⟩
  cases before with
  | nil => exact absurd (List.cons.inj heq).1 (by decide)
  | cons c before =>
    have htail : before ++ ['\\', '['] ++ after = body ++ [']'] := (List.cons.inj heq).2
    have hmem : '[' ∈ body ++ [']'] := by
      rw [← htail]
      simp
    rcases List.mem_append.mp hmem with hbody | hlast
    · exact h hbody
    · exact absurd (List.mem_singleton.mp hlast) (by decide)

/-- One more character makes an escape only of a backslash and a bracket that begins no tag. -/
theorem not_hasEscape_concat {before rest : Text} {c : Char} (h : ¬ HasEscape before)
    (htag : ¬ beginsWithTag (c :: rest) = true) (hescapes : EscapesTagsOnly (before ++ c :: rest)) :
    ¬ HasEscape (before ++ [c]) := by
  intro hescape
  rcases List.infix_concat_iff.mp hescape with hsuffix | hinfix
  · obtain ⟨front, hfront⟩ := hsuffix
    have hboth : front ++ ['\\'] = before ∧ '[' = c := by
      have hinit : (front ++ ['\\']) ++ ['['] = before ++ [c] := by simpa using hfront
      exact List.append_inj' hinit rfl |>.imp id fun h => (List.cons.inj h).1
    obtain ⟨rfl, rfl⟩ := hboth
    refine htag (hescapes rest ⟨front, ?_⟩)
    simp
  · exact h hinfix

/-- Escaped markup is read as pieces of text that make up the text again, with no tags among them.
There are no escapes in the pieces if there are none in the text but those of tags. -/
theorem exists_pieces (text : Text) (run : Nat) (before : Text) :
    ∃ pieces : List Text,
      markupParts (.plain (List.replicate run '\\' ++ before) run) (escapeTags run text) =
        pieces.map .text ∧
      pieces.flatten = (List.replicate run '\\' ++ before).reverse ++ text ∧
      (EscapesTagsOnly ((List.replicate run '\\' ++ before).reverse ++ text) →
        ¬ HasEscape (List.replicate run '\\' ++ before).reverse →
        ∀ piece ∈ pieces, ¬ HasEscape piece) := by
  -- after a tag the reader goes on behind its closing bracket
  induction hlength : text.length using Nat.strongRecOn generalizing text run before with
  | ind length ih =>
    subst hlength
    cases text with
    | nil =>
      exact ⟨[_], rfl, by simp, fun _ hbefore => List.forall_mem_singleton.mpr hbefore⟩
    | cons c rest =>
      by_cases htag : beginsWithTag (c :: rest) = true
      · obtain ⟨rfl, body, more, rfl, hopen, hclose⟩ := exists_tag htag
        obtain ⟨pieces, hparts, hflatten, hpieces⟩ := ih more.length
          (by simp only [List.length_cons, List.length_append]; omega) more 0 [] rfl
        refine ⟨before.reverse :: List.replicate run '\\' :: ('[' :: body ++ [']']) :: pieces,
          ?_, ?_, fun hescapes hbefore => ?_⟩
        · rw [markupParts_tag hopen hclose htag]
          exact congrArg (_ :: _ :: _ :: ·) hparts
        · simp only [List.flatten_cons, hflatten]
          simp
        · have hmore : EscapesTagsOnly more := fun rest hrest => hescapes rest (hrest.trans (by
            refine List.suffix_append_of_suffix ?_
            exact ⟨'[' :: body ++ [']'], by simp⟩))
          refine List.forall_mem_cons.mpr ⟨fun h => hbefore ?_, List.forall_mem_cons.mpr ⟨?_,
            List.forall_mem_cons.mpr ⟨not_hasEscape_tag hopen, hpieces hmore ?_⟩⟩⟩
          · rw [List.reverse_append]
            exact h.trans (List.prefix_append _ _).isInfix
          · exact not_hasEscape_of_not_mem fun h => absurd (List.mem_replicate.mp h).2 (by decide)
          · simp [HasEscape]
      · have hread : ∃ before', c :: (List.replicate run '\\' ++ before) =
            List.replicate (if c = '\\' then run + 1 else 0) '\\' ++ before' := by
          split
          · next hc => exact ⟨before, by rw [hc, List.replicate_succ, List.cons_append]⟩
          · exact ⟨c :: (List.replicate run '\\' ++ before), rfl⟩
        obtain ⟨before', hread⟩ := hread
        have hwhole : (c :: (List.replicate run '\\' ++ before)).reverse ++ rest =
            (List.replicate run '\\' ++ before).reverse ++ c :: rest := by
          rw [List.reverse_cons, ← List.append_cons]
        obtain ⟨pieces, hparts, hflatten, hpieces⟩ := ih rest.length (Nat.lt_succ_self _) rest _
          before' rfl
        rw [← hread, hwhole] at hflatten hpieces
        refine ⟨pieces, ?_, hflatten, fun hescapes hbefore => hpieces hescapes ?_⟩
        · rw [markupParts_plain htag, hread, hparts]
        · rw [List.reverse_cons]
          exact not_hasEscape_concat hbefore htag hescapes

/-! ## What is shown -/

theorem dropBracketEscapes_eq {text : Text} (h : ¬ HasEscape text) :
    dropBracketEscapes text = text := by
  fun_induction dropBracketEscapes text with
  | case1 rest _ => exact absurd ⟨[], rest, rfl⟩ h
  | case2 c rest _ ih =>
    rw [ih fun hrest => h (hrest.trans (List.suffix_cons c rest).isInfix)]
  | case3 => rfl

theorem endsInBackslash_eq_false {text : Text} (h : text.getLast? ≠ some '\\') :
    endsInBackslash text = false := by
  rw [List.getLast?_eq_head?_reverse] at h
  unfold endsInBackslash
  split
  · rfl
  · next heq =>
    rw [heq] at h
    exact absurd rfl h
  · rfl

/-- A text that does not end in a backslash. -/
theorem escapeMarkup_eq {text : Text} (hlast : text.getLast? ≠ some '\\') :
    escapeMarkup text = escapeTags 0 text := by
  unfold escapeMarkup
  rw [if_neg]
  rw [endsInBackslash_eq_false (by rwa [getLast?_escapeTags])]
  decide

/-- The escaped markup of such a text is not refused: no tag in it counts. -/
theorem markupFailure?_escapeMarkup {text : Text} (hlast : text.getLast? ≠ some '\\') :
    markupFailure? (escapeMarkup text) = none := by
  obtain ⟨pieces, hparts, -, -⟩ := exists_pieces text 0 []
  have hparts : markupParts (.plain [] 0) (escapeTags 0 text) = pieces.map .text := hparts
  have hnone : (pieces.map MarkupPart.text).findSome? MarkupPart.tag? = none := by
    simp [MarkupPart.tag?]
  rw [markupFailure?, escapeMarkup_eq hlast, hparts, hnone]
  rfl

/-- A text is shown as it is if its markup is escaped, unless a code or an escape in it means
something. -/
theorem showMarkup_escapeMarkup {text : Text} (hcodes : CodeFree text)
    (hescapes : EscapesTagsOnly text) (hlast : text.getLast? ≠ some '\\') :
    showMarkup (escapeMarkup text) = text := by
  obtain ⟨pieces, hparts, hflatten, hpieces⟩ := exists_pieces text 0 []
  have hparts : markupParts (.plain [] 0) (escapeTags 0 text) = pieces.map .text := hparts
  have hflatten : pieces.flatten = text := hflatten
  have hpieces := hpieces hescapes (by simp [HasEscape])
  have hrender : ∀ piece ∈ pieces, (MarkupPart.text piece).render = piece := by
    intro piece hpiece
    have hinfix : piece <:+: text := hflatten ▸ List.infix_of_mem_flatten hpiece
    rw [MarkupPart.render, dropBracketEscapes_eq (hpieces piece hpiece),
      replaceCodes_of_codeFree (hcodes.of_infix hinfix)]
  rw [showMarkup, escapeMarkup_eq hlast, hparts, List.flatMap_map]
  conv_rhs => rw [← hflatten, List.flatten_eq_flatMap]
  exact List.flatMap_congr hrender

end EffectLang.Terminal
