import EffectLang.CommandLine.Run
import EffectLang.Proofs.Grammar.Height
import EffectLang.Proofs.Grammar.Parts
import EffectLang.Proofs.Print.Characters
import EffectLang.Proofs.Print.Roundtrip
import EffectLang.Proofs.Terminal.Breaking
import EffectLang.Proofs.Terminal.Markup

/-!
# What the format command writes

An expression is written as its canonical text, which goes through the console as markup, if the
stack has room for its levels. The output is read like the text if nothing in a name means something
to the console, and if either no line is too long or no name can be broken.
-/

namespace EffectLang
open Terminal

/-- A text with nothing in it that means something to a console: no code, no escape, no tab, and no
character that is never sent. -/
structure Text.ShownAsIs (text : Text) : Prop where
  codes : CodeFree text
  escapes : EscapesTagsOnly text
  tabs : '\t' ∉ text
  sent : ∀ c ∈ text, isDropped c = false

/-- Codes stand between colons, and escapes begin with backslashes. -/
theorem Text.ShownAsIs.of_all {text : Text}
    (h : text.all (fun c => c ≠ ':' ∧ c ≠ '\\' ∧ c ≠ '\t' ∧ isDropped c = false) = true) :
    text.ShownAsIs := by
  have hchars : ∀ c ∈ text, c ≠ ':' ∧ c ≠ '\\' ∧ c ≠ '\t' ∧ isDropped c = false :=
    fun c hc => of_decide_eq_true (List.all_eq_true.mp h c hc)
  refine ⟨fun code hcode => ?_, fun rest hrest => ?_, fun htab => ?_,
    fun c hc => (hchars c hc).2.2.2⟩
  · exact absurd rfl (hchars ':' (hcode.subset List.mem_cons_self)).1
  · exact absurd rfl (hchars '\\' (hrest.subset List.mem_cons_self)).2.1
  · exact absurd rfl (hchars '\t' htab).2.2.1

namespace Expr
variable {e : Expr}

/-! ## Words of a text -/

/-- Every word of the text fits on a line of the console, and no name has a blank at which it can be
broken or a character without a cell. -/
structure WordsFit (console : Console) (e : Expr) : Prop where
  names : ∀ name ∈ e.names, ∀ c ∈ name, Text.isBlank c = false ∧ Text.cells c ≠ 0
  words : ∀ word ∈ Text.partsBetween Text.isBlank e.text, Text.width word ≤ console.columns

/-- Where no name has a blank, no token of the text has white space in it. -/
theorem tokens_of_text (h : e.Normal)
    (hnames : ∀ name ∈ e.names, ∀ c ∈ name, Text.isBlank c = false) :
    ∀ t ∈ significant (tokenize e.text), t.kind ≠ .error ∧
      (t.kind = .string → ∀ c ∈ t.text, isSpace c = false) := by
  have hderives := (spells_text h.printable).derives.1
  rw [normalize_of_normal h] at hderives
  intro t ht
  refine ⟨(hderives.proper t ht).kind_ne_error, fun hstring => ?_⟩
  obtain ⟨name, htext, -⟩ := (lexed_of_mem_tokenize ht).string hstring
  have hname := hderives.quotesOneOf t ht hstring
  rw [htext] at hname ⊢
  have hname : name ∈ e.names := by simpa using hname
  have hclear : ∀ c ∈ name, isSpace c = false :=
    fun c hc => isSpace_eq_false (p := (!Text.isBlank ·)) (by decide)
      (by rw [hnames name hname c hc]; rfl)
  simp only [List.forall_mem_append, List.forall_mem_cons]
  exact ⟨⟨rfl, hclear⟩, rfl, nofun⟩

/-- Where words fit, the text is printed with other white space between its tokens. -/
theorem WordsFit.alike {console : Console} (hfit : e.WordsFit console)
    (hconsole : console.WrapsWords) (h : e.Normal) (hsent : ∀ c ∈ e.text, isDropped c = false) :
    Alike (significant (tokenize e.text)) (significant (tokenize (console.showText e.text))) := by
  have hblanks : ∀ name ∈ e.names, ∀ c ∈ name, Text.isBlank c = false :=
    fun name hname c hc => (hfit.names name hname c hc).1
  have hspaces := eq_space_of_mem_text h.printable hblanks
  have hcells : ∀ c ∈ e.text, Text.cells c ≠ 0 := by
    intro c hc
    rcases (madeOf_text h.printable).1 c hc with hchar | ⟨name, hname, hmem⟩
    · exact cells_ne_zero_of_isSyntaxChar hchar
    · exact (hfit.names name hname c hmem).2
  have hfirst : ∃ c ∈ e.text.head?, Text.isBlank c = false := by
    obtain ⟨c, hc, hspace⟩ := (spells_text h.printable).first
    refine ⟨c, hc, Bool.eq_false_iff.mpr fun hblank => ?_⟩
    rw [hspaces c (List.mem_of_mem_head? hc) hblank] at hspace
    cases hspace
  exact alike_tokenize_of_respaced (hconsole.respaced_showText hfirst
    (fun c hc => ⟨hcells c hc, hspaces c hc⟩) hsent hfit.words) (tokens_of_text h hblanks)

end Expr

namespace CommandLine

/-! ## The output -/

theorem runFormat_eq {source : Text} {e : Expr} (h : Expr.parse source = .ok e)
    (console : Console) (room : Nat) :
    runFormat console room source =
      if e.textHeight ≤ room then .done (consoleLine console [] e.text) else .exhausted := by
  rw [runFormat, h]
  by_cases hroom : e.textHeight ≤ room <;> simp only [Expr.textWithin_eq, hroom, if_true, if_false]

/-- The command succeeds for every expression whose levels the stack has room for in printing, and it
is given up, with nothing written, for every other one. No part of the text is taken for a tag. The
output is read like the canonical text, with the same tree or with the same error about the same
token, if the names mean nothing to the console and either every line fits, when the output is the
canonical text itself, or every word fits and no name can be broken. -/
theorem runFormat_of_parse {console : Console} (hconsole : console.WrapsWords) {source : Text}
    {e : Expr} (h : Expr.parse source = .ok e) :
    markupFailure? (escapeMarkup e.text) = none ∧
    ∃ shown,
      (∀ room, runFormat console room source =
        if e.textHeight ≤ room then .done (shown ++ ['\n']) else .unhandled "RecursionError") ∧
      (e.text.ShownAsIs →
        ((∀ line ∈ e.text.splitOn '\n', console.Fits line) → shown = e.text) ∧
        ((∀ line ∈ e.text.splitOn '\n', console.Fits line) ∨ e.WordsFit console →
          SameOutcome ParseFailure.SameCause Eq (Expr.parse e.text) (Expr.parse shown))) := by
  obtain ⟨hnormal, -⟩ := Expr.normal_of_parse h
  have hlast := Expr.getLast?_text_ne hnormal.printable
  refine ⟨markupFailure?_escapeMarkup hlast, console.showText (showMarkup (escapeMarkup e.text)),
    runFormat_eq h console, fun hshown => ?_⟩
  rw [showMarkup_escapeMarkup hshown.codes hshown.escapes hlast]
  have hsame := hconsole.showText_of_fits hshown.tabs hshown.sent
  refine ⟨hsame, ?_⟩
  rintro (hfits | hfit)
  · rw [hsame hfits]
    exact Expr.sameOutcome_of_alike rfl
  · exact Expr.sameOutcome_of_alike (hfit.alike hconsole hnormal hshown.sent)

/-- A sum that is too long for 80 columns, of two attributes that are not. -/
theorem runFormat_breaks_sum :
    Expr.parse (List.replicate 60 'a' ++ [' ', '+', ' '] ++ List.replicate 60 'b') =
      .ok (.binary .add (.attr (List.replicate 60 'a')) (.attr (List.replicate 60 'b'))) ∧
    ∃ shown,
      runFormat (.filling 80) stackRoom
          (List.replicate 60 'a' ++ [' ', '+', ' '] ++ List.replicate 60 'b') =
        .done (shown ++ ['\n']) ∧
      SameOutcome ParseFailure.SameCause Eq
        (Expr.parse (Expr.text (.binary .add (.attr (List.replicate 60 'a'))
          (.attr (List.replicate 60 'b')))))
        (Expr.parse shown) := by
  have hparse : Expr.parse (List.replicate 60 'a' ++ [' ', '+', ' '] ++ List.replicate 60 'b') =
      .ok (.binary .add (.attr (List.replicate 60 'a')) (.attr (List.replicate 60 'b'))) := by
    decide +kernel
  have hshown : (Expr.text (.binary .add (.attr (List.replicate 60 'a'))
      (.attr (List.replicate 60 'b')))).ShownAsIs := .of_all (by decide +kernel)
  have hletters {d : Char} (h : Text.isBlank d = false ∧ Text.cells d ≠ 0) :
      ∀ c ∈ List.replicate 60 d, Text.isBlank c = false ∧ Text.cells c ≠ 0 := by
    intro c hc
    rwa [List.eq_of_mem_replicate hc]
  have hfit : (Expr.binary .add (.attr (List.replicate 60 'a'))
      (.attr (List.replicate 60 'b'))).WordsFit (.filling 80) :=
    ⟨List.forall_mem_cons.mpr ⟨hletters (by decide),
      List.forall_mem_singleton.mpr (hletters (by decide))⟩, by decide +kernel⟩
  obtain ⟨-, shown, hrun, hsame⟩ := runFormat_of_parse (Console.wrapsWords_filling 80) hparse
  exact ⟨hparse, shown, hrun stackRoom, (hsame hshown).2 (.inr hfit)⟩

/-- An emoji code in a name becomes the emoji, a backslash before a bracket in a name is lost, and
where a line is broken inside of a name, the break becomes a part of the name. The output is another
attribute. -/
theorem runFormat_changes_names :
    (Expr.parse "attr(\":smile:\")".toList = .ok (.attr ":smile:".toList) ∧
      (Expr.attr ":smile:".toList).text = "attr(\":smile:\")".toList ∧
      runFormat .unbroken stackRoom "attr(\":smile:\")".toList = .done "attr(\"😄\")\n".toList ∧
      Expr.parse "attr(\"😄\")".toList = .ok (.attr "😄".toList)) ∧
    (Expr.parse "attr(\"\\[x\")".toList = .ok (.attr "\\[x".toList) ∧
      (Expr.attr "\\[x".toList).text = "attr(\"\\[x\")".toList ∧
      runFormat .unbroken stackRoom "attr(\"\\[x\")".toList = .done "attr(\"[x\")\n".toList ∧
      Expr.parse "attr(\"[x\")".toList = .ok (.attr "[x".toList)) ∧
    (Expr.parse ("attr(\"".toList ++ List.replicate 72 'a' ++ " b\")".toList) =
        .ok (.attr (List.replicate 72 'a' ++ " b".toList)) ∧
      (Expr.attr (List.replicate 72 'a' ++ " b".toList)).text =
        "attr(\"".toList ++ List.replicate 72 'a' ++ " b\")".toList ∧
      runFormat (.filling 80) stackRoom
          ("attr(\"".toList ++ List.replicate 72 'a' ++ " b\")".toList) =
        .done ("attr(\"".toList ++ List.replicate 72 'a' ++ " \nb\")\n".toList) ∧
      Expr.parse ("attr(\"".toList ++ List.replicate 72 'a' ++ " \nb\")".toList) =
        .ok (.attr (List.replicate 72 'a' ++ " \nb".toList))) := by
  decide +kernel

end CommandLine
end EffectLang
