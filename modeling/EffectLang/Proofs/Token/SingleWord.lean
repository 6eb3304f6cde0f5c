import EffectLang.Proofs.Token.Tiling

/-!
# The test for words

`Text.isWord` looks at the characters of a text one by one and knows nothing of tokens. It holds of
the texts that are cut into a single token, if that token is a word; and it holds of the texts that
are the whole name in a reference to an attribute when they stand between its parentheses.
-/

namespace EffectLang

/-- The kinds of words that are not marked, by their names. -/
theorem TokenKind.name_mem_iff {kind : TokenKind} :
    kind.name ∈ ["identifier", "function", "builtin"] ↔
      kind.isWord = true ∧ kind.isMarked = false := by
  cases kind <;> simp [name, isWord, isMarked]

/-- A word by itself is one token. -/
theorem tokenize_of_isWord {name : Text} (h : name.isWord = true) :
    tokenize name = [⟨wordKind name, name, 0⟩] :=
  (Lexeme.word h (Text.stops_nil _)).tokenize_eq

/-- A word between the parentheses of a reference is one token there, and is marked. -/
theorem tokenize_reference {f : Callee} {kind : TokenKind} {name : Text}
    (hf : Announced.nothing.after (.callee f) = .parenthesis kind) (h : name.isWord = true) :
    tokenize (f.spelling ++ '(' :: (name ++ [')'])) =
      [⟨.callee f, f.spelling, 0⟩, ⟨.leftParen, ['('], f.spelling.length⟩,
        ⟨kind, name, f.spelling.length + 1⟩,
        ⟨.rightParen, [')'], f.spelling.length + 1 + name.length⟩] := by
  have hopening : Text.Stops Text.isWordChar ('(' :: (name ++ [')'])) :=
    Text.stops_cons.mpr (by decide)
  have hclosing : Text.Stops Text.isWordChar [')'] := Text.stops_cons.mpr (by decide)
  have hhead := Lexeme.word (isWord_callee f) hopening
  have hparen : Lexeme .leftParen ['('] (name ++ [')']) := .leftParen
  have hlast : Lexeme .rightParen [')'] [] := .rightParen
  have hscan : scan 0 (f.spelling ++ '(' :: (name ++ [')'])) =
      [⟨.callee f, f.spelling, 0⟩, ⟨.leftParen, ['('], f.spelling.length⟩,
        ⟨wordKind name, name, f.spelling.length + 1⟩,
        ⟨.rightParen, [')'], f.spelling.length + 1 + name.length⟩] := by
    rw [hhead.scan_eq, wordKind_callee, Nat.zero_add]
    refine congrArg _ ((hparen.scan_eq _).trans (congrArg _ ?_))
    refine ((Lexeme.word h hclosing).scan_eq _).trans (congrArg _ ?_)
    exact (hlast.scan_eq _).trans (congrArg _ (scan_nil _))
  rw [tokenize, markReferences, hscan, markFrom_cons _ rfl nothing_ne_name, hf,
    markFrom_cons_of_not_isWord _ rfl rfl]
  refine congrArg _ (congrArg _ ?_)
  exact markFrom_name _ (isSignificant_of_isWord (isWord_wordKind name)) (isWord_wordKind name)

/-- The test for words agrees with the tokens. A text is a word exactly if its only token, from the
beginning of the text to its end, is an identifier, a callable name or a built-in value; and exactly
if a reference to an attribute around it has four tokens, of which the third one is marked as the
name and is the whole text. -/
theorem isWord_iff_tokenize (name : Text) :
    (name.isWord = true ↔
      ∃ t, tokenize name = [t] ∧ t.start = 0 ∧ t.stop = name.length ∧
        t.kind.name ∈ ["identifier", "function", "builtin"]) ∧
    (name.isWord = true ↔
      ∃ head opening t closing, tokenize ("attr(".toList ++ name ++ ")".toList) =
          [head, opening, t, closing] ∧
        head.kind.name = "function" ∧ opening.kind = .leftParen ∧
        t.kind = .attributeName ∧ t.text = name ∧ closing.kind = .rightParen) := by
  constructor
  · constructor
    · intro h
      refine ⟨_, tokenize_of_isWord h, rfl, Nat.zero_add _, ?_⟩
      exact TokenKind.name_mem_iff.mpr ⟨isWord_wordKind name, isMarked_wordKind name⟩
    · rintro ⟨t, ht, -, -, hkind⟩
      have htext := flatMap_text_tokenize name
      rw [ht, List.flatMap_singleton] at htext
      have hclassified := classified_of_mem_tokenize t (ht ▸ List.mem_singleton_self t)
      rw [← htext]
      exact hclassified.isWord_iff.mp (TokenKind.name_mem_iff.mp hkind).1
  · constructor
    · intro h
      exact ⟨_, _, _, _, tokenize_reference (f := .attr) rfl h, rfl, rfl, rfl, rfl, rfl⟩
    · rintro ⟨head, opening, t, closing, htokens, -, -, hkind, rfl, -⟩
      have hmem : t ∈ [head, opening, t, closing] := by simp
      have hclassified := classified_of_mem_tokenize t (htokens ▸ hmem)
      exact hclassified.isWord_iff.mp (by rw [hkind]; rfl)

end EffectLang
