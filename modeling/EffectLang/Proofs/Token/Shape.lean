import EffectLang.Proofs.Grammar.Derivation
import EffectLang.Proofs.Token.Lexing

/-!
# What tokens look like

The text of a token fits its kind: words are words, an identifier is neither callable nor a
built-in value, a string has its two quotes and no other. Marking a name keeps this. So every name
that a reference reads can be written again.
-/

namespace EffectLang

/-- A name that can be written: there is something to write, and no quote to end it early. -/
def Text.Quotable (name : Text) : Prop :=
  name ≠ [] ∧ '"' ∉ name

theorem quotable_of_isWord {word : Text} (h : word.isWord = true) : word.Quotable := by
  cases word with
  | nil => cases h
  | cons c cs =>
    simp only [Text.isWord, Bool.and_eq_true, List.all_eq_true] at h
    have hquote : Text.isWordChar '"' = false := by decide
    refine ⟨List.cons_ne_nil c cs, fun hmem => ?_⟩
    rcases List.mem_cons.mp hmem with rfl | hmem
    · exact (isWordStart_excludes h.1).2.1 rfl
    · rw [h.2 _ hmem] at hquote
      cases hquote

/-- A token whose text fits its kind. -/
structure Token.Lexed (t : Token) : Prop where
  word : t.kind.isWord = true → t.text.isWord = true
  identifier : t.kind = .identifier → wordKind t.text = .identifier
  string : t.kind = .string → ∃ name : Text, t.text = '"' :: name ++ ['"'] ∧ '"' ∉ name

namespace Token.Lexed

/-- Nothing is asked of a token that is neither a word nor a string. -/
theorem of_kind {t : Token} (h : t.kind.isWord = false) (hstring : t.kind ≠ .string) :
    t.Lexed where
  word hword := by
    rw [h] at hword
    cases hword
  identifier hkind := by
    rw [hkind] at h
    cases h
  string hkind := absurd hkind hstring

theorem of_word {t : Token} (hword : t.text.isWord = true) (hkind : t.kind = wordKind t.text) :
    t.Lexed where
  word _ := hword
  identifier h := hkind.symm.trans h
  string h := by
    have hword := isWord_wordKind t.text
    rw [← hkind, h] at hword
    cases hword

/-- A name that a reference reads can be written. -/
theorem quotable {t : Token} {name : Text} (h : t.Lexed) (hname : t.ReferenceName name) :
    name.Quotable := by
  cases hname with
  | word hword => exact quotable_of_isWord (h.word hword)
  | quoted hkind htext hne =>
    obtain ⟨inner, hinner, hquote⟩ := h.string hkind
    rw [hinner] at htext
    obtain rfl : inner = name := by simpa using htext
    exact ⟨hne, hquote⟩

end Token.Lexed

/-! ## Scanned tokens -/

theorem take_length_takeWhile (p : Char → Bool) (cs : Text) :
    cs.take (cs.takeWhile p).length = cs.takeWhile p :=
  (List.prefix_iff_eq_take.mp (List.takeWhile_prefix p)).symm

theorem drop_length_takeWhile (p : Char → Bool) (cs : Text) :
    cs.drop (cs.takeWhile p).length = cs.dropWhile p :=
  (congrArg (List.drop _) List.takeWhile_append_dropWhile.symm).trans List.drop_left

theorem stringExtent_fst (cs : Text) :
    (stringExtent cs).1 = .string ∨ (stringExtent cs).1 = .error := by
  unfold stringExtent
  split
  · exact .inl rfl
  · exact .inr rfl

/-- A string without its closing quote is the rest of the text. -/
theorem stringExtent_of_error {cs : Text} (h : (stringExtent cs).1 = .error) :
    stringExtent cs = (.error, cs.length) := by
  unfold stringExtent at h ⊢
  split at h
  · cases h
  · next hquote => rw [if_neg hquote]

theorem numeralExtent_fst (cs : Text) :
    (numeralExtent cs).1 = .integer ∨ (numeralExtent cs).1 = .float := by
  unfold numeralExtent
  dsimp only
  split
  · exact .inr rfl
  · exact .inl rfl

/-- The kinds of signs, and of characters that are no signs. -/
def TokenKind.isSign : TokenKind → Bool
  | operator _ | leftParen | rightParen | comma | dot | error => true
  | _ => false

theorem TokenKind.isWord_of_isSign {kind : TokenKind} (h : kind.isSign = true) :
    kind.isWord = false := by
  cases kind with
  | operator | leftParen | rightParen | comma | dot | error => rfl
  | _ => cases h

theorem isSign_signExtent (c : Char) (cs : Text) : (signExtent c cs).1.isSign = true := by
  unfold signExtent
  repeat' split
  all_goals rfl

/-- White space begins with white space, and nothing else does. -/
theorem extent_fst_eq_whitespace_iff (c : Char) (cs : Text) :
    (extent c cs).1 = .whitespace ↔ isSpace c = true := by
  constructor
  · intro h
    have hrule := cutRule_extent c cs
    generalize extent c cs = cut at hrule h
    cases hrule with
    | space hspace => exact hspace
    | string => rcases stringExtent_fst cs with hkind | hkind <;> cases hkind.symm.trans h
    | numeral => rcases numeralExtent_fst cs with hkind | hkind <;> cases hkind.symm.trans h
    | fraction => cases h
    | word =>
      have hkind : wordKind (c :: cs.takeWhile Text.isWordChar) = .whitespace := h
      have hword := isWord_wordKind (c :: cs.takeWhile Text.isWordChar)
      rw [hkind] at hword
      cases hword
    | sign =>
      have hsign := isSign_signExtent c cs
      rw [h] at hsign
      cases hsign
  · intro h
    rw [extent, if_pos h]

/-- Words begin as words do, and nothing else does. -/
theorem isWord_extent_iff (c : Char) (cs : Text) :
    (extent c cs).1.isWord = true ↔ Text.isWordStart c = true := by
  constructor
  · intro h
    have hrule := cutRule_extent c cs
    generalize extent c cs = cut at hrule h
    cases hrule with
    | space => cases h
    | string => rcases stringExtent_fst cs with hkind | hkind <;> rw [hkind] at h <;> cases h
    | numeral => rcases numeralExtent_fst cs with hkind | hkind <;> rw [hkind] at h <;> cases h
    | fraction => cases h
    | word hword => exact hword
    | sign =>
      rw [TokenKind.isWord_of_isSign (isSign_signExtent c cs)] at h
      cases h
  · intro h
    rw [Lexeme.extent_wordStart h]
    exact isWord_wordKind _

theorem lexed_stringExtent (cs : Text) (start : Nat) :
    Token.Lexed ⟨(stringExtent cs).1, '"' :: cs.take (stringExtent cs).2, start⟩ := by
  unfold stringExtent
  split
  · next hmem =>
    obtain ⟨name, rest, rfl, hquote⟩ := List.eq_append_cons_of_mem hmem
    refine ⟨nofun, nofun, fun _ => ⟨name, ?_, hquote⟩⟩
    have hindex : (name ++ '"' :: rest).idxOf '"' = name.length := by
      rw [List.idxOf_append, if_neg hquote, List.idxOf_cons_self, Nat.zero_add]
    dsimp only
    rw [hindex, List.take_length_add_append]
    rfl
  · exact .of_kind rfl nofun

theorem lexed_signExtent (c : Char) (cs : Text) (start : Nat) :
    Token.Lexed ⟨(signExtent c cs).1, c :: cs.take (signExtent c cs).2, start⟩ := by
  have hsign := isSign_signExtent c cs
  have hstring : (signExtent c cs).1 ≠ .string := by
    intro hkind
    rw [hkind] at hsign
    cases hsign
  exact .of_kind (TokenKind.isWord_of_isSign hsign) hstring

/-- A token that is cut off by its extent fits its kind. -/
theorem lexed_extent (c : Char) (cs : Text) (start : Nat) :
    Token.Lexed ⟨(extent c cs).1, c :: cs.take (extent c cs).2, start⟩ := by
  have hrule := cutRule_extent c cs
  generalize extent c cs = cut at hrule ⊢
  cases hrule with
  | space | fraction => exact .of_kind rfl nofun
  | string hquote =>
    subst hquote
    exact lexed_stringExtent cs start
  | numeral =>
    unfold numeralExtent
    dsimp only
    split <;> exact .of_kind rfl nofun
  | word hstart =>
    dsimp only
    rw [take_length_takeWhile]
    refine .of_word ?_ rfl
    simp only [Text.isWord, Bool.and_eq_true]
    exact ⟨hstart, List.all_takeWhile⟩
  | sign => exact lexed_signExtent c cs start

/-- What holds of every token that is cut off by its extent holds of all tokens of a text. -/
theorem forall_mem_scan {p : Token → Prop}
    (h : ∀ c cs start, p ⟨(extent c cs).1, c :: cs.take (extent c cs).2, start⟩) {start : Nat}
    {source : Text} : ∀ t ∈ scan start source, p t := by
  fun_induction scan start source with
  | case1 => exact List.forall_mem_nil _
  | case2 start c cs kind count hextent token ih =>
    have htoken := h c cs start
    rw [hextent] at htoken
    exact List.forall_mem_cons.mpr ⟨htoken, ih⟩

/-! ## Marked tokens -/

/-- What is announced is a name in a reference. -/
def Announced.Marks : Announced → Prop
  | .nothing => True
  | .parenthesis kind | .name kind => kind = .attributeName ∨ kind = .propertyName

theorem Announced.Marks.after {announced : Announced} (h : announced.Marks) (kind : TokenKind) :
    (announced.after kind).Marks := by
  unfold Announced.after
  split
  · exact .inl rfl
  · exact .inr rfl
  · split
    · exact h
    · trivial
  · trivial

/-- What marking a word keeps, it keeps of all tokens. -/
theorem forall_mem_markFrom {p : Token → Prop}
    (h : ∀ t kind, t.kind.isWord = true → kind = .attributeName ∨ kind = .propertyName → p t →
      p { t with kind })
    {announced : Announced} (hmarks : announced.Marks) {ts : List Token} (hts : ∀ t ∈ ts, p t) :
    ∀ t ∈ markFrom announced ts, p t := by
  fun_induction markFrom announced ts with
  | case1 => exact hts
  | case2 t ts hsignificant kind hword ih =>
    obtain ⟨ht, hts⟩ := List.forall_mem_cons.mp hts
    exact List.forall_mem_cons.mpr ⟨h t kind hword hmarks ht, ih trivial hts⟩
  | case3 announced t ts hsignificant _ ih =>
    obtain ⟨ht, hts⟩ := List.forall_mem_cons.mp hts
    exact List.forall_mem_cons.mpr ⟨ht, ih (hmarks.after t.kind) hts⟩
  | case4 announced t ts hsignificant ih =>
    obtain ⟨ht, hts⟩ := List.forall_mem_cons.mp hts
    exact List.forall_mem_cons.mpr ⟨ht, ih hmarks hts⟩

/-- What holds of every token that is cut off by its extent, and is kept by marking, holds of the
tokens of every source. -/
theorem forall_mem_tokenize {p : Token → Prop}
    (h : ∀ c cs start, p ⟨(extent c cs).1, c :: cs.take (extent c cs).2, start⟩)
    (hmark : ∀ t kind, t.kind.isWord = true → kind = .attributeName ∨ kind = .propertyName →
      p t → p { t with kind }) {source : Text} : ∀ t ∈ tokenize source, p t := by
  have hmarks : Announced.nothing.Marks := trivial
  exact forall_mem_markFrom hmark hmarks (forall_mem_scan h)

/-- The tokens of every source fit their kinds. -/
theorem lexed_of_mem_tokenize {source : Text} {t : Token}
    (h : t ∈ significant (tokenize source)) : t.Lexed := by
  refine forall_mem_tokenize lexed_extent (fun t kind hword hmarked ht => ?_) t
    (List.mem_filter.mp h).1
  -- the new kind is one of words, and nothing else is asked of it
  have hkind : kind ≠ .identifier ∧ kind ≠ .string := by
    rcases hmarked with rfl | rfl <;> exact ⟨nofun, nofun⟩
  exact ⟨fun _ => ht.word hword, fun h => absurd h hkind.1, fun h => absurd h hkind.2⟩

/-! ## What tokens stand for -/

/-- A token whose text spells what the token stands for: a word or an operator its own spelling, a
number its digits. -/
structure Token.Spelled (t : Token) : Prop where
  payload : ∀ spelling, t.kind.payloadSpelling? = some spelling → t.text = spelling
  integer : t.kind = .integer → t.text.IsDigits
  float : t.kind = .float → ∃ whole fraction : Text, t.text = whole ++ '.' :: fraction ∧
    (∀ c ∈ whole ++ fraction, c.isDigit = true) ∧ whole ++ fraction ≠ []

/-- A token that is no number and stands for nothing. -/
theorem Token.Spelled.of_kind {t : Token} (hpayload : t.kind.payloadSpelling? = none)
    (hinteger : t.kind ≠ .integer) (hfloat : t.kind ≠ .float) : t.Spelled where
  payload spelling h := by
    rw [hpayload] at h
    cases h
  integer h := absurd h hinteger
  float h := absurd h hfloat

/-- A token that spells what it stands for. -/
theorem Token.Spelled.of_payload {t : Token} (hpayload : t.kind.payloadSpelling? = some t.text)
    (hinteger : t.kind ≠ .integer) (hfloat : t.kind ≠ .float) : t.Spelled where
  payload spelling h := by
    rw [hpayload] at h
    exact Option.some.inj h
  integer h := absurd h hinteger
  float h := absurd h hfloat

theorem Token.Spelled.of_integer {text : Text} (h : text.IsDigits) (start : Nat) :
    Token.Spelled ⟨.integer, text, start⟩ :=
  ⟨nofun, fun _ => h, nofun⟩

theorem Token.Spelled.of_float {whole fraction : Text}
    (h : ∀ c ∈ whole ++ fraction, c.isDigit = true) (hne : whole ++ fraction ≠ []) (start : Nat) :
    Token.Spelled ⟨.float, whole ++ '.' :: fraction, start⟩ :=
  ⟨nofun, nofun, fun _ => ⟨whole, fraction, rfl, h, hne⟩⟩

theorem spelled_numeralExtent {c : Char} (hdigit : c.isDigit = true) (cs : Text) (start : Nat) :
    Token.Spelled ⟨(numeralExtent cs).1, c :: cs.take (numeralExtent cs).2, start⟩ := by
  rcases Lexeme.numeralExtent_cases cs with ⟨digits, hdigits, hextent, htake⟩ |
    ⟨whole, fraction, hwhole, hfraction, hextent, htake⟩
  · rw [hextent]
    dsimp only
    rw [htake]
    exact .of_integer ⟨List.cons_ne_nil c digits, List.forall_mem_cons.mpr ⟨hdigit, hdigits⟩⟩ start
  · rw [hextent]
    dsimp only
    rw [htake, ← List.cons_append]
    refine .of_float ?_ (List.cons_ne_nil c (whole ++ fraction)) start
    exact List.forall_mem_append.mpr ⟨List.forall_mem_cons.mpr ⟨hdigit, hwhole⟩, hfraction⟩

/-- A point and digits. -/
theorem spelled_fraction {cs : Text} (h : cs.head?.any Char.isDigit = true) (start : Nat) :
    Token.Spelled ⟨.float, '.' :: cs.takeWhile Char.isDigit, start⟩ := by
  have hdigits : ∀ c ∈ [] ++ cs.takeWhile Char.isDigit, c.isDigit = true :=
    List.all_eq_true.mp List.all_takeWhile
  refine .of_float hdigits ?_ start
  cases cs with
  | nil => cases h
  | cons d cs =>
    have hd : d.isDigit = true := h
    rw [List.nil_append, List.takeWhile_cons_of_pos hd]
    exact List.cons_ne_nil d _

theorem spelled_wordKind (word : Text) (start : Nat) :
    Token.Spelled ⟨wordKind word, word, start⟩ := by
  unfold wordKind
  split
  · next f hf =>
    have hspelling : f.spelling = word := Vocabulary.spelling_of_ofSpelling? hf
    exact .of_payload (congrArg some hspelling) nofun nofun
  · split
    · next value hvalue =>
      have hspelling : value.spelling = word := Vocabulary.spelling_of_ofSpelling? hvalue
      exact .of_payload (congrArg some hspelling) nofun nofun
    · exact .of_kind rfl nofun nofun

theorem spelled_signExtent (c : Char) (cs : Text) (start : Nat) :
    Token.Spelled ⟨(signExtent c cs).1, c :: cs.take (signExtent c cs).2, start⟩ := by
  unfold signExtent
  split
  · next op hop =>
    obtain ⟨d, hd, hop⟩ := Option.bind_eq_some_iff.mp hop
    obtain ⟨cs, rfl⟩ := List.head?_eq_some_iff.mp hd
    have hspelling : op.spelling = [c, d] := Vocabulary.spelling_of_ofSpelling? hop
    exact .of_payload (congrArg some hspelling) nofun nofun
  · split
    · next op hop =>
      have hspelling : op.spelling = [c] := Vocabulary.spelling_of_ofSpelling? hop
      exact .of_payload (congrArg some hspelling) nofun nofun
    · repeat' split
      all_goals exact .of_kind rfl nofun nofun

theorem spelled_extent (c : Char) (cs : Text) (start : Nat) :
    Token.Spelled ⟨(extent c cs).1, c :: cs.take (extent c cs).2, start⟩ := by
  have hrule := cutRule_extent c cs
  generalize extent c cs = cut at hrule ⊢
  cases hrule with
  | space => exact .of_kind rfl nofun nofun
  | string =>
    unfold stringExtent
    split <;> exact .of_kind rfl nofun nofun
  | numeral hdigit => exact spelled_numeralExtent hdigit cs start
  | fraction hpoint hfirst =>
    subst hpoint
    dsimp only
    rw [take_length_takeWhile]
    exact spelled_fraction hfirst start
  | word =>
    dsimp only
    rw [take_length_takeWhile]
    exact spelled_wordKind _ start
  | sign => exact spelled_signExtent c cs start

/-- The tokens of every source spell what they stand for. -/
theorem spelled_of_mem_tokenize {source : Text} {t : Token}
    (h : t ∈ significant (tokenize source)) : t.Spelled := by
  refine forall_mem_tokenize spelled_extent (fun t kind _ hmarked _ => ?_) t
    (List.mem_filter.mp h).1
  rcases hmarked with rfl | rfl <;> exact .of_kind rfl nofun nofun

/-! ## Where tokens start -/

/-- No token is empty. -/
theorem length_pos_of_mem_scan {start : Nat} {source : Text} :
    ∀ t ∈ scan start source, 0 < t.text.length :=
  forall_mem_scan (p := fun t => 0 < t.text.length) fun _ _ _ => Nat.succ_pos _

theorem le_start_of_mem_scan {start : Nat} {source : Text} :
    ∀ t ∈ scan start source, start ≤ t.start := by
  fun_induction scan start source with
  | case1 => exact List.forall_mem_nil _
  | case2 start c cs kind count _ token ih =>
    refine List.forall_mem_cons.mpr ⟨Nat.le_refl start, fun t ht => ?_⟩
    exact Nat.le_trans (Nat.le_add_right start _) (ih t ht)

theorem pairwise_start_scan (start : Nat) (source : Text) :
    (scan start source).Pairwise fun t t' => t.start < t'.start := by
  fun_induction scan start source with
  | case1 => exact .nil
  | case2 start c cs kind count _ token ih =>
    refine .cons (fun t ht => ?_) ih
    have hpos : 0 < token.text.length := Nat.succ_pos _
    exact Nat.lt_of_lt_of_le (Nat.lt_add_of_pos_right hpos) (le_start_of_mem_scan t ht)

/-- Tokens start one after another. -/
theorem pairwise_start_lt (source : Text) :
    (tokenize source).Pairwise fun t t' => t.start < t'.start := by
  have hstarts : (tokenize source).map Token.start = (scan 0 source).map Token.start := by
    have hmap := congrArg (List.map Prod.snd) (map_text_start_markFrom .nothing (scan 0 source))
    rwa [List.map_map, List.map_map] at hmap
  have hscan := List.pairwise_map.mpr (pairwise_start_scan 0 source)
  rw [← hstarts] at hscan
  exact List.pairwise_map.mp hscan

theorem pairwise_start_tokenize (source : Text) :
    (significant (tokenize source)).Pairwise fun t t' => t.start < t'.start :=
  (pairwise_start_lt source).filter Token.isSignificant

end EffectLang
