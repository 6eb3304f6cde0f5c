import EffectLang.Proofs.Grammar.Earliest
import EffectLang.Proofs.Token.Conversion

/-!
# Numbers, and what else can fail

A source is not read for one of two reasons: an error about what it says, or an integer with more
digits than can be converted. The second one comes up exactly where an atom is due and such an
integer stands. Any other integer there is either in range, and then it is taken, or reported as an
invalid number. The conversions of the other tokens never fail: texts fit their kinds.
-/

namespace EffectLang

/-! ## Integers where an atom is due -/

/-- The reader goes past the token: up to there and maybe further, the tokens are the beginning of
a phrase. -/
def Passes (room : Nat) (before : List Token) (t : Token) (after : List Token) : Prop :=
  ∃ front back fillers e, before ++ t :: after = front ++ back ∧ before ++ [t] <+: front ∧
    (∀ u ∈ front, u.Convertible) ∧ DerivesWithin .expression room (front ++ fill fillers) e

/-- The reader stops at the token because of the value of a number. -/
def StopsAt (room n : Nat) (before : List Token) (t : Token) (after : List Token) : Prop :=
  ∃ f fillers e, wholeIn room n (before ++ t :: after) = .error f ∧ Refuses before t f ∧
    f.IsNumeric ∧ (∀ u ∈ before, u.Convertible) ∧
    DerivesWithin .expression room (before ++ fill fillers) e

section Integers
variable {room n' : Nat} {before before' after after' : List Token} {t t' : Token}

/-- A refusal does not concern the beginning of a phrase. -/
theorem Persists.elim {f : ParseFailure} {front : List Token} {fillers : List Filler} {e : Expr}
    (h : Persists (wholeIn room) before t f) (hbefore : Alike before before')
    (hkind : t'.kind = t.kind) (htext : t'.text = t.text ∨ t.kind = .integer ∧ ¬ f.IsNumeric)
    (hfront : before' ++ [t'] <+: front) (hconv : ∀ u ∈ front, u.Convertible)
    (hderives : DerivesWithin .expression room (front ++ fill fillers) e) : False := by
  obtain ⟨more, rfl⟩ := hfront
  have hread := wholeIn_of_alike hderives
    (List.forall_mem_append.mpr ⟨hconv, convertible_of_mem_fill⟩) rfl 0
  obtain ⟨f', herror, -⟩ := h 0 before' t' (more ++ fill fillers) hbefore hkind htext
  rw [List.append_assoc, List.append_assoc, List.singleton_append, herror] at hread
  cases hread

/-- Of two tokens in one list the one comes before the other, or they are the same. -/
theorem append_cons_cases {u : Token} {us vs : List Token}
    (h : before ++ t :: after = us ++ u :: vs) :
    (∃ mid, us = before ++ t :: mid) ∨ (us = before ∧ u = t) ∨ ∃ mid, before = us ++ u :: mid := by
  rcases List.append_eq_append_iff.mp h with ⟨mid, hmid, hrest⟩ | ⟨mid, hmid, hrest⟩
  · cases mid with
    | nil => exact .inr (.inl ⟨by rw [hmid, List.append_nil], (List.cons.inj hrest).1.symm⟩)
    | cons v mid => exact .inl ⟨mid, by rw [hmid, (List.cons.inj hrest).1]⟩
  · cases mid with
    | nil => exact .inr (.inl ⟨by rw [hmid, List.append_nil], (List.cons.inj hrest).1⟩)
    | cons v mid => exact .inr (.inr ⟨mid, by rw [hmid, (List.cons.inj hrest).1]⟩)

/-- Whether the reader comes to an integer does not depend on the integer, nor on what follows. -/
theorem reaches_of_reaches (halike : Alike before before') (ht : t.kind = .integer)
    (ht' : t'.kind = .integer)
    (h : Passes room before' t' after' ∨ StopsAt room n' before' t' after') (n : Nat)
    (after : List Token) : Passes room before t after ∨ StopsAt room n before t after := by
  have hforeseen := (predictive_whole room).foreseen n (before ++ t :: after)
  -- what comes before is the beginning of a phrase in either case
  have hbefore : ∃ front fillers e, before' <+: front ∧ (∀ u ∈ front, u.Convertible) ∧
      DerivesWithin .expression room (front ++ fill fillers) e := by
    rcases h with ⟨front, -, fillers, e, -, hfront, hconv, hderives⟩ |
      ⟨-, fillers, e, -, -, -, hconv, hderives⟩
    · exact ⟨front, fillers, e, (List.prefix_append before' [t']).trans hfront, hconv, hderives⟩
    · exact ⟨before', fillers, e, List.prefix_refl before', hconv, hderives⟩
  generalize hx : wholeIn room n (before ++ t :: after) = x at hforeseen
  generalize hts : before ++ t :: after = ts at hforeseen
  have hpast : before ++ [t] <+: ts := ⟨after, by rw [← hts, List.append_assoc]; rfl⟩
  cases hforeseen with
  | @read used rest e hused hconv hstands =>
    obtain rfl := rest_eq_nil hx
    rw [List.append_nil] at hused
    subst hused
    rw [← List.append_nil ts] at hstands
    exact .inl ⟨ts, [], [], e, by rw [hts, List.append_nil], hpast, hconv, hstands⟩
  | @incomplete e fillers a _ hconv _ hstands =>
    exact .inl ⟨ts, [], fillers, a, by rw [hts, List.append_nil], hpast, hconv, hstands⟩
  | @refused before₂ after₂ t₂ f fillers a hts₂ hconv hrefuses hstands hpersists =>
    rcases append_cons_cases (hts.trans hts₂) with ⟨mid, rfl⟩ | ⟨rfl, rfl⟩ | ⟨mid, rfl⟩
    -- a later token is refused
    · refine .inl ⟨_, t₂ :: after₂, fillers, a, hts.trans hts₂, ⟨mid, ?_⟩, hconv, hstands⟩
      rw [List.append_assoc, List.singleton_append]
    -- the integer itself is refused; if not for its value, so is any other
    · by_cases hnumeric : f.IsNumeric
      · exact .inr ⟨f, fillers, a, hx, hrefuses, hnumeric, hconv, hstands⟩
      · have hkind := ht'.trans ht.symm
        rcases h with ⟨front, -, fillers', e', -, hfront, hconv', hderives⟩ |
          ⟨f', -, -, herror, -, hnumeric', -, -⟩
        · exact (hpersists.elim halike hkind (.inr ⟨ht, hnumeric⟩) hfront hconv' hderives).elim
        · obtain ⟨f'', herror', hsame, -⟩ :=
            hpersists n' before' t' after' halike hkind (.inr ⟨ht, hnumeric⟩)
          obtain rfl : f'' = f' := Except.error.inj (herror'.symm.trans herror)
          exact absurd (hsame.mp hnumeric') hnumeric
    -- an earlier token is refused, but it stands before the other integer as well
    · obtain ⟨before₂', rest', rfl, hbefore₂, hrest'⟩ := halike.of_append
      obtain ⟨t₂', mid', rfl, hlook, -⟩ := hrest'.of_cons
      obtain ⟨front, fillers', e', hfront, hconv', hderives⟩ := hbefore
      have hbegins : before₂' ++ [t₂'] <+: front := by
        refine List.IsPrefix.trans ⟨mid', ?_⟩ hfront
        rw [List.append_assoc, List.singleton_append]
      exact (hpersists.elim hbefore₂ (Token.kind_of_look hlook)
        (.inl (Token.text_of_look hlook)) hbegins hconv' hderives).elim

end Integers

/-- What a number is refused for. -/
theorem Refuses.of_isNumeric {before : List Token} {t : Token} {f : ParseFailure}
    (h : Refuses before t f) (hnumeric : f.IsNumeric) (hkind : t.kind = .integer) :
    (t.text.length ≤ numeralDigitLimit ∧ Literal.integerBound ≤ ofDigits t.text ∧
      f = .malformed ⟨.invalidNumber, t.text, t.start⟩) ∨
    (numeralDigitLimit < t.text.length ∧ f = .numeralTooLong t.text.length) := by
  cases h with
  | @misplaced cause text hcause =>
    obtain rfl : cause = .invalidNumber := hnumeric
    cases hcause
  | number hvalue => exact .inl ⟨(hvalue hkind).1, (hvalue hkind).2, rfl⟩
  | digits _ hlimit => exact .inr ⟨hlimit, rfl⟩
  | call => cases hnumeric

/-- After tokens of these kinds and texts an atom is due: a source that is read has an integer
there. -/
def AtomDue (front : List (String × Text)) : Prop :=
  ∃ numeral, Viable (front ++ [("integer", numeral)])

theorem TokenKind.of_name_integer {kind : TokenKind} (h : kind.name = "integer") :
    kind = .integer := by
  cases kind <;> first | rfl | simp [TokenKind.name] at h

/-- A source that is read is a phrase, and its integers can be converted. -/
theorem Expr.derives_of_parse {source : Text} {e : Expr} (h : Expr.parse source = .ok e) :
    DerivesWithin .expression nestingLimit (significant (tokenize source)) e ∧
      ∀ t ∈ significant (tokenize source), t.Convertible := by
  have hforeseen := (predictive_whole nestingLimit).foreseen source.length
    (significant (tokenize source))
  rw [wholeIn_of_parse h] at hforeseen
  cases hforeseen with
  | @read used rest e hused hconv hstands =>
    rw [List.append_nil] at hused
    subst hused
    exact ⟨hstands, hconv⟩

theorem AtomDue.passes {before : List Token} (hspelled : ∀ u ∈ before, u.Spelled)
    (h : AtomDue (before.map Token.face)) :
    ∃ before' t' after', Alike before before' ∧ t'.kind = .integer ∧
      Passes nestingLimit before' t' after' := by
  obtain ⟨numeral, source, ⟨e, hread⟩, more, hfaces⟩ := h
  obtain ⟨front, after', htokens, hfront, -⟩ := List.map_eq_append_iff.mp hfaces.symm
  obtain ⟨before', single, rfl, hbefore, hsingle⟩ := List.map_eq_append_iff.mp hfront
  obtain ⟨t', nothing, rfl, ht', hnothing⟩ := List.map_eq_cons_iff.mp hsingle
  obtain rfl := List.map_eq_nil_iff.mp hnothing
  rw [List.append_assoc, List.singleton_append] at htokens
  have hspelled' := spelled_of_tokens_eq htokens
  obtain ⟨hderives, hconv⟩ := Expr.derives_of_parse hread
  rw [htokens] at hderives hconv
  refine ⟨before', t', after', alike_of_map_face hspelled hspelled' hbefore.symm,
    TokenKind.of_name_integer (congrArg Prod.fst ht'), _, [], [], e, (List.append_nil _).symm, ?_,
    hconv, ?_⟩
  · exact ⟨after', by rw [List.append_assoc, List.singleton_append]⟩
  · rwa [show fill [] = [] from rfl, List.append_nil]

/-- Where the reader stops at an integer for its value, an atom is due: zero is taken there. -/
theorem StopsAt.atomDue {source : Text} {n : Nat} {before after : List Token} {t : Token}
    (h : StopsAt nestingLimit n before t after) (hkind : t.kind = .integer)
    (hts : significant (tokenize source) = before ++ t :: after) :
    AtomDue (before.map Token.face) := by
  have hsame : Alike before before := rfl
  have hzero : Filler.number.token.kind = .integer := rfl
  rcases reaches_of_reaches hsame hzero hkind (.inr h) 0 [] with
    ⟨front, back, fillers, e, hfront, ⟨more, hmore⟩, hconv, hderives⟩ |
    ⟨f, -, -, -, hrefuses, hnumeric, -⟩
  · -- nothing comes after the zero but fillers
    obtain rfl : more = [] := by
      have hlength := congrArg List.length hfront
      rw [← hmore] at hlength
      simp only [List.length_append, List.length_cons, List.length_nil] at hlength
      exact List.eq_nil_of_length_eq_zero (by omega)
    rw [List.append_nil] at hmore
    subst hmore
    have hfill :
        DerivesWithin .expression nestingLimit (before ++ fill (.number :: fillers)) e := by
      rwa [List.append_assoc] at hderives
    obtain ⟨source', haccepted, hfaces⟩ :=
      Expr.exists_accepted hts (fun u hu => hconv u (List.mem_append_left _ hu)) hfill
    refine ⟨['0'], source', haccepted, (fill fillers).map Token.face, ?_⟩
    rw [hfaces, List.append_assoc]
    rfl
  · rcases hrefuses.of_isNumeric hnumeric hzero with ⟨-, hvalue, -⟩ | ⟨hlimit, -⟩
    · exact absurd hvalue (by decide)
    · exact absurd hlimit (by decide)

/-- One of the tokens of a source is an integer, and an atom is due where it stands. -/
structure IntegerDue (source : Text) (before : List Token) (t : Token) (after : List Token) :
    Prop where
  tokens_eq : significant (tokenize source) = before ++ t :: after
  kind_eq : t.kind = .integer
  atomDue : AtomDue (before.map Token.face)

namespace IntegerDue
variable {source : Text} {before after : List Token} {t : Token}

/-- An integer where an atom is due is taken, or it is refused for its value. -/
theorem taken_or_refused (h : IntegerDue source before t after) :
    (t.text.length ≤ numeralDigitLimit ∧ ofDigits t.text < Literal.integerBound ∧
      Viable ((before ++ [t]).map Token.face)) ∨
    ∃ f, Expr.parse source = .error f ∧ Refuses before t f ∧ f.IsNumeric := by
  obtain ⟨hts, hkind, hdue⟩ := h
  obtain ⟨before', t', after', halike, hkind', hpasses⟩ :=
    hdue.passes (spelled_of_tokens_eq hts)
  have hreaches : Passes nestingLimit before' t' after' ∨
      StopsAt nestingLimit 0 before' t' after' := .inl hpasses
  rcases reaches_of_reaches halike hkind hkind' hreaches source.length after with
    ⟨front, back, fillers, e, hfront, hbegins, hconv, hderives⟩ |
    ⟨f, -, -, herror, hrefuses, hnumeric, -⟩
  · have hmem : t ∈ front :=
      hbegins.subset (List.mem_append_right before (List.mem_singleton_self t))
    have hproper : t.Proper := by
      obtain ⟨d, -, hd⟩ := hderives
      exact hd.proper t (List.mem_append_left _ hmem)
    obtain ⟨source', haccepted, hfaces⟩ := Expr.exists_accepted (hts.trans hfront) hconv hderives
    refine .inl ⟨hconv t hmem hkind, hproper.integer hkind, source', haccepted, ?_⟩
    rw [hfaces]
    exact (hbegins.map Token.face).trans (List.prefix_append _ _)
  · refine .inr ⟨f, ?_, hrefuses, hnumeric⟩
    rw [Expr.parse_eq_wholeIn, hts, herror]
    rfl

theorem parse_of_long (h : IntegerDue source before t after)
    (hlong : numeralDigitLimit < t.text.length) :
    Expr.parse source = .error (.numeralTooLong t.text.length) := by
  rcases h.taken_or_refused with ⟨hlimit, -⟩ | ⟨f, herror, hrefuses, hnumeric⟩
  · exact absurd hlimit (Nat.not_le.mpr hlong)
  · rcases hrefuses.of_isNumeric hnumeric h.kind_eq with ⟨hlimit, -⟩ | ⟨-, rfl⟩
    · exact absurd hlimit (Nat.not_le.mpr hlong)
    · exact herror

theorem parse_of_large (h : IntegerDue source before t after)
    (hlimit : t.text.length ≤ numeralDigitLimit)
    (hlarge : Literal.integerBound ≤ ofDigits t.text) :
    Expr.parse source = .error (.malformed ⟨.invalidNumber, t.text, t.start⟩) := by
  rcases h.taken_or_refused with ⟨-, hlt, -⟩ | ⟨f, herror, hrefuses, hnumeric⟩
  · exact absurd hlt (Nat.not_lt.mpr hlarge)
  · rcases hrefuses.of_isNumeric hnumeric h.kind_eq with ⟨-, -, rfl⟩ | ⟨hlong, -⟩
    · exact herror
    · exact absurd hlimit (Nat.not_le.mpr hlong)

theorem viable_of_small (h : IntegerDue source before t after)
    (hlimit : t.text.length ≤ numeralDigitLimit)
    (hsmall : ofDigits t.text < Literal.integerBound) :
    Viable ((before ++ [t]).map Token.face) := by
  rcases h.taken_or_refused with ⟨-, -, hviable⟩ | ⟨f, -, hrefuses, hnumeric⟩
  · exact hviable
  · rcases hrefuses.of_isNumeric hnumeric h.kind_eq with ⟨-, hlarge, -⟩ | ⟨hlong, -⟩
    · exact absurd hsmall (Nat.not_lt.mpr hlarge)
    · exact absurd hlimit (Nat.not_le.mpr hlong)

end IntegerDue

namespace Expr

/-- A numeral that is too long stands where an atom is due. -/
theorem exists_of_numeralTooLong {source : Text} {digits : Nat}
    (h : Expr.parse source = .error (.numeralTooLong digits)) :
    ∃ before t after, IntegerDue source before t after ∧ numeralDigitLimit < t.text.length := by
  have hforeseen := (predictive_whole nestingLimit).foreseen source.length
    (significant (tokenize source))
  have hx := wholeIn_of_parse_error h
  rw [hx] at hforeseen
  cases hforeseen with
  | @refused before after t f fillers a hts hconv hrefuses hstands =>
    rw [hts] at hx
    have hstops : StopsAt nestingLimit source.length before t after :=
      ⟨_, fillers, a, hx, hrefuses, trivial, hconv, hstands⟩
    cases hrefuses with
    | digits hkind hlimit =>
      exact ⟨before, t, after, ⟨hts, hkind, hstops.atomDue hkind hts⟩, hlimit⟩

/-- A source is read, or there is an error about it, exactly if no integer that has more digits
than can be converted stands where an atom is due. Of the other integers there those that are not
below the bound are invalid numbers, and those that are below it are taken. No other conversion can
fail. -/
theorem parse_rejection (source : Text) :
    (((∃ e, Expr.parse source = .ok e) ∨ ∃ e, Expr.parse source = .error (.malformed e)) ↔
      ∀ before t after, IntegerDue source before t after →
        t.text.length ≤ numeralDigitLimit) ∧
    (∀ before t after, IntegerDue source before t after →
      (numeralDigitLimit < t.text.length →
        Expr.parse source = .error (.numeralTooLong t.text.length)) ∧
      (t.text.length ≤ numeralDigitLimit → Literal.integerBound ≤ ofDigits t.text →
        Expr.parse source = .error (.malformed ⟨.invalidNumber, t.text, t.start⟩)) ∧
      (t.text.length ≤ numeralDigitLimit → ofDigits t.text < Literal.integerBound →
        Viable ((before ++ [t]).map Token.face))) ∧
    ∀ t ∈ significant (tokenize source), t.Converts := by
  refine ⟨⟨fun h before t after hdue => ?_, fun h => ?_⟩,
    fun before t after hdue => ⟨hdue.parse_of_long, hdue.parse_of_large, hdue.viable_of_small⟩,
    fun t => converts_of_mem_tokenize⟩
  · refine Nat.le_of_not_lt fun hlong => ?_
    have herror := hdue.parse_of_long hlong
    rcases h with ⟨e, hread⟩ | ⟨e, hmalformed⟩
    · cases herror.symm.trans hread
    · cases herror.symm.trans hmalformed
  · cases hparse : Expr.parse source with
    | ok e => exact .inl ⟨e, rfl⟩
    | error f =>
      cases f with
      | malformed e => exact .inr ⟨e, rfl⟩
      | numeralTooLong digits =>
        obtain ⟨before, t, after, hdue, hlong⟩ := exists_of_numeralTooLong hparse
        exact absurd (h before t after hdue) (Nat.not_le.mpr hlong)

/-- The first integer out of range, with zeros before it, in a call that goes on wrongly. -/
theorem parse_of_least_invalid_integer :
    Expr.parse "min(002147483648, (".toList =
      .error (.malformed ⟨.invalidNumber, "002147483648".toList, 4⟩) := by
  have hts : significant (tokenize "min(002147483648, (".toList) =
      [⟨.callee .min, "min".toList, 0⟩, ⟨.leftParen, ['('], 3⟩] ++
        ⟨.integer, "002147483648".toList, 4⟩ :: [⟨.comma, [','], 16⟩, ⟨.leftParen, ['('], 18⟩] := by
    decide +kernel
  have hread : Expr.parse "min(0, 1)".toList =
      .ok (.binary .min (.literal (.integer 0)) (.literal (.integer 1))) := by
    decide +kernel
  have hdue : AtomDue [("function", "min".toList), ("lparen", ['('])] :=
    ⟨['0'], "min(0, 1)".toList, ⟨_, hread⟩, by decide +kernel⟩
  exact ((parse_rejection _).2.1 _ _ _ ⟨hts, rfl, hdue⟩).2.1 (by decide) (by decide)

/-- A source may begin with an atom. -/
theorem atomDue_nil : AtomDue [] := by
  have hread : Expr.parse ['0'] = .ok (.literal (.integer 0)) := by decide +kernel
  exact ⟨['0'], ['0'], ⟨_, hread⟩, by decide +kernel⟩

/-- A source that is one long row of digits. -/
theorem parse_of_long_digits {digits : Text} (h : digits.IsDigits)
    (hlong : numeralDigitLimit < digits.length) :
    Expr.parse digits = .error (.numeralTooLong digits.length) := by
  have hlexeme : Lexeme .integer digits [] := .integer h nofun nofun
  have hts : significant (tokenize digits) = [] ++ ⟨.integer, digits, 0⟩ :: [] := by
    have hlex := hlexeme.lex_eq nofun rfl 0
    rwa [List.append_nil, lex_nil] at hlex
  exact IntegerDue.parse_of_long ⟨hts, rfl, atomDue_nil⟩ hlong

/-- One digit more than can be converted, out of range and in range. -/
theorem parse_fails_beyond_digit_limit :
    Expr.parse (List.replicate 4301 '1') = .error (.numeralTooLong 4301) ∧
    Expr.parse (List.replicate 4301 '0') = .error (.numeralTooLong 4301) := by
  have hdigits {c : Char} (hc : c.isDigit = true) : Text.IsDigits (List.replicate 4301 c) :=
    ⟨nofun, fun d hd => by rwa [List.eq_of_mem_replicate hd]⟩
  have hlong (c : Char) : numeralDigitLimit < (List.replicate 4301 c).length := by
    rw [List.length_replicate]
    decide
  have hones := parse_of_long_digits (hdigits (by decide : '1'.isDigit = true)) (hlong '1')
  have hzeros := parse_of_long_digits (hdigits (by decide : '0'.isDigit = true)) (hlong '0')
  rw [List.length_replicate] at hones hzeros
  exact ⟨hones, hzeros⟩

end Expr
end EffectLang
