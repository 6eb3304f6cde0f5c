import EffectLang.Proofs.Token.Respelling

/-!
# Where names are marked

A word is marked if the two significant tokens before it are the name of a reference, unmarked, and
an opening parenthesis. So in a chain of references that are not closed every other word is marked.
All other tokens are as they would be by themselves.
-/

namespace EffectLang

/-! ## Kinds of words -/

namespace TokenKind

/-- The kinds that marking gives to names. -/
def isMarked : TokenKind → Bool
  | attributeName | propertyName => true
  | _ => false

theorem isWord_of_isMarked {kind : TokenKind} (h : kind.isMarked = true) : kind.isWord = true := by
  unfold isMarked at h
  split at h
  · rfl
  · rfl
  · cases h

end TokenKind

theorem Announced.Marks.isMarked {kind : TokenKind} (h : (Announced.name kind).Marks) :
    kind.isMarked = true := by
  rcases h with rfl | rfl <;> rfl

theorem isMarked_wordKind (word : Text) : (wordKind word).isMarked = false := by
  unfold wordKind
  repeat' split
  all_goals rfl

/-- Nothing is marked before marking. -/
theorem isMarked_of_mem_scan {start : Nat} {source : Text} :
    ∀ t ∈ scan start source, t.kind.isMarked = false := by
  refine forall_mem_scan (p := fun t => t.kind.isMarked = false) fun c cs start => ?_
  dsimp only
  by_cases hword : (extent c cs).1.isWord = true
  · rw [Lexeme.extent_wordStart ((isWord_extent_iff c cs).mp hword)]
    exact isMarked_wordKind _
  · exact Bool.eq_false_iff.mpr fun hmarked => hword (TokenKind.isWord_of_isMarked hmarked)

/-- The token as it is after marking: the same, or a word that is marked as a name. -/
def Token.MarkedAs (t t' : Token) : Prop :=
  t' = t ∨ t.kind.isWord = true ∧ ∃ kind : TokenKind, kind.isMarked = true ∧ t' = { t with kind }

/-- Marking changes no text and no offset, and no kind but that of a word. -/
theorem forall₂_markedAs_markFrom {announced : Announced} (hmarks : announced.Marks)
    (ts : List Token) : List.Forall₂ Token.MarkedAs ts (markFrom announced ts) := by
  fun_induction markFrom announced ts with
  | case1 => exact .nil
  | case2 t ts _ kind hword ih =>
    exact .cons (.inr ⟨hword, kind, hmarks.isMarked, rfl⟩) (ih trivial)
  | case3 announced t ts _ _ ih => exact .cons (.inl rfl) (ih (hmarks.after t.kind))
  | case4 announced t ts _ ih => exact .cons (.inl rfl) (ih hmarks)

/-- A token that has the kind of a word if it is spelled as one, and that of its spelling unless it
is marked. -/
structure Token.Classified (t : Token) : Prop where
  isWord_iff : t.kind.isWord = true ↔ t.text.isWord = true
  kind_eq : t.text.isWord = true → t.kind.isMarked = false → t.kind = wordKind t.text

theorem classified_extent (c : Char) (cs : Text) (start : Nat) :
    Token.Classified ⟨(extent c cs).1, c :: cs.take (extent c cs).2, start⟩ := by
  by_cases hword : Text.isWordStart c = true
  · have htext : Text.isWord (c :: cs.takeWhile Text.isWordChar) = true :=
      Bool.and_eq_true_iff.mpr ⟨hword, List.all_takeWhile⟩
    rw [Lexeme.extent_wordStart hword]
    dsimp only
    rw [take_length_takeWhile]
    exact ⟨⟨fun _ => htext, fun _ => isWord_wordKind _⟩, fun _ _ => rfl⟩
  · have hkind : ¬ (extent c cs).1.isWord = true := mt (isWord_extent_iff c cs).mp hword
    have htext : ¬ Text.isWord (c :: cs.take (extent c cs).2) = true :=
      fun h => hword (Bool.and_eq_true_iff.mp h).1
    exact ⟨⟨fun h => absurd h hkind, fun h => absurd h htext⟩, fun h => absurd h htext⟩

/-- A word stays one when it is marked. -/
theorem Token.Classified.mark {t : Token} (h : t.Classified) (hword : t.kind.isWord = true)
    {kind : TokenKind} (hmarked : kind.isMarked = true) :
    Token.Classified { t with kind } where
  isWord_iff :=
    ⟨fun _ => h.isWord_iff.mp hword, fun _ => TokenKind.isWord_of_isMarked hmarked⟩
  kind_eq _ hplain := absurd hmarked (Bool.eq_false_iff.mp hplain)

theorem classified_of_mem_tokenize {source : Text} : ∀ t ∈ tokenize source, t.Classified :=
  forall_mem_tokenize classified_extent fun _ _ hword hmarks h =>
    h.mark hword (Announced.Marks.isMarked hmarks)

/-! ## Where names are marked -/

/-- The token begins a reference whose name gets the kind. -/
def Token.Calls (head : Token) (kind : TokenKind) : Prop :=
  kind = .attributeName ∧ head.kind = .callee .attr ∨
    kind = .propertyName ∧ head.kind = .callee .prop

/-- What is announced is what the last tokens say. -/
def Announced.Follows (prior : List Token) : Announced → Prop
  | nothing => True
  | parenthesis kind => ∃ front head, prior = front ++ [head] ∧ head.Calls kind
  | name kind => ∃ front head opening, prior = front ++ [head, opening] ∧ head.Calls kind ∧
      opening.kind = .leftParen

theorem Announced.Follows.after {announced : Announced} {prior : List Token}
    (h : announced.Follows prior) (t : Token) :
    (announced.after t.kind).Follows (prior ++ [t]) := by
  unfold Announced.after
  split
  · next hkind => exact ⟨prior, t, rfl, .inl ⟨rfl, hkind⟩⟩
  · next hkind => exact ⟨prior, t, rfl, .inr ⟨rfl, hkind⟩⟩
  · next hkind =>
    split
    · obtain ⟨front, head, rfl, hcalls⟩ := h
      exact ⟨front, head, t, by simp, hcalls, hkind⟩
    · trivial
  · trivial

section Places
variable {announced : Announced} {ts : List Token} {t : Token}
variable (hmarks : announced.Marks) (hsignificant : ∀ t ∈ ts, t.isSignificant = true)
include hsignificant

/-- A marked name stands in the parentheses of a reference. -/
theorem exists_call_of_isMarked {prior us vs : List Token} (hfollows : announced.Follows prior)
    (hplain : ∀ t ∈ ts, t.kind.isMarked = false) (h : markFrom announced ts = us ++ t :: vs)
    (hmarked : t.kind.isMarked = true) :
    ∃ front head opening, prior ++ us = front ++ [head, opening] ∧ head.Calls t.kind ∧
      opening.kind = .leftParen := by
  fun_induction markFrom announced ts generalizing prior us with
  | case1 => simp at h
  | case2 u ts _ kind _ ih =>
    cases us with
    | nil =>
      obtain ⟨rfl, -⟩ := List.cons.inj h
      rwa [List.append_nil]
    | cons u' us =>
      have hnothing : Announced.nothing.Follows (prior ++ [u']) := trivial
      have hcall := ih (List.forall_mem_cons.mp hsignificant).2 hnothing
        (List.forall_mem_cons.mp hplain).2 (List.cons.inj h).2
      rwa [List.append_assoc] at hcall
  | case3 announced u ts _ _ ih =>
    obtain ⟨hu, hts⟩ := List.forall_mem_cons.mp hplain
    cases us with
    | nil =>
      obtain ⟨rfl, -⟩ := List.cons.inj h
      rw [hu] at hmarked
      cases hmarked
    | cons u' us =>
      obtain ⟨rfl, hrest⟩ := List.cons.inj h
      have hcall := ih (List.forall_mem_cons.mp hsignificant).2 (hfollows.after u) hts hrest
      rwa [List.append_assoc] at hcall
  | case4 announced u ts hspace => exact absurd (hsignificant u List.mem_cons_self) hspace

include hmarks

/-- A token that is not marked is as it was, and announces what it does. -/
theorem of_markFrom_eq_cons {us : List Token} (h : markFrom announced ts = t :: us)
    (ht : t.kind.isMarked = false) :
    ∃ ts', ts = t :: ts' ∧ markFrom (announced.after t.kind) ts' = us := by
  cases ts with
  | nil => cases h
  | cons u ts =>
    simp only [markFrom, if_pos (hsignificant u List.mem_cons_self)] at h
    split at h
    · next kind _ =>
      obtain ⟨rfl, -⟩ := List.cons.inj h
      rw [hmarks.isMarked] at ht
      cases ht
    · obtain ⟨rfl, hus⟩ := List.cons.inj h
      exact ⟨ts, rfl, hus⟩

/-- A word in the parentheses of a reference is marked. -/
theorem kind_eq_of_calls {front after : List Token} {head opening : Token} {kind : TokenKind}
    (h : markFrom announced ts = front ++ head :: opening :: t :: after) (hcalls : head.Calls kind)
    (hopen : opening.kind = .leftParen) (hword : t.kind.isWord = true) : t.kind = kind := by
  induction front generalizing announced ts with
  | nil =>
    obtain ⟨hhead, hkind, hparenthesis, hname⟩ : head.kind.isMarked = false ∧
        announced.after head.kind = .parenthesis kind ∧ (Announced.parenthesis kind).Marks ∧
        (Announced.name kind).Marks := by
      rcases hcalls with ⟨rfl, hkind⟩ | ⟨rfl, hkind⟩ <;> rw [hkind]
      · exact ⟨rfl, rfl, .inl rfl, .inl rfl⟩
      · exact ⟨rfl, rfl, .inr rfl, .inr rfl⟩
    obtain ⟨ts₁, rfl, h₁⟩ := of_markFrom_eq_cons hmarks hsignificant h hhead
    obtain ⟨-, hsignificant₁⟩ := List.forall_mem_cons.mp hsignificant
    rw [hkind] at h₁
    obtain ⟨ts₂, rfl, h₂⟩ := of_markFrom_eq_cons hparenthesis hsignificant₁ h₁
      (by rw [hopen]; rfl)
    obtain ⟨-, hsignificant₂⟩ := List.forall_mem_cons.mp hsignificant₁
    rw [hopen] at h₂
    -- now a name is due, and the token is a word
    cases ts₂ with
    | nil => cases h₂
    | cons u ts₃ =>
      rw [Announced.after, markFrom_step] at h₂
      obtain ⟨rfl, -⟩ := List.cons.inj h₂
      have hu : u.kind.isWord = true := by
        rw [← hname.isWord_marked u.kind]
        exact hword
      show (Announced.name kind).marked u.kind = kind
      simp only [Announced.marked, hu]
  | cons u front ih =>
    cases ts with
    | nil => cases h
    | cons t' ts =>
      rw [markFrom_step, List.cons_append] at h
      exact ih (hmarks.next t'.kind) (List.forall_mem_cons.mp hsignificant).2 (List.cons.inj h).2

end Places

/-! ## Sources -/

section Sources
variable {source : Text}

theorem isSignificant_of_mem_significant {ts : List Token} :
    ∀ t ∈ significant ts, t.isSignificant = true :=
  fun _ ht => (List.mem_filter.mp ht).2

theorem isMarked_of_mem_significant_scan :
    ∀ t ∈ significant (scan 0 source), t.kind.isMarked = false :=
  fun t ht => isMarked_of_mem_scan t (List.mem_filter.mp ht).1

/-- A marked name of a source stands in the parentheses of a reference. -/
theorem exists_call_of_tokens_eq {us vs : List Token} {t : Token}
    (h : significant (tokenize source) = us ++ t :: vs) (hmarked : t.kind.isMarked = true) :
    ∃ front head opening, us = front ++ [head, opening] ∧ head.Calls t.kind ∧
      opening.kind = .leftParen := by
  rw [significant_tokenize_eq] at h
  have hnothing : Announced.nothing.Follows [] := trivial
  exact exists_call_of_isMarked isSignificant_of_mem_significant hnothing
    isMarked_of_mem_significant_scan h hmarked

/-- A word in the parentheses of a reference has the kind that they give it. -/
theorem kind_eq_of_mem_reference {front after : List Token} {head opening t : Token}
    (h : significant (tokenize source) = front ++ head :: opening :: t :: after)
    (hopen : opening.kind = .leftParen) (hword : t.kind.isWord = true) {kind : TokenKind}
    (hcalls : head.Calls kind) : t.kind = kind := by
  rw [significant_tokenize_eq] at h
  exact kind_eq_of_calls Announced.marks_nothing isSignificant_of_mem_significant h hcalls hopen
    hword

end Sources

/-! ## Places among the tokens -/

/-- The two tokens before the place are the name of a reference, which gives names the kind, and an
opening parenthesis. -/
def CalledAt (ts : List Token) (kind : TokenKind) (i : Nat) : Prop :=
  ∃ j head opening, i = j + 2 ∧ ts[j]? = some head ∧ ts[j + 1]? = some opening ∧
    head.Calls kind ∧ opening.kind = .leftParen

/-- From the place on, so many words `attr` or `prop`, each with an opening parenthesis after it. -/
def ReferenceChain (ts : List Token) (i count : Nat) : Prop :=
  ∀ k < count, ∃ head opening, ts[i + 2 * k]? = some head ∧ ts[i + 2 * k + 1]? = some opening ∧
    (head.text = "attr".toList ∨ head.text = "prop".toList) ∧ opening.kind = .leftParen

section Places
variable {source : Text} {i : Nat} {t : Token}

theorem exists_split_of_getElem? {ts : List Token} (h : ts[i]? = some t) :
    ∃ us vs, ts = us ++ t :: vs ∧ us.length = i := by
  obtain ⟨hlt, rfl⟩ := List.getElem?_eq_some_iff.mp h
  refine ⟨ts.take i, ts.drop (i + 1), ?_, ?_⟩
  · rw [← List.drop_eq_getElem_cons hlt, List.take_append_drop]
  · rw [List.length_take]
    omega

/-- A token has one of the two kinds of names where a reference of this kind is called, if it is a
word, and nowhere else. -/
theorem kind_eq_iff_calledAt (h : (significant (tokenize source))[i]? = some t) {kind : TokenKind}
    (hkind : kind.isMarked = true) :
    t.kind = kind ↔
      t.text.isWord = true ∧ CalledAt (significant (tokenize source)) kind i := by
  have hmem : t ∈ tokenize source := (List.mem_filter.mp (List.mem_of_getElem? h)).1
  have hclassified := classified_of_mem_tokenize t hmem
  constructor
  · rintro rfl
    refine ⟨hclassified.isWord_iff.mp (TokenKind.isWord_of_isMarked hkind), ?_⟩
    obtain ⟨us, vs, hts, rfl⟩ := exists_split_of_getElem? h
    obtain ⟨front, head, opening, rfl, hcalls, hopen⟩ := exists_call_of_tokens_eq hts hkind
    refine ⟨front.length, head, opening, by simp, ?_, ?_, hcalls, hopen⟩ <;> rw [hts] <;> simp
  · rintro ⟨hword, j, head, opening, rfl, hhead, hopening, hcalls, hopen⟩
    obtain ⟨front, rest, hts, rfl⟩ := exists_split_of_getElem? hhead
    obtain ⟨after, rfl⟩ : ∃ after, rest = opening :: t :: after := by
      rw [hts, List.getElem?_append_right (by omega)] at hopening h
      simp only [Nat.add_sub_cancel_left, List.getElem?_cons_succ] at hopening h
      rcases rest with _ | ⟨u, _ | ⟨v, after⟩⟩
      · cases hopening
      · cases h
      · obtain rfl := Option.some.inj hopening
        obtain rfl := Option.some.inj h
        exact ⟨after, rfl⟩
    exact kind_eq_of_mem_reference hts hopen (hclassified.isWord_iff.mpr hword) hcalls

/-- The word after a word `attr` or `prop` and a parenthesis is marked if this one is not. -/
theorem isMarked_iff_of_reference {head opening : Token}
    (hhead : (significant (tokenize source))[i]? = some head)
    (hopening : (significant (tokenize source))[i + 1]? = some opening)
    (hname : head.text = "attr".toList ∨ head.text = "prop".toList)
    (hopen : opening.kind = .leftParen) (h : (significant (tokenize source))[i + 2]? = some t)
    (hword : t.text.isWord = true) : t.kind.isMarked = true ↔ head.kind.isMarked = false := by
  constructor
  · intro hmarked
    obtain ⟨-, j, head', opening', hj, hhead', -, hcalls, -⟩ :=
      (kind_eq_iff_calledAt h hmarked).mp rfl
    obtain rfl : i = j := Nat.add_right_cancel hj
    obtain rfl : head = head' := Option.some.inj (hhead.symm.trans hhead')
    rcases hcalls with ⟨-, hkind⟩ | ⟨-, hkind⟩ <;> rw [hkind] <;> rfl
  · intro hplain
    have hmem : head ∈ tokenize source := (List.mem_filter.mp (List.mem_of_getElem? hhead)).1
    have hclassified := classified_of_mem_tokenize head hmem
    obtain ⟨kind, hkind, hcalls⟩ : ∃ kind : TokenKind, kind.isMarked = true ∧ head.Calls kind := by
      rcases hname with htext | htext
      · have hhead := hclassified.kind_eq (by rw [htext]; decide) hplain
        rw [htext] at hhead
        exact ⟨.attributeName, rfl, .inl ⟨rfl, hhead⟩⟩
      · have hhead := hclassified.kind_eq (by rw [htext]; decide) hplain
        rw [htext] at hhead
        exact ⟨.propertyName, rfl, .inr ⟨rfl, hhead⟩⟩
    rw [(kind_eq_iff_calledAt h hkind).mpr ⟨hword, i, head, opening, rfl, hhead, hopening, hcalls,
      hopen⟩]
    exact hkind

/-- In a chain of references that begins with a word that is not marked, every other word is. -/
theorem isMarked_iff_odd {count : Nat} {first last : Token}
    (hchain : ReferenceChain (significant (tokenize source)) i count)
    (hfirst : (significant (tokenize source))[i]? = some first)
    (hplain : first.kind.isMarked = false)
    (hlast : (significant (tokenize source))[i + 2 * count]? = some last)
    (hword : last.text.isWord = true) : last.kind.isMarked = true ↔ count % 2 = 1 := by
  induction count generalizing last with
  | zero =>
    obtain rfl : first = last := Option.some.inj (hfirst.symm.trans hlast)
    simp [hplain]
  | succ count ih =>
    obtain ⟨head, opening, hhead, hopening, hname, hopen⟩ := hchain count (Nat.lt_succ_self count)
    have hheadWord : head.text.isWord = true := by
      rcases hname with htext | htext <;> rw [htext] <;> decide
    have hprior := ih (fun k hk => hchain k (Nat.lt_succ_of_lt hk)) hhead hheadWord
    rw [isMarked_iff_of_reference hhead hopening hname hopen hlast hword, ← Bool.not_eq_true,
      hprior]
    omega

end Places

/-- Words are marked where references call for them. A token is the name of an attribute or of a
property if it is a word, and the two significant tokens before it are a call of `attr` or `prop`
that was not marked itself. Marking changes nothing else, so any other word is what its spelling
says; and where references are opened one inside the other, every other name is marked. -/
theorem marked_iff_called (source : Text) :
    (∀ i t, (significant (tokenize source))[i]? = some t → ∀ kind, kind.isMarked = true →
      (t.kind = kind ↔
        t.text.isWord = true ∧ CalledAt (significant (tokenize source)) kind i)) ∧
    List.Forall₂ Token.MarkedAs (scan 0 source) (tokenize source) ∧
    (∀ t ∈ tokenize source, t.Classified) ∧
    ∀ i count first last, ReferenceChain (significant (tokenize source)) i count →
      (significant (tokenize source))[i]? = some first → first.kind.isMarked = false →
      (significant (tokenize source))[i + 2 * count]? = some last → last.text.isWord = true →
      (last.kind.isMarked = true ↔ count % 2 = 1) := by
  refine ⟨fun i t h kind => kind_eq_iff_calledAt h,
    forall₂_markedAs_markFrom Announced.marks_nothing _, classified_of_mem_tokenize, ?_⟩
  intro i count first last hchain hfirst hplain hlast hword
  exact isMarked_iff_odd hchain hfirst hplain hlast hword

/-- References that are not closed: the second word is marked, the third one is not, and the fourth
one is. -/
theorem marked_in_open_references :
    CalledAt (significant (tokenize "attr(prop(attr(x".toList)) .attributeName 2 ∧
    ((TokenKind.callee .attr).isMarked = true ↔ 2 % 2 = 1) ∧
    (TokenKind.attributeName.isMarked = true ↔ 3 % 2 = 1) := by
  have htokens : significant (tokenize "attr(prop(attr(x".toList) =
      [⟨.callee .attr, "attr".toList, 0⟩, ⟨.leftParen, ['('], 4⟩,
        ⟨.attributeName, "prop".toList, 5⟩, ⟨.leftParen, ['('], 9⟩,
        ⟨.callee .attr, "attr".toList, 10⟩, ⟨.leftParen, ['('], 14⟩,
        ⟨.attributeName, ['x'], 15⟩] := by
    decide +kernel
  have hreferences : ReferenceChain (significant (tokenize "attr(prop(attr(x".toList)) 0 3 := by
    intro k hk
    rw [htokens]
    obtain rfl | rfl | rfl : k = 0 ∨ k = 1 ∨ k = 2 := by omega
    · exact ⟨_, _, rfl, rfl, .inl rfl, rfl⟩
    · exact ⟨_, _, rfl, rfl, .inr rfl, rfl⟩
    · exact ⟨_, _, rfl, rfl, .inl rfl, rfl⟩
  obtain ⟨hcalled, -, -, hchain⟩ := marked_iff_called "attr(prop(attr(x".toList
  have hsecond := (hcalled 2 ⟨.attributeName, "prop".toList, 5⟩ (by rw [htokens]; rfl) _ rfl).mp rfl
  refine ⟨hsecond.2, ?_, ?_⟩
  · exact hchain 0 2 ⟨.callee .attr, "attr".toList, 0⟩ ⟨.callee .attr, "attr".toList, 10⟩
      (fun k hk => hreferences k (Nat.lt_succ_of_lt hk)) (by rw [htokens]; rfl) rfl
      (by rw [htokens]; rfl) (by decide)
  · exact hchain 0 3 ⟨.callee .attr, "attr".toList, 0⟩ ⟨.attributeName, ['x'], 15⟩ hreferences
      (by rw [htokens]; rfl) rfl (by rw [htokens]; rfl) (by decide)

end EffectLang
