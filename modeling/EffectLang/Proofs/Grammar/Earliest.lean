import EffectLang.Proofs.Grammar.Parts
import EffectLang.Proofs.Grammar.Viable
import EffectLang.Proofs.Token.Respelling

/-!
# Errors are found as early as possible

An error that says that tokens are missing is one that more tokens would mend. Any other error names
a token: the tokens before it are the beginning of a source that is read, and no source that begins
with the tokens up to it is. So the reader neither gives up before it has to nor later.
-/

namespace EffectLang

/-! ## Kinds and texts -/

/-- The kind of a token, by name, and its text. -/
def Token.face (t : Token) : String × Text :=
  (t.kind.name, t.text)

/-- The kinds and texts of the significant tokens of a source. -/
def faces (source : Text) : List (String × Text) :=
  (significant (tokenize source)).map Token.face

/-- A kind is known by its name and by the text that spells what it stands for. -/
theorem TokenKind.eq_of_name {kind kind' : TokenKind} {text : Text}
    (h : ∀ spelling, kind.payloadSpelling? = some spelling → text = spelling)
    (h' : ∀ spelling, kind'.payloadSpelling? = some spelling → text = spelling)
    (hname : kind.name = kind'.name) : kind = kind' := by
  have hspelling {spelling spelling' : Text} (hkind : kind.payloadSpelling? = some spelling)
      (hkind' : kind'.payloadSpelling? = some spelling') : spelling = spelling' :=
    (h _ hkind).symm.trans (h' _ hkind')
  cases kind with
  | builtIn value =>
    cases kind' with
    | builtIn value' =>
      rw [Vocabulary.eq_of_spelling_eq (BuiltIn.ofSpelling?_spelling value)
        (BuiltIn.ofSpelling?_spelling value') (hspelling rfl rfl)]
    | _ => simp [TokenKind.name] at hname
  | callee f =>
    cases kind' with
    | callee f' =>
      rw [Vocabulary.eq_of_spelling_eq (Callee.ofSpelling?_spelling f)
        (Callee.ofSpelling?_spelling f') (hspelling rfl rfl)]
    | _ => simp [TokenKind.name] at hname
  | operator op =>
    cases kind' with
    | operator op' =>
      rw [Vocabulary.eq_of_spelling_eq (BinaryOp.ofSpelling?_spelling op)
        (BinaryOp.ofSpelling?_spelling op') (hspelling rfl rfl)]
    | _ => simp [TokenKind.name] at hname
  | _ => cases kind' <;> first | rfl | simp [TokenKind.name] at hname

theorem Token.Spelled.look_eq {t t' : Token} (h : t.Spelled) (h' : t'.Spelled)
    (hface : t.face = t'.face) : t.look = t'.look := by
  obtain ⟨hname, htext⟩ := Prod.mk.inj hface
  have hkind : t.kind = t'.kind := TokenKind.eq_of_name h.payload (htext ▸ h'.payload) hname
  exact Prod.ext hkind htext

theorem Alike.map_face {ts ts' : List Token} (h : Alike ts ts') :
    ts.map Token.face = ts'.map Token.face := by
  have hlooks := congrArg (List.map fun look : TokenKind × Text => (look.1.name, look.2)) h
  rwa [List.map_map, List.map_map] at hlooks

theorem alike_of_map_face {ts ts' : List Token} (h : ∀ t ∈ ts, t.Spelled)
    (h' : ∀ t ∈ ts', t.Spelled) (hfaces : ts.map Token.face = ts'.map Token.face) :
    Alike ts ts' := by
  induction ts generalizing ts' with
  | nil => rw [List.map_eq_nil_iff.mp hfaces.symm]; rfl
  | cons t ts ih =>
    obtain ⟨t', ts', rfl, hface, hrest⟩ := List.map_eq_cons_iff.mp hfaces.symm
    obtain ⟨ht, hts⟩ := List.forall_mem_cons.mp h
    obtain ⟨ht', hts'⟩ := List.forall_mem_cons.mp h'
    have hlook := ht.look_eq ht' hface.symm
    have htail := ih hts hts' hrest.symm
    unfold Alike at htail ⊢
    rw [List.map_cons, List.map_cons, hlook, htail]

/-! ## Sources that are read -/

/-- The source is an expression. -/
def Expr.Accepted (source : Text) : Prop :=
  ∃ e, Expr.parse source = .ok e

theorem Expr.parse_eq_wholeIn (source : Text) :
    Expr.parse source = wholeIn nestingLimit source.length (significant (tokenize source)) >>=
      fun p => .ok p.1 :=
  read_eq_wholeIn nestingLimit source.length _

theorem Expr.wholeIn_of_parse_error {source : Text} {f : ParseFailure}
    (h : Expr.parse source = .error f) :
    wholeIn nestingLimit source.length (significant (tokenize source)) = .error f := by
  rw [parse_eq_wholeIn] at h
  generalize wholeIn nestingLimit source.length (significant (tokenize source)) = x at h ⊢
  cases x with
  | error f' => rw [Except.error.inj h]
  | ok p => cases h

theorem Expr.wholeIn_of_parse {source : Text} {e : Expr} (h : Expr.parse source = .ok e) :
    wholeIn nestingLimit source.length (significant (tokenize source)) = .ok (e, []) := by
  rw [parse_eq_wholeIn] at h
  obtain ⟨⟨e', rest⟩, hwhole, he⟩ := ok_of_bind h
  obtain rfl : e' = e := Except.ok.inj he
  obtain rfl := rest_eq_nil hwhole
  exact hwhole

theorem convertible_of_mem_fill {fillers : List Filler} :
    ∀ t ∈ fill fillers, t.Convertible := by
  intro t ht
  obtain ⟨filler, -, rfl⟩ := List.mem_map.mp ht
  cases filler <;> intro _ <;> decide

/-- Tokens like those of a phrase are read, wherever they are. -/
theorem wholeIn_of_alike {room : Nat} {ts ts' : List Token} {e : Expr}
    (h : DerivesWithin .expression room ts e) (hts : ∀ t ∈ ts, t.Convertible)
    (halike : Alike ts ts') (n : Nat) : wholeIn room n ts' = .ok (e, []) := by
  obtain ⟨d, hd, he⟩ := h
  have hread := (Grammar.read_settles (g := Grammar.endingAt n) rfl he hts room).1 hd
  rw [read_eq_wholeIn] at hread
  have hforeseen := (predictive_whole room).foreseen n ts
  generalize hx : wholeIn room n ts = x at hread hforeseen
  cases hforeseen with
  | @read used rest e' hused _ _ hsteady =>
    obtain rfl : e' = e := Except.ok.inj hread
    obtain rfl := rest_eq_nil hx
    rw [List.append_nil] at hused
    subst hused
    have hend : SameNext [] [] := rfl
    simpa using hsteady n ts' [] halike hend
  | incomplete => cases hread
  | refused => cases hread

/-- The beginning of the tokens of a source that fillers complete to a phrase is the beginning of
those of a source that is read. -/
theorem Expr.exists_accepted {source : Text} {before after : List Token} {fillers : List Filler}
    {e : Expr} (h : significant (tokenize source) = before ++ after)
    (hbefore : ∀ t ∈ before, t.Convertible)
    (hderives : DerivesWithin .expression nestingLimit (before ++ fill fillers) e) :
    ∃ source', Accepted source' ∧
      faces source' = before.map Token.face ++ (fill fillers).map Token.face := by
  have hproper : ∀ t ∈ before ++ fill fillers, t.Proper := by
    obtain ⟨d, -, hd⟩ := hderives
    exact hd.proper
  obtain ⟨source', halike⟩ := exists_source_alike h
    (fun t ht => (hproper t (List.mem_append_left _ ht)).kind_ne_error) fillers
  refine ⟨source', ⟨e, ?_⟩, ?_⟩
  · rw [parse_eq_wholeIn, wholeIn_of_alike hderives
      (List.forall_mem_append.mpr ⟨hbefore, convertible_of_mem_fill⟩) halike.symm]
    rfl
  · rw [faces, halike.map_face, List.map_append]

/-- The kinds and texts are the beginning of those of a source that is read. -/
def Viable (front : List (String × Text)) : Prop :=
  ∃ source, Expr.Accepted source ∧ front <+: faces source

theorem spelled_of_tokens_eq {source : Text} {front after : List Token}
    (h : significant (tokenize source) = front ++ after) : ∀ t ∈ front, t.Spelled := by
  intro t ht
  have hmem : t ∈ significant (tokenize source) := by
    rw [h]
    exact List.mem_append_left after ht
  exact spelled_of_mem_tokenize hmem

/-- The source begins with the given tokens, if places do not matter. -/
theorem exists_alike_of_take_faces {source : Text} {front : List Token}
    (hfront : ∀ t ∈ front, t.Spelled)
    (h : (faces source).take front.length = front.map Token.face) :
    ∃ front' after, significant (tokenize source) = front' ++ after ∧ Alike front front' := by
  have hsplit := (List.take_append_drop front.length (significant (tokenize source))).symm
  refine ⟨_, _, hsplit, alike_of_map_face hfront (spelled_of_tokens_eq hsplit) ?_⟩
  rw [← h, faces, List.map_take]

/-! ## Where errors are reported -/

/-- The number of tokens that decide about an error: those up to the one at its offset, and where
an unknown function is called the parenthesis after its name too. -/
def ParseError.reach (e : ParseError) (ts : List Token) : Nat :=
  ts.findIdx (fun t => (t.start : Int) = e.pos) + if e.cause = .unknownFunction then 2 else 1

theorem ParseError.Cause.isIncomplete_iff {cause : Cause} :
    cause.isIncomplete = true ↔ cause = .unexpectedEnd ∨ cause = .unmatchedParenthesis := by
  cases cause <;> decide

theorem findIdx_start {front after : List Token} {t : Token}
    (h : (front ++ t :: after).Pairwise fun t t' => t.start < t'.start) :
    (front ++ t :: after).findIdx (fun u => (u.start : Int) = t.start) = front.length := by
  have hbefore : ∀ u ∈ front, decide ((u.start : Int) = t.start) = false := by
    intro u hu
    have hlt : u.start < t.start := (List.pairwise_append.mp h).2.2 u hu t List.mem_cons_self
    exact decide_eq_false (by omega)
  have hfront := List.findIdx_eq_length.mpr hbefore
  rw [List.findIdx_append, hfront, if_neg (Nat.lt_irrefl _), List.findIdx_cons, decide_eq_true rfl]
  exact Nat.zero_add front.length

namespace Refuses
variable {before after : List Token} {t : Token} {e : ParseError}

theorem isIncomplete_eq_false (h : Refuses before t (.malformed e)) :
    e.cause.isIncomplete = false := by
  cases h with
  | @misplaced cause text hcause => cases cause <;> first | rfl | cases hcause
  | number => rfl
  | call => rfl

/-- An unknown function is one because of the parenthesis after its name. -/
theorem kind_of_unknownFunction (h : Refuses before t (.malformed e))
    (hcause : e.cause = .unknownFunction) : t.kind = .leftParen := by
  cases h with
  | @misplaced cause text hmisplaced =>
    obtain rfl : cause = .unknownFunction := hcause
    cases hmisplaced
  | number => cases hcause
  | call _ hkind => exact hkind

/-- An error about a token is decided by the tokens up to that one. -/
theorem reach_eq (h : Refuses before t (.malformed e))
    (hts : (before ++ t :: after).Pairwise fun t t' => t.start < t'.start) :
    e.reach (before ++ t :: after) = before.length + 1 := by
  cases h with
  | @misplaced cause text hcause =>
    have hne : cause ≠ .unknownFunction := by
      rintro rfl
      cases hcause
    rw [ParseError.reach, findIdx_start hts, if_neg hne]
  | number => rw [ParseError.reach, findIdx_start hts, if_neg nofun]
  | @call front name hname hkind =>
    subst hname
    rw [List.append_assoc, List.singleton_append] at hts ⊢
    rw [ParseError.reach, findIdx_start hts, if_pos rfl, List.length_append]
    rfl

end Refuses

/-- More tokens make another source, and it is read. -/
def Mendable (source : Text) : Prop :=
  ∃ source', Expr.Accepted source' ∧ faces source <+: faces source' ∧ faces source ≠ faces source'

/-- Why a source is not read: tokens are missing, or one of them is refused, with what comes before
it, wherever that stands. -/
theorem Expr.parse_error_cases {source : Text} {f : ParseFailure}
    (h : Expr.parse source = .error f) :
    (∃ e, f = .malformed e ∧ e.cause.isIncomplete = true ∧ Mendable source) ∨
    ∃ before t after, significant (tokenize source) = before ++ t :: after ∧ Refuses before t f ∧
      Viable (before.map Token.face) ∧
      ∀ source', (faces source').take (before.length + 1) = (before ++ [t]).map Token.face →
        ∃ pos, Expr.parse source' = .error (f.movedTo pos) := by
  have hforeseen := (predictive_whole nestingLimit).foreseen source.length
    (significant (tokenize source))
  rw [wholeIn_of_parse_error h] at hforeseen
  cases hforeseen with
  | @incomplete e fillers a hcause hconv hne hstands =>
    obtain ⟨source', haccepted, hfaces⟩ := exists_accepted (List.append_nil _).symm hconv hstands
    refine .inl ⟨e, rfl, hcause, source', haccepted, ⟨_, hfaces.symm⟩, ?_⟩
    intro heq
    have hlength := congrArg List.length (heq.trans hfaces)
    rw [faces, List.length_append] at hlength
    exact hne (List.map_eq_nil_iff.mp (List.map_eq_nil_iff.mp
      (List.eq_nil_of_length_eq_zero (Nat.left_eq_add.mp hlength))))
  | @refused before after t f fillers a hts hconv hrefuses hstands hpersists =>
    obtain ⟨source', haccepted, hfaces⟩ := exists_accepted hts hconv hstands
    refine .inr ⟨before, t, after, hts, hrefuses, ⟨source', haccepted, _, hfaces.symm⟩, ?_⟩
    intro source'' htake
    have hspelled : ∀ u ∈ before ++ [t], u.Spelled :=
      spelled_of_tokens_eq (hts.trans (List.append_cons before t after))
    have hlength : before.length + 1 = (before ++ [t]).length := by simp
    obtain ⟨front', after', hsource, halike⟩ :=
      exists_alike_of_take_faces hspelled (hlength ▸ htake)
    obtain ⟨before', single, rfl, hbefore, hsingle⟩ := halike.of_append
    obtain ⟨t', nothing, rfl, hlook, hnothing⟩ := hsingle.of_cons
    obtain rfl := hnothing.of_nil
    obtain ⟨f', herror, -, hmoved⟩ := hpersists source''.length before' t' after' hbefore
      (Token.kind_of_look hlook) (.inl (Token.text_of_look hlook))
    obtain ⟨pos, rfl⟩ := hmoved (Token.text_of_look hlook)
    refine ⟨pos, ?_⟩
    rw [parse_eq_wholeIn, hsource, List.append_assoc, List.singleton_append, herror]
    rfl

/-- Missing tokens are reported where there are sources that go on, and any other error at the first
token after which there are none: the tokens before it are the beginning of a source that is read,
and those up to it decide about the error. -/
theorem Expr.parse_error_earliest {source : Text} {e : ParseError}
    (h : Expr.parse source = .error (.malformed e)) :
    (e.cause = .unexpectedEnd ∨ e.cause = .unmatchedParenthesis → Mendable source) ∧
    (¬ (e.cause = .unexpectedEnd ∨ e.cause = .unmatchedParenthesis) →
      ∃ k, k = e.reach (significant (tokenize source)) ∧ k ≤ (faces source).length ∧
      (e.cause = .unknownFunction →
        ∃ t, (significant (tokenize source))[k - 1]? = some t ∧ t.kind = .leftParen) ∧
      Viable ((faces source).take (k - 1)) ∧
      ∀ source', (faces source').take k = (faces source).take k →
        ∃ pos, Expr.parse source' = .error (.malformed { e with pos })) := by
  rw [← ParseError.Cause.isIncomplete_iff]
  rcases parse_error_cases h with ⟨e', heq, hcause, hmendable⟩ |
    ⟨before, t, after, hts, hrefuses, hviable, hpersists⟩
  · obtain rfl := ParseFailure.malformed.inj heq
    exact ⟨fun _ => hmendable, fun hcomplete => absurd hcause hcomplete⟩
  · have hreach := hrefuses.reach_eq (hts ▸ pairwise_start_tokenize source)
    have hcomplete := hrefuses.isIncomplete_eq_false
    have hfaces : faces source = before.map Token.face ++ t.face :: after.map Token.face := by
      rw [faces, hts, List.map_append, List.map_cons]
    refine ⟨fun hcause => absurd hcause (by rw [hcomplete]; nofun), fun _ =>
      ⟨before.length + 1, by rw [hts, hreach], ?_, fun hcause => ⟨t, ?_, ?_⟩, ?_, ?_⟩⟩
    · rw [hfaces, List.length_append, List.length_map, List.length_cons]
      omega
    · rw [hts, Nat.add_sub_cancel, List.getElem?_append_right (Nat.le_refl _), Nat.sub_self]
      rfl
    · exact hrefuses.kind_of_unknownFunction hcause
    · rwa [hfaces, Nat.add_sub_cancel, List.take_left' (List.length_map _)]
    · intro source' htake
      refine hpersists source' (htake.trans ?_)
      rw [hfaces, List.map_append, ← List.singleton_append, ← List.append_assoc]
      exact List.take_left' (by simp)

/-- A call without its second argument: the parenthesis that closes it is refused. -/
theorem Expr.earliest_of_missing_argument :
    Expr.parse "min(a) + (b".toList = .error (.malformed ⟨.unexpectedToken, [')'], 5⟩) ∧
    ∀ source', (faces source').take 4 = (faces "min(a) + (b".toList).take 4 →
      ∃ pos, Expr.parse source' = .error (.malformed ⟨.unexpectedToken, [')'], pos⟩) := by
  have herror : Expr.parse "min(a) + (b".toList =
      .error (.malformed ⟨.unexpectedToken, [')'], 5⟩) := by
    decide +kernel
  have hreach : ParseError.reach ⟨.unexpectedToken, [')'], 5⟩
      (significant (tokenize "min(a) + (b".toList)) = 4 := by
    decide +kernel
  obtain ⟨k, hk, -, -, -, hdecided⟩ := (Expr.parse_error_earliest herror).2 (by decide)
  rw [hreach] at hk
  subst hk
  exact ⟨herror, hdecided⟩

end EffectLang
