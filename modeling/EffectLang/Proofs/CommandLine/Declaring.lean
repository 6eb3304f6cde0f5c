import EffectLang.CommandLine.Surroundings
import EffectLang.Proofs.Grammar.Soundness
import EffectLang.Proofs.Token.Lexeme

/-!
# Which type a name is declared with

Names are declared row by row, in the table of a manifest and then in the entries on the command
line. The last row for a name counts; entries on the command line count before the manifest. No row
declares the type `error`.
-/

namespace EffectLang

/-! ## The last row for a name -/

/-- The type that rows of declarations give a name: that of the last row for it, or the one that it
has without them. -/
inductive LastDeclared {α : Type} (declares : α → Text → ResultType → Prop) (name : Text)
    (base : Option ResultType) : List α → Option ResultType → Prop
  | row {before after : List α} {row : α} {type : ResultType} :
      declares row name type → (∀ later ∈ after, ∀ T, ¬ declares later name T) →
        LastDeclared declares name base (before ++ row :: after) (some type)
  | base {rows : List α} :
      (∀ row ∈ rows, ∀ T, ¬ declares row name T) → LastDeclared declares name base rows base

namespace LastDeclared
variable {α : Type} {declares : α → Text → ResultType → Prop} {rows : List α} {name : Text}
  {base result : Option ResultType}

/-- One more row at the front: where it declares the name, its type stands for what the name has
without the other rows. -/
theorem cons {row : α} {known : Text} {type : ResultType}
    (hrow : ∀ other T, declares row other T ↔ other = known ∧ T = type)
    (h : LastDeclared declares name (if name = known then some type else base) rows result) :
    LastDeclared declares name base (row :: rows) result := by
  cases h with
  | row hlater hafter =>
    rw [← List.cons_append]
    exact .row hlater hafter
  | base hrows =>
    by_cases hname : name = known
    · rw [if_pos hname, ← List.nil_append (row :: rows)]
      exact .row ((hrow name type).mpr ⟨hname, rfl⟩) hrows
    · rw [if_neg hname]
      refine .base (List.forall_mem_cons.mpr ⟨fun T hdeclares => ?_, hrows⟩)
      exact hname ((hrow name T).mp hdeclares).1

/-- What a name has without the rows matters only where no row is for it. -/
theorem or (h : LastDeclared declares name none rows result) (base : Option ResultType) :
    LastDeclared declares name base rows (result.or base) := by
  cases h with
  | row hrow hafter => exact .row hrow hafter
  | base hrows => exact .base hrows

/-- The last of the rows with a property is one row. -/
theorem last_unique {p : α → Prop} {before after before' after' : List α} {row row' : α}
    (h : before ++ row :: after = before' ++ row' :: after') (hrow : p row)
    (hafter : ∀ later ∈ after, ¬ p later) (hrow' : p row')
    (hafter' : ∀ later ∈ after', ¬ p later) : row = row' := by
  rcases List.append_eq_append_iff.mp h with
    ⟨_ | ⟨first, gap⟩, -, hgap⟩ | ⟨_ | ⟨first, gap⟩, -, hgap⟩
  · exact (List.cons_eq_cons.mp hgap).1
  · obtain ⟨-, rfl⟩ := List.cons_eq_cons.mp hgap
    exact absurd hrow' (hafter row' (by simp))
  · exact (List.cons_eq_cons.mp hgap).1.symm
  · obtain ⟨-, rfl⟩ := List.cons_eq_cons.mp hgap
    exact absurd hrow (hafter' row (by simp))

theorem unique (hrows : ∀ row T T', declares row name T → declares row name T' → T = T')
    {result' : Option ResultType} (h : LastDeclared declares name base rows result)
    (h' : LastDeclared declares name base rows result') : result = result' := by
  generalize hsame : rows = rows' at h'
  cases h with
  | row hrow hafter =>
    cases h' with
    | row hrow' hafter' =>
      obtain rfl := last_unique (p := fun row => ∃ T, declares row name T) hsame ⟨_, hrow⟩
        (fun later hlater => not_exists.mpr (hafter later hlater)) ⟨_, hrow'⟩
        (fun later hlater => not_exists.mpr (hafter' later hlater))
      exact congrArg some (hrows _ _ _ hrow hrow')
    | base hnone => exact absurd hrow (hnone _ (hsame ▸ by simp) _)
  | base hnone =>
    cases h' with
    | row hrow' => exact absurd hrow' (hnone _ (hsame ▸ by simp) _)
    | base => rfl

theorem ne_error (h : LastDeclared declares name base rows result)
    (hrows : ∀ row other T, declares row other T → T ≠ .error) (hbase : base ≠ some .error) :
    result ≠ some .error := by
  cases h with
  | row hrow => exact fun herror => hrows _ _ _ hrow (Option.some.inj herror)
  | base => exact hbase

end LastDeclared

/-! ## Tables -/

namespace TypeTable

end TypeTable

/-! ## Entries of the command line -/

/-- The word is the name of a type that can be declared, whatever its case and the blanks around
it. -/
def NamesType (word : Text) (type : ResultType) : Prop :=
  word.strip.map Char.toLower = type.spelling ∧ type ≠ .error

theorem declaredType?_eq_some_iff {word : Text} {type : ResultType} :
    declaredType? word = some type ↔ NamesType word type := by
  rw [declaredType?, Option.filter_eq_some_iff, decide_eq_true_iff, NamesType]
  refine and_congr_left fun _ => ⟨fun h => ?_, fun h => ?_⟩
  · exact (Vocabulary.spelling_of_ofSpelling? h).symm
  · rw [h]
    exact ResultType.ofSpelling?_spelling type

theorem NamesType.unique {word : Text} {T T' : ResultType} (h : NamesType word T)
    (h' : NamesType word T') : T = T' := by
  rw [← declaredType?_eq_some_iff] at h h'
  rw [h] at h'
  exact Option.some.inj h'

/-- The entry is a name, an equals sign and a type. The first equals sign counts, and blanks around
the name do not. -/
def EntryDeclares (entry name : Text) (type : ResultType) : Prop :=
  ∃ before word, entry = before ++ '=' :: word ∧ '=' ∉ before ∧ before.strip = name ∧ name ≠ [] ∧
    NamesType word type

/-- An entry is divided at its first equals sign. -/
theorem readEntry_append {before : Text} (h : '=' ∉ before) (word : Text) :
    readEntry (before ++ '=' :: word) =
      if before.strip = [] then .error (.incomplete (before ++ '=' :: word))
      else (declaredType? word).elim (.error (.unknownType word)) fun type =>
        .ok (before.strip, type) := by
  have hclear : ∀ c ∈ before, decide (c ≠ '=') = true := fun c hc =>
    decide_eq_true fun heq => h (heq ▸ hc)
  have hstops : Text.Stops (· ≠ '=') ('=' :: word) := by simp [Text.Stops]
  rw [readEntry, Text.takeWhile_append hclear hstops, Text.dropWhile_append hclear hstops]
  dsimp only
  cases declaredType? word <;> rfl

theorem readEntry_incomplete {entry : Text} (h : '=' ∉ entry) :
    readEntry entry = .error (.incomplete entry) := by
  have hclear : ∀ c ∈ entry, decide (c ≠ '=') = true := fun c hc =>
    decide_eq_true fun heq => h (heq ▸ hc)
  have hrest := Text.dropWhile_append hclear (Text.stops_nil _)
  rw [List.append_nil] at hrest
  rw [readEntry, hrest]

theorem readEntry_eq_ok_iff {entry name : Text} {type : ResultType} :
    readEntry entry = .ok (name, type) ↔ EntryDeclares entry name type := by
  constructor
  · intro h
    by_cases hsign : '=' ∈ entry
    · obtain ⟨before, word, rfl, hbefore⟩ := List.eq_append_cons_of_mem hsign
      rw [readEntry_append hbefore] at h
      split at h
      · cases h
      · next hne =>
        cases hT : declaredType? word with
        | none =>
          rw [hT] at h
          cases h
        | some T =>
          rw [hT] at h
          cases h
          exact ⟨before, word, rfl, hbefore, rfl, hne, declaredType?_eq_some_iff.mp hT⟩
    · rw [readEntry_incomplete hsign] at h
      cases h
  · rintro ⟨before, word, rfl, hbefore, rfl, hne, hword⟩
    rw [readEntry_append hbefore, if_neg hne, declaredType?_eq_some_iff.mpr hword]
    rfl

theorem EntryDeclares.ne_error {entry name : Text} {type : ResultType}
    (h : EntryDeclares entry name type) : type ≠ .error := by
  obtain ⟨_, _, _, _, _, _, hword⟩ := h
  exact hword.2

theorem EntryDeclares.unique {entry name : Text} {T T' : ResultType}
    (h : EntryDeclares entry name T) (h' : EntryDeclares entry name T') : T = T' := by
  rw [← readEntry_eq_ok_iff] at h h'
  rw [h] at h'
  exact (Prod.mk.inj (Except.ok.inj h')).2

/-- The row of a manifest is the name with the name of the type. -/
def RowDeclares (row : Text × Toml.Value) (name : Text) (type : ResultType) : Prop :=
  row.1 = name ∧ ∃ word, row.2 = .text word ∧ NamesType word type

theorem RowDeclares.ne_error {row : Text × Toml.Value} {name : Text} {type : ResultType}
    (h : RowDeclares row name type) : type ≠ .error := by
  obtain ⟨-, word, -, hword⟩ := h
  exact hword.2

theorem RowDeclares.unique {row : Text × Toml.Value} {name : Text} {T T' : ResultType}
    (h : RowDeclares row name T) (h' : RowDeclares row name T') : T = T' := by
  obtain ⟨-, word, hword, hT⟩ := h
  obtain ⟨-, word', hword', hT'⟩ := h'
  rw [hword] at hword'
  obtain rfl := Toml.Value.text.inj hword'
  exact hT.unique hT'

/-- The rows of the table under a key of the document, if there is one. -/
def Toml.rowsOf (document : List (Text × Toml.Value)) (part : Text) : List (Text × Toml.Value) :=
  match document.lookup part with
  | some (.table rows) => rows
  | _ => []

namespace CommandLine

/-- The document that declares names for a command: that of the manifest which is named or found, or
an empty one. -/
inductive Surroundings.Document (s : Surroundings) (manifest : Option Text) :
    List (Text × Toml.Value) → Prop
  | found {source : Text} {document : List (Text × Toml.Value)} :
      s.read (manifest.getD manifestName) = .ok source → Toml.parse source = .ok document →
        Document s manifest document
  | missing :
      manifest = none → s.read manifestName = .error .missing → Document s manifest []

theorem Surroundings.Document.unique {s : Surroundings} {manifest : Option Text}
    {document document' : List (Text × Toml.Value)} (h : s.Document manifest document)
    (h' : s.Document manifest document') : document = document' := by
  cases h with
  | found hread hparse =>
    cases h' with
    | found hread' hparse' =>
      rw [hread] at hread'
      obtain rfl := Except.ok.inj hread'
      rw [hparse] at hparse'
      exact Except.ok.inj hparse'
    | missing hnone hmissing =>
      subst hnone
      rw [Option.getD_none, hmissing] at hread
      cases hread
  | missing hnone hmissing =>
    cases h' with
    | found hread' =>
      subst hnone
      rw [Option.getD_none, hmissing] at hread'
      cases hread'
    | missing => rfl

/-- What a name is declared with for a command: by the last entry for it, or else by the last row
for it in the table of the document. -/
def DeclaredAs (document : List (Text × Toml.Value)) (part : Text) (entries : List Text)
    (name : Text) (type : Option ResultType) : Prop :=
  ∃ base, LastDeclared RowDeclares name none (Toml.rowsOf document part) base ∧
    LastDeclared EntryDeclares name base entries type

section DeclaredAs
variable {document : List (Text × Toml.Value)} {part : Text} {entries : List Text} {name : Text}
  {type : Option ResultType}

theorem DeclaredAs.ne_error (h : DeclaredAs document part entries name type) :
    type ≠ some .error := by
  obtain ⟨base, hrows, hentries⟩ := h
  have hbase : base ≠ some .error := hrows.ne_error (fun _ _ _ => RowDeclares.ne_error) nofun
  exact hentries.ne_error (fun _ _ _ => EntryDeclares.ne_error) hbase

theorem DeclaredAs.unique {type' : Option ResultType}
    (h : DeclaredAs document part entries name type)
    (h' : DeclaredAs document part entries name type') : type = type' := by
  obtain ⟨base, hrows, hentries⟩ := h
  obtain ⟨base', hrows', hentries'⟩ := h'
  obtain rfl := hrows.unique (fun _ _ _ => RowDeclares.unique) hrows'
  exact hentries.unique (fun _ _ _ => EntryDeclares.unique) hentries'

end DeclaredAs

end CommandLine
end EffectLang
