import EffectLang.CommandLine.Run
import EffectLang.Proofs.CommandLine.Declaring
import EffectLang.Proofs.CommandLine.Format
import EffectLang.Proofs.Typing.Declared

/-!
# What the check command reports

The type of an expression is reported under the declarations of the manifest with those of the
options over them. The exit code says whether the expression could be read and whether it has a
type. No name is declared as an error, so an error is one that an operator makes. All this asks for
a stack with room for the levels of the expression. Whatever the room, there are expressions with too
many.
-/

namespace EffectLang.CommandLine
open Terminal

/-! ## Contexts -/

/-- The context gives each name the type that it is declared with, attributes and properties
apart. -/
structure Declares (document : List (Text × Toml.Value)) (attrs props : List Text)
    (context : TypeContext) : Prop where
  attr : ∀ name, DeclaredAs document "attributes".toList attrs name (context.attr name)
  prop : ∀ name, DeclaredAs document "properties".toList props name (context.prop name)

theorem Declares.unique {document : List (Text × Toml.Value)} {attrs props : List Text}
    {context context' : TypeContext} (h : Declares document attrs props context)
    (h' : Declares document attrs props context') : context' = context := by
  obtain ⟨attr, prop⟩ := context
  obtain ⟨attr', prop'⟩ := context'
  obtain rfl : attr' = attr := funext fun name => (h'.attr name).unique (h.attr name)
  obtain rfl : prop' = prop := funext fun name => (h'.prop name).unique (h.prop name)
  rfl

/-- The context of a check: the document is that of its manifest. -/
def Surroundings.Declares (s : Surroundings) (manifest : Option Text) (attrs props : List Text)
    (context : TypeContext) : Prop :=
  ∃ document, s.Document manifest document ∧ CommandLine.Declares document attrs props context

section Contexts
variable {s : Surroundings} {manifest : Option Text} {attrs props : List Text}
  {context : TypeContext}

theorem Surroundings.Declares.ne_error (h : s.Declares manifest attrs props context) (name : Text) :
    context.attr name ≠ some .error ∧ context.prop name ≠ some .error := by
  obtain ⟨document, -, hcontext⟩ := h
  exact ⟨(hcontext.attr name).ne_error, (hcontext.prop name).ne_error⟩

theorem Surroundings.Declares.unique (h : s.Declares manifest attrs props context)
    {context' : TypeContext} (h' : s.Declares manifest attrs props context') :
    context' = context := by
  obtain ⟨document, hdocument, hcontext⟩ := h
  obtain ⟨document', hdocument', hcontext'⟩ := h'
  obtain rfl := hdocument.unique hdocument'
  exact hcontext.unique hcontext'

end Contexts

/-! ## The line for a type -/

/-- The line that reports a type. -/
inductive TypeLine : Option ResultType → Text → Prop
  | unknown : TypeLine none "type: unknown (undeclared attribute or property)".toList
  | error : TypeLine (some .error) "type: error (operand types do not match)".toList
  | known {T : ResultType} : T ≠ .error → TypeLine (some T) ("type: ".toList ++ T.spelling)

section
variable {type : Option ResultType} {line : Text}

theorem typeLine_iff : TypeLine type line ↔ line = (typeReport type).2 := by
  constructor
  · rintro (_ | _ | @⟨T, hT⟩)
    · rfl
    · rfl
    · cases T <;> first | rfl | exact absurd rfl hT
  · rintro rfl
    rcases type with _ | T
    · exact .unknown
    · cases T <;> first | exact .error | exact .known (by decide)

/-- The lines of different types are different. -/
theorem TypeLine.unique {type' : Option ResultType} (h : TypeLine type line)
    (h' : TypeLine type' line) : type' = type := by
  have hline := typeLine_iff.mp h
  rw [typeLine_iff.mp h'] at hline
  rcases type with _ | T <;> rcases type' with _ | T'
  · rfl
  · cases T' <;> exact absurd hline (by decide)
  · cases T <;> exact absurd hline (by decide)
  · cases T <;> cases T' <;> first | rfl | exact absurd hline (by decide)

/-- The line begins with a letter, is made of characters that are printed as they are, and has spaces
between words of at most eleven cells. -/
theorem typeReport_plain (type : Option ResultType) :
    (typeReport type).2.head? = some 't' ∧
    ((typeReport type).2.all fun c =>
      isDropped c = false ∧ Text.cells c ≠ 0 ∧ (Text.isBlank c = true → c = ' ')) = true ∧
    ((Text.partsBetween Text.isBlank (typeReport type).2).all (Text.width · ≤ 11)) = true := by
  rcases type with _ | T
  · decide +kernel
  · cases T <;> decide +kernel

/-- Every line fits on a console of forty-eight columns. -/
theorem TypeLine.fits {console : Console} (h : TypeLine type line)
    (hcolumns : 48 ≤ console.columns) : console.Fits line := by
  have hlength : Text.width line ≤ 48 ∧ line.length ≤ 48 := by
    rw [typeLine_iff.mp h]
    rcases type with _ | T
    · decide +kernel
    · cases T <;> decide +kernel
  exact ⟨hlength.1.trans hcolumns, hlength.2.trans hcolumns⟩

/-- A console prints the line as it is if it fits, and with other white space if its words do. -/
theorem TypeLine.showText {console : Console} (h : TypeLine type line)
    (hconsole : console.WrapsWords) :
    (console.Fits line → console.showText line = line) ∧
      (11 ≤ console.columns → Respaced line (console.showText line)) := by
  obtain ⟨hfirst, hall, hwords⟩ := typeReport_plain type
  rw [← typeLine_iff.mp h] at hfirst hall hwords
  have hchars : ∀ c ∈ line, isDropped c = false ∧ Text.cells c ≠ 0 ∧
      (Text.isBlank c = true → c = ' ') :=
    fun c hc => of_decide_eq_true (List.all_eq_true.mp hall c hc)
  have hnot {c : Char} (hblank : Text.isBlank c = true) (hne : c ≠ ' ') : c ∉ line :=
    fun hc => hne ((hchars c hc).2.2 hblank)
  have hsent : ∀ c ∈ line, isDropped c = false := fun c hc => (hchars c hc).1
  constructor
  · intro hfits
    refine hconsole.showText_of_fits (hnot rfl (by decide)) hsent ?_
    rw [List.splitOn_eq_singleton (hnot rfl (by decide))]
    exact List.forall_mem_singleton.mpr hfits
  · intro hcolumns
    exact hconsole.respaced_showText ⟨'t', hfirst, rfl⟩ (fun c hc => (hchars c hc).2) hsent
      fun word hword =>
        (of_decide_eq_true (List.all_eq_true.mp hwords word hword)).trans hcolumns

end

/-! ## Reports -/

/-- What a check reports. The exit code is 1 if the text is no expression, 2 if the expression has
no type or an error for one, and 0 otherwise. For an expression there is first what the format
command writes, and then the line of its type and of no other, as the console shows it. An error is
that of an operator in the expression which rejects the types of its operands. -/
structure Outcome.ReportsType (console : Console) (room : Nat) (context : TypeContext)
    (expression : Text) (o : Outcome) : Prop where
  rejected : o.exit = 1 ↔ ∀ e, Expr.parse expression ≠ .ok e
  untyped : o.exit = 2 ↔ ∃ e, Expr.parse expression = .ok e ∧
    (e.resultType context = none ∨ e.resultType context = some .error)
  typed : o.exit = 0 ↔ ∃ e T, Expr.parse expression = .ok e ∧
    e.resultType context = some T ∧ T ≠ .error
  written : ∀ e, Expr.parse expression = .ok e → o.failure = none ∧
    ∃ line shown, (∀ type, TypeLine type line ↔ type = e.resultType context) ∧
      o.output = (runFormat console room expression).output ++ shown ++ ['\n'] ∧
      (console.WrapsWords → (console.Fits line → shown = line) ∧
        (11 ≤ console.columns → Respaced line shown))
  culprit : ∀ e, Expr.parse expression = .ok e → e.resultType context = some .error →
    ∃ x : Expr, x.Exposed e ∧ x.Rejects context

/-- The type can be told from the output, unless the console is narrow. -/
theorem Outcome.ReportsType.resultType_eq {console : Console} {room : Nat} {context : TypeContext}
    {expression : Text} {o : Outcome} (h : o.ReportsType console room context expression)
    (hconsole : console.WrapsWords) (hcolumns : 48 ≤ console.columns) {e : Expr}
    (hparse : Expr.parse expression = .ok e) {type : Option ResultType} {line : Text}
    (hline : TypeLine type line)
    (houtput : o.output = (runFormat console room expression).output ++ line ++ ['\n']) :
    e.resultType context = type := by
  obtain ⟨-, line', shown, hline', houtput', hshown⟩ := h.written e hparse
  have hfits := ((hline' _).mpr rfl).fits hcolumns
  rw [(hshown hconsole).1 hfits, houtput] at houtput'
  obtain rfl := List.append_cancel_left (List.append_cancel_right houtput')
  exact ((hline' type).mp hline).symm

section
variable {expression : Text} {e : Expr}

end

end EffectLang.CommandLine
