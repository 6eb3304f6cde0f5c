import EffectLang.Proofs.Typing.Inference

/-!
# Unknown or ill-typed

The type of a tree is unknown exactly if some name in it is not declared, in the name space that the
name belongs to. Errors elsewhere do not matter, not even that a `norm` would hide them: an unknown
operand makes every operator's result unknown. So inference asks a context about the names in the
tree only, and an answer stands when more names are declared. Where no name is declared as an error,
an error comes from an operator that rejects the types of its operands.
-/

namespace EffectLang

/-! ## Contexts -/

namespace TypeContext

/-- The contexts give the same to every name of the tree, to attributes and to properties apart. -/
structure AgreesOn (e : Expr) (context context' : TypeContext) : Prop where
  attrs : ∀ name ∈ e.attrNames, context'.attr name = context.attr name
  props : ∀ name ∈ e.propNames, context'.prop name = context.prop name

/-- What is declared stays declared, with its type. -/
structure Extends (context' context : TypeContext) : Prop where
  attrs : ∀ name T, context.attr name = some T → context'.attr name = some T
  props : ∀ name T, context.prop name = some T → context'.prop name = some T

namespace AgreesOn
variable {context context' : TypeContext} {x y : Expr}

theorem operand {op : UnaryOp} (h : AgreesOn (.unary op x) context context') :
    AgreesOn x context context' :=
  ⟨h.attrs, h.props⟩

theorem left {op : BinaryOp} (h : AgreesOn (.binary op x y) context context') :
    AgreesOn x context context' :=
  ⟨(List.forall_mem_append.mp h.attrs).1, (List.forall_mem_append.mp h.props).1⟩

theorem right {op : BinaryOp} (h : AgreesOn (.binary op x y) context context') :
    AgreesOn y context context' :=
  ⟨(List.forall_mem_append.mp h.attrs).2, (List.forall_mem_append.mp h.props).2⟩

end AgreesOn

/-- More declarations make no difference to names that are declared. -/
theorem Extends.agreesOn {context context' : TypeContext} {e : Expr}
    (h : context'.Extends context) (hnames : context.Declares e) : AgreesOn e context context' where
  attrs name hname := by
    obtain ⟨T, hT⟩ := Option.isSome_iff_exists.mp (hnames.attrs name hname)
    rw [hT, h.attrs name T hT]
  props name hname := by
    obtain ⟨T, hT⟩ := Option.isSome_iff_exists.mp (hnames.props name hname)
    rw [hT, h.props name T hT]

theorem not_declares_iff {context : TypeContext} {e : Expr} :
    ¬ context.Declares e ↔ (∃ name ∈ e.attrNames, context.attr name = none) ∨
      ∃ name ∈ e.propNames, context.prop name = none := by
  constructor
  · intro h
    by_cases hattrs : ∃ name ∈ e.attrNames, context.attr name = none
    · exact .inl hattrs
    · by_cases hprops : ∃ name ∈ e.propNames, context.prop name = none
      · exact .inr hprops
      · refine absurd ⟨fun name hname => ?_, fun name hname => ?_⟩ h
        · exact Option.isSome_iff_ne_none.mpr fun hnone => hattrs ⟨name, hname, hnone⟩
        · exact Option.isSome_iff_ne_none.mpr fun hnone => hprops ⟨name, hname, hnone⟩
  · rintro (⟨name, hname, hnone⟩ | ⟨name, hname, hnone⟩) h
    · exact Option.isSome_iff_ne_none.mp (h.attrs name hname) hnone
    · exact Option.isSome_iff_ne_none.mp (h.props name hname) hnone

end TypeContext

/-! ## Inference -/

namespace Expr
variable {context context' : TypeContext} {e : Expr}

/-- A tree that has a type, or an error for one, has declared names only. -/
theorem declares_of_resultType {T : ResultType} (h : e.resultType context = some T) :
    context.Declares e := by
  induction e generalizing T with
  | literal v => exact ⟨nofun, nofun⟩
  | attr name =>
    refine ⟨List.forall_mem_singleton.mpr ?_, nofun⟩
    exact Option.isSome_iff_exists.mpr ⟨T, h⟩
  | prop name =>
    refine ⟨nofun, List.forall_mem_singleton.mpr ?_⟩
    exact Option.isSome_iff_exists.mpr ⟨T, h⟩
  | builtIn value => exact ⟨nofun, nofun⟩
  | unary op x ih =>
    obtain ⟨X, hX, -⟩ := Option.bind_eq_some_iff.mp h
    exact ⟨(ih hX).attrs, (ih hX).props⟩
  | binary op x y ihx ihy =>
    -- both operands are asked for, so both have an answer
    obtain ⟨L, hL, hrest⟩ := Option.bind_eq_some_iff.mp h
    obtain ⟨R, hR, -⟩ := Option.bind_eq_some_iff.mp hrest
    exact ⟨List.forall_mem_append.mpr ⟨(ihx hL).attrs, (ihy hR).attrs⟩,
      List.forall_mem_append.mpr ⟨(ihx hL).props, (ihy hR).props⟩⟩

theorem isSome_resultType_iff : (e.resultType context).isSome ↔ context.Declares e := by
  constructor
  · intro h
    obtain ⟨T, hT⟩ := Option.isSome_iff_exists.mp h
    exact declares_of_resultType hT
  · intro h
    exact Option.isSome_iff_exists.mpr h.exists_resultType

/-- Inference asks about the names of the tree only. -/
theorem resultType_congr (h : TypeContext.AgreesOn e context context') :
    e.resultType context' = e.resultType context := by
  induction e with
  | literal v => rfl
  | attr name => exact h.attrs name List.mem_cons_self
  | prop name => exact h.props name List.mem_cons_self
  | builtIn value => rfl
  | unary op x ih => simp only [resultType, ih h.operand]
  | binary op x y ihx ihy => simp only [resultType, ihx h.left, ihy h.right]

/-- The type is unknown exactly if an attribute or a property of the tree is not declared. Contexts
that agree on the names of the tree give it the same type, and more declarations leave a type that
is known as it is. -/
theorem resultType_eq_none_iff (e : Expr) (context : TypeContext) :
    (e.resultType context = none ↔ (∃ name ∈ e.attrNames, context.attr name = none) ∨
      ∃ name ∈ e.propNames, context.prop name = none) ∧
    (∀ context', TypeContext.AgreesOn e context context' →
      e.resultType context' = e.resultType context) ∧
    ∀ context' T, context'.Extends context → e.resultType context = some T →
      e.resultType context' = some T := by
  refine ⟨?_, fun context' h => resultType_congr h, fun context' T h hT => ?_⟩
  · rw [← TypeContext.not_declares_iff, ← isSome_resultType_iff, Option.not_isSome_iff_eq_none]
  · rw [resultType_congr (h.agreesOn (declares_of_resultType hT)), hT]

/-- The length of a cross product that is in error, times a property. While the property is not
declared the type is unknown, although there is an attribute of its name; then it is that of the
property, whatever else is declared. -/
theorem resultType_of_declared_later :
    ∃ (e : Expr) (context context' context'' : TypeContext),
      (context.attr ['a'] = some .float ∧ e.resultType context = none) ∧
      (TypeContext.AgreesOn e context' context'' ∧
        e.resultType context'' = e.resultType context') ∧
      (context''.Extends context' ∧ e.resultType context' = some .vec2 ∧
        e.resultType context'' = some .vec2) := by
  let e : Expr := binary .mul (unary .norm (binary .cross (attr ['a']) (attr ['a']))) (prop ['a'])
  let attrs : Text → Option ResultType := fun name => if name = ['a'] then some .float else none
  let props : Text → Option ResultType := fun name => if name = ['a'] then some .vec2 else none
  let context : TypeContext := ⟨attrs, fun _ => none⟩
  let context' : TypeContext := ⟨attrs, props⟩
  let context'' : TypeContext := ⟨fun name => (attrs name).or (some .error), props⟩
  have hextends : context''.Extends context' := by
    refine ⟨fun name T h => ?_, fun name T h => h⟩
    have hattrs : attrs name = some T := h
    show (attrs name).or (some .error) = some T
    rw [hattrs]
    rfl
  have htype : e.resultType context' = some .vec2 := by decide
  have hagrees : TypeContext.AgreesOn e context' context'' :=
    hextends.agreesOn (declares_of_resultType htype)
  exact ⟨e, context, context', context'',
    ⟨by decide, (resultType_eq_none_iff e context).1.mpr (.inr ⟨['a'], by decide, rfl⟩)⟩,
    ⟨hagrees, (resultType_eq_none_iff e context').2.1 context'' hagrees⟩,
    ⟨hextends, htype, (resultType_eq_none_iff e context').2.2 context'' .vec2 hextends htype⟩⟩

/-! ## Where errors come from -/

/-- An operator that rejects the types of its operands: they have types, but it has none. -/
inductive Rejects (context : TypeContext) : Expr → Prop
  | unary {op : UnaryOp} {x : Expr} {X : ResultType} :
      HasType context x X → (¬ ∃ T, HasType context (unary op x) T) → Rejects context (unary op x)
  | binary {op : BinaryOp} {x y : Expr} {X Y : ResultType} :
      HasType context x X → HasType context y Y → (¬ ∃ T, HasType context (binary op x y) T) →
        Rejects context (binary op x y)

end Expr
end EffectLang
