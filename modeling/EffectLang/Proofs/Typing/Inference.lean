import EffectLang.Expr.Typing

/-!
# The typing relation

`HasType context e T` says that `T` is a type of `e` by the rules of the language: literals and
built-in values have types of their own, a reference has its declared type, and an operator has a
rule for the operand types it accepts. No rule gives the type `error`. The length of anything is a
float, whatever the type of its operand or if it has none.

Inference finds exactly these types. Where there is none it answers `error`, provided that every
name is declared, and an error goes up to the next `norm` above it.
-/

namespace EffectLang

/-! ## Declared names -/

namespace Expr

/-- The names of attributes in a tree, from left to right. -/
def attrNames : Expr → List Text
  | attr name => [name]
  | unary _ x => x.attrNames
  | binary _ x y => x.attrNames ++ y.attrNames
  | _ => []

/-- The names of properties in a tree, from left to right. -/
def propNames : Expr → List Text
  | prop name => [name]
  | unary _ x => x.propNames
  | binary _ x y => x.propNames ++ y.propNames
  | _ => []

end Expr

/-- Every name of the tree has a declared type, which may be `error`. -/
structure TypeContext.Declares (context : TypeContext) (e : Expr) : Prop where
  attrs : ∀ name ∈ e.attrNames, (context.attr name).isSome
  props : ∀ name ∈ e.propNames, (context.prop name).isSome

namespace TypeContext.Declares
variable {context : TypeContext} {x y : Expr}

theorem operand {op : UnaryOp} (h : context.Declares (.unary op x)) : context.Declares x :=
  ⟨h.attrs, h.props⟩

theorem left {op : BinaryOp} (h : context.Declares (.binary op x y)) : context.Declares x :=
  ⟨(List.forall_mem_append.mp h.attrs).1, (List.forall_mem_append.mp h.props).1⟩

theorem right {op : BinaryOp} (h : context.Declares (.binary op x y)) : context.Declares y :=
  ⟨(List.forall_mem_append.mp h.attrs).2, (List.forall_mem_append.mp h.props).2⟩

/-- Where every name is declared, inference has an answer. -/
theorem exists_resultType {e : Expr} (h : context.Declares e) :
    ∃ T, e.resultType context = some T := by
  induction e with
  | literal v => exact ⟨v.type, rfl⟩
  | attr name => exact Option.isSome_iff_exists.mp (h.attrs name List.mem_cons_self)
  | prop name => exact Option.isSome_iff_exists.mp (h.props name List.mem_cons_self)
  | builtIn _ => exact ⟨.float, rfl⟩
  | unary op x ih =>
    obtain ⟨T, hT⟩ := ih h.operand
    exact ⟨op.resultType T, by simp [Expr.resultType, hT]⟩
  | binary op x y ihx ihy =>
    obtain ⟨L, hL⟩ := ihx h.left
    obtain ⟨R, hR⟩ := ihy h.right
    exact ⟨op.resultType L R, by simp [Expr.resultType, hL, hR]⟩

end TypeContext.Declares

/-! ## The rules -/

/-- Operators whose result has the type of the operand. -/
def UnaryOp.keepsType : UnaryOp → Bool
  | abs | sin | cos | neg => true
  | _ => false

/-- Operators that ask about the components of a vector. -/
def UnaryOp.asksComponents : UnaryOp → Bool
  | all | any => true
  | _ => false

/-- Operators that work by components and widen scalars. -/
def BinaryOp.isComponentwise : BinaryOp → Bool
  | add | sub | mul | div | min | max => true
  | _ => false

/-- The types of an expression. -/
inductive HasType (context : TypeContext) : Expr → ResultType → Prop
  | literal (v : Literal) : HasType context (.literal v) v.type
  | attr {name : Text} {T : ResultType} :
      context.attr name = some T → T ≠ .error → HasType context (.attr name) T
  | prop {name : Text} {T : ResultType} :
      context.prop name = some T → T ≠ .error → HasType context (.prop name) T
  | builtIn (value : BuiltIn) : HasType context (.builtIn value) .float
  | kept {op : UnaryOp} {x : Expr} {T : ResultType} :
      op.keepsType = true → HasType context x T → HasType context (.unary op x) T
  | components {op : UnaryOp} {x : Expr} {T : ResultType} :
      op.asksComponents = true → T.isVector = true → HasType context x T →
        HasType context (.unary op x) .float
  | norm (x : Expr) : HasType context (.unary .norm x) .float
  | same {op : BinaryOp} {x y : Expr} {T : ResultType} :
      op.isComponentwise = true → HasType context x T → HasType context y T →
        HasType context (.binary op x y) T
  | scaledVector {op : BinaryOp} {x y : Expr} {S V : ResultType} :
      op.isComponentwise = true → S.isScalar = true → V.isVector = true →
        HasType context x S → HasType context y V → HasType context (.binary op x y) V
  | vectorScaled {op : BinaryOp} {x y : Expr} {V S : ResultType} :
      op.isComponentwise = true → V.isVector = true → S.isScalar = true →
        HasType context x V → HasType context y S → HasType context (.binary op x y) V
  | comparison {op : BinaryOp} {x y : Expr} {T : ResultType} :
      op.isComparison = true → HasType context x T → HasType context y T →
        HasType context (.binary op x y) .float
  | dot {x y : Expr} {V : ResultType} :
      V.isVector = true → HasType context x V → HasType context y V →
        HasType context (.binary .dot x y) .float
  | cross {x y : Expr} :
      HasType context x .vec3 → HasType context y .vec3 →
        HasType context (.binary .cross x y) .vec3
  | vec2 {x y : Expr} :
      HasType context x .float → HasType context y .float →
        HasType context (.binary .vec2 x y) .vec2
  | vec3 {xy z : Expr} :
      HasType context xy .vec2 → HasType context z .float →
        HasType context (.binary .vec3 xy z) .vec3

/-! ## Operators on types -/

namespace ResultType

theorem isScalar_ne_error {T : ResultType} (h : T.isScalar = true) : T ≠ error := by
  rintro rfl
  cases h

theorem isVector_ne_error {T : ResultType} (h : T.isVector = true) : T ≠ error := by
  rintro rfl
  cases h

/-- What widening accepts: equal types, or a scalar and a vector. -/
theorem broadcast_cases {L R : ResultType} (h : L.broadcast R ≠ error) :
    (L = R ∧ L ≠ error ∧ L.broadcast R = L) ∨
    (L.isScalar = true ∧ R.isVector = true ∧ L.broadcast R = R) ∨
    (L.isVector = true ∧ R.isScalar = true ∧ L.broadcast R = L) := by
  unfold broadcast at h ⊢
  split
  · next hsame => exact .inl ⟨hsame.1, hsame.2, rfl⟩
  · split
    · next hleft => exact .inr (.inl ⟨hleft.1, hleft.2, rfl⟩)
    · split
      · next hright => exact .inr (.inr ⟨hright.1, hright.2, rfl⟩)
      · next hsame hleft hright => simp [hsame, hleft, hright] at h

theorem broadcast_same {T : ResultType} (h : T ≠ error) : T.broadcast T = T :=
  if_pos ⟨rfl, h⟩

/-- No type is that of a scalar and of a vector. -/
theorem isScalar_of_isVector {T : ResultType} (h : T.isVector = true) : T.isScalar = false := by
  cases T <;> first | rfl | cases h

theorem broadcast_scaledVector {S V : ResultType} (hS : S.isScalar = true)
    (hV : V.isVector = true) : S.broadcast V = V := by
  have hne : S ≠ V := by
    rintro rfl
    rw [isScalar_of_isVector hV] at hS
    cases hS
  simp [broadcast, hne, hS, hV]

theorem broadcast_vectorScaled {V S : ResultType} (hV : V.isVector = true)
    (hS : S.isScalar = true) : V.broadcast S = V := by
  have hnot := isScalar_of_isVector hV
  have hne : V ≠ S := by
    rintro rfl
    rw [hnot] at hS
    cases hS
  simp [broadcast, hne, hS, hV, hnot]

end ResultType

theorem UnaryOp.resultType_kept {op : UnaryOp} (h : op.keepsType = true) (T : ResultType) :
    op.resultType T = T := by
  cases op <;> first | rfl | cases h

theorem UnaryOp.resultType_components {op : UnaryOp} (h : op.asksComponents = true)
    (T : ResultType) : op.resultType T = if T.isVector then .float else .error := by
  cases op <;> first | rfl | cases h

theorem BinaryOp.resultType_componentwise {op : BinaryOp} (h : op.isComponentwise = true)
    (L R : ResultType) : op.resultType L R = L.broadcast R := by
  cases op <;> first | rfl | cases h

theorem BinaryOp.resultType_comparison {op : BinaryOp} (h : op.isComparison = true)
    (L R : ResultType) :
    op.resultType L R = if L = R ∧ L ≠ .error then .float else .error := by
  cases op <;> first | rfl | cases h

/-- Only the length can be taken of an operand in error. -/
theorem UnaryOp.resultType_error {op : UnaryOp} (h : op ≠ norm) :
    op.resultType .error = .error := by
  cases op <;> first | rfl | exact absurd rfl h

theorem BinaryOp.resultType_error_left (op : BinaryOp) (R : ResultType) :
    op.resultType .error R = .error := by
  cases op <;> cases R <;> rfl

theorem BinaryOp.resultType_error_right (op : BinaryOp) (L : ResultType) :
    op.resultType L .error = .error := by
  cases op <;> cases L <;> rfl

/-! ## Inference is the relation -/

namespace HasType
variable {context : TypeContext} {e x y : Expr} {T : ResultType}

theorem ne_error (h : HasType context e T) : T ≠ .error := by
  induction h with
  | literal v => cases v <;> nofun
  | attr _ hT => exact hT
  | prop _ hT => exact hT
  | kept _ _ ih => exact ih
  | same _ _ _ ih => exact ih
  | scaledVector _ _ _ _ _ _ ih => exact ih
  | vectorScaled _ _ _ _ _ ih => exact ih
  | _ => nofun

/-- A unary operator that accepts a type has a rule for it. -/
theorem unary_of_resultType {op : UnaryOp} (hx : T ≠ .error → HasType context x T)
    (h : op.resultType T ≠ .error) : HasType context (.unary op x) (op.resultType T) := by
  by_cases hkeeps : op.keepsType = true
  · rw [UnaryOp.resultType_kept hkeeps] at h ⊢
    exact .kept hkeeps (hx h)
  · by_cases hasks : op.asksComponents = true
    · rw [UnaryOp.resultType_components hasks] at h ⊢
      split
      · next hvector => exact .components hasks hvector (hx (ResultType.isVector_ne_error hvector))
      · next hvector => simp [hvector] at h
    · have hnorm : op = .norm := by
        cases op <;> first | rfl | exact absurd rfl hkeeps | exact absurd rfl hasks
      subst hnorm
      exact .norm x

/-- An operator by components that accepts two types has a rule for them. -/
theorem componentwise_of_resultType {op : BinaryOp} {L R : ResultType}
    (hop : op.isComponentwise = true) (hx : L ≠ .error → HasType context x L)
    (hy : R ≠ .error → HasType context y R) (h : L.broadcast R ≠ .error) :
    HasType context (.binary op x y) (L.broadcast R) := by
  rcases ResultType.broadcast_cases h with
    ⟨rfl, hne, hresult⟩ | ⟨hL, hR, hresult⟩ | ⟨hL, hR, hresult⟩
  · rw [hresult]
    exact .same hop (hx hne) (hy hne)
  · rw [hresult]
    exact .scaledVector hop hL hR (hx (ResultType.isScalar_ne_error hL))
      (hy (ResultType.isVector_ne_error hR))
  · rw [hresult]
    exact .vectorScaled hop hL hR (hx (ResultType.isVector_ne_error hL))
      (hy (ResultType.isScalar_ne_error hR))

/-- A binary operator that accepts two types has a rule for them. -/
theorem binary_of_resultType {op : BinaryOp} {L R : ResultType}
    (hx : L ≠ .error → HasType context x L) (hy : R ≠ .error → HasType context y R)
    (h : op.resultType L R ≠ .error) :
    HasType context (.binary op x y) (op.resultType L R) := by
  by_cases hcomponents : op.isComponentwise = true
  · rw [BinaryOp.resultType_componentwise hcomponents] at h ⊢
    exact componentwise_of_resultType hcomponents hx hy h
  · by_cases hcomparison : op.isComparison = true
    · rw [BinaryOp.resultType_comparison hcomparison] at h ⊢
      split
      · next hsame =>
        obtain ⟨rfl, hne⟩ := hsame
        exact .comparison hcomparison (hx hne) (hy hne)
      · next hsame => simp [hsame] at h
    · -- the operators that remain accept one pair of types, or one for each kind of vector
      cases op with
      | dot =>
        simp only [BinaryOp.resultType] at h ⊢
        split
        · next hsame =>
          obtain ⟨rfl, hvector⟩ := hsame
          have hne := ResultType.isVector_ne_error hvector
          exact .dot hvector (hx hne) (hy hne)
        · next hsame => simp [hsame] at h
      | cross =>
        simp only [BinaryOp.resultType] at h ⊢
        split
        · next htypes =>
          obtain ⟨rfl, rfl⟩ := htypes
          exact .cross (hx nofun) (hy nofun)
        · next htypes => simp [htypes] at h
      | vec2 =>
        simp only [BinaryOp.resultType] at h ⊢
        split
        · next htypes =>
          obtain ⟨rfl, rfl⟩ := htypes
          exact .vec2 (hx nofun) (hy nofun)
        · next htypes => simp [htypes] at h
      | vec3 =>
        simp only [BinaryOp.resultType] at h ⊢
        split
        · next htypes =>
          obtain ⟨rfl, rfl⟩ := htypes
          exact .vec3 (hx nofun) (hy nofun)
        · next htypes => simp [htypes] at h
      | add | sub | mul | div | min | max => exact absurd rfl hcomponents
      | less | lessEqual | greater | greaterEqual | equal | notEqual =>
        exact absurd rfl hcomparison

/-- Inference gives types of the relation only. -/
theorem of_resultType (h : e.resultType context = some T) (hT : T ≠ .error) :
    HasType context e T := by
  induction e generalizing T with
  | literal v =>
    obtain rfl := Option.some.inj h
    exact .literal v
  | attr name => exact .attr h hT
  | prop name => exact .prop h hT
  | builtIn value =>
    obtain rfl := Option.some.inj h
    exact .builtIn value
  | unary op x ih =>
    obtain ⟨X, hX, hresult⟩ := Option.bind_eq_some_iff.mp h
    obtain rfl := Option.some.inj hresult
    exact unary_of_resultType (ih hX) hT
  | binary op x y ihx ihy =>
    obtain ⟨L, hL, hrest⟩ := Option.bind_eq_some_iff.mp h
    obtain ⟨R, hR, hresult⟩ := Option.bind_eq_some_iff.mp hrest
    obtain rfl := Option.some.inj hresult
    exact binary_of_resultType (ihx hL) (ihy hR) hT

/-- Inference finds every type of the relation. -/
theorem resultType_eq (h : HasType context e T) (hnames : context.Declares e) :
    e.resultType context = some T := by
  induction h with
  | literal v => rfl
  | attr hname _ => exact hname
  | prop hname _ => exact hname
  | builtIn value => rfl
  | kept hop _ ih =>
    simp [Expr.resultType, ih hnames.operand, UnaryOp.resultType_kept hop]
  | components hop hvector _ ih =>
    simp [Expr.resultType, ih hnames.operand, UnaryOp.resultType_components hop, hvector]
  | norm x =>
    -- the rule says nothing of the operand, which has an answer because its names are declared
    obtain ⟨X, hX⟩ := hnames.operand.exists_resultType
    simp [Expr.resultType, hX, UnaryOp.resultType]
  | same hop hx _ ihx ihy =>
    simp [Expr.resultType, ihx hnames.left, ihy hnames.right,
      BinaryOp.resultType_componentwise hop, ResultType.broadcast_same hx.ne_error]
  | scaledVector hop hS hV _ _ ihx ihy =>
    simp [Expr.resultType, ihx hnames.left, ihy hnames.right,
      BinaryOp.resultType_componentwise hop, ResultType.broadcast_scaledVector hS hV]
  | vectorScaled hop hV hS _ _ ihx ihy =>
    simp [Expr.resultType, ihx hnames.left, ihy hnames.right,
      BinaryOp.resultType_componentwise hop, ResultType.broadcast_vectorScaled hV hS]
  | comparison hop hx _ ihx ihy =>
    simp [Expr.resultType, ihx hnames.left, ihy hnames.right,
      BinaryOp.resultType_comparison hop, hx.ne_error]
  | dot hvector _ _ ihx ihy =>
    simp [Expr.resultType, ihx hnames.left, ihy hnames.right, BinaryOp.resultType, hvector]
  | cross _ _ ihx ihy | vec2 _ _ ihx ihy | vec3 _ _ ihx ihy =>
    simp [Expr.resultType, ihx hnames.left, ihy hnames.right, BinaryOp.resultType]

end HasType

/-! ## Errors go up -/

/-- `x` is a part of the tree, and no `norm` stands above it. -/
inductive Expr.Exposed (x : Expr) : Expr → Prop
  | root : Exposed x x
  | operand {op : UnaryOp} {e : Expr} : op ≠ .norm → Exposed x e → Exposed x (.unary op e)
  | left {op : BinaryOp} {l r : Expr} : Exposed x l → Exposed x (.binary op l r)
  | right {op : BinaryOp} {l r : Expr} : Exposed x r → Exposed x (.binary op l r)

namespace Expr
variable {context : TypeContext} {e x : Expr}

/-- The error of a part is the error of the whole, unless a `norm` stands between them. -/
theorem Exposed.resultType_error (h : x.Exposed e) (hnames : context.Declares e)
    (hx : x.resultType context = some .error) : e.resultType context = some .error := by
  induction h with
  | root => exact hx
  | operand hop _ ih =>
    simp [resultType, ih hnames.operand, UnaryOp.resultType_error hop]
  | left _ ih =>
    obtain ⟨R, hR⟩ := hnames.right.exists_resultType
    simp [resultType, ih hnames.left, hR, BinaryOp.resultType_error_left]
  | right _ ih =>
    obtain ⟨L, hL⟩ := hnames.left.exists_resultType
    simp [resultType, ih hnames.right, hL, BinaryOp.resultType_error_right]

/-- For declared names inference is the typing relation: it finds every type of the relation and no
other, there is at most one, and `error` is the answer where there is none. A part in error makes
the whole an error unless a `norm` stands above that part. -/
theorem resultType_eq_some_iff_hasType (hnames : context.Declares e) :
    (∀ T, T ≠ .error ∧ e.resultType context = some T ↔ HasType context e T) ∧
    (∀ T T', HasType context e T → HasType context e T' → T = T') ∧
    (e.resultType context = some .error ↔ ¬ ∃ T, HasType context e T) ∧
    ∀ x : Expr, x.Exposed e → x.resultType context = some .error →
      e.resultType context = some .error := by
  refine ⟨fun T => ⟨fun h => .of_resultType h.2 h.1, fun h => ⟨h.ne_error, h.resultType_eq hnames⟩⟩,
    fun T T' h h' => ?_, ⟨?_, fun hnone => ?_⟩, fun x hx => hx.resultType_error hnames⟩
  · have hT := h.resultType_eq hnames
    rw [h'.resultType_eq hnames] at hT
    exact (Option.some.inj hT).symm
  · rintro herror ⟨T, h⟩
    have hT := h.resultType_eq hnames
    rw [herror] at hT
    exact h.ne_error (Option.some.inj hT).symm
  · obtain ⟨T, hT⟩ := hnames.exists_resultType
    by_cases herror : T = .error
    · rw [hT, herror]
    · exact absurd ⟨T, .of_resultType hT herror⟩ hnone

/-- The length of a sum whose operands do not fit, times a vector. -/
theorem hasType_of_masked_error :
    ∃ context : TypeContext,
      context.Declares (binary .mul (unary .norm (binary .add (attr ['a']) (attr ['b'])))
        (prop ['g'])) ∧
      (binary .add (attr ['a']) (attr ['b'])).resultType context = some .error ∧
      HasType context (binary .mul (unary .norm (binary .add (attr ['a']) (attr ['b'])))
        (prop ['g'])) .vec3 := by
  let context : TypeContext :=
    ⟨fun name => if name = ['a'] then some .vec2 else some .error, fun _ => some .vec3⟩
  have hnames : context.Declares (binary .mul (unary .norm (binary .add (attr ['a']) (attr ['b'])))
      (prop ['g'])) := ⟨by decide, by decide⟩
  exact ⟨context, hnames, by decide,
    ((resultType_eq_some_iff_hasType hnames).1 .vec3).mp ⟨nofun, by decide⟩⟩

end Expr
end EffectLang
