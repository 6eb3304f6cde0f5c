import Mathlib.Data.List.Flatten
import EffectLang.Editor.Completion
import EffectLang.Proofs.Print.Image
import EffectLang.Proofs.Token.Tiling

/-!
# What completions insert

The completion of an attribute or a property inserts a text that reads back as it, if its name can
be written at all. A name that has a quote in it, or no characters, is in no tree that is read. An
attribute is inserted by its bare name exactly where that name reads back as the attribute: a text
that denotes an attribute is one word, or longer than the name.
-/

namespace EffectLang

/-! ## Texts of references -/

/-- A name is no longer than its token. -/
theorem Token.ReferenceName.length_le {token : Token} {name : Text}
    (h : token.ReferenceName name) : name.length ≤ token.text.length := by
  cases h with
  | word => exact Nat.le_refl _
  | quoted _ htext _ =>
    rw [← htext, List.length_dropLast, List.length_drop]
    omega

/-- Tokens that denote an attribute are one word, or longer than its name. -/
theorem Derives.identifier_or_longer {phrase : Phrase} {d : Nat} {ts : List Token} {e : Expr}
    (h : Derives phrase d ts e) (hts : ∀ t ∈ ts, t.text ≠ []) {name : Text} (he : e = .attr name) :
    (∃ t, ts = [t] ∧ t.kind = .identifier ∧ t.text = name) ∨
      name.length < (ts.flatMap Token.text).length := by
  induction h with
  | uncompared _ ih | term _ ih | factor _ ih => exact ih hts he
  | @group d ts e opening closing _ _ _ ih =>
    simp only [List.forall_mem_cons, List.forall_mem_append] at hts
    have hopening := List.length_pos_iff.mpr hts.1
    right
    rcases ih hts.2.1 he with ⟨t, rfl, -, rfl⟩ | hlonger
    · simp
      omega
    · simp only [List.flatMap_cons, List.flatMap_append, List.length_append]
      omega
  | @name token hkind =>
    cases he
    exact .inl ⟨token, rfl, hkind, rfl⟩
  | @attrCall head _ token _ _ _ _ _ _ hname _ =>
    cases he
    have hhead := List.length_pos_iff.mpr (hts head List.mem_cons_self)
    have hle := hname.length_le
    right
    simp only [List.flatMap_cons, List.length_append]
    omega
  | vec2Call _ _ _ _ _ _ _ hvector | vec3Call _ _ _ _ _ _ _ _ _ hvector =>
    subst he
    cases hvector
  | _ => cases he

namespace Expr

/-- A name reads back as its attribute by itself if it is a word that stands for nothing else, and
not otherwise. -/
theorem parse_eq_attr_iff {name : Text} :
    parse name = .ok (.attr name) ↔ name.isWord = true ∧ wordKind name = .identifier := by
  constructor
  · intro h
    obtain ⟨d, -, hderives⟩ := Grammar.read_sound rfl h
    have htexts : ∀ t ∈ significant (tokenize name), t.text ≠ [] := fun t ht =>
      (wellFormed_of_mem_tokenize t (List.mem_filter.mp ht).1).text_ne_nil
    rcases hderives.identifier_or_longer htexts rfl with ⟨t, ht, hkind, rfl⟩ | hlonger
    · have hlexed := lexed_of_mem_tokenize (ht ▸ List.mem_singleton_self t)
      exact ⟨hlexed.word (by rw [hkind]; rfl), hlexed.identifier hkind⟩
    · -- the tokens are of the source, which is the name
      have hle : ((significant (tokenize name)).flatMap Token.text).length ≤ name.length := by
        conv_rhs => rw [← flatMap_text_tokenize name]
        exact (List.filter_sublist.flatMap Token.text).length_le
      omega
  · rintro ⟨hword, hkind⟩
    exact (Spells.name hword hkind).expression.parse_settles.1 (Nat.zero_le _)

/-- Every name in a tree that is read can be written. -/
theorem quotable_of_parse {source name : Text} {e : Expr} (h : parse source = .ok e)
    (hname : name ∈ e.names) : name.Quotable :=
  (normal_of_parse h).1.names name hname

theorem parse_text_attr {name : Text} (h : name.Quotable) :
    parse (attr name).text = .ok (.attr name) :=
  (Spells.attrCall h.1 h.2).expression.parse_settles.1 (by decide)

theorem parse_text_prop {name : Text} (h : name.Quotable) :
    parse (prop name).text = .ok (.prop name) :=
  (Spells.propCall h.1 h.2).expression.parse_settles.1 (by decide)

theorem length_lt_text_attr (name : Text) : name.length < (attr name).text.length := by
  have hname : name.length ≤ (nameText name).length := by
    unfold nameText
    split
    · exact Nat.le_refl _
    · simp only [List.length_append, List.length_cons]
      omega
  simp only [text, callText, Text.join, List.length_append, List.length_singleton]
  omega

end Expr

/-! ## Items -/

namespace Completion

/-- The name is inserted by itself exactly where it reads back. -/
theorem attrInsertion_eq_iff (name : Text) :
    attrInsertion name = name ↔ Expr.parse name = .ok (.attr name) := by
  rw [Expr.parse_eq_attr_iff, attrInsertion]
  constructor
  · intro h
    by_contra hword
    rw [if_neg hword] at h
    exact absurd (congrArg List.length h) (Expr.length_lt_text_attr name).ne'
  · exact fun hword => if_pos hword

/-- What is inserted for an attribute reads back as it if its name can be written. -/
theorem parse_attrInsertion_iff (name : Text) :
    Expr.parse (attrInsertion name) = .ok (.attr name) ↔ name.Quotable := by
  constructor
  · intro h
    exact Expr.quotable_of_parse h (List.mem_singleton_self name)
  · intro h
    by_cases hword : name.isWord = true ∧ wordKind name = .identifier
    · rw [attrInsertion, if_pos hword]
      exact Expr.parse_eq_attr_iff.mpr hword
    · rw [attrInsertion, if_neg hword]
      exact Expr.parse_text_attr h

theorem parse_propInsertion_iff (name : Text) :
    Expr.parse (Expr.prop name).text = .ok (.prop name) ↔ name.Quotable := by
  constructor
  · intro h
    exact Expr.quotable_of_parse h (List.mem_singleton_self name)
  · exact Expr.parse_text_prop

/-- The names of the attributes that are offered. -/
def attrNames (attributes : Option (List Text)) : List Text :=
  attributes.getD (standardAttrs.map Completion.label)

theorem kind_of_mem_callees : ∀ item ∈ callees, item.kind = .callee := by
  decide +kernel

theorem kind_of_mem_builtIns : ∀ item ∈ builtIns, item.kind = .builtIn := by
  decide +kernel

theorem ofAttr_of_mem_attrs {attributes : Option (List Text)} {item : Completion}
    (h : item ∈ attrs attributes) : item = ofAttr item.label item.detail := by
  cases attributes with
  | none =>
    have hstandard : ∀ item ∈ standardAttrs, item = ofAttr item.label item.detail := by
      decide +kernel
    exact hstandard item h
  | some names =>
    obtain ⟨name, -, rfl⟩ := List.mem_map.mp h
    rfl

theorem exists_mem_attrs_iff {attributes : Option (List Text)} {name : Text} :
    (∃ item ∈ attrs attributes, item.label = name) ↔ name ∈ attrNames attributes := by
  cases attributes with
  | none => exact List.mem_map.symm
  | some names => simp [attrs, attrNames, ofAttr]

end Completion

section Items
variable {word : Text} {attributes : Option (List Text)} {properties : List Text}
  {item : Completion}

/-- An item that is no word of the language is offered for an attribute or a property. -/
theorem mem_completions_iff (hkind : item.kind = .attr ∨ item.kind = .prop) :
    item ∈ completions word attributes properties ↔
      (item ∈ Completion.attrs attributes ∨ item ∈ properties.map Completion.ofProp) ∧
        word <+: item.label := by
  have hcallee : item ∉ Completion.callees := by
    intro h
    simp [Completion.kind_of_mem_callees item h] at hkind
  have hbuiltIn : item ∉ Completion.builtIns := by
    intro h
    simp [Completion.kind_of_mem_builtIns item h] at hkind
  simp only [completions, List.mem_filter, List.mem_append, List.isPrefixOf_iff_prefix, hcallee,
    hbuiltIn, false_or]

theorem mem_completions_attr_iff (hkind : item.kind = .attr) :
    item ∈ completions word attributes properties ↔
      item ∈ Completion.attrs attributes ∧ word <+: item.label := by
  have hprop : item ∉ properties.map Completion.ofProp := by
    intro h
    obtain ⟨name, -, rfl⟩ := List.mem_map.mp h
    cases hkind
  rw [mem_completions_iff (.inl hkind), or_iff_left hprop]

theorem mem_completions_prop_iff (hkind : item.kind = .prop) :
    item ∈ completions word attributes properties ↔
      item ∈ properties.map Completion.ofProp ∧ word <+: item.label := by
  have hattr : item ∉ Completion.attrs attributes := by
    intro h
    rw [Completion.ofAttr_of_mem_attrs h] at hkind
    cases hkind
  rw [mem_completions_iff (.inr hkind), or_iff_right hattr]

/-- The attributes that are offered are those whose names begin with the word. -/
theorem exists_attr_item_iff {name : Text} :
    (∃ item ∈ completions word attributes properties, item.kind = .attr ∧ item.label = name) ↔
      name ∈ Completion.attrNames attributes ∧ word <+: name := by
  rw [← Completion.exists_mem_attrs_iff]
  constructor
  · rintro ⟨item, hitem, hkind, rfl⟩
    obtain ⟨hattr, hprefix⟩ := (mem_completions_attr_iff hkind).mp hitem
    exact ⟨⟨item, hattr, rfl⟩, hprefix⟩
  · rintro ⟨⟨item, hattr, rfl⟩, hprefix⟩
    have hkind : item.kind = .attr :=
      congrArg Completion.kind (Completion.ofAttr_of_mem_attrs hattr)
    exact ⟨item, (mem_completions_attr_iff hkind).mpr ⟨hattr, hprefix⟩, hkind, rfl⟩

theorem exists_prop_item_iff {name : Text} :
    (∃ item ∈ completions word attributes properties, item.kind = .prop ∧ item.label = name) ↔
      name ∈ properties ∧ word <+: name := by
  constructor
  · rintro ⟨item, hitem, hkind, rfl⟩
    obtain ⟨hprop, hprefix⟩ := (mem_completions_prop_iff hkind).mp hitem
    obtain ⟨name, hname, rfl⟩ := List.mem_map.mp hprop
    exact ⟨hname, hprefix⟩
  · rintro ⟨hname, hprefix⟩
    have hprop := List.mem_map_of_mem (f := Completion.ofProp) hname
    exact ⟨_, (mem_completions_prop_iff rfl).mpr ⟨hprop, hprefix⟩, rfl, rfl⟩

/-- What the item of an attribute promises. What it inserts reads back as the attribute if the name
can be written. The name stands by itself exactly where it reads back as the attribute, and never
if it is a word of the language or no word at all. -/
structure Completion.InsertsAttr (item : Completion) : Prop where
  reads : Expr.parse item.insertion = .ok (.attr item.label) ↔
    item.label ≠ [] ∧ '"' ∉ item.label
  bare : item.insertion = item.label ↔ Expr.parse item.label = .ok (.attr item.label)
  word : item.insertion = item.label →
    item.label.isWord = true ∧ wordKind item.label = .identifier

theorem insertsAttr_of_mem (h : item ∈ completions word attributes properties)
    (hkind : item.kind = .attr) : item.InsertsAttr := by
  have hattr := ((mem_completions_attr_iff hkind).mp h).1
  have hinsertion : item.insertion = Completion.attrInsertion item.label :=
    congrArg Completion.insertion (Completion.ofAttr_of_mem_attrs hattr)
  constructor <;> rw [hinsertion]
  · exact Completion.parse_attrInsertion_iff item.label
  · exact Completion.attrInsertion_eq_iff item.label
  · rw [Completion.attrInsertion_eq_iff]
    exact Expr.parse_eq_attr_iff.mp

end Items

/-- Completions insert what they promise, for the names that can be written and no others. Those
that are offered are the names, of all that are given, which begin with the word. -/
theorem completions_insert (word : Text) (attributes : Option (List Text))
    (properties : List Text) :
    (∀ item ∈ completions word attributes properties, item.kind = .attr → item.InsertsAttr) ∧
    (∀ item ∈ completions word attributes properties, item.kind = .prop →
      (Expr.parse item.insertion = .ok (.prop item.label) ↔
        item.label ≠ [] ∧ '"' ∉ item.label)) ∧
    (∀ name, (∃ item ∈ completions word attributes properties,
      item.kind = .attr ∧ item.label = name) ↔
        name ∈ Completion.attrNames attributes ∧ word <+: name) ∧
    ∀ name, (∃ item ∈ completions word attributes properties,
      item.kind = .prop ∧ item.label = name) ↔ name ∈ properties ∧ word <+: name := by
  refine ⟨fun item => insertsAttr_of_mem, fun item hitem hkind => ?_,
    fun name => exists_attr_item_iff, fun name => exists_prop_item_iff⟩
  obtain ⟨name, -, rfl⟩ := List.mem_map.mp ((mem_completions_prop_iff hkind).mp hitem).1
  exact Completion.parse_propInsertion_iff name

/-- The name of a function is offered in a call, which reads back as the attribute. What is offered
for a name with a quote in it does not. -/
theorem completions_insert_call :
    Expr.parse "attr(sin)".toList = .ok (.attr "sin".toList) ∧
    Expr.parse "prop(\"a\"b\")".toList ≠ .ok (.prop "a\"b".toList) := by
  obtain ⟨hattr, hprop, -, -⟩ :=
    completions_insert [] (some ["sin".toList]) ["a\"b".toList]
  constructor
  · have hitem : Completion.ofAttr "sin".toList "Particle attribute".toList ∈
        completions [] (some ["sin".toList]) ["a\"b".toList] := by
      decide +kernel
    exact (hattr _ hitem rfl).reads.mpr (by decide)
  · have hitem : Completion.ofProp "a\"b".toList ∈
        completions [] (some ["sin".toList]) ["a\"b".toList] := by
      decide +kernel
    exact mt (hprop _ hitem rfl).mp (by decide)

end EffectLang
