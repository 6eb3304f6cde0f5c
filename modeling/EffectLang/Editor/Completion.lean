import EffectLang.Expr.Print
import EffectLang.Token.Scan

/-! Completions of a word: the callable names, the built-in values, the attributes and the
properties whose label begins with it, in that order. -/
namespace EffectLang

inductive CompletionKind where
  | callee | builtIn | attr | prop
deriving DecidableEq

def CompletionKind.name : CompletionKind → String
  | callee => "function"
  | builtIn => "builtin"
  | attr => "attribute"
  | prop => "property"

/-- A suggestion: what is listed, and what is inserted when it is taken. -/
structure Completion where
  label : Text
  kind : CompletionKind
  detail : Text
  insertion : Text
deriving DecidableEq

namespace Completion

/-- A call with example arguments. -/
def ofCallee (name : Callee) (insertion detail : String) : Completion :=
  ⟨name.spelling, .callee, detail.toList, insertion.toList⟩

def callees : List Completion := [
  ofCallee .sin "sin(1.0)" "Sine function",
  ofCallee .cos "cos(1.0)" "Cosine function",
  ofCallee .abs "abs(1.0)" "Absolute value",
  ofCallee .norm "norm(vec2(1.0, 1.0))" "Normalize vector",
  ofCallee .all "all(vec2(1.0, 1.0))" "Check if all components are true",
  ofCallee .any "any(vec2(1.0, 1.0))" "Check if any component is true",
  ofCallee .dot "dot(vec2(1.0, 1.0), vec2(1.0, 1.0))" "Dot product",
  ofCallee .cross "cross(vec3(1.0, 1.0, 1.0), vec3(1.0, 1.0, 1.0))" "Cross product",
  ofCallee .min "min(1.0, 1.0)" "Minimum value",
  ofCallee .max "max(1.0, 1.0)" "Maximum value",
  ofCallee .vec2 "vec2(1.0, 1.0)" "2D vector constructor",
  ofCallee .vec3 "vec3(1.0, 1.0, 1.0)" "3D vector constructor",
  ofCallee .attr "attr(\"name\")" "Access particle attribute",
  ofCallee .prop "prop(\"name\")" "Access effect property"]

def ofBuiltIn (value : BuiltIn) (detail : String) : Completion :=
  ⟨value.spelling, .builtIn, detail.toList, value.spelling⟩

def builtIns : List Completion := [
  ofBuiltIn .time "Current simulation time",
  ofBuiltIn .deltaTime "Time since last update",
  ofBuiltIn .rand "Random value [0, 1]",
  ofBuiltIn .alphaCutoff "Alpha mask threshold",
  ofBuiltIn .particleId "Unique particle identifier"]

/-- The bare name where it reads back as the attribute, a reference call elsewhere. -/
def attrInsertion (name : Text) : Text :=
  if name.isWord ∧ wordKind name = .identifier then name else (Expr.attr name).text

def ofAttr (name detail : Text) : Completion :=
  ⟨name, .attr, detail, attrInsertion name⟩

/-- A property is inserted as a reference call, because a bare name is an attribute. -/
def ofProp (name : Text) : Completion :=
  ⟨name, .prop, "Effect property".toList, (Expr.prop name).text⟩

/-- The attributes that are offered when none are given. -/
def standardAttrs : List Completion := [
  ofAttr "position".toList "Particle position".toList,
  ofAttr "velocity".toList "Particle velocity".toList,
  ofAttr "lifetime".toList "Particle lifetime".toList,
  ofAttr "age".toList "Particle age".toList,
  ofAttr "color".toList "Particle color".toList,
  ofAttr "size".toList "Particle size".toList]

/-- The attributes that are offered: those given, each once, or else the standard ones. -/
def attrs : Option (List Text) → List Completion
  | none => standardAttrs
  | some names => names.eraseDups.map (ofAttr · "Particle attribute".toList)

end Completion

/-- The completions of a word. -/
def completions (word : Text) (attributes : Option (List Text)) (properties : List Text) :
    List Completion :=
  (Completion.callees ++ Completion.builtIns ++ Completion.attrs attributes ++
    properties.map Completion.ofProp).filter fun item => word.isPrefixOf item.label

end EffectLang
