import EffectLang.Declarations
import EffectLang.Text.Blank
import EffectLang.Toml.Document

/-! Declarations from text: the manifest of an effect, a TOML document with a table of attributes
and a table of properties, and single entries of the form `NAME=TYPE`. -/
namespace EffectLang
open Vocabulary (ofSpelling?)

/-! ## Type names -/

/-- The types that can be declared. `error` is only ever inferred. -/
def declarableTypes : List ResultType :=
  [.float, .integer, .vec2, .vec3]

/-- The type that a name declares; blanks around it and its case do not matter. -/
def declaredType? (name : Text) : Option ResultType :=
  (ofSpelling? (name.strip.map Char.toLower)).filter (· ≠ ResultType.error)

theorem declaredType?_ne_error (name : Text) : declaredType? name ≠ some .error := by
  simp [declaredType?, Option.filter_eq_some_iff]

/-- What is said of a name that declares no type. -/
def unknownTypeMessage (name : Text) : Text :=
  "Unknown type '".toList ++ name ++ "' (expected one of: ".toList ++
    Text.join [',', ' '] (declarableTypes.map ResultType.spelling) ++ [')']

/-! ## Manifests -/

/-- Why a manifest is refused. -/
inductive ManifestError where
  | invalidToml (path : Text)
  | notTable (part : Text)
  | notText (part name shown : Text)
  | unknownType (part name type : Text)
deriving DecidableEq

def ManifestError.message : ManifestError → Text
  | invalidToml path => path ++ ": invalid TOML".toList
  | notTable part => ['['] ++ part ++ "] must be a table of name = \"type\" entries".toList
  | notText part name shown =>
    part ++ ['.'] ++ name ++ ": type must be a string, got ".toList ++ shown
  | unknownType part name type =>
    part ++ ['.'] ++ name ++ [':', ' '] ++ unknownTypeMessage type

/-- Why loading a manifest fails: it is refused, or an integer in it has too many digits to be
converted, or to be shown in the message that refuses it. -/
inductive ManifestFailure where
  | refused (error : ManifestError)
  | integerTooLong (digits : Nat)
  | integerTooLongToShow
deriving DecidableEq

/-- The declarations in the entries of one table. -/
def readEntries (part : Text) (declared : TypeTable) :
    List (Text × Toml.Value) → Except ManifestFailure TypeTable
  | [] => .ok declared
  | (name, .text type) :: rest =>
    match declaredType? type with
    | some type => readEntries part (declared.declare name type) rest
    | none => .error (.refused (.unknownType part name type))
  | (name, value) :: _ =>
    match value.display? with
    | some shown => .error (.refused (.notText part name shown))
    | none => .error .integerTooLongToShow

/-- The declarations under a key of the document; a missing key declares nothing. -/
def readPart (document : List (Text × Toml.Value)) (part : Text) :
    Except ManifestFailure TypeTable :=
  match document.lookup part with
  | none => .ok []
  | some (.table entries) => readEntries part [] entries
  | some _ => .error (.refused (.notTable part))

/-- The declarations of a manifest with the given path and text. -/
def loadManifest (path source : Text) : Except ManifestFailure Declarations :=
  match Toml.parse source with
  | .error .malformed => .error (.refused (.invalidToml path))
  | .error (.integerTooLong digits) => .error (.integerTooLong digits)
  | .ok document => do
    let attributes ← readPart document "attributes".toList
    let properties ← readPart document "properties".toList
    return ⟨attributes, properties⟩

/-! ## Single entries -/

/-- Why a single entry is refused. -/
inductive EntryError where
  | incomplete (entry : Text)
  | unknownType (type : Text)
deriving DecidableEq

def EntryError.message : EntryError → Text
  | incomplete entry => "expected NAME=TYPE, got ".toList ++ entry.quoted
  | unknownType type => unknownTypeMessage type

/-- The name and the type of an entry, which the first equals sign divides. -/
def readEntry (entry : Text) : Except EntryError (Text × ResultType) :=
  let name := Text.strip (entry.takeWhile (· ≠ '='))
  match entry.dropWhile (· ≠ '=') with
  | _ :: type =>
    if name = [] then .error (.incomplete entry)
    else
      match declaredType? type with
      | some type => .ok (name, type)
      | none => .error (.unknownType type)
  | [] => .error (.incomplete entry)

/-- The declarations of a row of entries. -/
def readDeclarations (entries : List Text) : Except EntryError TypeTable :=
  entries.foldlM (fun declared entry => do
    let (name, type) ← readEntry entry
    return declared.declare name type) []

/-- The declarations of a manifest, with single entries over them. -/
def Declarations.withEntries (declared : Declarations) (attrs props : List Text) :
    Except EntryError Declarations := do
  let attributes ← readDeclarations attrs
  let properties ← readDeclarations props
  return ⟨declared.attributes.override attributes, declared.properties.override properties⟩

end EffectLang
